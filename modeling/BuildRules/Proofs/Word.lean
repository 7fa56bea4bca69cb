import BuildRules.Word
import Mathlib.Data.List.TakeWhile

/-! The words of a line, said without the scanner. A line falls into its words and the blanks
before, between and after them, where a word other than an operator reaches as far as it can. -/
namespace BuildRules.Word
variable {line rest word more : Text} {words : List Text} {c : Char}

/-- A line falls into words, each with the blanks before it. A word is an operator, or a run of
plain characters that does not begin with a blank and that no plain character follows. -/
inductive Falls : Text → List Text → Prop
  | blank {gap : Text} (blank : ∀ c ∈ gap, Text.isBlank c = true) : Falls gap []
  | operator {gap rest : Text} {words : List Text} {c : Char}
      (blank : ∀ c ∈ gap, Text.isBlank c = true) (isOperator : isOperator c = true)
      (after : Falls rest words) : Falls (gap ++ c :: rest) ([c] :: words)
  | run {gap more rest : Text} {words : List Text} {c : Char}
      (blank : ∀ c ∈ gap, Text.isBlank c = true) (begins : Text.isBlank c = false)
      (plain : ∀ d ∈ c :: more, isPlain d = true) (ends : ∀ d ∈ rest.head?, isPlain d = false)
      (after : Falls rest words) : Falls (gap ++ c :: (more ++ rest)) ((c :: more) :: words)

theorem isPlain_iff : isPlain c = true ↔ isOperator c = false ∧ isSpace c = false := by
  simp [isPlain]

theorem isBlank_of_isOperator (isOperator : isOperator c = true) : Text.isBlank c = false := by
  simp only [Word.isOperator, Bool.or_eq_true, beq_iff_eq] at isOperator
  rcases isOperator with rfl | rfl <;> rfl

theorem scan_operator (isOperator : isOperator c = true) (word rest : Text) :
    scan word (c :: rest) = finish word ++ [c] :: scan [] rest := by
  rw [scan, if_pos isOperator]

theorem scan_space (isSpace : isSpace c = true) (word rest : Text) :
    scan word (c :: rest) = finish word ++ scan [] rest := by
  have noOperator : ¬ isOperator c = true := fun isOperator => by
    have blank := isSpace_isBlank isSpace
    rw [isBlank_of_isOperator isOperator] at blank
    cases blank
  rw [scan, if_neg noOperator, if_pos isSpace]

theorem scan_blank (isBlank : Text.isBlank c = true) (rest : Text) :
    scan [] (c :: rest) = scan [] rest := by
  by_cases space : isSpace c = true
  · rw [scan_space space]
    rfl
  · have noOperator : ¬ isOperator c = true := fun isOperator => by
      rw [isBlank_of_isOperator isOperator] at isBlank
      cases isBlank
    rw [scan, if_neg noOperator, if_neg space, isBlank]
    rfl

/-- A plain character belongs to the word, unless it is a blank before it. -/
theorem scan_plain (plain : isPlain c = true) (belongs : word ≠ [] ∨ Text.isBlank c = false)
    (rest : Text) : scan word (c :: rest) = scan (c :: word) rest := by
  obtain ⟨noOperator, noSpace⟩ := isPlain_iff.1 plain
  have begun : (word.isEmpty && Text.isBlank c) = false := by
    rcases belongs with begun | begins
    · simp [begun]
    · simp [begins]
  rw [scan, noOperator, noSpace, begun]
  simp

theorem scan_run (begun : word ≠ []) (plain : ∀ d ∈ more, isPlain d = true) (rest : Text) :
    scan word (more ++ rest) = scan (more.reverse ++ word) rest := by
  induction more generalizing word with
  | nil => rfl
  | cons d more ih =>
    obtain ⟨here, later⟩ := List.forall_mem_cons.1 plain
    rw [List.cons_append, scan_plain here (.inl begun), ih (List.cons_ne_nil d word) later,
      List.reverse_cons, List.append_assoc]
    rfl

/-- A word ends where no plain character follows. -/
theorem scan_end (ends : ∀ d ∈ rest.head?, isPlain d = false) (word : Text) :
    scan word rest = finish word ++ scan [] rest := by
  cases rest with
  | nil => simp [finish]
  | cons d rest =>
    have noPlain : isPlain d = false := ends d rfl
    by_cases operator : isOperator d = true
    · rw [scan_operator operator, scan_operator operator]
      rfl
    · have space : isSpace d = true := by
        simpa [isPlain, operator] using noPlain
      rw [scan_space space, scan_space space]
      rfl

/-- The word that begins with a plain character reaches as far as it can. -/
theorem scan_word (begins : Text.isBlank c = false) (plain : ∀ d ∈ c :: more, isPlain d = true)
    (ends : ∀ d ∈ rest.head?, isPlain d = false) :
    scan [] (c :: (more ++ rest)) = (c :: more) :: scan [] rest := by
  obtain ⟨first, later⟩ := List.forall_mem_cons.1 plain
  rw [scan_plain first (.inr begins), scan_run (List.cons_ne_nil c []) later, scan_end ends]
  simp [finish]

theorem Falls.here_operator (isOperator : isOperator c = true) (after : Falls rest words) :
    Falls (c :: rest) ([c] :: words) :=
  have none : ∀ d ∈ ([] : Text), Text.isBlank d = true := by simp
  .operator none isOperator after

theorem Falls.here_run (begins : Text.isBlank c = false)
    (plain : ∀ d ∈ c :: more, isPlain d = true) (ends : ∀ d ∈ rest.head?, isPlain d = false)
    (after : Falls rest words) : Falls (c :: (more ++ rest)) ((c :: more) :: words) :=
  have none : ∀ d ∈ ([] : Text), Text.isBlank d = true := by simp
  .run none begins plain ends after

/-- A blank before a line belongs to no word. -/
theorem Falls.cons_blank (falls : Falls line words) (isBlank : Text.isBlank c = true) :
    Falls (c :: line) words := by
  have longer {gap : Text} (blank : ∀ c ∈ gap, Text.isBlank c = true) :
      ∀ d ∈ c :: gap, Text.isBlank d = true := List.forall_mem_cons.2 ⟨isBlank, blank⟩
  cases falls with
  | blank blank => exact .blank (longer blank)
  | operator blank isOperator after => exact .operator (longer blank) isOperator after
  | run blank begins plain ends after => exact .run (longer blank) begins plain ends after

theorem falls_scan (line : Text) : Falls line (scan [] line) := by
  -- A word is taken off as a whole, so the induction is on the length.
  induction size : line.length using Nat.strong_induction_on generalizing line with
  | _ bound ih =>
    cases line with
    | nil => exact .blank (by simp)
    | cons c rest =>
      rw [List.length_cons] at size
      by_cases operator : isOperator c = true
      · rw [scan_operator operator]
        exact .here_operator operator (ih rest.length (by omega) rest rfl)
      by_cases blank : Text.isBlank c = true
      · rw [scan_blank blank]
        exact (ih rest.length (by omega) rest rfl).cons_blank blank
      have begins : Text.isBlank c = false := by simpa using blank
      have plain : isPlain c = true := by
        refine isPlain_iff.2 ⟨by simpa using operator, Bool.eq_false_iff.2 fun space => ?_⟩
        exact blank (isSpace_isBlank space)
      have ends : ∀ d ∈ (rest.dropWhile isPlain).head?, isPlain d = false := by
        intro d first
        have stopped := List.head?_dropWhile_not isPlain rest
        rwa [Option.mem_def.1 first] at stopped
      have shorter : (rest.dropWhile isPlain).length < bound := by
        have := (List.dropWhile_suffix (l := rest) isPlain).length_le
        omega
      have all : ∀ d ∈ c :: rest.takeWhile isPlain, isPlain d = true :=
        List.forall_mem_cons.2 ⟨plain, fun d member => List.mem_takeWhile_imp member⟩
      have word := scan_word begins all ends
      have later := Falls.here_run begins all ends (ih _ shorter _ rfl)
      rw [List.takeWhile_append_dropWhile] at word later
      rw [word]
      exact later

/-- A line has no words when it is blank, or begins with a comment. -/
theorem split_eq_nil_iff :
    split line = [] ↔ Text.trim line = [] ∨ isComment (Text.trim line) = true := by
  have falls := falls_scan line
  rw [split]
  generalize scan [] line = words at falls
  cases falls with
  | blank blank => simp [Text.trim_eq_nil blank]
  | @operator gap rest words c blank isOperator _ =>
    have first := Text.head?_trim blank (isBlank_of_isOperator isOperator) rest
    have noComment : c ≠ '#' := by
      rintro rfl
      cases isOperator
    have nonblank : Text.trim (gap ++ c :: rest) ≠ [] := by
      intro none
      rw [none] at first
      cases first
    simp [isComment, first, noComment, nonblank]
  | @run gap more rest words c blank begins _ _ _ =>
    have first := Text.head?_trim blank begins (more ++ rest)
    have nonblank : Text.trim (gap ++ c :: (more ++ rest)) ≠ [] := by
      intro none
      rw [none] at first
      cases first
    simp [isComment, first, nonblank]

theorem Falls.infix_of_mem (falls : Falls line words) (member : word ∈ words) :
    word <:+: line := by
  induction falls with
  | blank => cases member
  | @operator gap rest _ c _ _ _ ih =>
    rcases List.mem_cons.1 member with rfl | later
    · exact ⟨gap, rest, by simp⟩
    · exact (ih later).trans ⟨gap ++ [c], [], by simp⟩
  | @run gap more rest _ c _ _ _ _ _ ih =>
    rcases List.mem_cons.1 member with rfl | later
    · exact ⟨gap, rest, by simp⟩
    · exact (ih later).trans ⟨gap ++ c :: more, [], by simp⟩

theorem split_isPrefix (line : Text) : split line <+: scan [] line :=
  List.takeWhile_prefix _

/-- A word is an operator, or a run of plain characters that does not begin with a blank. -/
inductive IsWord : Text → Prop
  | operator {c : Char} (isOperator : isOperator c = true) : IsWord [c]
  | run {c : Char} {more : Text} (begins : Text.isBlank c = false)
      (plain : ∀ d ∈ c :: more, isPlain d = true) : IsWord (c :: more)

theorem Falls.isWord (falls : Falls line words) (member : word ∈ words) : IsWord word := by
  induction falls with
  | blank => cases member
  | operator _ isOperator _ ih =>
    rcases List.mem_cons.1 member with rfl | later
    · exact .operator isOperator
    · exact ih later
  | run _ begins plain _ _ ih =>
    rcases List.mem_cons.1 member with rfl | later
    · exact .run begins plain
    · exact ih later

theorem isWord_iff_scan : IsWord word ↔ scan [] word = [word] := by
  constructor
  · rintro (isOperator | ⟨begins, plain⟩)
    · exact scan_operator isOperator [] []
    · have none : ∀ d ∈ ([] : Text).head?, isPlain d = false := by simp
      have alone := scan_word begins plain none
      rwa [List.append_nil] at alone
  · intro alone
    have falls := falls_scan word
    rw [alone] at falls
    exact falls.isWord List.mem_cons_self

theorem IsWord.exists_head (isWord : IsWord word) :
    ∃ c more, word = c :: more ∧ Text.isBlank c = false := by
  cases isWord with
  | operator isOperator => exact ⟨_, [], rfl, isBlank_of_isOperator isOperator⟩
  | run begins _ => exact ⟨_, _, rfl, begins⟩

theorem IsWord.noSpace (isWord : IsWord word) : ∀ c ∈ word, isSpace c = false := by
  intro c member
  cases isWord with
  | operator isOperator =>
    rw [List.mem_singleton.1 member]
    refine Bool.eq_false_iff.2 fun space => ?_
    have blank := isSpace_isBlank space
    rw [isBlank_of_isOperator isOperator] at blank
    cases blank
  | run _ plain => exact (isPlain_iff.1 (plain c member)).2

theorem IsWord.noIndent (isWord : IsWord word) : ∀ c ∈ word, Text.isIndent c = false := by
  intro c member
  refine Bool.eq_false_iff.2 fun indent => ?_
  have space : isSpace c = true := by
    simp only [Text.isIndent, Bool.or_eq_true, beq_iff_eq] at indent
    rcases indent with rfl | rfl <;> rfl
  rw [isWord.noSpace c member] at space
  cases space

theorem IsWord.space_notMem (isWord : IsWord word) : ' ' ∉ word := by
  intro space
  cases isWord.noIndent ' ' space

/-- A text without blanks is a word when it holds no operator, or is one. -/
theorem isWord_iff (nonempty : word ≠ []) (solid : ∀ c ∈ word, Text.isBlank c = false) :
    IsWord word ↔ ∀ c ∈ word, isOperator c = true → word = [c] := by
  constructor
  · rintro (isOperator | ⟨_, plain⟩) d member operator
    · rw [List.mem_singleton.1 member]
    · have noOperator := (isPlain_iff.1 (plain d member)).1
      rw [operator] at noOperator
      cases noOperator
  · intro operators
    by_cases apart : ∃ c ∈ word, isOperator c = true
    · obtain ⟨c, member, isOperator⟩ := apart
      rw [operators c member isOperator]
      exact .operator isOperator
    · obtain ⟨c, more, rfl⟩ := List.exists_cons_of_ne_nil nonempty
      refine .run (solid c List.mem_cons_self) fun d member => isPlain_iff.2 ⟨?_, ?_⟩
      · exact Bool.eq_false_iff.2 fun isOperator => apart ⟨d, member, isOperator⟩
      · refine Bool.eq_false_iff.2 fun space => ?_
        have blank := isSpace_isBlank space
        rw [solid d member] at blank
        cases blank

theorem isWord_of_mem_split (member : word ∈ split line) : IsWord word :=
  (falls_scan line).isWord ((split_isPrefix line).subset member)

theorem isComment_of_mem_split (member : word ∈ split line) : isComment word = false := by
  simpa using List.mem_takeWhile_imp member

end BuildRules.Word
