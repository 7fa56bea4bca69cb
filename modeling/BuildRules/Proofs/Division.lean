import BuildRules.Proofs.Word

/-! A line divided into words. In exactly one way every line is words with blanks before, between and
after them, and those before the first comment are the words that are read. A blank that is none of
the six spaces is skipped before a word, but it ends no word: behind a character of a word it is
part of that word. -/
namespace BuildRules.Word
variable {line rest word : Text} {found : List Text} {c : Char}

/-- Blanks before the first word belong to none. -/
theorem scan_gap {gap : Text} (blank : ∀ c ∈ gap, Text.isBlank c = true) (rest : Text) :
    scan [] (gap ++ rest) = scan [] rest := by
  induction gap with
  | nil => rfl
  | cons c gap ih =>
    obtain ⟨here, later⟩ := List.forall_mem_cons.1 blank
    rw [List.cons_append, scan_blank here, ih later]

/-- A line falls into its words in one way. -/
theorem Falls.scan_eq (falls : Falls line found) : scan [] line = found := by
  induction falls with
  | blank blank =>
    have none := scan_gap blank []
    rwa [List.append_nil] at none
  | operator blank isOperator _ ih =>
    rw [scan_gap blank, scan_operator isOperator, ih]
    rfl
  | run blank begins plain ends _ ih =>
    rw [scan_gap blank, scan_word begins plain ends, ih]

/-- A line as its words, each with the blanks before it, and the blanks at the end. -/
structure Division where
  parts : List (Text × Text)
  last : Text
deriving DecidableEq

namespace Division
variable {division other : Division} {gap last : Text} {parts : List (Text × Text)}

/-- How the line is written. -/
def text (division : Division) : Text :=
  (division.parts.flatMap fun part => part.1 ++ part.2) ++ division.last

def words (division : Division) : List Text := division.parts.map Prod.snd

def gaps (division : Division) : List Text := division.parts.map Prod.fst ++ [division.last]

@[simp] theorem text_cons (gap word : Text) (parts : List (Text × Text)) (last : Text) :
    text ⟨(gap, word) :: parts, last⟩ = gap ++ (word ++ text ⟨parts, last⟩) := by
  simp [text]

/-- The line is divided in this way. Its words are words, with nothing but blanks between them, and
each of them is an operator or reaches as far as it can. -/
structure Divides (division : Division) (line : Text) : Prop where
  whole : division.text = line
  gaps : ∀ gap ∈ division.gaps, ∀ c ∈ gap, Text.isBlank c = true
  words : ∀ word ∈ division.words, IsWord word
  longest : ∀ before gap word after, division.parts = before ++ (gap, word) :: after →
    (∃ c, isOperator c = true ∧ word = [c]) ∨
      ∀ d ∈ (text ⟨after, division.last⟩).head?, isPlain d = false

theorem Divides.tail (divides : Divides ⟨(gap, word) :: parts, last⟩ line) :
    Divides ⟨parts, last⟩ (text ⟨parts, last⟩) where
  whole := rfl
  gaps := fun gap member => divides.gaps gap (List.mem_cons_of_mem _ member)
  words := fun word member => divides.words word (List.mem_cons_of_mem _ member)
  longest := fun before gap' word' after split =>
    divides.longest ((gap, word) :: before) gap' word' after (congrArg _ split)

theorem Divides.cons (divides : Divides ⟨parts, last⟩ rest)
    (blank : ∀ c ∈ gap, Text.isBlank c = true) (isWord : IsWord word)
    (longest : (∃ c, isOperator c = true ∧ word = [c]) ∨ ∀ d ∈ rest.head?, isPlain d = false) :
    Divides ⟨(gap, word) :: parts, last⟩ (gap ++ (word ++ rest)) where
  whole := by rw [text_cons, divides.whole]
  gaps := List.forall_mem_cons.2 ⟨blank, divides.gaps⟩
  words := List.forall_mem_cons.2 ⟨isWord, divides.words⟩
  longest := by
    intro before gap' word' after split
    cases before with
    | nil =>
      cases split
      rwa [divides.whole]
    | cons first before => exact divides.longest before gap' word' after (List.cons.inj split).2

theorem Divides.falls (divides : division.Divides line) : Falls line division.words := by
  obtain ⟨parts, last⟩ := division
  obtain rfl := divides.whole
  induction parts with
  | nil => exact .blank (divides.gaps last (List.mem_singleton_self last))
  | cons part parts ih =>
    obtain ⟨gap, word⟩ := part
    have blank : ∀ c ∈ gap, Text.isBlank c = true := divides.gaps gap List.mem_cons_self
    have longest := divides.longest [] gap word parts rfl
    have after := ih divides.tail
    rw [text_cons]
    cases divides.words word List.mem_cons_self with
    | operator isOperator => exact .operator blank isOperator after
    | @run c more begins plain =>
      refine .run blank begins plain (longest.resolve_left ?_) after
      rintro ⟨d, isOperator, single⟩
      obtain ⟨rfl, rfl⟩ := List.cons.inj single
      rw [(isPlain_iff.1 (plain c List.mem_cons_self)).1] at isOperator
      cases isOperator

theorem exists_divides (falls : Falls line found) :
    ∃ division : Division, division.Divides line ∧ division.words = found := by
  induction falls with
  | @blank gap blank =>
    refine ⟨⟨[], gap⟩, ⟨rfl, List.forall_mem_singleton.2 blank, nofun, ?_⟩, rfl⟩
    intro before gap word after split
    cases List.append_ne_nil_of_right_ne_nil before (List.cons_ne_nil _ _) split.symm
  | @operator gap rest _ c blank isOperator _ ih =>
    obtain ⟨⟨parts, last⟩, divides, rfl⟩ := ih
    exact ⟨⟨(gap, [c]) :: parts, last⟩,
      divides.cons blank (.operator isOperator) (.inl ⟨c, isOperator, rfl⟩), rfl⟩
  | @run gap more rest _ c blank begins plain ends _ ih =>
    obtain ⟨⟨parts, last⟩, divides, rfl⟩ := ih
    exact ⟨⟨(gap, c :: more) :: parts, last⟩,
      divides.cons blank (.run begins plain) (.inr ends), rfl⟩

/-- The blanks before a word end where it begins. -/
theorem takeWhile_gap (blank : ∀ c ∈ gap, Text.isBlank c = true) (isWord : IsWord word)
    (rest : Text) : (gap ++ (word ++ rest)).takeWhile Text.isBlank = gap := by
  obtain ⟨c, more, rfl, solid⟩ := isWord.exists_head
  rw [List.takeWhile_append_of_pos blank, List.cons_append, List.takeWhile_cons, solid]
  simp

theorem Divides.unique (divides : division.Divides line) (divides' : other.Divides line) :
    division = other := by
  have same : division.words = other.words :=
    divides.falls.scan_eq.symm.trans divides'.falls.scan_eq
  obtain ⟨parts, last⟩ := division
  obtain ⟨parts', last'⟩ := other
  induction parts generalizing parts' line with
  | nil =>
    obtain rfl : parts' = [] := List.map_eq_nil_iff.1 same.symm
    have ends : last = last' := divides.whole.trans divides'.whole.symm
    rw [ends]
  | cons part parts ih =>
    obtain ⟨gap, word⟩ := part
    cases parts' with
    | nil => cases same
    | cons part' parts' =>
      obtain ⟨gap', word'⟩ := part'
      obtain ⟨rfl, later⟩ := List.cons.inj same
      have whole := divides.whole.trans divides'.whole.symm
      rw [text_cons, text_cons] at whole
      have isWord : IsWord word := divides.words word List.mem_cons_self
      have blank := takeWhile_gap (divides.gaps gap List.mem_cons_self) isWord
        (text ⟨parts, last⟩)
      have blank' := takeWhile_gap (divides'.gaps gap' List.mem_cons_self) isWord
        (text ⟨parts', last'⟩)
      obtain rfl : gap = gap' := by rw [← blank, whole, blank']
      have rest := List.append_cancel_left (List.append_cancel_left whole)
      have tail' := divides'.tail
      rw [← rest] at tail'
      obtain ⟨rfl, rfl⟩ := Division.mk.inj (ih divides.tail parts' tail' later)
      rfl

end Division

/-- A line is divided into words and blanks in exactly one way. The words that are read are those
before the first comment, and a comment begins the others. -/
theorem split_of_division (line : Text) :
    ∃ (division : Division) (comment : List Text),
      (∀ other : Division, other.Divides line ↔ other = division) ∧
      division.words = split line ++ comment ∧
      (∀ word ∈ split line, word.head? ≠ some '#') ∧
      ∀ word ∈ comment.head?, word.head? = some '#' := by
  obtain ⟨division, divides, words⟩ := Division.exists_divides (falls_scan line)
  refine ⟨division, (scan [] line).dropWhile fun word => !isComment word, fun other => ?_, ?_,
    fun word member => ?_, fun word first => ?_⟩
  · refine ⟨fun divides' => divides'.unique divides, ?_⟩
    rintro rfl
    exact divides
  · rw [words, split, List.takeWhile_append_dropWhile]
  · have noComment := isComment_of_mem_split member
    simpa [isComment] using noComment
  · have stopped := List.head?_dropWhile_not (fun word => !isComment word) (scan [] line)
    rw [Option.mem_def.1 first] at stopped
    simpa [isComment] using stopped

theorem split_of_division_tangled :
    let line := "\u00A0X:=1 a#b\u00A0\t= #c =d\t\u2003".toList
    let words := ["X", ":", "=", "1", "a#b\u00A0", "="].map String.toList
    ∃ division : Division, division.Divides line ∧ split line = words ∧
      division.words = words ++ [['#', 'c'], ['='], ['d']] := by
  intro line words
  obtain ⟨division, _, only, _⟩ := split_of_division line
  have divides : division.Divides line := (only division).2 rfl
  have found : scan [] line = words ++ [['#', 'c'], ['='], ['d']] := by decide
  exact ⟨division, divides, by decide, divides.falls.scan_eq.symm.trans found⟩

section Solid

theorem isPlain_of_isBlank (blank : Text.isBlank c = true) (noSpace : isSpace c = false) :
    isPlain c = true := by
  refine isPlain_iff.2 ⟨Bool.eq_false_iff.2 fun isOperator => ?_, noSpace⟩
  rw [isBlank_of_isOperator isOperator] at blank
  cases blank

/-- The first blank in a word stands behind a character of it, and what is before it is a word. -/
theorem IsWord.exists_first_blank (isWord : IsWord word) (inside : c ∈ word)
    (blank : Text.isBlank c = true) :
    ∃ front a b back, word = front ++ a :: b :: back ∧ IsWord (front ++ [a]) ∧
      isPlain a = true ∧ Text.isBlank a = false ∧ Text.isBlank b = true := by
  cases isWord with
  | operator isOperator =>
    rw [List.mem_singleton.1 inside, isBlank_of_isOperator isOperator] at blank
    cases blank
  | @run first more begins plain =>
    have some : ((first :: more).find? Text.isBlank).isSome = true :=
      List.find?_isSome.2 ⟨c, inside, blank⟩
    obtain ⟨b, found⟩ := Option.isSome_iff_exists.1 some
    obtain ⟨isBlank, before, back, split, solid⟩ := List.find?_eq_some_iff_append.1 found
    cases before with
    | nil =>
      rw [(List.cons.inj split).1, isBlank] at begins
      cases begins
    | cons _ before =>
      obtain ⟨rfl, rfl⟩ := List.cons.inj split
      obtain ⟨front, a, same⟩ := List.eq_nil_or_concat (first :: before) |>.resolve_left (by simp)
      have all : ∀ d ∈ first :: before, isPlain d = true := fun d member =>
        plain d (List.mem_append_left (b :: back) member)
      have last : a ∈ first :: before := by simp [same]
      refine ⟨front, a, b, back, ?_, ?_, all a last, by simpa using solid a last, isBlank⟩
      · rw [split, same]
        simp
      · rw [← List.concat_eq_append, ← same]
        exact .run begins all

/-- What stands in front decides which words are complete, and which one goes on. -/
theorem exists_scan_append (word text : Text) :
    ∃ complete begun, ∀ rest, scan word (text ++ rest) = complete ++ scan begun rest := by
  induction text generalizing word with
  | nil => exact ⟨[], word, fun _ => rfl⟩
  | cons c text ih =>
    by_cases operator : isOperator c = true
    · obtain ⟨complete, begun, after⟩ := ih []
      refine ⟨finish word ++ [c] :: complete, begun, fun rest => ?_⟩
      rw [List.cons_append, scan_operator operator, after]
      simp
    by_cases space : isSpace c = true
    · obtain ⟨complete, begun, after⟩ := ih []
      refine ⟨finish word ++ complete, begun, fun rest => ?_⟩
      rw [List.cons_append, scan_space space, after, List.append_assoc]
    have plain : isPlain c = true := by simp [isPlain, operator, space]
    by_cases belongs : word ≠ [] ∨ Text.isBlank c = false
    · obtain ⟨complete, begun, after⟩ := ih (c :: word)
      refine ⟨complete, begun, fun rest => ?_⟩
      rw [List.cons_append, scan_plain plain belongs, after]
    · simp only [not_or, not_not, Bool.not_eq_false] at belongs
      obtain ⟨rfl, blank⟩ := belongs
      obtain ⟨complete, begun, after⟩ := ih []
      refine ⟨complete, begun, fun rest => ?_⟩
      rw [List.cons_append, scan_blank blank, after]

/-- A word that has begun keeps its characters. -/
theorem exists_scan_begun (begun : word ≠ []) (text : Text) :
    ∃ more later, scan word text = (word.reverse ++ more) :: later := by
  have ends : ∀ d ∈ (text.dropWhile isPlain).head?, isPlain d = false := by
    intro d first
    have stopped := List.head?_dropWhile_not isPlain text
    rwa [Option.mem_def.1 first] at stopped
  have plain : ∀ d ∈ text.takeWhile isPlain, isPlain d = true := fun _ => List.mem_takeWhile_imp
  have run := scan_run begun plain (text.dropWhile isPlain)
  rw [List.takeWhile_append_dropWhile, scan_end ends] at run
  refine ⟨text.takeWhile isPlain, scan [] (text.dropWhile isPlain), ?_⟩
  rw [run]
  simp [finish, begun]

/-- The words before one of a line are those of the text in front of it, whatever follows, as long as
that begins like the word. -/
theorem Falls.exists_place {earlier later : List Text}
    (falls : Falls line (earlier ++ word :: later)) :
    ∃ before after, line = before ++ (word ++ after) ∧
      ∀ rest, rest.head? = word.head? → scan [] (before ++ rest) = earlier ++ scan [] rest := by
  induction earlier generalizing line with
  | nil =>
    cases falls with
    | @operator gap rest _ c blank _ _ => exact ⟨gap, rest, rfl, fun _ _ => scan_gap blank _⟩
    | @run gap more rest _ c blank _ _ _ _ =>
      exact ⟨gap, rest, rfl, fun _ _ => scan_gap blank _⟩
  | cons first earlier ih =>
    rw [List.cons_append] at falls
    cases falls with
    | @operator gap rest _ c blank isOperator falls =>
      obtain ⟨before, after, rfl, place⟩ := ih falls
      refine ⟨gap ++ c :: before, after, by simp, fun rest begins => ?_⟩
      rw [List.append_assoc, scan_gap blank, List.cons_append, scan_operator isOperator,
        place rest begins]
      rfl
    | @run gap more rest _ c blank begins plain ends falls =>
      obtain ⟨before, after, rfl, place⟩ := ih falls
      refine ⟨gap ++ c :: (more ++ before), after, by simp, fun rest same => ?_⟩
      have ends' : ∀ d ∈ (before ++ rest).head?, isPlain d = false := by
        cases before with
        | nil =>
          have isWord : IsWord word := falls.isWord (List.mem_append_right _ List.mem_cons_self)
          obtain ⟨d, others, rfl, _⟩ := isWord.exists_head
          rw [List.nil_append, same]
          exact ends
        | cons d before => exact ends
      rw [List.append_assoc, scan_gap blank, List.cons_append, List.append_assoc,
        scan_word begins plain ends', place rest same]
      rfl

/-- No comment begins in the text. -/
def Uncommented (text : Text) : Prop := ∀ word ∈ scan [] text, isComment word = false

/-- A plain character behind one of a word belongs to the word, be it a blank or not. -/
theorem exists_mem_split {before after : Text} {a b : Char} (plain : isPlain a = true)
    (begins : Text.isBlank a = false) (joins : isPlain b = true)
    (uncommented : Uncommented (before ++ [a])) :
    ∃ word ∈ split (before ++ a :: b :: after), b ∈ word := by
  obtain ⟨complete, begun, through⟩ := exists_scan_append [] before
  have front : scan [] (before ++ [a]) = complete ++ [(a :: begun).reverse] := by
    rw [through, scan_plain plain (.inr begins)]
    simp [finish]
  obtain ⟨more, later, goesOn⟩ := exists_scan_begun (List.cons_ne_nil b (a :: begun)) after
  have whole : scan [] (before ++ a :: b :: after) =
      complete ++ ((b :: a :: begun).reverse ++ more) :: later := by
    rw [through, scan_plain plain (.inr begins), scan_plain joins (.inl (by simp)), goesOn]
  rw [Uncommented, front, List.forall_mem_append, List.forall_mem_singleton] at uncommented
  obtain ⟨earlier, here⟩ := uncommented
  -- The longer word begins as the shorter one does, so it is no comment either.
  have noComment : isComment ((b :: a :: begun).reverse ++ more) = false := by
    rw [isComment] at here ⊢
    rw [List.reverse_cons, List.append_assoc, List.head?_append, Option.or_of_isSome (by simp),
      here]
  refine ⟨(b :: a :: begun).reverse ++ more, ?_, by simp⟩
  rw [split, whole, List.takeWhile_append_of_pos (by simpa using earlier), List.takeWhile_cons,
    noComment]
  simp

/-- A blank in a word is none of the six spaces, and a character of the word stands before it. -/
theorem exists_blank_behind (member : word ∈ split line) (inside : c ∈ word)
    (blank : Text.isBlank c = true) :
    ∃ before a b after, line = before ++ a :: b :: after ∧ Uncommented (before ++ [a]) ∧
      isPlain a = true ∧ Text.isBlank a = false ∧ Text.isBlank b = true ∧ isSpace b = false := by
  have isWord : IsWord word := isWord_of_mem_split member
  obtain ⟨front, a, b, back, rfl, isFront, plain, solid, isBlank⟩ :=
    isWord.exists_first_blank inside blank
  obtain ⟨earlier, later, divided⟩ := List.append_of_mem member
  obtain ⟨comment, all⟩ := split_isPrefix line
  have falls := falls_scan line
  rw [← all, divided, List.append_assoc, List.cons_append] at falls
  obtain ⟨before, after, rfl, place⟩ := falls.exists_place
  have begins : (front ++ [a]).head? = (front ++ a :: b :: back).head? := by cases front <;> rfl
  have found := place (front ++ [a]) begins
  rw [isWord_iff_scan.1 isFront] at found
  refine ⟨before ++ front, a, b, back ++ after, by simp, ?_, plain, solid, isBlank,
    isWord.noSpace b (by simp)⟩
  rw [Uncommented, List.append_assoc, found, List.forall_mem_append, List.forall_mem_singleton]
  refine ⟨fun word among => ?_, by
    rw [isComment, begins]
    exact isComment_of_mem_split member⟩
  have read : word ∈ split (before ++ (front ++ a :: b :: back ++ after)) := by
    rw [divided]
    exact List.mem_append_left _ among
  exact isComment_of_mem_split read

/-- No word of a line holds one of the six spaces. Words hold no blank at all exactly when, before the
comment, every blank behind a character of a word is one of the six. -/
theorem solid_split_iff (line : Text) :
    (∀ word ∈ split line, ∀ c ∈ word, isSpace c = false) ∧
    ((∀ word ∈ split line, ∀ c ∈ word, Text.isBlank c = false) ↔
      ∀ before a b after, line = before ++ a :: b :: after → Uncommented (before ++ [a]) →
        isPlain a = true → Text.isBlank a = false → Text.isBlank b = true → isSpace b = true) := by
  refine ⟨fun word member => (isWord_of_mem_split member).noSpace, fun solid => ?_, ?_⟩
  · rintro before a b after rfl uncommented plain begins blank
    by_contra noSpace
    have joins : isPlain b = true := isPlain_of_isBlank blank (by simpa using noSpace)
    obtain ⟨word, member, inside⟩ : ∃ word ∈ split (before ++ a :: b :: after), b ∈ word :=
      exists_mem_split plain begins joins uncommented
    rw [solid word member b inside] at blank
    cases blank
  · intro separate word member c inside
    by_contra blank
    obtain ⟨before, a, b, after, split, uncommented, plain, begins, isBlank, noSpace⟩ :=
      exists_blank_behind member inside (by simpa using blank)
    rw [separate before a b after split uncommented plain begins isBlank] at noSpace
    cases noSpace

theorem solid_split_iff_joined :
    let line := "x: \u00A0a\u2003b #c".toList
    split line = [['x'], [':'], "a\u2003b".toList] ∧
      (∀ word ∈ split line, ∀ c ∈ word, isSpace c = false) ∧
      ¬ ∀ word ∈ split line, ∀ c ∈ word, Text.isBlank c = false := by
  intro line
  obtain ⟨noSpace, iff⟩ := solid_split_iff line
  have uncommented : Uncommented "x: \u00A0a".toList := by
    have none : (scan [] "x: \u00A0a".toList).all (fun word => !isComment word) = true := by decide
    simpa [Uncommented] using none
  refine ⟨by decide, noSpace, fun solid => ?_⟩
  have space : isSpace '\u2003' = true :=
    iff.1 solid "x: \u00A0".toList 'a' '\u2003' "b #c".toList rfl uncommented rfl rfl rfl
  cases space

/-- A no-break space is skipped before a word and behind another blank, and within a word it is
kept. -/
theorem blank_within_word :
    Text.isBlank '\u00A0' = true ∧ split "\u00A0a \u00A0b".toList = [['a'], ['b']] ∧
      split "\u00A0a\u00A0b".toList = ["a\u00A0b".toList] ∧
      ¬ ∀ line, ∀ word ∈ split line, ∀ c ∈ word, Text.isBlank c = false := by
  have joined : split "\u00A0a\u00A0b".toList = ["a\u00A0b".toList] := by decide
  refine ⟨rfl, by decide, joined, fun solid => ?_⟩
  have apart := solid "\u00A0a\u00A0b".toList "a\u00A0b".toList (by rw [joined]; simp) '\u00A0'
    (by decide)
  cases apart

end Solid

end BuildRules.Word
