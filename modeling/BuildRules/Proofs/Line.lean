import BuildRules.Line
import Mathlib.Data.List.TakeWhile

/-! Lines of a source and of its beginnings. A source is cut after some of its physical lines. Where
a logical line ends there, the logical lines of what is left are those of the source up to the
cut. Text can be added there, or exchanged behind it, without any effect on the lines before. -/
namespace BuildRules
variable {text rest : Text}

theorem Text.pieces_append {separator : Char} (free : separator ∉ text) (rest : Text) :
    pieces separator (text ++ separator :: rest) = text :: pieces separator rest := by
  induction text with
  | nil => exact pieces_separator separator rest
  | cons c text ih =>
    rw [List.mem_cons, not_or] at free
    obtain ⟨part, parts, split, more⟩ :=
      pieces_cons (Ne.symm free.1) (text ++ separator :: rest)
    rw [ih free.2] at split
    cases split
    exact more

theorem Text.pieces_of_notMem {separator : Char} (free : separator ∉ text) :
    pieces separator text = [text] := by
  induction text with
  | nil => rfl
  | cons c text ih =>
    rw [List.mem_cons, not_or] at free
    obtain ⟨part, parts, split, more⟩ := pieces_cons (Ne.symm free.1) text
    rw [ih free.2] at split
    cases split
    exact more

/-- Trimming at both ends takes away the blanks in front as well. -/
theorem Text.exists_gap (text : Text) :
    ∃ gap, (∀ c ∈ gap, isBlank c = true) ∧ trimEnd text = gap ++ trim text := by
  have split : text.takeWhile isBlank ++ trimStart text = text := List.takeWhile_append_dropWhile
  have blank : ∀ c ∈ text.takeWhile isBlank, isBlank c = true := fun _ => List.mem_takeWhile_imp
  have ends := trimEnd_eq text
  rw [← split, List.reverse_append, List.dropWhile_append, split] at ends
  rw [trim, trimEnd_eq (trimStart text), ends]
  split
  · next none =>
    have before : (text.takeWhile isBlank).reverse.dropWhile isBlank = [] :=
      List.dropWhile_eq_nil_iff.2 fun c member => blank c (List.mem_reverse.1 member)
    exact ⟨[], by simp, by rw [before, List.isEmpty_iff.1 none]; rfl⟩
  · exact ⟨_, blank, by rw [List.reverse_append, List.reverse_reverse]⟩

theorem Text.rdrop_isPrefix (p : Char → Bool) (text : Text) :
    (text.reverse.dropWhile p).reverse <+: text := by
  rw [← List.reverse_suffix, List.reverse_reverse]
  exact List.dropWhile_suffix p

/-- What is dropped from the end of a text stops short of a first character that is kept. -/
theorem Text.head?_rdrop {p : Char → Bool} {c : Char} (first : text.head? = some c)
    (kept : p c = false) : (text.reverse.dropWhile p).reverse.head? = some c := by
  obtain ⟨rest, rfl⟩ := List.head?_eq_some_iff.1 first
  rw [List.reverse_cons, List.dropWhile_append]
  split
  · simp [kept]
  · simp

namespace Line

@[simp] theorem physical_nil : physical [] = [] := rfl

theorem physical_append (free : '\n' ∉ text) (rest : Text) :
    physical (text ++ '\n' :: rest) = dropReturn text :: physical rest := by
  obtain ⟨part, parts, split⟩ := List.exists_cons_of_ne_nil (Text.pieces_ne_nil '\n' rest)
  rw [physical, physical, Text.pieces_append free, split]
  rfl

theorem physical_of_notMem (free : '\n' ∉ text) (some : text ≠ []) : physical text = [text] := by
  have solid : text.isEmpty = false := by simpa using some
  simp [physical, Text.pieces_of_notMem free, ofPieces, solid]

theorem dropReturn_isPrefix (text : Text) : dropReturn text <+: text := by
  rw [dropReturn]
  split
  · exact List.dropLast_prefix text
  · exact List.prefix_rfl

theorem cut_isPrefix (text : Text) : cut text <+: text := by
  rw [cut, Text.trimEnd_eq]
  exact (Text.rdrop_isPrefix _ _).trans (Text.rdrop_isPrefix _ text)

/-- A source is a physical line and the rest of it, or one that no line feed ends. -/
theorem exists_line (source : Text) :
    '\n' ∉ source ∨ ∃ text rest, source = text ++ '\n' :: rest ∧ '\n' ∉ text := by
  by_cases feed : '\n' ∈ source
  · obtain ⟨text, rest, split, free⟩ := List.eq_append_cons_of_mem feed
    exact .inr ⟨text, rest, split, free⟩
  · exact .inl feed

section Whole

/-- Texts as lines of their own, of which the first has the given number. -/
def numbered : Nat → List Text → List Line
  | _, [] => []
  | number, text :: rest => ⟨number, text⟩ :: numbered (number + 1) rest

theorem numbered_append (number : Nat) (texts more : List Text) :
    numbered number (texts ++ more) =
      numbered number texts ++ numbered (number + texts.length) more := by
  induction texts generalizing number with
  | nil => rfl
  | cons text texts ih => simp [numbered, ih, Nat.add_comm, Nat.add_left_comm]

theorem isContinued_eq_false (ends : text.getLast? ≠ some '\\') : isContinued text = false := by
  rw [← List.head?_reverse] at ends
  rw [isContinued]
  split
  · next reversed => simp [reversed] at ends
  · next reversed => simp [reversed] at ends
  · rfl

/-- A physical line that ends in no backslash is a logical line of its own. -/
theorem gather_whole {next : Text} (ends : next.getLast? ≠ some '\\') (number : Nat)
    (rest : List Text) :
    gather none number (next :: rest) = ⟨number, next⟩ :: gather none (number + 1) rest := by
  rw [gather_cons]
  simp [extend, isContinued_eq_false ends]

/-- The text is a physical line as it stands, and goes on with no other. -/
structure Kept (text : Text) : Prop where
  oneLine : '\n' ∉ text
  noReturn : text.getLast? ≠ some '\r'
  stops : isContinued text = false

theorem logical_kept {texts : List Text} (kept : ∀ text ∈ texts, Kept text) :
    logical (texts.flatMap fun text => text ++ ['\n']) = numbered 1 texts := by
  rw [logical]
  generalize 1 = number
  induction texts generalizing number with
  | nil => rfl
  | cons text texts ih =>
    obtain ⟨here, later⟩ := List.forall_mem_cons.1 kept
    have same : dropReturn text = text := if_neg here.noReturn
    rw [List.flatMap_cons, List.append_assoc, List.singleton_append, physical_append here.oneLine,
      same, gather_cons]
    simp [extend, here.stops, ih later, numbered]

/-- Each of these texts is a line as it stands, whatever follows. -/
structure Whole (text : Text) : Prop where
  oneLine : '\n' ∉ text
  noReturn : text.getLast? ≠ some '\r'
  ends : text.getLast? ≠ some '\\'

theorem logical_whole {texts : List Text} (whole : ∀ text ∈ texts, Whole text) :
    logical (texts.flatMap fun text => text ++ ['\n']) = numbered 1 texts :=
  logical_kept fun text member =>
    let lines := whole text member
    ⟨lines.oneLine, lines.noReturn, isContinued_eq_false lines.ends⟩

end Whole

section Joined

/-- A backslash at the end is preceded by what stands before it on its own line. -/
theorem isContinued_append (ends : text.getLast? ≠ some '\\') (rest : Text) :
    isContinued (text ++ rest) = isContinued rest := by
  have whole : isContinued text = false := isContinued_eq_false ends
  rw [← List.head?_reverse] at ends
  rw [isContinued] at whole ⊢
  rw [isContinued, List.reverse_append]
  rcases rest.reverse with _ | ⟨c, _ | ⟨d, more⟩⟩
  · exact whole
  · cases reversed : text.reverse with
    | nil => rfl
    | cons d front =>
      rw [reversed, List.head?_cons, ne_eq, Option.some.injEq] at ends
      by_cases slash : c = '\\'
      · subst slash
        simpa using ends
      · simp [slash]
  · by_cases slash : c = '\\'
    · subst slash
      rfl
    · simp [slash]

theorem isContinued_trim (text : Text) :
    isContinued (Text.trim text) = isContinued (Text.trimEnd text) := by
  obtain ⟨gap, blank, same⟩ := Text.exists_gap text
  rw [same, isContinued_append fun slash => ?_]
  have blankSlash := blank _ (List.mem_of_getLast? slash)
  cases blankSlash

/-- No blanks stand behind the backslash of a line that goes on. -/
theorem isContinued_trimEnd (continued : isContinued text = true) :
    isContinued (Text.trimEnd text) = true := by
  have slash : text.getLast? = some '\\' := by
    rcases Decidable.em (text.getLast? = some '\\') with slash | other
    · exact slash
    · rw [isContinued_eq_false other] at continued
      cases continued
  rw [Text.trimEnd, slash]
  exact continued

/-- A line that goes on with a further part joined to it goes on after that part. -/
theorem isContinued_of_extend {pending : Option Line} {number : Nat}
    (continued : isContinued (extend pending number text).text = true) :
    isContinued (Text.trimEnd text) = true := by
  cases pending with
  | none => exact isContinued_trimEnd continued
  | some first =>
    have joined : (extend (some first) number text).text =
        (first.text ++ [' ']) ++ Text.trim text := by simp [extend]
    rw [joined, isContinued_append (by simp), isContinued_trim] at continued
    exact continued

/-- Lines of a source that a line feed ends are those of any longer one. -/
theorem physical_concat {source : Text} (ends : ∀ last ∈ source.getLast?, last = '\n')
    (rest : Text) : physical (source ++ rest) = physical source ++ physical rest := by
  induction size : source.length using Nat.strong_induction_on generalizing source with
  | _ n ih =>
    rcases exists_line source with free | ⟨text, more, rfl, free⟩
    · rcases List.eq_nil_or_concat source with rfl | ⟨_, last, rfl⟩
      · rfl
      · have feed : last = '\n' := ends last (by simp)
        exact absurd (by simp [feed]) free
    · have shorter : more.length < n := by
        rw [List.length_append, List.length_cons] at size
        omega
      have ends' : ∀ last ∈ more.getLast?, last = '\n' := fun last member =>
        ends last (by simp [List.getLast?_cons, Option.mem_def.1 member])
      rw [List.append_assoc, List.cons_append, physical_append free, physical_append free,
        ih more.length shorter ends' rfl, List.cons_append]

/-- The line that goes on behind these parts, if one does. -/
def pendingAfter (pending : Option Line) (number : Nat) : List Text → Option Line
  | [] => pending
  | next :: rest =>
    let line := extend pending number next
    if isContinued line.text then
      pendingAfter (some ⟨line.number, cut line.text⟩) (number + 1) rest
    else pendingAfter none (number + 1) rest

/-- Where no line goes on, what follows is gathered by itself. -/
theorem gather_append {pending : Option Line} {number : Nat} {parts : List Text}
    (ended : pendingAfter pending number parts = none) (more : List Text) :
    gather pending number (parts ++ more) =
      gather pending number parts ++ gather none (number + parts.length) more := by
  induction parts generalizing pending number with
  | nil =>
    obtain rfl : pending = none := ended
    rfl
  | cons next parts ih =>
    have size : number + (next :: parts).length = number + 1 + parts.length := by
      rw [List.length_cons]
      omega
    rw [size, List.cons_append, gather_cons, gather_cons]
    rw [pendingAfter] at ended
    dsimp only at ended ⊢
    split at ended
    · next continued => rw [if_pos continued, if_pos continued, ih ended]
    · next whole => rw [if_neg whole, if_neg whole, ih ended, List.cons_append]

/-- No line goes on behind a part that ends in no backslash. -/
theorem pendingAfter_of_ends {pending : Option Line} {number : Nat} {parts : List Text}
    (begun : parts = [] → pending = none)
    (ends : ∀ last ∈ parts.getLast?, isContinued (Text.trimEnd last) = false) :
    pendingAfter pending number parts = none := by
  induction parts generalizing pending number with
  | nil => exact begun rfl
  | cons next parts ih =>
    have ends' : ∀ last ∈ parts.getLast?, isContinued (Text.trimEnd last) = false := by
      intro last member
      rw [List.getLast?_cons, Option.mem_def.1 member] at ends
      exact ends last rfl
    rw [pendingAfter]
    split
    · next continued =>
      refine ih (fun none => ?_) ends'
      subst none
      have stops := ends next rfl
      rw [isContinued_of_extend continued] at stops
      cases stops
    · exact ih (fun _ => rfl) ends'

/-- This part of a source has come to the end of a line, and no line goes on behind it. -/
structure Rests (source : Text) : Prop where
  feed : ∀ last ∈ source.getLast?, last = '\n'
  stops : pendingAfter none 1 (physical source) = none

theorem Rests.logical_append {source : Text} (rests : Rests source) (rest : Text) :
    logical (source ++ rest) =
      logical source ++ gather none (1 + (physical source).length) (physical rest) := by
  rw [logical, physical_concat rests.feed, gather_append rests.stops, logical]

/-- An empty line that is put in there is a line of its own. -/
theorem Rests.logical_append_empty {source empty : Text} (rests : Rests source)
    (isEmpty : empty = "\n".toList ∨ empty = "\r\n".toList) (rest : Text) :
    logical (source ++ empty ++ rest) =
      logical source ++ ⟨1 + (physical source).length, []⟩ ::
        gather none (1 + (physical source).length + 1) (physical rest) := by
  have lines : physical (empty ++ rest) = [] :: physical rest := by
    rcases isEmpty with rfl | rfl
    · exact physical_append List.not_mem_nil rest
    · have free : '\n' ∉ ['\r'] := by decide
      exact physical_append free rest
  rw [List.append_assoc, rests.logical_append, lines, gather_whole (by simp)]

/-- The last line of a source has come to its end. What follows is not joined to it. -/
structure Ended (source : Text) : Prop where
  feed : ∀ last ∈ source.getLast?, last = '\n'
  whole : ∀ last ∈ (physical source).getLast?, isContinued (Text.trimEnd last) = false

theorem Ended.rests {source : Text} (ended : Ended source) : Rests source :=
  ⟨ended.feed, pendingAfter_of_ends (fun _ => rfl) ended.whole⟩

end Joined

/-- The beginning of a source up to the end of so many physical lines. -/
def firstLines : Nat → Text → Text
  | 0, _ => []
  | _ + 1, [] => []
  | n + 1, c :: rest => c :: if c = '\n' then firstLines n rest else firstLines (n + 1) rest

theorem firstLines_append (free : '\n' ∉ text) (n : Nat) (rest : Text) :
    firstLines (n + 1) (text ++ '\n' :: rest) = text ++ '\n' :: firstLines n rest := by
  induction text with
  | nil => rfl
  | cons c text ih =>
    rw [List.mem_cons, not_or] at free
    rw [List.cons_append, firstLines, if_neg (Ne.symm free.1), ih free.2]
    rfl

theorem firstLines_of_notMem (free : '\n' ∉ text) (n : Nat) : firstLines (n + 1) text = text := by
  induction text with
  | nil => rfl
  | cons c text ih =>
    rw [List.mem_cons, not_or] at free
    rw [firstLines, if_neg (Ne.symm free.1), ih free.2]

theorem physical_firstLines (n : Nat) (source : Text) :
    physical (firstLines n source) = (physical source).take n := by
  induction n generalizing source with
  | zero => simp [firstLines]
  | succ n ih =>
    rcases exists_line source with free | ⟨text, rest, rfl, free⟩
    · rw [firstLines_of_notMem free]
      by_cases none : source = []
      · simp [none]
      · simp [physical_of_notMem free none]
    · rw [firstLines_append free, physical_append free, physical_append free, ih rest]
      rfl

section Beginnings
variable {number : Nat} {parts : List Text}

/-- The first logical line takes some of the physical ones, and those after it are gathered
without it. -/
theorem gather_first (pending : Option Line) (number : Nat) (parts : List Text)
    (nonempty : pending = none → parts ≠ []) :
    ∃ own rest line, parts = own ++ rest ∧ line.number = (pending.map Line.number).getD number ∧
      gather pending number own = [line] ∧
      (rest ≠ [] → ∀ more, gather pending number (own ++ more) =
        line :: gather none (number + own.length) more) := by
  induction parts generalizing pending number with
  | nil =>
    obtain ⟨line, rfl⟩ := Option.ne_none_iff_exists'.1 fun none => nonempty none rfl
    exact ⟨[], [], line, rfl, rfl, rfl, fun some => absurd rfl some⟩
  | cons next parts ih =>
    have start : (extend pending number next).number = (pending.map Line.number).getD number := by
      cases pending <;> rfl
    cases goesOn : isContinued (extend pending number next).text with
    | true =>
      let first : Line :=
        ⟨(extend pending number next).number, cut (extend pending number next).text⟩
      obtain ⟨own, rest, line, rfl, named, alone, further⟩ := ih (some first) (number + 1) nofun
      have step (more : List Text) :
          gather pending number (next :: more) = gather (some first) (number + 1) more := by
        rw [gather_cons]
        simp [goesOn, first]
      refine ⟨next :: own, rest, line, rfl, named.trans start, by rw [step, alone], ?_⟩
      intro some more
      rw [List.cons_append, step, further some, List.length_cons, Nat.add_assoc,
        Nat.add_comm 1]
    | false =>
      have step (more : List Text) : gather pending number (next :: more) =
          extend pending number next :: gather none (number + 1) more := by
        rw [gather_cons]
        simp [goesOn]
      exact ⟨[next], parts, extend pending number next, rfl, start, step [], fun _ => step⟩

theorem number_le_of_mem_gather {pending : Option Line} {least : Nat} {line : Line}
    (later : least ≤ number) (held : ∀ first ∈ pending, least ≤ first.number)
    (member : line ∈ gather pending number parts) : least ≤ line.number := by
  induction parts generalizing pending number with
  | nil => exact held line (by simpa using member)
  | cons next parts ih =>
    have start : least ≤ (extend pending number next).number := by
      cases pending with
      | none => exact later
      | some first => exact held first rfl
    have beyond : least ≤ number + 1 := by omega
    rw [gather_cons] at member
    simp only at member
    split at member
    · exact ih beyond (by simpa using start) member
    · rcases List.mem_cons.1 member with rfl | member
      · exact start
      · exact ih beyond (by simp) member

theorem number_of_mem_gather {first line : Line} (held : first.number < number)
    (member : line ∈ gather (some first) number parts) :
    line.number = first.number ∨ number < line.number := by
  induction parts generalizing first number with
  | nil =>
    obtain rfl : line = first := by simpa using member
    exact .inl rfl
  | cons next parts ih =>
    rw [gather_cons] at member
    dsimp only at member
    split at member
    · have held' : (Line.mk first.number (cut (extend (some first) number next).text)).number <
          number + 1 := Nat.lt_succ_of_lt held
      rcases ih held' member with same | beyond
      · exact .inl same
      · exact .inr (by omega)
    · rcases List.mem_cons.1 member with rfl | later
      · exact .inl rfl
      · exact .inr (number_le_of_mem_gather (Nat.le_refl _) (by simp) later)

/-- No line goes on behind parts where a logical line begins. -/
theorem pendingAfter_of_begins {pending : Option Line} {more : List Text} {line : Line}
    (held : ∀ first ∈ pending, first.number < number)
    (member : line ∈ gather pending number (parts ++ more))
    (begins : line.number = number + parts.length) : pendingAfter pending number parts = none := by
  induction parts generalizing pending number with
  | nil =>
    cases pending with
    | none => rfl
    | some first =>
      have earlier := held first rfl
      rw [List.length_nil] at begins
      rcases number_of_mem_gather earlier member with same | beyond <;> omega
  | cons next parts ih =>
    have start : (extend pending number next).number < number + 1 := by
      cases pending with
      | none => exact Nat.lt_succ_self number
      | some first => exact Nat.lt_succ_of_lt (held first rfl)
    rw [List.length_cons] at begins
    have begins' : line.number = number + 1 + parts.length := by omega
    rw [List.cons_append, gather_cons] at member
    rw [pendingAfter]
    dsimp only at member ⊢
    split at member
    · next continued =>
      rw [if_pos continued]
      exact ih (by simpa using start) member begins'
    · next whole =>
      rw [if_neg whole]
      rcases List.mem_cons.1 member with rfl | later
      · omega
      · exact ih (by simp) later begins'

/-- How many of the physical lines stand before these last logical lines. There are `count` in all,
and the first has the given number. -/
def before (number count : Nat) : List Line → Nat
  | [] => count
  | next :: _ => next.number - number

/-- Logical lines are found again in the physical lines before the others. -/
theorem gather_take {earlier later : List Line}
    (split : gather none number parts = earlier ++ later) :
    gather none number (parts.take (before number parts.length later)) = earlier := by
  induction earlier generalizing number parts with
  | nil =>
    by_cases none : parts = []
    · simp [none]
    · obtain ⟨own, rest, line, rfl, named, alone, further⟩ :=
        gather_first .none number parts fun _ => none
      have begins : ∃ others, later = line :: others := by
        rw [List.nil_append] at split
        rw [← split]
        by_cases last : rest = []
        · exact ⟨[], by rw [last, List.append_nil, alone]⟩
        · exact ⟨_, further last rest⟩
      obtain ⟨others, rfl⟩ := begins
      simp [before, named]
  | cons first earlier ih =>
    have some : parts ≠ [] := by
      rintro rfl
      simp at split
    obtain ⟨own, rest, line, rfl, _, alone, further⟩ := gather_first none number parts fun _ => some
    by_cases last : rest = []
    · subst last
      rw [List.append_nil] at split ⊢
      rw [alone] at split
      obtain ⟨rfl, none⟩ := List.cons.inj split
      obtain ⟨rfl, rfl⟩ := List.append_eq_nil_iff.1 none.symm
      simp [before, alone]
    · rw [further last] at split
      obtain ⟨rfl, inner⟩ := List.cons.inj split
      -- The cut stands behind the lines of the first one, since numbers do not go back.
      have size : before number (own ++ rest).length later =
          own.length + before (number + own.length) rest.length later := by
        cases later with
        | nil => simp [before]
        | cons next later =>
          have member : next ∈ gather none (number + own.length) rest := by
            rw [inner]
            simp
          have beyond : number + own.length ≤ next.number :=
            number_le_of_mem_gather (Nat.le_refl _) (by simp) member
          simp only [before]
          omega
      rw [size, List.take_length_add_append, further last, ih inner]

/-- A source that is cut before one of its logical lines keeps those before it. -/
theorem logical_firstLines {source : Text} {earlier later : List Line}
    (split : logical source = earlier ++ later) :
    logical (firstLines (before 1 (physical source).length later) source) = earlier := by
  rw [logical, physical_firstLines]
  exact gather_take split

end Beginnings

section Lone
variable {before after : Text}

/-- The physical line of a text that a line feed ends, or nothing. -/
def bare (text after : Text) : Text := if after.isEmpty then text else dropReturn text

/-- The logical line of a text when nothing is joined to it. -/
def lone (text after : Text) : Text :=
  if isContinued (bare text after) then cut (bare text after) else bare text after

theorem head?_dropReturn {c : Char} (first : text.head? = some c) (other : c ≠ '\r') :
    (dropReturn text).head? = some c := by
  obtain ⟨rest, rfl⟩ := List.head?_eq_some_iff.1 first
  rw [dropReturn]
  split
  · next ends =>
    cases rest with
    | nil => exact absurd (Option.some.inj ends) other
    | cons d rest => rfl
  · rfl

theorem bare_isPrefix (text after : Text) : bare text after <+: text := by
  rw [bare]
  split
  · exact List.prefix_rfl
  · exact dropReturn_isPrefix text

/-- Nothing is added to a line that stands alone. -/
theorem lone_isPrefix (text after : Text) : lone text after <+: text := by
  rw [lone]
  split
  · exact (cut_isPrefix _).trans (bare_isPrefix text after)
  · exact bare_isPrefix text after

theorem head?_lone {after : Text} (first : text.head? = some '#') :
    (lone text after).head? = some '#' := by
  have bared : (bare text after).head? = some '#' := by
    rw [bare]
    split
    · exact first
    · exact head?_dropReturn first (by decide)
  rw [lone]
  split
  · rw [cut, Text.trimEnd_eq]
    exact Text.head?_rdrop (Text.head?_rdrop bared rfl) rfl
  · exact bared

/-- The text is one physical line before the rest of a source, and nothing is joined to it. -/
structure Lone (text after : Text) : Prop where
  some : text ≠ []
  oneLine : '\n' ∉ text
  ends : ∀ first ∈ after.head?, first = '\n'
  alone : isContinued (bare text after) = true → physical after.tail = []

theorem Lone.gather_physical (single : Lone text after) (number : Nat) :
    gather none number (physical (text ++ after)) =
      ⟨number, lone text after⟩ :: gather none (number + 1) (physical after.tail) := by
  have split : physical (text ++ after) = bare text after :: physical after.tail := by
    cases after with
    | nil => simpa [bare] using physical_of_notMem single.oneLine single.some
    | cons first rest =>
      obtain rfl : first = '\n' := single.ends first rfl
      exact physical_append single.oneLine rest
  rw [split, gather_cons, lone]
  dsimp only [extend]
  split
  · next continued =>
    rw [single.alone continued]
    rfl
  · rfl

/-- A logical line begins behind this part of a source. -/
def Begins (before rest : Text) : Prop :=
  ∃ line ∈ logical (before ++ rest), line.number = 1 + (physical before).length

/-- A logical line begins where no other one goes on. -/
theorem Begins.rests (feed : ∀ last ∈ before.getLast?, last = '\n') (begins : Begins before rest) :
    Rests before := by
  obtain ⟨line, member, number⟩ := begins
  rw [logical, physical_concat feed] at member
  exact ⟨feed, pendingAfter_of_begins (by simp) member number⟩

/-- A line that stands alone can be exchanged for another one. -/
theorem Lone.logical_append (ends : ∀ last ∈ before.getLast?, last = '\n')
    (begins : Begins before rest) (single : Lone text after) :
    logical (before ++ (text ++ after)) =
      logical before ++ ⟨1 + (physical before).length, lone text after⟩ ::
        gather none (1 + (physical before).length + 1) (physical after.tail) := by
  rw [(begins.rests ends).logical_append, single.gather_physical]

end Lone

end Line

end BuildRules
