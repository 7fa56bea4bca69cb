import BuildRules.Proofs.Line
import BuildRules.Proofs.Spacing
import Mathlib.Data.List.DropRight

/-! The logical lines of a source, told by its physical lines. The physical lines fall into runs,
and each run makes one logical line. A run goes on behind a line that ends in a single backslash.
What has been joined so far does not matter for that, but all lines of a run except the first are
trimmed before they are looked at. -/
namespace BuildRules

namespace Text
variable {text : Text}

/-- The text ends in a backslash, and not in a pair of them. -/
def GoesOn (text : Text) : Prop := ['\\'] <:+ text ∧ ¬ ['\\', '\\'] <:+ text

instance (text : Text) : Decidable text.GoesOn :=
  inferInstanceAs (Decidable (['\\'] <:+ text ∧ ¬ ['\\', '\\'] <:+ text))

/-- The text without its last character and without the blanks before that. -/
def shortened (text : Text) : Text := trimEnd text.dropLast

/-- Those of the parts that are not empty. -/
def solid (parts : List Text) : List Text := parts.filter fun part => !part.isEmpty

theorem solid_cons (part : Text) (parts : List Text) :
    solid (part :: parts) = solid [part] ++ solid parts :=
  List.filter_append [part] parts

theorem goesOn_concat (front : Text) : (front ++ ['\\']).GoesOn ↔ front.getLast? ≠ some '\\' := by
  have ends : ['\\'] <:+ front ++ ['\\'] := List.suffix_append front ['\\']
  have pair : ['\\', '\\'] <:+ front ++ ['\\'] ↔ front.getLast? = some '\\' := by
    rw [List.getLast?_eq_some_iff]
    constructor
    · rintro ⟨first, same⟩
      refine ⟨first, (List.append_left_inj ['\\']).1 ?_⟩
      rw [← same]
      simp
    · rintro ⟨first, rfl⟩
      exact ⟨first, by simp⟩
  rw [GoesOn, pair, and_iff_right ends]

theorem GoesOn.getLast? (goesOn : text.GoesOn) : text.getLast? = some '\\' := by
  obtain ⟨⟨front, rfl⟩, _⟩ := goesOn
  exact List.getLast?_concat

theorem GoesOn.exists_front (goesOn : text.GoesOn) :
    ∃ front, text = front ++ ['\\'] ∧ front.getLast? ≠ some '\\' := by
  obtain ⟨front, rfl⟩ := List.getLast?_eq_some_iff.1 goesOn.getLast?
  exact ⟨front, rfl, (goesOn_concat front).1 goesOn⟩

theorem trimEnd_append (front back : Text) :
    trimEnd (front ++ back) =
      if trimEnd back = [] then trimEnd front else front ++ trimEnd back := by
  simp only [trimEnd_eq, List.reverse_append, List.dropWhile_append, List.reverse_eq_nil_iff,
    List.isEmpty_iff]
  split <;> simp

@[simp] theorem trimEnd_trimEnd (text : Text) : trimEnd (trimEnd text) = trimEnd text := by
  rw [trimEnd_eq, trimEnd_eq, List.reverse_reverse, List.dropWhile_idempotent]

/-- A text that goes on can be shortened in the same way when others stand before it. Then the space
between them goes too, if nothing is left behind it. -/
theorem shortened_joined (text next : Text) (goesOn : next.GoesOn) :
    shortened (trimEnd text ++ ' ' :: next) =
      trimEnd text ++ Word.spaced (solid [next.shortened]) := by
  obtain ⟨front, rfl, _⟩ := goesOn.exists_front
  have space : trimEnd [' '] = [] := rfl
  have split : (trimEnd text ++ ' ' :: (front ++ ['\\'])).dropLast =
      trimEnd text ++ ([' '] ++ front) := by
    rw [← List.cons_append, ← List.append_assoc, List.dropLast_concat]
    rfl
  rw [shortened, split, shortened, List.dropLast_concat, trimEnd_append, trimEnd_append [' '],
    space]
  by_cases empty : trimEnd front = []
  · simp [empty, solid, Word.spaced]
  · simp [empty, solid, Word.spaced]

end Text

namespace Line
variable {text : Text}

theorem isContinued_concat (front : Text) :
    isContinued (front ++ ['\\']) = (front.getLast? != some '\\') := by
  rw [isContinued, List.reverse_append, ← List.head?_reverse]
  cases front.reverse <;> rfl

theorem isContinued_iff : isContinued text = true ↔ text.GoesOn := by
  by_cases ends : text.getLast? = some '\\'
  · obtain ⟨front, rfl⟩ := List.getLast?_eq_some_iff.1 ends
    rw [isContinued_concat, Text.goesOn_concat, bne_iff_ne]
  · rw [isContinued_eq_false ends]
    exact iff_of_false Bool.false_ne_true fun goesOn => ends goesOn.getLast?

theorem cut_of_goesOn (goesOn : text.GoesOn) : cut text = text.shortened := by
  obtain ⟨front, rfl, single⟩ := goesOn.exists_front
  have kept : front.reverse.dropWhile (· == '\\') = front.reverse := by
    rw [← List.head?_reverse] at single
    cases reversed : front.reverse with
    | nil => rfl
    | cons c rest =>
      have other : c ≠ '\\' := fun slash => single (by rw [reversed, slash]; rfl)
      simp [other]
  rw [cut, Text.shortened, List.dropLast_concat, List.reverse_append]
  simp [kept]

/-- What has been joined does not decide whether the line goes on. -/
theorem goesOn_joined (text next : Text) : (text ++ ' ' :: next).GoesOn ↔ next.GoesOn := by
  have split : text ++ ' ' :: next = (text ++ [' ']) ++ next := by simp
  rw [← isContinued_iff, ← isContinued_iff, split, isContinued_append (by simp)]

end Line

/-- The physical lines of one logical line: one that stands alone, or a first one that is joined
with others. -/
inductive Run
  | alone (line : Text)
  | joined (first : Text) (between : List Text) (last : Text)
deriving DecidableEq, Repr

namespace Run

def parts : Run → List Text
  | alone line => [line]
  | joined first between last => first :: (between ++ [last])

theorem length_parts_pos (run : Run) : 0 < run.parts.length := by
  cases run <;> exact Nat.succ_pos _

/-- All lines but the last go on. The first one is looked at as it stands, the others are
trimmed. -/
def Linked : Run → Prop
  | alone _ => True
  | joined first between _ => first.GoesOn ∧ ∀ part ∈ between, part.trim.GoesOn

/-- The last line goes on as well. -/
def Dangles : Run → Prop
  | alone line => line.GoesOn
  | joined _ _ last => last.trim.GoesOn

instance : (run : Run) → Decidable run.Linked
  | alone _ => isTrue trivial
  | joined first between _ =>
    inferInstanceAs (Decidable (first.GoesOn ∧ ∀ part ∈ between, part.trim.GoesOn))

instance : (run : Run) → Decidable run.Dangles
  | alone line => inferInstanceAs (Decidable line.GoesOn)
  | joined _ _ last => inferInstanceAs (Decidable last.trim.GoesOn)

/-- What is left of the last line when it goes on and nothing follows, or all of it. -/
def ending (last : Text) : List Text :=
  if last.GoesOn then Text.solid [last.shortened] else [last]

/-- The logical line. -/
def text : Run → Text
  | alone line => if line.GoesOn then line.shortened else line
  | joined first between last =>
    Text.join [' '] (first.shortened ::
      (Text.solid (between.map fun part => part.trim.shortened) ++ ending last.trim))

/-- The logical lines of runs. Each is numbered by the first physical line of its run. -/
def lines : Nat → List Run → List Line
  | _, [] => []
  | number, run :: rest => ⟨number, run.text⟩ :: lines (number + run.parts.length) rest

end Run

/-- The physical lines fall into these runs, one after the other. A run ends behind a line that does
not go on, or where no line is left. -/
inductive Partition : List Text → List Run → Prop
  | nil : Partition [] []
  | cons {run : Run} {rest : List Text} {runs : List Run} (linked : run.Linked)
      (ends : run.Dangles → rest = []) (later : Partition rest runs) :
      Partition (run.parts ++ rest) (run :: runs)

section Partition
variable {first next last last' : Text} {between between' rest rest' : List Text} {run run' : Run}

theorem exists_between (next : Text) (rest : List Text) :
    ∃ between last more, next :: rest = between ++ last :: more ∧
      (∀ part ∈ between, part.trim.GoesOn) ∧ (last.trim.GoesOn → more = []) := by
  induction rest generalizing next with
  | nil => exact ⟨[], next, [], rfl, by simp, fun _ => rfl⟩
  | cons second rest ih =>
    by_cases goesOn : next.trim.GoesOn
    · obtain ⟨between, last, more, split, goOn, ends⟩ := ih second
      exact ⟨next :: between, last, more, by rw [split, List.cons_append],
        List.forall_mem_cons.2 ⟨goesOn, goOn⟩, ends⟩
    · exact ⟨[], next, second :: rest, rfl, by simp, fun further => absurd further goesOn⟩

theorem Run.exists_run (first : Text) (rest : List Text) :
    ∃ (run : Run) (more : List Text), first :: rest = run.parts ++ more ∧ run.Linked ∧
      (run.Dangles → more = []) := by
  by_cases goesOn : first.GoesOn
  · cases rest with
    | nil => exact ⟨alone first, [], rfl, trivial, fun _ => rfl⟩
    | cons next rest =>
      obtain ⟨between, last, more, split, goOn, ends⟩ := exists_between next rest
      refine ⟨joined first between last, more, ?_, ⟨goesOn, goOn⟩, ends⟩
      rw [split, parts, List.cons_append, List.append_assoc, List.singleton_append]
  · exact ⟨alone first, rest, rfl, trivial, fun dangles => absurd dangles goesOn⟩

theorem exists_partition (parts : List Text) : ∃ runs, Partition parts runs := by
  induction size : parts.length using Nat.strong_induction_on generalizing parts with
  | _ bound ih =>
    cases parts with
    | nil => exact ⟨[], .nil⟩
    | cons first rest =>
      obtain ⟨run, more, split, linked, ends⟩ := Run.exists_run first rest
      have shorter : more.length < bound := by
        rw [← size, split, List.length_append]
        exact Nat.lt_add_of_pos_left run.length_parts_pos
      obtain ⟨runs, later⟩ := ih more.length shorter more rfl
      exact ⟨run :: runs, split ▸ .cons linked ends later⟩

/-- Lines that go on end at the same line as others that do. -/
theorem between_unique (same : between ++ last :: rest = between' ++ last' :: rest')
    (goOn : ∀ part ∈ between, part.trim.GoesOn) (goOn' : ∀ part ∈ between', part.trim.GoesOn)
    (ends : last.trim.GoesOn → rest = []) (ends' : last'.trim.GoesOn → rest' = []) :
    between = between' ∧ last = last' ∧ rest = rest' := by
  induction between generalizing between' with
  | nil =>
    cases between' with
    | nil =>
      obtain ⟨rfl, rfl⟩ := List.cons.inj same
      exact ⟨rfl, rfl, rfl⟩
    | cons next between' =>
      obtain ⟨rfl, after⟩ := List.cons.inj same
      have none := ends (goOn' last List.mem_cons_self)
      simp [none] at after
  | cons next between ih =>
    cases between' with
    | nil =>
      obtain ⟨rfl, after⟩ := List.cons.inj same
      have none := ends' (goOn next List.mem_cons_self)
      simp [none] at after
    | cons next' between' =>
      obtain ⟨rfl, after⟩ := List.cons.inj same
      obtain ⟨rfl, others⟩ :=
        ih after (List.forall_mem_cons.1 goOn).2 (List.forall_mem_cons.1 goOn').2
      exact ⟨rfl, others⟩

theorem Run.unique (same : run.parts ++ rest = run'.parts ++ rest') (linked : run.Linked)
    (linked' : run'.Linked) (ends : run.Dangles → rest = []) (ends' : run'.Dangles → rest' = []) :
    run = run' ∧ rest = rest' := by
  cases run with
  | alone line =>
    cases run' with
    | alone line' =>
      obtain ⟨rfl, rfl⟩ := List.cons.inj same
      exact ⟨rfl, rfl⟩
    | joined first between last =>
      obtain ⟨rfl, after⟩ := List.cons.inj same
      have none := ends linked'.1
      simp [none] at after
  | joined first between last =>
    cases run' with
    | alone line =>
      obtain ⟨rfl, after⟩ := List.cons.inj same
      have none := ends' linked.1
      simp [none] at after
    | joined first' between' last' =>
      obtain ⟨rfl, after⟩ := List.cons.inj same
      have after' : between ++ last :: rest = between' ++ last' :: rest' := by simpa using after
      obtain ⟨rfl, rfl, rfl⟩ := between_unique after' linked.2 linked'.2 ends ends'
      exact ⟨rfl, rfl⟩

theorem Partition.unique {parts : List Text} {runs runs' : List Run} (here : Partition parts runs)
    (again : Partition parts runs') : runs = runs' := by
  induction here generalizing runs' with
  | nil =>
    generalize none : ([] : List Text) = parts at again
    cases again with
    | nil => rfl
    | @cons run =>
      have filled := run.length_parts_pos
      simp [(List.append_eq_nil_iff.1 none.symm).1] at filled
  | @cons run rest runs linked ends later ih =>
    generalize split : run.parts ++ rest = parts at again
    cases again with
    | nil =>
      have filled := run.length_parts_pos
      simp [(List.append_eq_nil_iff.1 split).1] at filled
    | cons linked' ends' later' =>
      obtain ⟨rfl, rfl⟩ := Run.unique split linked linked' ends ends'
      rw [ih later']

end Partition

namespace Line
variable {joined next : Text} {own number : Nat} {rest between : List Text}

section Gathering
variable (stripped : Text.trimEnd joined = joined)
include stripped

/-- A line that goes on is joined, and what comes next is joined to it. -/
theorem gather_goesOn (goesOn : next.trim.GoesOn) (number : Nat) (rest : List Text) :
    let after := joined ++ Word.spaced (Text.solid [next.trim.shortened])
    after.trimEnd = after ∧
      gather (some ⟨own, joined⟩) number (next :: rest) =
        gather (some ⟨own, after⟩) (number + 1) rest := by
  intro after
  have further : (joined ++ ' ' :: next.trim).GoesOn := (goesOn_joined _ _).2 goesOn
  have left : (joined ++ ' ' :: next.trim).shortened = after := by
    have split := joined.shortened_joined _ goesOn
    rwa [stripped] at split
  constructor
  · rw [← left, Text.shortened, Text.trimEnd_trimEnd]
  · rw [gather_cons]
    simp only [extend, isContinued_iff, if_pos further, cut_of_goesOn further, left]

theorem gather_between (goOn : ∀ part ∈ between, part.trim.GoesOn) (number : Nat)
    (rest : List Text) :
    let after := joined ++ Word.spaced (Text.solid (between.map fun part => part.trim.shortened))
    after.trimEnd = after ∧
      gather (some ⟨own, joined⟩) number (between ++ rest) =
        gather (some ⟨own, after⟩) (number + between.length) rest := by
  induction between generalizing joined number with
  | nil => simpa [Text.solid, Word.spaced] using stripped
  | cons next between ih =>
    obtain ⟨here, later⟩ := List.forall_mem_cons.1 goOn
    obtain ⟨stripped', first⟩ := gather_goesOn stripped here number (between ++ rest)
    obtain ⟨stripped'', others⟩ := ih stripped' later (number + 1)
    have size : number + (next :: between).length = number + 1 + between.length := by
      rw [List.length_cons]
      omega
    rw [List.map_cons, Text.solid_cons, Word.spaced_append, ← List.append_assoc]
    exact ⟨stripped'', by rw [List.cons_append, first, others, size]⟩

/-- The last line of a run ends the logical line, as does the end of the source. -/
theorem gather_ending {last : Text} (ends : last.trim.GoesOn → rest = []) (number : Nat) :
    gather (some ⟨own, joined⟩) number (last :: rest) =
      ⟨own, joined ++ Word.spaced (Run.ending last.trim)⟩ :: gather none (number + 1) rest := by
  by_cases goesOn : last.trim.GoesOn
  · obtain rfl := ends goesOn
    obtain ⟨_, last⟩ := gather_goesOn stripped goesOn number []
    rw [last, Run.ending, if_pos goesOn]
    rfl
  · have stops : ¬ (joined ++ ' ' :: last.trim).GoesOn := fun further =>
      goesOn ((goesOn_joined _ _).1 further)
    rw [gather_cons]
    simp [extend, isContinued_iff, stops, Run.ending, goesOn, Word.spaced]

end Gathering

/-- A run makes one line. What follows it is gathered by itself. -/
theorem gather_run {run : Run} (linked : run.Linked) (ends : run.Dangles → rest = [])
    (number : Nat) :
    gather none number (run.parts ++ rest) =
      ⟨number, run.text⟩ :: gather none (number + run.parts.length) rest := by
  cases run with
  | alone line =>
    rw [Run.parts, List.singleton_append, gather_cons]
    by_cases goesOn : line.GoesOn
    · obtain rfl := ends goesOn
      simp [extend, isContinued_iff, goesOn, cut_of_goesOn goesOn, Run.text]
    · simp [extend, isContinued_iff, goesOn, Run.text]
  | joined first between last =>
    obtain ⟨goesOn, goOn⟩ := linked
    have begun (more : List Text) : gather none number (first :: more) =
        gather (some ⟨number, first.shortened⟩) (number + 1) more := by
      simp [gather_cons, extend, isContinued_iff, goesOn, cut_of_goesOn goesOn]
    have stripped : Text.trimEnd first.shortened = first.shortened := Text.trimEnd_trimEnd _
    have size : number + (first :: (between ++ [last])).length =
        number + 1 + between.length + 1 := by
      simp only [List.length_cons, List.length_append, List.length_nil]
      omega
    obtain ⟨stripped', middle⟩ := gather_between stripped goOn (number + 1) (last :: rest)
    rw [Run.parts, List.cons_append, List.append_assoc, List.singleton_append, begun, middle,
      gather_ending stripped' ends, size, Run.text, Word.join_cons, Word.spaced_append,
      List.append_assoc]

theorem gather_partition {parts : List Text} {runs : List Run} (partition : Partition parts runs)
    (number : Nat) : gather none number parts = Run.lines number runs := by
  induction partition generalizing number with
  | nil => rfl
  | cons linked ends _ ih => rw [gather_run linked ends, ih, Run.lines]

/-- The physical lines of a source fall into runs in exactly one way, and each run is one logical
line. -/
theorem logical_of_runs (source : Text) :
    (∃! runs, Partition (physical source) runs) ∧
      ∀ runs, Partition (physical source) runs → logical source = Run.lines 1 runs := by
  obtain ⟨runs, partition⟩ := exists_partition (physical source)
  exact ⟨⟨runs, partition, fun _ again => again.unique partition⟩,
    fun _ partition => gather_partition partition 1⟩

/-- Lines with nothing but a backslash, escaped backslashes, an empty line that is joined, and one
that goes on at the end of the source. -/
theorem logical_of_runs_ragged :
    let source := "x \\\n \\\t\n y \\\\ \\ \n\nz\\\\\r\n\\ \n\\\n\\".toList
    let runs : List Run :=
      [.joined "x \\".toList [" \\\t".toList, " y \\\\ \\ ".toList] [],
        .alone "z\\\\".toList, .alone "\\ ".toList, .joined ['\\'] [] ['\\']]
    Partition (physical source) runs ∧ logical source = Run.lines 1 runs ∧
      Run.lines 1 runs =
        [⟨1, "x y \\\\ ".toList⟩, ⟨5, "z\\\\".toList⟩, ⟨6, "\\ ".toList⟩, ⟨7, []⟩] := by
  intro source runs
  have lines : physical source = runs.flatMap Run.parts := by decide
  have partition : Partition (physical source) runs := by
    rw [lines]
    refine .cons (by decide) (fun dangles => absurd dangles (by decide)) ?_
    refine .cons (by decide) (fun dangles => absurd dangles (by decide)) ?_
    refine .cons (by decide) (fun dangles => absurd dangles (by decide)) ?_
    exact .cons (by decide) (fun _ => rfl) .nil
  exact ⟨partition, (logical_of_runs source).2 runs partition, by decide⟩

section Starting
variable {source text : Text} {parts : List Text}

/-- The physical line with this number begins a logical line, so it is joined to none before it. -/
def Starts (source : Text) (number : Nat) : Prop := ∃ line ∈ logical source, line.number = number

instance (source : Text) (number : Nat) : Decidable (Starts source number) :=
  inferInstanceAs (Decidable (∃ line ∈ logical source, line.number = number))

theorem pendingAfter_concat (pending : Option Line) (number : Nat) (parts : List Text)
    (next : Text) :
    pendingAfter pending number (parts ++ [next]) =
      let line := extend (pendingAfter pending number parts) (number + parts.length) next
      if isContinued line.text then some ⟨line.number, cut line.text⟩ else none := by
  induction parts generalizing pending number with
  | nil => rfl
  | cons first parts ih =>
    have size : number + (first :: parts).length = number + 1 + parts.length := by
      rw [List.length_cons]
      omega
    rw [List.cons_append, pendingAfter, pendingAfter, size]
    split
    · exact ih _ _
    · exact ih _ _

theorem exists_first (number : Nat) (nonempty : parts ≠ []) :
    ∃ line ∈ gather none number parts, line.number = number := by
  obtain ⟨own, rest, line, rfl, named, alone, further⟩ :=
    gather_first none number parts fun _ => nonempty
  refine ⟨line, ?_, named⟩
  by_cases last : rest = []
  · simp [last, alone]
  · simp [further last]

/-- A physical line begins a logical line exactly if none goes on before it. -/
theorem starts_iff {count : Nat} (within : count < parts.length) (number : Nat) :
    (∃ line ∈ gather none number parts, line.number = number + count) ↔
      pendingAfter none number (parts.take count) = none := by
  have size : (parts.take count).length = count := List.length_take_of_le (Nat.le_of_lt within)
  constructor
  · rintro ⟨line, member, begins⟩
    rw [← List.take_append_drop count parts] at member
    exact pendingAfter_of_begins (by simp) member (by rw [size, begins])
  · intro ended
    have some : parts.drop count ≠ [] := by simpa using within
    obtain ⟨line, member, begins⟩ := exists_first (number + count) some
    rw [← List.take_append_drop count parts, gather_append ended, size]
    exact ⟨line, List.mem_append_right _ member, begins⟩

/-- Which lines are joined to the next one. The first line of a run is looked at as it stands, but
in a line that is itself joined to the one before, blanks behind the backslash do not count. -/
theorem joined_iff {place : Nat} (here : (physical source)[place]? = some text)
    (notLast : place + 1 < (physical source).length) :
    ¬ Starts source (place + 2) ↔
      text.GoesOn ∨ ¬ Starts source (place + 1) ∧ (Text.trimEnd text).GoesOn := by
  have starts {count : Nat} (within : count < (physical source).length) :
      Starts source (count + 1) ↔ pendingAfter none 1 ((physical source).take count) = none := by
    rw [← starts_iff within, Nat.add_comm 1]
    rfl
  have split : (physical source).take (place + 1) = (physical source).take place ++ [text] := by
    rw [List.take_add_one, here]
    rfl
  rw [starts notLast, starts (Nat.lt_of_succ_lt notLast), split, pendingAfter_concat]
  cases pendingAfter none 1 ((physical source).take place) with
  | none => simp [extend, isContinued_iff]
  | some first =>
    have trimmed : text.GoesOn → (Text.trimEnd text).GoesOn := fun goesOn =>
      isContinued_iff.1 (isContinued_trimEnd (isContinued_iff.2 goesOn))
    have same : text.trim.GoesOn ↔ (Text.trimEnd text).GoesOn := by
      rw [← isContinued_iff, ← isContinued_iff, isContinued_trim]
    simpa [extend, isContinued_iff, goesOn_joined, same] using trimmed

/-- The same blank behind a backslash, on a line that begins a logical line and on one that is
joined. -/
theorem joined_iff_blank :
    let source := "x \\ \na\\\nb \\ \nc\n".toList
    physical source = ["x \\ ".toList, "a\\".toList, "b \\ ".toList, ['c']] ∧
      Starts source 2 ∧ ¬ Starts source 4 := by
  intro source
  have lines : physical source =
      ["x \\ ".toList, "a\\".toList, "b \\ ".toList, ['c']] := by decide
  have first : ¬ Starts source (0 + 2) ↔ Text.GoesOn "x \\ ".toList ∨
      ¬ Starts source (0 + 1) ∧ (Text.trimEnd "x \\ ".toList).GoesOn :=
    joined_iff (by rw [lines]; rfl) (by rw [lines]; decide)
  have third : ¬ Starts source (2 + 2) ↔ Text.GoesOn "b \\ ".toList ∨
      ¬ Starts source (2 + 1) ∧ (Text.trimEnd "b \\ ".toList).GoesOn :=
    joined_iff (by rw [lines]; rfl) (by rw [lines]; decide)
  refine ⟨lines, ?_, third.2 (.inr ⟨by decide, by decide⟩)⟩
  by_contra inner
  rcases first.1 inner with goesOn | ⟨begun, _⟩
  · exact absurd goesOn (by decide)
  · exact begun (by decide)

/-- A line that does not end in a backslash is joined to the next one all the same, for there are
blanks at its end and it is itself joined to the line before. Here a rule gets into a comment. -/
theorem joined_behind_blank :
    let source := "# a \\\nb \\ \nall:\n".toList
    physical source = ["# a \\".toList, "b \\ ".toList, "all:".toList] ∧
      ¬ Text.GoesOn "b \\ ".toList ∧ ¬ Starts source 3 ∧
      logical source = [⟨1, "# a b all:".toList⟩] := by
  decide

end Starting

end Line

end BuildRules
