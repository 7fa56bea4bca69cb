import BuildRules.BuildFile
import BuildRules.Proofs.Registry

/-! What one line can do to a reader that accepts it. A line is blank, a recipe of the open rule,
an assignment, a declaration of phony names, or the header of a rule; all but a recipe close the
open rule first. -/
namespace BuildRules.BuildFile
variable {σ : Type} {host : Host σ} {reader closed after : Reader} {line : Line} {s t : σ}
  {events : List Event}

/-- A line that can only be a recipe when a rule is open. -/
def isBody (line : Line) : Bool := isIndented line.text && !(Word.split line.text).isEmpty

/-- The header that a line is, wherever it stands. -/
def header? (line : Line) : Option Header :=
  if isIndented line.text || (Assignment.ofWords? (Word.split line.text)).isSome then none
  else Header.ofWords? (Word.split line.text)

/-- A rule with one recipe more. -/
def addRecipe (text : Text) (rule : Rule) : Rule :=
  { rule with recipes := rule.recipes ++ [Text.trim text] }

/-- The open rule is registered, if there is one. -/
inductive Closes (dates : Text → Option Time) (reader : Reader) : Reader → Prop
  | idle (idle : reader.block = none) : Closes dates reader reader
  | rule {rule : Rule} {registry : Registry} (isOpen : reader.block = some rule)
      (added : reader.registry.addRule dates rule = (registry, .ok ())) :
      Closes dates reader { reader with registry := registry, block := none }

/-- How a line is taken up. -/
inductive Takes (dates : Text → Option Time) (reader : Reader) (line : Line) : Reader → Prop
  | blank {closed : Reader} (wordless : Word.split line.text = [])
      (closes : Closes dates reader closed) : Takes dates reader line closed
  | recipe {rule : Rule} (isOpen : reader.block = some rule) (body : isBody line = true) :
      Takes dates reader line { reader with block := some (addRecipe line.text rule) }
  | assignment {closed : Reader} {assignment : Assignment}
      (outside : reader.block = none ∨ isBody line = false) (closes : Closes dates reader closed)
      (said : Assignment.ofWords? (Word.split line.text) = some assignment) :
      Takes dates reader line
        { closed with scope := closed.scope.assign assignment.name assignment.value }
  | phony {closed : Reader} {names : List Text} (closes : Closes dates reader closed)
      (said : header? line = some (.phony names)) (some : names ≠ []) :
      Takes dates reader line
        { closed with registry := names.foldl Registry.addPhony closed.registry }
  | rule {closed : Reader} {targets prerequisites : List Text}
      (closes : Closes dates reader closed)
      (said : header? line = some (.rule targets prerequisites)) :
      Takes dates reader line { closed with block := some ⟨targets, prerequisites, [], line⟩ }

theorem Closes.of_close (done : close host reader s = ⟨.ok closed, events, t⟩) :
    Closes (fun name => host.modified name s) reader closed ∧ t = s := by
  unfold close at done
  cases block : reader.block with
  | none =>
    simp only [block, Act.pure_eq_ok] at done
    obtain ⟨rfl, _, rfl⟩ := done
    exact ⟨.idle block, rfl⟩
  | some rule =>
    simp only [block] at done
    rw [Host.dates, Act.bind_look] at done
    rcases added : reader.registry.addRule (fun name => host.modified name s) rule
      with ⟨registry, result⟩
    simp only [added, Act.bind_eq_ok, Act.ofExcept_eq_ok, Act.pure_eq_ok] at done
    obtain ⟨_, _, _, _, ⟨rfl, _, rfl⟩, ⟨rfl, _, rfl⟩, _⟩ := done
    exact ⟨.rule block added, rfl⟩

theorem Takes.of_takeHeader {dates : Text → Option Time} (closes : Closes dates reader closed)
    (other : Assignment.ofWords? (Word.split line.text) = none)
    (done : takeHeader line (Word.split line.text) closed = .ok after) :
    Takes dates reader line after := by
  unfold takeHeader at done
  split at done
  · cases done
  · next outside =>
    have said : header? line = Header.ofWords? (Word.split line.text) := by
      simp [header?, outside, other]
    split at done
    · cases done
    · cases done
    · next names some isPhony =>
      cases done
      exact .phony closes (said.trans isPhony) fun none => some (none ▸ rfl)
    · next targets prerequisites isRule =>
      cases done
      exact .rule closes (said.trans isRule)

theorem Takes.of_takeStatement
    (closes : Closes (fun name => host.modified name s) reader closed)
    (outside : reader.block = none ∨ isBody line = false)
    (done : takeStatement line (Word.split line.text) closed s = ⟨.ok after, events, t⟩) :
    Takes (fun name => host.modified name s) reader line after ∧ t = s := by
  unfold takeStatement at done
  cases said : Assignment.ofWords? (Word.split line.text) with
  | some assignment =>
    simp only [said, Act.note, Act.emit, Act.bind_apply, Act.pure_apply] at done
    cases done
    exact ⟨.assignment outside closes said, rfl⟩
  | none =>
    simp only [said, Act.ofExcept_eq_ok] at done
    obtain ⟨taken, _, rfl⟩ := done
    exact ⟨.of_takeHeader closes said taken, rfl⟩

section Line
variable (host : Host σ) {words : List Text}

theorem takeLine_blank (wordless : words = []) :
    takeLine host line words reader = close host reader := by
  simp [takeLine, wordless]

theorem takeLine_recipe {rule : Rule} (worded : words ≠ []) (isOpen : reader.block = some rule)
    (indented : isIndented line.text = true) :
    takeLine host line words reader =
      pure { reader with block := some (addRecipe line.text rule) } := by
  simp [takeLine, worded, isOpen, indented, addRecipe]

theorem takeLine_outside (worded : words ≠ [])
    (outside : reader.block = none ∨ isIndented line.text = false) :
    takeLine host line words reader =
      (do takeStatement line words (← close host reader)) := by
  rcases outside with idle | unindented
  · simp [takeLine, worded, idle]
  · cases isOpen : reader.block <;> simp [takeLine, worded, isOpen, unindented]

/-- A line closes the open rule, is a recipe of it, or is taken for a statement once it is closed. -/
theorem takeLine_cases (host : Host σ) (line : Line) (words : List Text) (reader : Reader) :
    (words = [] ∧ takeLine host line words reader = close host reader) ∨
    (∃ rule, reader.block = some rule ∧ words ≠ [] ∧ isIndented line.text = true ∧
      takeLine host line words reader =
        pure { reader with block := some (addRecipe line.text rule) }) ∨
    ((reader.block = none ∨ isIndented line.text = false) ∧
      takeLine host line words reader =
        (do takeStatement line words (← close host reader))) := by
  by_cases wordless : words = []
  · exact .inl ⟨wordless, takeLine_blank host wordless⟩
  cases isOpen : reader.block with
  | none =>
    have outside : reader.block = none ∨ isIndented line.text = false := .inl isOpen
    exact .inr (.inr ⟨.inl rfl, takeLine_outside host wordless outside⟩)
  | some rule =>
    cases indented : isIndented line.text with
    | true =>
      have recipe := takeLine_recipe host wordless isOpen indented
      exact .inr (.inl ⟨rule, rfl, wordless, rfl, recipe⟩)
    | false =>
      have outside : reader.block = none ∨ isIndented line.text = false := .inr indented
      exact .inr (.inr ⟨.inr rfl, takeLine_outside host wordless outside⟩)

end Line

theorem Takes.of_takeLine
    (done : takeLine host line (Word.split line.text) reader s = ⟨.ok after, events, t⟩) :
    Takes (fun name => host.modified name s) reader line after ∧ t = s := by
  rcases takeLine_cases host line (Word.split line.text) reader with
    ⟨wordless, same⟩ | ⟨rule, isOpen, worded, indented, same⟩ | ⟨outside, same⟩
  · rw [same] at done
    obtain ⟨closes, rfl⟩ := Closes.of_close done
    exact ⟨.blank wordless closes, rfl⟩
  · rw [same, Act.pure_eq_ok] at done
    obtain ⟨rfl, _, rfl⟩ := done
    exact ⟨.recipe isOpen (by simp [isBody, indented, worded]), rfl⟩
  · rw [same, Act.bind_eq_ok] at done
    obtain ⟨closed, _, _, _, wasClosed, taken, _⟩ := done
    obtain ⟨closes, rfl⟩ := Closes.of_close wasClosed
    refine Takes.of_takeStatement closes (outside.imp_right fun unindented => ?_) taken
    simp [isBody, unindented]

/-- A line that has been expanded is taken up with its words. -/
theorem readLine_of_expand {text : Text}
    (expanded : Expansion.expand host reader.scope line.text s = ⟨.ok text, events, t⟩) :
    readLine host reader line s =
      let done := takeLine host ⟨line.number, text⟩ (Word.split text) reader t
      ⟨done.answer, events ++ .notice (.words line.number (Word.split text)) :: done.events,
        done.state⟩ := by
  rw [readLine, Act.bind_ok expanded, Act.bind_ok (Act.note_apply _ _)]
  rfl

/-- A line that is read was expanded in the scope of the reader, and the result was taken up. -/
theorem takes_of_readLine (done : readLine host reader line s = ⟨.ok after, events, t⟩) :
    ∃ text first, Expansion.expand host reader.scope line.text s = ⟨.ok text, first, t⟩ ∧
      Takes (fun name => host.modified name t) reader ⟨line.number, text⟩ after := by
  unfold readLine at done
  obtain ⟨text, first, u, rest, expanded, noted, _⟩ := Act.bind_eq_ok.1 done
  obtain ⟨_, _, _, _, ⟨⟩, taken, _⟩ := Act.bind_eq_ok.1 noted
  obtain ⟨takes, rfl⟩ := Takes.of_takeLine taken
  exact ⟨text, first, expanded, takes⟩

theorem readLines_append (reader : Reader) (lines rest : List Line) :
    readLines host reader (lines ++ rest) =
      (do readLines host (← readLines host reader lines) rest) := by
  induction lines generalizing reader with
  | nil => simp [readLines]
  | cons line lines ih => simp [readLines, ih]

end BuildRules.BuildFile
