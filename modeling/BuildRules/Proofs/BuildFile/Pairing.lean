import BuildRules.Proofs.BuildFile.Steps
import BuildRules.Proofs.Expansion
import Mathlib.Data.List.Forall2

/-! Two readings side by side. They may have different hosts, and lines that differ in what a
reading does not look at. When a relation between acts is kept by putting them in a row, and readers
that are alike stay so by each way of taking up a line, it holds of the two readings. -/
namespace BuildRules
variable {σ τ : Type}

/-- A relation between acts, told by how their answers are related. It is kept by putting acts in a
row. -/
structure Act.Pairing
    (paired : {α β : Type} → (α → β → Prop) → Act σ α → Act τ β → Prop) : Prop where
  pure : ∀ {α β : Type} {related : α → β → Prop} {a : α} {b : β}, related a b →
    paired related (Pure.pure a) (Pure.pure b)
  note : ∀ notice, paired (· = ·) (Act.note notice) (Act.note notice)
  bind : ∀ {α β γ δ : Type} {related : α → β → Prop} {goal : γ → δ → Prop} {act : Act σ α}
    {other : Act τ β} {next : α → Act σ γ} {next' : β → Act τ δ}, paired related act other →
      (∀ a b, related a b → paired goal (next a) (next' b)) →
        paired goal (act >>= next) (other >>= next')

/-- Equal answers are those that expansions can pass on. -/
theorem Act.Pairing.congruence
    {paired : {α β : Type} → (α → β → Prop) → Act σ α → Act τ β → Prop}
    (pairing : Act.Pairing paired) : Act.Congruence fun {_} act other =>
      paired (· = ·) act other where
  pure _ := pairing.pure rfl
  note := pairing.note
  bind here later := pairing.bind here fun a _ same => same ▸ later a

namespace BuildFile

/-- Two hosts under which lines that are the same are read alike: whatever a line does to two readers
that are alike, they are alike behind it. The lines have one text, but may differ in their numbers. -/
structure Paired (first : Host σ) (second : Host τ)
    (paired : {α β : Type} → (α → β → Prop) → Act σ α → Act τ β → Prop)
    (alike : Reader → Reader → Prop) (same : Line → Line → Prop) : Prop where
  pairing : Act.Pairing paired
  text : ∀ {line line'}, same line line' → line.text = line'.text
  expanded : ∀ {line line'} text, same line line' → same ⟨line.number, text⟩ ⟨line'.number, text⟩
  words : ∀ {line line'} words, same line line' →
    paired (· = ·) (.note (.words line.number words)) (.note (.words line'.number words))
  refuse : ∀ {line line'} fault text, same line line' →
    paired alike (.fail (.badLine fault line.number text))
      (.fail (.badLine fault line'.number text))
  expand : ∀ scope text, paired (· = ·) (Expansion.expand first scope text)
    (Expansion.expand second scope text)
  scope : ∀ {reader reader'}, alike reader reader' → reader.scope = reader'.scope
  /-- No rule is open on either side, or one on each, and they stay alike with a recipe more. -/
  block : ∀ {reader reader'}, alike reader reader' →
    reader.block = none ∧ reader'.block = none ∨
      ∃ rule rule', reader.block = some rule ∧ reader'.block = some rule' ∧
        ∀ text, alike { reader with block := some (addRecipe text rule) }
          { reader' with block := some (addRecipe text rule') }
  close : ∀ {reader reader'}, alike reader reader' →
    paired alike (BuildFile.close first reader) (BuildFile.close second reader')
  assign : ∀ {reader reader'} scope, alike reader reader' →
    alike { reader with scope := scope } { reader' with scope := scope }
  declare : ∀ {reader reader'} (names : List Text), alike reader reader' →
    alike { reader with registry := names.foldl Registry.addPhony reader.registry }
      { reader' with registry := names.foldl Registry.addPhony reader'.registry }
  header : ∀ {reader reader' line line'} targets prerequisites, alike reader reader' →
    same line line' → alike { reader with block := some ⟨targets, prerequisites, [], line⟩ }
      { reader' with block := some ⟨targets, prerequisites, [], line'⟩ }

namespace Paired
variable {first : Host σ} {second : Host τ}
  {paired : {α β : Type} → (α → β → Prop) → Act σ α → Act τ β → Prop}
  {alike : Reader → Reader → Prop} {same : Line → Line → Prop} {reader reader' : Reader}
  {line line' : Line} (readings : Paired first second paired alike same)
include readings

theorem takeStatement (sameLine : same line line') (words : List Text)
    (likeReader : alike reader reader') :
    paired alike (BuildFile.takeStatement line words reader)
      (BuildFile.takeStatement line' words reader') := by
  rw [BuildFile.takeStatement, BuildFile.takeStatement, ← readings.scope likeReader]
  split
  · exact readings.pairing.bind (readings.pairing.note _) fun _ _ _ =>
      readings.pairing.pure (readings.assign _ likeReader)
  · rw [takeHeader, takeHeader, ← readings.text sameLine]
    split
    · exact readings.refuse _ _ sameLine
    · split
      · exact readings.refuse _ _ sameLine
      · exact readings.refuse _ _ sameLine
      · exact readings.pairing.pure (readings.declare _ likeReader)
      · exact readings.pairing.pure (readings.header _ _ likeReader sameLine)

theorem takeLine (sameLine : same line line') (words : List Text)
    (likeReader : alike reader reader') :
    paired alike (BuildFile.takeLine first line words reader)
      (BuildFile.takeLine second line' words reader') := by
  have outside : paired alike (BuildFile.close first reader >>= BuildFile.takeStatement line words)
      (BuildFile.close second reader' >>= BuildFile.takeStatement line' words) :=
    readings.pairing.bind (readings.close likeReader) fun _ _ closed =>
      readings.takeStatement sameLine words closed
  by_cases wordless : words = []
  · rw [takeLine_blank first wordless, takeLine_blank second wordless]
    exact readings.close likeReader
  rcases readings.block likeReader with ⟨idle, idle'⟩ | ⟨rule, rule', isOpen, isOpen', recipe⟩
  · rw [takeLine_outside first wordless (.inl idle), takeLine_outside second wordless (.inl idle')]
    exact outside
  cases indented : isIndented line.text with
  | true =>
    have indented' : isIndented line'.text = true := readings.text sameLine ▸ indented
    rw [takeLine_recipe first wordless isOpen indented,
      takeLine_recipe second wordless isOpen' indented', ← readings.text sameLine]
    exact readings.pairing.pure (recipe line.text)
  | false =>
    have unindented' : isIndented line'.text = false := readings.text sameLine ▸ indented
    rw [takeLine_outside first wordless (.inr indented),
      takeLine_outside second wordless (.inr unindented')]
    exact outside

theorem readLine (sameLine : same line line') (likeReader : alike reader reader') :
    paired alike (BuildFile.readLine first reader line)
      (BuildFile.readLine second reader' line') := by
  rw [BuildFile.readLine, BuildFile.readLine, ← readings.scope likeReader,
    ← readings.text sameLine]
  refine readings.pairing.bind (readings.expand _ _) fun text _ equal => ?_
  subst equal
  exact readings.pairing.bind (readings.words _ sameLine) fun _ _ _ =>
    readings.takeLine (readings.expanded text sameLine) _ likeReader

theorem readLines {lines lines' : List Line} (sameLines : List.Forall₂ same lines lines')
    (likeReader : alike reader reader') :
    paired alike (BuildFile.readLines first reader lines)
      (BuildFile.readLines second reader' lines') := by
  induction sameLines generalizing reader reader' with
  | nil => exact readings.pairing.pure likeReader
  | cons sameLine _ ih =>
    exact readings.pairing.bind (readings.readLine sameLine likeReader) fun _ _ after => ih after

theorem parse {options : Options} {environment : Environment} {source source' : Text}
    {goal : Registry → Registry → Prop}
    (sameLines : List.Forall₂ same (Line.logical source) (Line.logical source'))
    (started : alike (start options environment) (start options environment))
    (registries : ∀ reader reader', alike reader reader' → goal reader.registry reader'.registry) :
    paired goal (BuildFile.parse first options environment source)
      (BuildFile.parse second options environment source') :=
  readings.pairing.bind (readings.readLines sameLines started) fun _ _ last =>
    readings.pairing.bind (readings.close last) fun _ _ closed =>
      readings.pairing.pure (registries _ _ closed)

end Paired

end BuildFile

end BuildRules
