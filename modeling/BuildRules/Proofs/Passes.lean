import BuildRules.Proofs.Akin
import BuildRules.Proofs.BuildFile.Reading
import BuildRules.Proofs.Expansion

/-! How many passes a line may take. Expansion makes passes until one replaces nothing, and that
one is counted with the others. So of a hundred passes ninety-nine may replace something: a line
that needs them all is given up, also when no reference is left in it. -/
namespace BuildRules

namespace Expansion
variable {σ : Type} {resolve : Text → Act σ Text} {line text : Text} {s : σ}

/-- The value of the body of a reference in a line. -/
def bodyValue (host : Host σ) (scope : Scope) (body : Text) : Act σ Text := do
  valueOf host scope (← expandWithin host scope 65535 (Text.trim body))

theorem expand_eq (host : Host σ) (scope : Scope) (line : Text) :
    expand host scope line = settle (bodyValue host scope) line 100 line := rfl

/-- So many passes, each over what the one before has left. A pass that replaces nothing leaves the
text as it is. -/
def passes (resolve : Text → Act σ Text) : Nat → Text → Act σ Text
  | 0, text => pure text
  | n + 1, text => do passes resolve n ((← pass resolve text).getD text)

theorem passes_inert (resolve : Text → Act σ Text) (inert : text.Inert) (n : Nat) :
    passes resolve n text = pure text := by
  induction n with
  | zero => rfl
  | succ n ih => rw [passes, pass_inert resolve inert, pure_bind, Option.getD_none, ih]

/-- The last of the passes goes over what the others have left. -/
theorem passes_succ (resolve : Text → Act σ Text) (n : Nat) (text : Text) :
    passes resolve (n + 1) text =
      passes resolve n text >>= fun before => (·.getD before) <$> pass resolve before := by
  induction n generalizing text with
  | zero => simp only [passes, pure_bind, bind_pure_comp]
  | succ n ih =>
    rw [passes, passes, bind_assoc]
    exact congrArg _ (funext fun next => ih (next.getD text))

/-- The text, if one more pass replaces nothing in it. -/
def finished (resolve : Text → Act σ Text) (line text : Text) : Act σ Text := do
  match ← pass resolve text with
  | some _ => .fail (.unterminated line)
  | none => pure text

theorem finished_inert (resolve : Text → Act σ Text) (line : Text) (inert : text.Inert) :
    finished resolve line text = pure text := by
  rw [finished, pass_inert resolve inert, pure_bind]

/-- A text that has settled is the answer. The log tells whether it is the line itself. -/
theorem answer_akin (line text : Text) (s : σ) :
    ((do
      unless text == line do Act.note (.expanded line text)
      pure text : Act σ Text) s).Akin ((pure text : Act σ Text) s) := by
  by_cases unchanged : (text == line) = true <;> simp only [unchanged] <;> exact ⟨rfl, rfl, rfl⟩

/-- What is around a text in each pass is around what it settles to. The line is only quoted when the
text does not settle. -/
theorem settle_framed (frame : Text → Text)
    (each : ∀ text, pass resolve (frame text) = Option.map frame <$> pass resolve text)
    (line line' : Text) (n : Nat) (text : Text) (s : σ) :
    (settle resolve line n (frame text) s).Kindred ((frame <$> settle resolve line' n text) s) := by
  induction n generalizing text s with
  | zero => exact ⟨rfl, rfl, rfl⟩
  | succ n ih =>
    have noted : (Act.note (.beforeExpand (frame text)) s).Kindred
        (Act.note (.beforeExpand text) s) := ⟨rfl, rfl, rfl⟩
    rw [settle, settle, each, map_bind]
    refine noted.bind fun _ t => ?_
    rw [map_bind, bind_map_left]
    refine (Outcome.Kindred.refl _).bind fun next u => ?_
    cases next with
    | some next => exact ih next u
    | none =>
      exact (answer_akin line (frame text) u).kindred.trans
        ((answer_akin line' text u).kindred.map frame).symm

theorem kindred_settle (resolve : Text → Act σ Text) (line line' : Text) (n : Nat) (text : Text)
    (s : σ) : (settle resolve line n text s).Kindred (settle resolve line' n text s) := by
  have each (text : Text) : pass resolve (id text) = Option.map id <$> pass resolve text := by simp
  have framed := settle_framed id each line line' n text s
  rwa [id_map] at framed

/-- A line settles within `n + 1` passes when it is finished after `n` of them. -/
theorem settle_akin (resolve : Text → Act σ Text) (line : Text) (n : Nat) (text : Text) (s : σ) :
    (settle resolve line (n + 1) text s).Akin
      ((passes resolve n text >>= finished resolve line) s) := by
  induction n generalizing text s with
  | zero =>
    refine (Outcome.Akin.note _ _ s).trans ?_
    rw [passes, pure_bind]
    refine .after fun next _ u _ => ?_
    cases next with
    | some next => exact .refl _
    | none => exact answer_akin line text u
  | succ n ih =>
    refine (Outcome.Akin.note _ _ s).trans ?_
    rw [passes, bind_assoc]
    refine .after fun next _ u passed => ?_
    cases next with
    | some next => exact ih next u
    | none =>
      have inert : text.Inert := inert_of_pass passed
      rw [Option.getD_none, passes_inert resolve inert, pure_bind,
        finished_inert resolve line inert]
      exact answer_akin line text u

/-- What the last pass decides. It settles the line by replacing nothing. -/
theorem finished_of_pass {before : Text} {next : Option Text} {events : List Event} {u : σ}
    (line : Text) (passed : pass resolve before s = ⟨.ok next, events, u⟩) :
    finished resolve line before s =
      ⟨if next.isSome then .error (.unterminated line) else .ok before, events, u⟩ := by
  rw [finished, Act.bind_ok passed]
  cases next with
  | some next => simp [Act.fail]
  | none => simp [Act.pure_apply]

/-- A line within a bound of passes goes as far as that many passes go, and with all that they do.
What fails in one of them fails the line. Otherwise all but the last decide. -/
theorem settle_of_passes (resolve : Text → Act σ Text) (line : Text) (n : Nat) (text : Text)
    (s : σ) :
    let done := settle resolve line (n + 1) text s
    let passed m := passes resolve m text s
    Event.effects done.events = Event.effects (passed (n + 1)).events ∧
    done.state = (passed (n + 1)).state ∧
    (∀ error, (passed (n + 1)).answer = .error error → done.answer = .error error) ∧
    ∀ last, (passed (n + 1)).answer = .ok last → ∃ before, (passed n).answer = .ok before ∧
      (before.Inert → before = last ∧ done.answer = .ok last) ∧
      (¬ before.Inert → done.answer = .error (.unterminated line)) := by
  intro done passed
  obtain ⟨answer, effects, state⟩ := settle_akin resolve line n text s
  rw [show done.answer = _ from answer, show Event.effects done.events = _ from effects,
    show done.state = _ from state, show passed (n + 1) = _ from congrFun (passes_succ ..) s]
  rcases ran : passes resolve n text s with ⟨error | before, first, t⟩
  · rw [Act.bind_error ran, Act.bind_error ran]
    exact ⟨rfl, rfl, fun _ same => same, fun last found => by cases found⟩
  · rw [Act.bind_ok ran, Act.bind_ok ran, Act.map_apply]
    rcases replaced : pass resolve before t with ⟨error | next, rest, u⟩
    · rw [finished, Act.bind_error replaced]
      exact ⟨rfl, rfl, fun _ same => same, fun last found => by cases found⟩
    · have here : (passed n).answer = .ok before := congrArg Outcome.answer ran
      rw [finished_of_pass line replaced]
      refine ⟨rfl, rfl, fun error failed => ?_, fun last found => ?_⟩
      · cases failed
      cases found
      refine ⟨before, here, fun inert => ?_, fun armed => ?_⟩
      · rw [pass_inert resolve inert] at replaced
        cases replaced
        exact ⟨rfl, rfl⟩
      · cases next with
        | some next => rfl
        | none => exact absurd (inert_of_pass replaced) armed

/-- Of a hundred passes the first ninety-nine decide, unless one of the hundred fails. If they leave
no reference, what they leave is the answer. If they leave one, the line is given up, whatever the
last pass makes of it. -/
theorem expand_of_passes (host : Host σ) (scope : Scope) (line : Text) (s : σ) :
    let done := expand host scope line s
    let passed n := passes (bodyValue host scope) n line s
    Event.effects done.events = Event.effects (passed 100).events ∧
    done.state = (passed 100).state ∧
    (∀ error, (passed 100).answer = .error error → done.answer = .error error) ∧
    ∀ last, (passed 100).answer = .ok last → ∃ before, (passed 99).answer = .ok before ∧
      (before.Inert → before = last ∧ done.answer = .ok last) ∧
      (¬ before.Inert → done.answer = .error (.unterminated line)) :=
  settle_of_passes (bodyValue host scope) line 99 line s

/-- The numeral after one of two digits. -/
def following : Text → Text
  | [tens, '9'] => [Char.ofNat (tens.toNat + 1), '0']
  | [tens, ones] => [tens, Char.ofNat (ones.toNat + 1)]
  | other => other

/-- In the environment each numeral below `99` refers to the next one. -/
def ladder : Scope :=
  .start (fun name =>
    some (if name = "99".toList then ['z'] else "$(".toList ++ following name ++ [')'])) false

theorem expand_of_passes_ladder :
    let line := "$(00)".toList
    let passed n := passes (bodyValue BuildFile.emptyHost ladder) n line ()
    (passed 99).answer = .ok "$(99)".toList ∧ (passed 100).answer = .ok ['z'] ∧
      (expand BuildFile.emptyHost ladder line ()).answer = .error (.unterminated line) := by
  intro line passed
  have earlier : (passed 99).answer = .ok "$(99)".toList := by decide +kernel
  have last : (passed 100).answer = .ok ['z'] := by decide +kernel
  obtain ⟨_, _, _, decides⟩ := expand_of_passes BuildFile.emptyHost ladder line ()
  obtain ⟨before, found, _, left⟩ := decides ['z'] last
  cases earlier.symm.trans found
  have armed : ¬ Text.Inert "$(99)".toList := by
    rw [← Segments.isPlain_ofText_iff]
    decide
  exact ⟨earlier, last, left armed⟩

/-- A line that is given up though the hundredth pass has replaced its last reference. -/
theorem ladder_given_up :
    let line := "$(00)".toList
    (passes (bodyValue BuildFile.emptyHost ladder) 100 line ()).answer = .ok ['z'] ∧
      Text.Inert ['z'] ∧
      (expand BuildFile.emptyHost ladder line ()).answer = .error (.unterminated line) := by
  refine ⟨?_, .of_no_dollar (by decide), ?_⟩
  all_goals decide +kernel

end Expansion

end BuildRules
