import BuildRules.Proofs.BuildFile.Commands
import BuildRules.Proofs.Passes

/-! What one pass does. It goes through the references of the line from left to right, evaluates the
body of each, and puts the values in their places. The first body that fails ends the pass. -/
namespace BuildRules

namespace Segments

theorem isPlain_iff {segments : Segments} : segments.isPlain = true ↔ segments.parts = [] :=
  List.isEmpty_iff

/-- What stands in the references, from left to right. -/
def bodies (segments : Segments) : List Text := segments.parts.map fun part => part.2.body

/-- The line with values in the places of its references. -/
def filledBy (segments : Segments) (values : List Text) : Text :=
  (List.zipWith (fun part value => part.1 ++ value) segments.parts values).flatten ++
    segments.tail

end Segments

namespace Expansion
variable {σ : Type} {resolve : Text → Act σ Text}

/-- Bodies are evaluated one after the other, each once, until one fails. -/
inductive Evaluates (resolve : Text → Act σ Text) : List Text → σ → Outcome σ (List Text) → Prop
  | done (s : σ) : Evaluates resolve [] s ⟨.ok [], [], s⟩
  | next {body value : Text} {rest : List Text} {s t : σ} {events : List Event}
      {after : Outcome σ (List Text)} (valued : resolve body s = ⟨.ok value, events, t⟩)
      (later : Evaluates resolve rest t after) :
      Evaluates resolve (body :: rest) s
        ⟨after.answer.map (value :: ·), events ++ after.events, after.state⟩
  | broken {body : Text} {rest : List Text} {s t : σ} {error : Error} {events : List Event}
      (failed : resolve body s = ⟨.error error, events, t⟩) :
      Evaluates resolve (body :: rest) s ⟨.error error, events, t⟩

theorem Evaluates.unique {bodies : List Text} {s : σ} {first second : Outcome σ (List Text)}
    (evaluates : Evaluates resolve bodies s first) (again : Evaluates resolve bodies s second) :
    first = second := by
  induction evaluates generalizing second with
  | done _ =>
    cases again
    rfl
  | next valued _ ih =>
    cases again with
    | next valued' later =>
      cases valued.symm.trans valued'
      rw [ih later]
    | broken failed => cases valued.symm.trans failed
  | broken failed =>
    cases again with
    | next valued _ => cases failed.symm.trans valued
    | broken failed' =>
      cases failed.symm.trans failed'
      rfl

theorem substitute_evaluates (resolve : Text → Act σ Text) (segments : Segments) (s : σ) :
    ∃ evaluated, Evaluates resolve segments.bodies s evaluated ∧
      substitute resolve segments.tail segments.parts s =
        ⟨evaluated.answer.map segments.filledBy, evaluated.events, evaluated.state⟩ := by
  obtain ⟨parts, tail⟩ := segments
  induction parts generalizing s with
  | nil => exact ⟨_, .done s, rfl⟩
  | cons part rest ih =>
    rcases valued : resolve part.2.body s with ⟨error | value, events, t⟩
    · exact ⟨_, .broken valued, Act.bind_error valued⟩
    · obtain ⟨evaluated, later, same⟩ := ih t
      refine ⟨_, .next valued later, ?_⟩
      simp only at same ⊢
      rw [substitute, Act.bind_ok valued, Act.map_apply, same]
      rcases evaluated with ⟨error | values, events', u⟩
      · rfl
      · simp [Except.map, Segments.filledBy]

/-- A pass gives the line with its values, or nothing where there is no reference. -/
theorem pass_eq (resolve : Text → Act σ Text) (line : Text) :
    pass resolve line =
      (fun next => if (Segments.ofText line).parts = [] then none else some next) <$>
        substitute resolve (Segments.ofText line).tail (Segments.ofText line).parts := by
  rw [pass]
  by_cases plain : (Segments.ofText line).parts = []
  · rw [if_pos (Segments.isPlain_iff.2 plain), plain]
    rfl
  · rw [if_neg fun isPlain => plain (Segments.isPlain_iff.1 isPlain)]
    simp only [if_neg plain]

/-- A line falls into references and the text between them in exactly one way. A pass over it
evaluates the bodies in order, and fails with the first that fails. Otherwise the values take the
places of the references, where there are any. -/
theorem pass_of_line (line : Text) :
    (∃! segments, Segments.Falls line segments) ∧
    ∀ segments, Segments.Falls line segments → ∀ (resolve : Text → Act σ Text) (s : σ),
      let done := pass resolve line s
      (done.answer = .ok none ↔ segments.parts = []) ∧
      ∃ evaluated, Evaluates resolve segments.bodies s evaluated ∧
        (∀ other, Evaluates resolve segments.bodies s other → other = evaluated) ∧
        done = ⟨evaluated.answer.map fun values =>
          if segments.parts = [] then none else some (segments.filledBy values),
          evaluated.events, evaluated.state⟩ := by
  refine ⟨⟨_, Segments.falls_ofText line, fun _ falls => Segments.falls_iff.1 falls⟩, ?_⟩
  intro segments falls resolve s done
  obtain rfl := Segments.falls_iff.1 falls
  generalize parted : Segments.ofText line = segments at falls
  obtain ⟨evaluated, evaluates, same⟩ := substitute_evaluates resolve segments s
  have through : done = ⟨evaluated.answer.map fun values =>
      if segments.parts = [] then none else some (segments.filledBy values),
      evaluated.events, evaluated.state⟩ := by
    have run : done = _ := congrFun (pass_eq resolve line) s
    rw [run, parted, Act.map_apply, same]
    cases evaluated.answer <;> rfl
  refine ⟨?_, evaluated, evaluates, fun _ again => again.unique evaluates, through⟩
  rw [through]
  by_cases plain : segments.parts = []
  · rw [Segments.bodies, plain] at evaluates
    cases evaluates
    simp [plain, Except.map]
  · rw [iff_false_right plain]
    cases evaluated.answer <;> simp [plain, Except.map]

/-- Dollar signs in a row, bodies in each other, and parentheses that hold nothing or stay open. The
third body fails. -/
def tangled : Text := "$$X é$(A $(B))$(shell false) $()$(shell date) $($(Y".toList

theorem pass_of_line_tangled :
    let segments : Segments :=
      ⟨[("$".toList, .word "X".toList), (" é".toList, .group "A $(B)".toList),
        ([], .group "shell false".toList), (" $()".toList, .group "shell date".toList)],
        " $($(Y".toList⟩
    let resolve := bodyValue BuildFile.failingHost (.start (fun _ => none) false)
    Segments.Falls tangled segments ∧
      (∀ other, Segments.Falls tangled other → other = segments) ∧
      ∃ evaluated, Evaluates resolve segments.bodies 0 evaluated ∧
        Event.captured evaluated.events = ["false".toList] ∧
        (pass resolve tangled 0).answer = .error (.commandFailed "false".toList (some 1)) := by
  intro segments resolve
  have falls : Segments.Falls tangled segments := Segments.falls_iff.2 (by decide)
  obtain ⟨⟨_, _, only⟩, evaluation⟩ := pass_of_line tangled
  have captured : Event.captured (pass resolve tangled 0).events = ["false".toList] := by
    decide +kernel
  have answer : (pass resolve tangled 0).answer =
      .error (.commandFailed "false".toList (some 1)) := by decide +kernel
  obtain ⟨_, evaluated, evaluates, _, done⟩ := evaluation segments falls resolve 0
  rw [done] at captured
  exact ⟨falls, fun _ other => (only _ other).trans (only _ falls).symm, evaluated, evaluates,
    captured, answer⟩

end Expansion

end BuildRules
