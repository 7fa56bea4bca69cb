import BuildRules.Proofs.BuildFile.Commands
import BuildRules.Proofs.Expansion

/-! Values that cannot be seen. When the environment is asked first, a variable that is set there
hides what the build file assigns to its name, also when it is set to nothing. Otherwise what is
assigned hides the variable, and only the function `env` can still see it. To say which variables it
sees, an expansion is run with a record of the names that are asked for in this way. -/
namespace BuildRules

namespace Scope
variable {scope : Scope} {name : Text}

end Scope

namespace Expansion
variable {σ α β : Type}

/-- The names that a body asks `env` for: one if it is a call of `env`, else none. -/
def asked (body : Text) : List Text :=
  match Function.call? body with
  | some (.env, argument) => [Text.trim argument]
  | _ => []

/-- The value of a body. The names that it asks `env` for are put on record. -/
def recorded (host : Host σ) (scope : Scope) (body : Text) : Act (σ × List Text) Text := fun s =>
  let done := valueOf host scope body s.1
  ⟨done.answer, done.events, done.state, s.2 ++ asked body⟩

/-- An act with a record. Apart from the record it is another act, in each run in which all names
that are on record at the end are harmless. -/
structure Tracks (harmless : Text → Prop) (act : Act (σ × List Text) α) (other : Act σ α) :
    Prop where
  grows : ∀ s, s.2 <+: (act s).state.2
  same : ∀ s, (∀ name ∈ (act s).state.2, harmless name) →
    other s.1 = ⟨(act s).answer, (act s).events, (act s).state.1⟩

namespace Tracks
variable {harmless : Text → Prop}

/-- An act that records nothing. -/
theorem of_silent {act : Act (σ × List Text) α} {other : Act σ α}
    (silent : ∀ s, act s = ⟨(other s.1).answer, (other s.1).events, (other s.1).state, s.2⟩) :
    Tracks harmless act other where
  grows s := by
    have kept : (act s).state.2 = s.2 := by rw [silent]
    exact kept ▸ List.prefix_rfl
  same s _ := by rw [silent]

theorem fail (error : Error) :
    Tracks (σ := σ) (α := α) harmless (Act.fail error) (Act.fail error) :=
  of_silent fun _ => rfl

/-- The record of two acts in a row goes on from that of the first one, so what is harmless at the
end was harmless in between. -/
theorem bind {act : Act (σ × List Text) α} {other : Act σ α}
    {next : α → Act (σ × List Text) β} {next' : α → Act σ β} (here : Tracks harmless act other)
    (later : ∀ a, Tracks harmless (next a) (next' a)) :
    Tracks harmless (act >>= next) (other >>= next') where
  grows s := by
    have first := here.grows s
    rcases ran : act s with ⟨error | a, events, t⟩
    · rw [ran] at first
      rwa [Act.bind_error ran]
    · rw [ran] at first
      rw [Act.bind_ok ran]
      exact first.trans ((later a).grows t)
  same s := by
    intro safe
    have first := here.same s
    rcases ran : act s with ⟨error | a, events, t⟩
    · rw [Act.bind_error ran] at safe ⊢
      rw [ran] at first
      exact Act.bind_error (first safe)
    · rw [Act.bind_ok ran] at safe ⊢
      rw [ran] at first
      have between : ∀ name ∈ t.2, harmless name := fun name member =>
        safe name (((later a).grows t).subset member)
      rw [Act.bind_ok (first between), (later a).same t safe]

theorem congruence : Act.Congruence fun {_} (act : Act (σ × List Text) _) other =>
    Tracks harmless act other where
  pure _ := of_silent fun _ => rfl
  note _ := of_silent fun _ => rfl
  bind := bind

end Tracks

section Shadowed
variable {host : Host σ} {scope : Scope}

end Shadowed

/-- The two variables of the environment, and the two names that are assigned in both tables. -/
def outer (value : Text) : Environment := fun name =>
  if name = ['X'] then some value else if name = ['Y'] then some ['y'] else none

def table (value : Text) : Std.ExtTreeMap Text Text :=
  ((∅ : Std.ExtTreeMap Text Text).insert ['K'] ['X']).insert ['Y'] ['t'] |>.insert ['X'] value

end Expansion

end BuildRules
