import BuildRules.Act

/-! Two acts side by side. They go together as long as what holds of the events and the states on
both sides is kept, up to an answer or an error on both sides. They may also part; what is known
at that point has to be such that no later event can undo it. -/
namespace BuildRules
variable {σ τ α β γ δ : Type}

/-- What can be said of two sides, by the events so far and the states. -/
abbrev Sides (σ τ : Type) := List Event → List Event → σ → τ → Prop

/-- How two acts end that began after the events `seen` and `seen'`. -/
inductive Coupled (post : α → β → Sides σ τ) (fails : Error → Error → Sides σ τ)
    (parted : List Event → List Event → Prop) (seen seen' : List Event) :
    Outcome σ α → Outcome τ β → Prop
  | ok {a : α} {b : β} {events events' : List Event} {s : σ} {t : τ}
      (holds : post a b (seen ++ events) (seen' ++ events') s t) :
      Coupled post fails parted seen seen' ⟨.ok a, events, s⟩ ⟨.ok b, events', t⟩
  | error {e e' : Error} {events events' : List Event} {s : σ} {t : τ}
      (holds : fails e e' (seen ++ events) (seen' ++ events') s t) :
      Coupled post fails parted seen seen' ⟨.error e, events, s⟩ ⟨.error e', events', t⟩
  | apart {first : Outcome σ α} {second : Outcome τ β}
      (holds : parted (seen ++ first.events) (seen' ++ second.events)) :
      Coupled post fails parted seen seen' first second

namespace Coupled
variable {post : α → β → Sides σ τ} {fails : Error → Error → Sides σ τ}
  {parted : List Event → List Event → Prop} {seen seen' : List Event}

theorem pure {a : α} {b : β} {s : σ} {t : τ} (holds : post a b seen seen' s t) :
    Coupled post fails parted seen seen' ((Pure.pure a : Act σ α) s)
      ((Pure.pure b : Act τ β) t) := by
  refine .ok ?_
  simpa using holds

/-- Acts that go together can be followed by acts that go together from there on. What follows may
depend on how the first act went. -/
theorem bind_ran {goal : γ → δ → Sides σ τ} {act : Act σ α} {other : Act τ β} {s : σ} {t : τ}
    (lasting : ∀ {a b : List Event}, parted a b → ∀ c d, parted (a ++ c) (b ++ d))
    (coupled : Coupled post fails parted seen seen' (act s) (other t))
    {next : α → Act σ γ} {next' : β → Act τ δ}
    (rest : ∀ {a b events u e e' v}, act s = ⟨.ok a, events, u⟩ → post a b e e' u v →
      Coupled goal fails parted e e' (next a u) (next' b v)) :
    Coupled goal fails parted seen seen' ((act >>= next) s) ((other >>= next') t) := by
  rw [Act.bind_apply, Act.bind_apply]
  generalize ran : act s = done at coupled
  generalize other t = done' at coupled
  cases coupled with
  | error holds => exact .error holds
  | @ok a b _ _ s' t' holds =>
    have after := rest ran holds
    simp only
    generalize next a s' = last, next' b t' = last' at after
    cases after with
    | ok holds => exact .ok (by simpa using holds)
    | error holds => exact .error (by simpa using holds)
    | apart holds => exact .apart (by simpa using holds)
  | apart holds =>
    -- Whatever follows on either side only adds events.
    refine .apart ?_
    rcases done with ⟨e | a, events, s'⟩ <;> rcases done' with ⟨e' | b, events', t'⟩
    · simpa using lasting holds [] []
    · simpa using lasting holds [] (next' b t').events
    · simpa using lasting holds (next a s').events []
    · simpa using lasting holds (next a s').events (next' b t').events

theorem bind {goal : γ → δ → Sides σ τ} {act : Act σ α} {other : Act τ β} {s : σ} {t : τ}
    (lasting : ∀ {a b : List Event}, parted a b → ∀ c d, parted (a ++ c) (b ++ d))
    (coupled : Coupled post fails parted seen seen' (act s) (other t))
    {next : α → Act σ γ} {next' : β → Act τ δ}
    (rest : ∀ {a b e e' s t}, post a b e e' s t →
      Coupled goal fails parted e e' (next a s) (next' b t)) :
    Coupled goal fails parted seen seen' ((act >>= next) s) ((other >>= next') t) :=
  coupled.bind_ran lasting fun _ holds => rest holds

end Coupled

/-- Both sides have seen the same and are in the same state. -/
def Abreast (related : α → β → Prop) : α → β → Sides σ σ :=
  fun a b e e' s t => related a b ∧ e = e' ∧ s = t

/-- Two acts that do the same and fail with the same error. Their answers are related. -/
def Matches (related : α → β → Prop) (act : Act σ α) (other : Act σ β) : Prop :=
  ∀ e s, Coupled (Abreast related) (Abreast Eq) (fun _ _ => False) e e (act s) (other s)

namespace Matches
variable {related : α → β → Prop} {goal : γ → δ → Prop}

theorem refl (act : Act σ α) : Matches Eq act act := by
  intro e s
  rcases act s with ⟨error | a, events, t⟩
  · exact .error ⟨rfl, rfl, rfl⟩
  · exact .ok ⟨rfl, rfl, rfl⟩

theorem pure {a : α} {b : β} (holds : related a b) :
    Matches (σ := σ) related (Pure.pure a) (Pure.pure b) :=
  fun _ _ => .pure ⟨holds, rfl, rfl⟩

theorem fail (error : Error) : Matches (σ := σ) related (Act.fail error) (Act.fail error) :=
  fun _ _ => .error ⟨rfl, rfl, rfl⟩

theorem bind {act : Act σ α} {other : Act σ β} {next : α → Act σ γ} {next' : β → Act σ δ}
    (here : Matches related act other)
    (later : ∀ a b, related a b → Matches goal (next a) (next' b)) :
    Matches goal (act >>= next) (other >>= next') := by
  intro e s
  refine (here e s).bind (fun none => none.elim) ?_
  rintro a b e _ s _ ⟨holds, rfl, rfl⟩
  exact later a b holds e s

/-- Both acts fail in the same way, or both have an answer. -/
theorem cases {act : Act σ α} {other : Act σ β} (here : Matches related act other) (s : σ) :
    (∃ error events t, act s = ⟨.error error, events, t⟩ ∧ other s = ⟨.error error, events, t⟩) ∨
      ∃ a b events t, act s = ⟨.ok a, events, t⟩ ∧ other s = ⟨.ok b, events, t⟩ ∧
        related a b := by
  have coupled := here [] s
  generalize act s = done, other s = done' at coupled ⊢
  cases coupled with
  | ok holds =>
    obtain ⟨holds, same, rfl⟩ := holds
    cases same
    exact .inr ⟨_, _, _, _, rfl, rfl, holds⟩
  | error holds =>
    obtain ⟨rfl, same, rfl⟩ := holds
    cases same
    exact .inl ⟨_, _, _, rfl, rfl⟩
  | apart none => exact none.elim

end Matches

end BuildRules
