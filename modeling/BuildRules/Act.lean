import BuildRules.Event

/-! Acts change a state, leave events behind, and end in an answer or an error. An error ends
the act, but the events and the changes made before it stay. -/
namespace BuildRules

structure Outcome (σ α : Type) where
  answer : Except Error α
  events : List Event
  state : σ

def Act (σ α : Type) : Type := σ → Outcome σ α

namespace Act
variable {σ τ α β : Type}

def pure (a : α) : Act σ α := fun s => ⟨.ok a, [], s⟩

def bind (act : Act σ α) (next : α → Act σ β) : Act σ β := fun s =>
  match act s with
  | ⟨.error e, events, t⟩ => ⟨.error e, events, t⟩
  | ⟨.ok a, events, t⟩ =>
    let rest := next a t
    ⟨rest.answer, events ++ rest.events, rest.state⟩

/-- Changes the answer alone. -/
def map (f : α → β) (act : Act σ α) : Act σ β := fun s =>
  let done := act s
  ⟨done.answer.map f, done.events, done.state⟩

instance : Monad (Act σ) where
  pure := pure
  bind := bind
  map := map

def fail (error : Error) : Act σ α := fun s => ⟨.error error, [], s⟩

def emit (event : Event) : Act σ Unit := fun s => ⟨.ok (), [event], s⟩

def note (notice : Notice) : Act σ Unit := emit (.notice notice)

/-- Looks at the state. -/
def look (view : σ → α) : Act σ α := fun s => ⟨.ok (view s), [], s⟩

def change (update : σ → σ) : Act σ Unit := fun s => ⟨.ok (), [], update s⟩

/-- Ends in the answer, or in the error. -/
def ofExcept : Except Error α → Act σ α
  | .ok a => pure a
  | .error e => fail e

/-- Turns the error of an act into an answer. -/
def attempt (act : Act σ α) : Act σ (Except Error α) := fun s =>
  let done := act s
  ⟨.ok done.answer, done.events, done.state⟩

/-- An act on a part of the state. -/
def onPart (part : τ → σ) (put : σ → τ → τ) (act : Act σ α) : Act τ α := fun t =>
  let done := act (part t)
  ⟨done.answer, done.events, put done.state t⟩

theorem pure_apply (a : α) (s : σ) : (Pure.pure a : Act σ α) s = ⟨.ok a, [], s⟩ := rfl

theorem note_apply (notice : Notice) (s : σ) : note notice s = ⟨.ok (), [.notice notice], s⟩ := rfl

theorem bind_apply (act : Act σ α) (next : α → Act σ β) (s : σ) :
    (act >>= next) s =
      match act s with
      | ⟨.error e, events, t⟩ => ⟨.error e, events, t⟩
      | ⟨.ok a, events, t⟩ => ⟨(next a t).answer, events ++ (next a t).events, (next a t).state⟩ :=
  rfl

theorem bind_ok {act : Act σ α} {next : α → Act σ β} {s t : σ} {a : α} {events : List Event}
    (h : act s = ⟨.ok a, events, t⟩) :
    (act >>= next) s = ⟨(next a t).answer, events ++ (next a t).events, (next a t).state⟩ := by
  rw [bind_apply, h]

theorem bind_error {act : Act σ α} {next : α → Act σ β} {s t : σ} {e : Error}
    {events : List Event} (h : act s = ⟨.error e, events, t⟩) :
    (act >>= next) s = ⟨.error e, events, t⟩ := by
  rw [bind_apply, h]

theorem bind_eq_ok {act : Act σ α} {next : α → Act σ β} {s u : σ} {b : β} {events : List Event} :
    (act >>= next) s = ⟨.ok b, events, u⟩ ↔
      ∃ a first t rest, act s = ⟨.ok a, first, t⟩ ∧ next a t = ⟨.ok b, rest, u⟩ ∧
        events = first ++ rest := by
  constructor
  · intro done
    rcases ran : act s with ⟨e | a, first, t⟩
    · rw [bind_error ran] at done
      cases done
    · rw [bind_ok ran] at done
      rcases after : next a t with ⟨answer, rest, v⟩
      rw [after] at done
      cases done
      exact ⟨a, first, t, rest, rfl, after, rfl⟩
  · rintro ⟨a, first, t, rest, ran, after, rfl⟩
    rw [bind_ok ran, after]

theorem pure_eq_ok {a b : α} {s t : σ} {events : List Event} :
    (Pure.pure a : Act σ α) s = ⟨.ok b, events, t⟩ ↔ a = b ∧ events = [] ∧ t = s := by
  rw [pure_apply, Outcome.mk.injEq, Except.ok.injEq, eq_comm (a := []), eq_comm (a := s)]

theorem ofExcept_eq_ok {result : Except Error α} {a : α} {s t : σ} {events : List Event} :
    ofExcept result s = ⟨.ok a, events, t⟩ ↔ result = .ok a ∧ events = [] ∧ t = s := by
  cases result with
  | error e => simp [ofExcept, fail]
  | ok b =>
    change (Pure.pure b : Act σ α) s = _ ↔ _
    rw [pure_eq_ok, Except.ok.injEq]

theorem bind_look (view : σ → α) (next : α → Act σ β) (s : σ) :
    (look view >>= next) s = next (view s) s := by
  simp [bind_apply, look]

theorem map_apply (f : α → β) (act : Act σ α) (s : σ) :
    (f <$> act) s = ⟨(act s).answer.map f, (act s).events, (act s).state⟩ := rfl

theorem bind_pure_eq_map (f : α → β) (act : Act σ α) :
    (act >>= fun a => Pure.pure (f a)) = f <$> act := by
  funext s
  rw [map_apply, bind_apply]
  rcases act s with ⟨_ | _, _, _⟩ <;> simp [Except.map, pure_apply]

instance : LawfulMonad (Act σ) :=
  LawfulMonad.mk' _
    (fun act => by
      funext s
      rw [map_apply]
      rcases act s with ⟨_ | _, _, _⟩ <;> rfl)
    (fun a next => by
      funext s
      simp [bind_apply, pure_apply])
    (fun act f g => by
      funext s
      simp only [bind_apply]
      rcases act s with ⟨_ | a, _, t⟩
      · rfl
      · simp only
        rcases f a t with ⟨_ | _, _, _⟩ <;> simp)
    (fun _ _ => rfl)
    (fun _ _ => rfl)
    (fun _ _ => rfl)
    bind_pure_eq_map
    (fun _ _ => rfl)

end Act

end BuildRules
