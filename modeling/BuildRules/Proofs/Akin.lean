import BuildRules.Act

/-! Acts that only the log tells apart. They answer alike and leave the same state, and what else is
seen of them is the same. Acts on different texts can be as near to each other but for an error,
which quotes the text that it is about. -/
namespace BuildRules
variable {σ α β : Type}

namespace Event

def isNotice : Event → Bool
  | notice _ => true
  | _ => false

/-- What is seen apart from the log. -/
def effects (events : List Event) : List Event := events.filter fun event => !event.isNotice

@[simp] theorem effects_append (events rest : List Event) :
    effects (events ++ rest) = effects events ++ effects rest :=
  List.filter_append _ _

end Event

/-- Two acts that end in the same way. Nothing but the log tells them apart. -/
structure Outcome.Akin (done other : Outcome σ α) : Prop where
  answer : done.answer = other.answer
  effects : Event.effects done.events = Event.effects other.events
  state : done.state = other.state

namespace Outcome.Akin
variable {act act' : Act σ α} {next next' : α → Act σ β} {s : σ}

theorem refl (done : Outcome σ α) : done.Akin done := ⟨rfl, rfl, rfl⟩

theorem trans {done between other : Outcome σ α} (first : done.Akin between)
    (second : between.Akin other) : done.Akin other :=
  ⟨first.answer.trans second.answer, first.effects.trans second.effects,
    first.state.trans second.state⟩

theorem note (notice : Notice) (act : Act σ α) (s : σ) :
    ((Act.note notice >>= fun _ => act) s).Akin (act s) :=
  ⟨rfl, rfl, rfl⟩

/-- The same acts can follow. -/
theorem bind (akin : (act s).Akin (act' s)) : ((act >>= next) s).Akin ((act' >>= next) s) := by
  rcases ran : act s with ⟨error | a, events, t⟩ <;>
    rcases ran' : act' s with ⟨error' | a', events', t'⟩ <;> rw [ran, ran'] at akin <;>
    obtain ⟨answer, effects, state⟩ := akin <;> cases answer <;> cases state
  · rw [Act.bind_error ran, Act.bind_error ran']
    exact ⟨rfl, effects, rfl⟩
  · rw [Act.bind_ok ran, Act.bind_ok ran']
    exact ⟨rfl, by rw [Event.effects_append, Event.effects_append, effects], rfl⟩

theorem map (f : α → β) (akin : (act s).Akin (act' s)) :
    ((f <$> act) s).Akin ((f <$> act') s) := by
  rw [← bind_pure_comp, ← bind_pure_comp]
  exact akin.bind

/-- The same act can go before. -/
theorem after
    (akin : ∀ a events t, act s = ⟨.ok a, events, t⟩ → (next a t).Akin (next' a t)) :
    ((act >>= next) s).Akin ((act >>= next') s) := by
  rcases ran : act s with ⟨error | a, events, t⟩
  · rw [Act.bind_error ran, Act.bind_error ran]
    exact .refl _
  · obtain ⟨answer, effects, state⟩ := akin a events t ran
    rw [Act.bind_ok ran, Act.bind_ok ran]
    exact ⟨answer, by rw [Event.effects_append, Event.effects_append, effects], state⟩

end Outcome.Akin

/-- The error without the text that could not be expanded. -/
def Error.unquoted : Error → Error
  | unterminated _ => unterminated []
  | tooDeep _ => tooDeep []
  | error => error

/-- The answer, whatever text an error quotes as the one that could not be expanded. -/
def Outcome.verdict (done : Outcome σ α) : Except Error α := done.answer.mapError Error.unquoted

/-- Two acts that end in the same way. Nothing tells them apart but the log and the text that their
error quotes. -/
structure Outcome.Kindred (done other : Outcome σ α) : Prop where
  verdict : done.verdict = other.verdict
  effects : Event.effects done.events = Event.effects other.events
  state : done.state = other.state

theorem Outcome.Akin.kindred {done other : Outcome σ α} (akin : done.Akin other) :
    done.Kindred other :=
  ⟨congrArg (Except.mapError Error.unquoted) akin.answer, akin.effects, akin.state⟩

namespace Outcome.Kindred
variable {act act' : Act σ α} {next next' : α → Act σ β} {s : σ}

theorem refl (done : Outcome σ α) : done.Kindred done := ⟨rfl, rfl, rfl⟩

theorem symm {done other : Outcome σ α} (kindred : done.Kindred other) : other.Kindred done :=
  ⟨kindred.verdict.symm, kindred.effects.symm, kindred.state.symm⟩

theorem trans {done between other : Outcome σ α} (first : done.Kindred between)
    (second : between.Kindred other) : done.Kindred other :=
  ⟨first.verdict.trans second.verdict, first.effects.trans second.effects,
    first.state.trans second.state⟩

/-- Kindred acts can follow. -/
theorem bind (here : (act s).Kindred (act' s)) (later : ∀ a t, (next a t).Kindred (next' a t)) :
    ((act >>= next) s).Kindred ((act' >>= next') s) := by
  rcases ran : act s with ⟨error | a, events, t⟩ <;>
    rcases ran' : act' s with ⟨error' | a', events', t'⟩ <;> rw [ran, ran'] at here <;>
    obtain ⟨verdict, effects, state⟩ := here <;> cases state
  · rw [Act.bind_error ran, Act.bind_error ran']
    exact ⟨congrArg Except.error (Except.error.inj verdict), effects, rfl⟩
  · cases verdict
  · cases verdict
  · obtain rfl : a = a' := Except.ok.inj verdict
    obtain ⟨verdict, effects', state⟩ := later a t
    rw [Act.bind_ok ran, Act.bind_ok ran']
    exact ⟨verdict, by rw [Event.effects_append, Event.effects_append, effects, effects'], state⟩

theorem map (f : α → β) (here : (act s).Kindred (act' s)) :
    ((f <$> act) s).Kindred ((f <$> act') s) := by
  rw [← bind_pure_comp, ← bind_pure_comp]
  exact here.bind fun _ _ => .refl _

end Outcome.Kindred

end BuildRules
