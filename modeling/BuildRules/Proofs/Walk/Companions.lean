import BuildRules.Proofs.Likeness
import BuildRules.Proofs.Walk.Record

/-! Two requests on registries that differ in the dates of targets. A request looks at a date only
to see whether it is after the start. When the dates that differ are on the same side of it, and the
hosts do the same at each step, the two requests are kept together: they end alike, what they show
is related, and at the end the registries still differ in dates alone. These are dates that differed
before, or readings that the two clocks have given during the requests. -/
namespace BuildRules
variable {σ τ : Type}

/-- The date is one of these readings of a clock. -/
def IsReading (times : List Time) (date : Option Time) : Prop := ∃ time ∈ times, date = some time

theorem IsReading.cons {times : List Time} {date : Option Time} (reading : IsReading times date)
    (time : Time) : IsReading (time :: times) date := by
  obtain ⟨earlier, member, same⟩ := reading
  exact ⟨earlier, List.mem_cons_of_mem _ member, same⟩

/-- The one date may stand for the other, or each is a reading of the clock on its own side. -/
def Restamped (free : Text → Option Time → Option Time → Prop) (times times' : List Time)
    (name : Text) (date date' : Option Time) : Prop :=
  free name date date' ∨ IsReading times date ∧ IsReading times' date'

namespace Walk

/-- What ties two requests to each other: which dates may stand for each other under a name, which
worlds are alike, and what is held of the events on the two sides. -/
structure Bond (σ τ : Type) where
  free : Text → Option Time → Option Time → Prop
  alike : σ → τ → Prop
  shows : List Event → List Event → Prop

/-- The steps of two requests keep the bond, where `origin` is the registry at the start. Of the
recipes only those matter that are met as `met` says. -/
structure Companions (first : Host σ) (second : Host τ) (options options' : Options)
    (started : Time) (origin : Registry) (bond : Bond σ τ) (met : Recipe → σ → Prop) : Prop where
  harmless : ∀ {name date date'}, bond.free name date date' →
    isNewer origin started name date = isNewer origin started name date'
  notice : ∀ {e e'}, bond.shows e e' →
    ∀ notice, bond.shows (e ++ [.notice notice]) (e' ++ [.notice notice])
  /-- Both hosts have a file under a name without a rule, or neither has one. -/
  files : ∀ {s t}, bond.alike s t → ∀ {name}, origin.target? name = none →
    origin.isPhony name = false →
      Option.Rel (fun time time' => bond.free name (some time) (some time'))
        (first.modified name s) (second.modified name t)
  clock : ∀ {s t}, bond.alike s t → bond.alike (first.now s).2 (second.now t).2
  recipe : ∀ {e e'} {s : Build σ} {t : Build τ}, bond.shows e e' → bond.alike s.world t.world →
    ∀ recipe, met recipe s.world →
      let done := runRecipe first options recipe s
      let other := runRecipe second options' recipe t
      done.answer = other.answer ∧ bond.shows (e ++ done.events) (e' ++ other.events) ∧
        bond.alike done.state.world other.state.world

/-- Two walks that are together. Dates that may not stand for each other are readings of the two
clocks, under names that need no further visit. -/
structure Together (origin : Registry) (bond : Bond σ τ) (finished : List Text)
    (e e' : List Event) (s : Build (σ × List Time)) (t : Build (τ × List Time)) : Prop where
  shown : bond.shows e e'
  worlds : bond.alike s.world.1 t.world.1
  phony : s.registry.phony = origin.phony
  /-- What has no target had none at the start. -/
  grown : ∀ name, s.registry.target? name = none → origin.target? name = none
  registries : s.registry.Like
    (fun name date date' => bond.free name date date' ∨
      name ∈ finished ∧ IsReading s.world.2 date ∧ IsReading t.world.2 date') t.registry

namespace Together
variable {origin : Registry} {bond : Bond σ τ} {finished : List Text} {e e' : List Event}
  {s : Build (σ × List Time)} {t : Build (τ × List Time)} {name : Text}

theorem more (together : Together origin bond finished e e' s t) {more more' : List Event}
    (shown : bond.shows more more') : Together origin bond finished more more' s t :=
  { together with shown }

theorem silent (together : Together origin bond finished e e' s t) :
    Together origin bond finished (e ++ []) (e' ++ []) s t := by
  simpa using together

theorem skip (together : Together origin bond finished e e' s t) (name : Text) :
    Together origin bond (name :: finished) e e' s t :=
  { together with
    registries := together.registries.mono fun _ _ _ different =>
      different.imp_right fun ⟨member, readings⟩ => ⟨List.mem_cons_of_mem _ member, readings⟩ }

theorem put (together : Together origin bond finished e e' s t) {target target' : Target}
    (like : target.Like (bond.free target.name) target') :
    Together origin bond finished e e' ⟨s.registry.put target, s.world⟩
      ⟨t.registry.put target', t.world⟩ :=
  { together with
    grown := fun name missing => by
      rw [Registry.target?_put] at missing
      split at missing
      · cases missing
      · exact together.grown name missing
    registries := together.registries.put (like.mono fun _ _ => .inl) }

theorem isNewer_eq {started : Time} (together : Together origin bond finished e e' s t)
    {date date' : Option Time}
    (harmless : isNewer origin started name date = isNewer origin started name date') :
    isNewer s.registry started name date = isNewer t.registry started name date' := by
  rw [isNewer_congr together.phony, harmless,
    isNewer_congr (together.registries.phony.symm.trans together.phony)]

/-- Both sides have completed a target, and its dates are readings of their clocks. -/
theorem complete (together : Together origin bond finished e e' s t) (name : Text)
    (time time' : Time) {u : σ} {v : τ} (worlds : bond.alike u v) :
    Together origin bond (name :: finished) e e'
      ⟨s.registry.stamp name time, u, time :: s.world.2⟩
      ⟨t.registry.stamp name time', v, time' :: t.world.2⟩ where
  shown := together.shown
  worlds := worlds
  phony := by rw [Registry.phony_stamp, together.phony]
  grown other missing := by
    rw [Registry.target?_stamp] at missing
    split at missing
    · next same =>
      subst same
      exact together.grown other (Option.map_eq_none_iff.1 missing)
    · exact together.grown other missing
  registries := by
    refine together.registries.stamp ?_ ?_
    · intro other date date' _ different
      refine different.imp_right fun ⟨member, reading, reading'⟩ => ?_
      exact ⟨List.mem_cons_of_mem _ member, reading.cons time, reading'.cons time'⟩
    · exact .inr ⟨List.mem_cons_self, ⟨time, List.mem_cons_self, rfl⟩,
        ⟨time', List.mem_cons_self, rfl⟩⟩

end Together

namespace Companions
variable {first : Host σ} {second : Host τ} {options options' : Options} {started : Time}
  {origin : Registry} {bond : Bond σ τ} {met : Recipe → σ → Prop}
  (companions : Companions first second options options' started origin bond met)
  {finished : List Text} {e e' : List Event} {s : Build (σ × List Time)}
  {t : Build (τ × List Time)}
include companions

theorem arrive (together : Together origin bond finished e e' s t) {name : Text}
    (unfinished : name ∉ finished) :
    Coupled (fun target target' e e' (s : Build (σ × List Time)) (t : Build (τ × List Time)) =>
        target.prerequisites = target'.prerequisites ∧ target.commands = target'.commands ∧
          isNewer s.registry started name target.timestamp =
            isNewer t.registry started name target'.timestamp ∧
          Together origin bond finished e e' s t)
      (Halted (Together origin bond)) (fun _ _ => False) e e'
      (Walk.arrive first.clocked name s) (Walk.arrive second.clocked name t) := by
  rcases together.registries.target_cases name with
    ⟨missing, missing'⟩ | ⟨target, target', present, present', like⟩
  · have phony := together.registries.isPhony_eq name
    have ordinary : s.registry.isPhony name = origin.isPhony name := by
      rw [Registry.isPhony, Registry.isPhony, together.phony]
    cases isPhony : s.registry.isPhony name with
    | true =>
      rw [arrive_unknown missing (.inl isPhony), arrive_unknown missing' (.inl (phony ▸ isPhony))]
      exact .error ⟨rfl, finished, together.silent⟩
    | false =>
      have files := companions.files together.worlds (together.grown name missing)
        (ordinary ▸ isPhony)
      generalize here : first.modified name s.world.1 = date,
        there : second.modified name t.world.1 = date' at files
      cases files with
      | none =>
        rw [arrive_unknown missing (.inr here), arrive_unknown missing' (.inr there)]
        exact .error ⟨rfl, finished, together.silent⟩
      | @some time time' free =>
        have found : Together origin bond finished (e ++ [.notice (.foundFile name)])
            (e' ++ [.notice (.foundFile name)])
            ⟨s.registry.put ⟨name, [], [], some time⟩, s.world⟩
            ⟨t.registry.put ⟨name, [], [], some time'⟩, t.world⟩ :=
          (together.more (companions.notice together.shown _)).put ⟨rfl, free⟩
        rw [arrive_found missing isPhony here, arrive_found missing' (phony ▸ isPhony) there]
        exact .ok ⟨rfl, rfl, found.isNewer_eq (companions.harmless free), found⟩
  · -- No reading of the clock is in the way, because the name has not been finished.
    have free : bond.free name target.timestamp target'.timestamp :=
      like.dates.resolve_right fun stamped => unfinished stamped.1
    rw [arrive_declared present, arrive_declared present']
    exact .ok ⟨like.prerequisites, like.commands,
      together.isNewer_eq (companions.harmless free), together.silent⟩

theorem runs (together : Together origin bond finished e e' s t) {recipe : Recipe}
    (meets : met recipe s.world.1) :
    Coupled (fun _ _ => Together origin bond finished) (Halted (Together origin bond))
      (fun _ _ => False) e e' (runRecipe first.clocked options recipe s)
      (runRecipe second.clocked options' recipe t) := by
  have both := companions.recipe (s := s.erase) (t := t.erase) together.shown together.worlds recipe
    meets
  have kept := registry_runRecipe first options recipe s.erase
  have kept' := registry_runRecipe second options' recipe t.erase
  rw [runRecipe_clocked, runRecipe_clocked]
  generalize runRecipe first options recipe s.erase = done at both kept
  generalize runRecipe second options' recipe t.erase = other at both kept'
  obtain ⟨answer, events, after⟩ := done
  obtain ⟨answer', events', after'⟩ := other
  obtain ⟨rfl, shown, worlds⟩ := both
  have last : Together origin bond finished (e ++ events) (e' ++ events')
      ⟨after.registry, after.world, s.world.2⟩ ⟨after'.registry, after'.world, t.world.2⟩ := by
    rw [kept, kept']
    exact { together with shown, worlds }
  cases answer with
  | ok _ => exact .ok last
  | error error => exact .error ⟨rfl, finished, last⟩

theorem guided :
    Guided first.clocked second.clocked options options' started (Together origin bond)
      (fun _ _ => False) (fun recipe s => met recipe s.1) where
  lasting none := none.elim
  notice together notice := together.more (companions.notice together.shown notice)
  arrive together _ unfinished := companions.arrive together unfinished
  recipe together _ meets := companions.runs together meets
  skip together name := together.skip name
  complete together name :=
    together.complete name _ _ (companions.clock together.worlds)

end Companions

/-- Two requests of companions come out alike. -/
theorem Companions.process {first : Host σ} {second : Host τ} {options options' : Options}
    {request : Text} {started : Time} {s : Build σ} {t : Build τ} {bond : Bond σ τ}
    {met : Recipe → σ → Prop}
    (companions : Companions first second options options' started s.registry bond met)
    (named : goal s.registry request = goal t.registry request)
    (meets : ∀ recipe world, MeetsFor first options request started s recipe world →
      met recipe world)
    (nothing : bond.shows [] []) (worlds : bond.alike s.world t.world)
    (registries : s.registry.Like bond.free t.registry) :
    let done := process first options request started s
    let other := Walk.process second options' request started t
    done.answer = other.answer ∧ bond.shows done.events other.events ∧
      bond.alike done.state.world other.state.world ∧
      done.state.registry.Like
        (Restamped bond.free (readings first options request started s)
          (readings second options' request started t)) other.state.registry := by
  have together : Together s.registry bond [] [] [] ⟨s.registry, s.world, []⟩
      ⟨t.registry, t.world, []⟩ :=
    ⟨nothing, worlds, rfl, fun _ missing => missing, registries.mono fun _ _ _ => .inl⟩
  have coupled := companions.guided.process named registries.size_eq
    (fun recipe world met => meets recipe world.1 met.erase) together
  have same := erases_process first options started request ⟨s.registry, s.world, []⟩
  have same' := erases_process second options' started request ⟨t.registry, t.world, []⟩
  change _ = Walk.process first options request started s at same
  change _ = Walk.process second options' request started t at same'
  rw [← same, ← same', readings, readings]
  generalize Walk.process first.clocked options request started _ = done at coupled
  generalize Walk.process second.clocked options' request started _ = other at coupled
  have last {finished : List Text} {e e' : List Event} {u : Build (σ × List Time)}
      {v : Build (τ × List Time)} (together : Together s.registry bond finished e e' u v) :
      u.registry.Like (Restamped bond.free u.world.2 v.world.2) v.registry :=
    together.registries.mono fun _ _ _ different => different.imp_right And.right
  cases coupled with
  | ok holds =>
    obtain ⟨_, together⟩ := holds
    exact ⟨rfl, together.shown, together.worlds, last together⟩
  | error holds =>
    obtain ⟨rfl, _, together⟩ := holds
    exact ⟨rfl, together.shown, together.worlds, last together⟩
  | apart none => exact none.elim

section Same
variable {first second : Host σ} {options : Options} {started : Time} {origin : Registry}
  {free : Text → Option Time → Option Time → Prop}

/-- Two requests that show the same and have the same world. -/
def Bond.same (σ : Type) (free : Text → Option Time → Option Time → Prop) : Bond σ σ where
  free := free
  alike := Eq
  shows := Eq

theorem runRecipe_same (run : second.run = first.run) (options : Options) (recipe : Recipe)
    {s t : Build σ} (worlds : s.world = t.world) :
    let done := runRecipe first options recipe s
    let other := runRecipe second options recipe t
    done.answer = other.answer ∧ done.events = other.events ∧
      done.state.world = other.state.world := by
  cases dry : options.dryRun with
  | true =>
    rw [runRecipe_dry dry, runRecipe_dry dry]
    exact ⟨rfl, rfl, worlds⟩
  | false =>
    rcases ran : first.run recipe.command false s.world with ⟨reply, after⟩
    have again : second.run recipe.command false t.world = (reply, after) := by
      rw [run, ← worlds, ran]
    rw [runRecipe_wet dry ran, runRecipe_wet dry again]
    exact ⟨rfl, rfl, rfl⟩

/-- Hosts that run commands in the same way and differ in their files are companions where the files
agree. -/
theorem companions_of_run (run : second.run = first.run)
    (clock : ∀ s, (second.now s).2 = (first.now s).2)
    (harmless : ∀ name date date', free name date date' →
      isNewer origin started name date = isNewer origin started name date')
    (files : ∀ s name, origin.target? name = none → origin.isPhony name = false →
      Option.Rel (fun time time' => free name (some time) (some time'))
        (first.modified name s) (second.modified name s)) :
    Companions first second options options started origin (.same σ free) fun _ _ => True where
  harmless freed := harmless _ _ _ freed
  notice := by
    rintro e _ rfl notice
    rfl
  files := by
    rintro s _ rfl name missing ordinary
    exact files s name missing ordinary
  clock := by
    rintro s _ rfl
    exact (clock s).symm
  recipe := by
    rintro e _ s t rfl worlds recipe _
    obtain ⟨answer, events, worlds⟩ := runRecipe_same run options recipe worlds
    exact ⟨answer, congrArg (e ++ ·) events, worlds⟩

theorem process_same {request : Text} {s t : Build σ}
    (companions : Companions first second options options started s.registry (.same σ free)
      fun _ _ => True)
    (named : goal s.registry request = goal t.registry request) (worlds : s.world = t.world)
    (like : s.registry.Like free t.registry) :
    let done := process first options request started s
    let other := process second options request started t
    done.answer = other.answer ∧ done.events = other.events ∧
      done.state.world = other.state.world := by
  obtain ⟨answer, events, worlds, _⟩ :=
    companions.process named (fun _ _ _ => trivial) rfl worlds like
  exact ⟨answer, events, worlds⟩

end Same

end Walk

end BuildRules
