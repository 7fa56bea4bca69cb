import BuildRules.Proofs.Walk.Lockstep
import BuildRules.Proofs.Walk.Order
import Mathlib.Data.List.Infix

/-! One request put to two hosts that give the same answers for some number of runs. What is seen
of the two walks is the same at least as far as the run after these, whatever the answers are
from there on. -/
namespace BuildRules
variable {σ τ : Type}

namespace Event

def isRun : Event → Bool
  | run _ _ => true
  | _ => false

/-- How many commands were run. -/
def runs (events : List Event) : Nat := events.countP isRun

@[simp] theorem runs_nil : runs [] = 0 := rfl

@[simp] theorem runs_cons (event : Event) (rest : List Event) :
    runs (event :: rest) = runs rest + if event.isRun then 1 else 0 :=
  List.countP_cons

@[simp] theorem runs_append (first rest : List Event) :
    runs (first ++ rest) = runs first + runs rest :=
  List.countP_append

theorem runs_actions (events : List Event) : runs (actions events) = runs events := by
  induction events with
  | nil => rfl
  | cons event rest ih => cases event <;> simp [isAction, isRun, ih]

end Event

@[simp] theorem Recipe.runs_echoes (options : Options) (recipe : Recipe) :
    Event.runs (recipe.echoes options) = 0 := by
  unfold echoes
  split <;> rfl

@[simp] theorem Walk.runs_reaction (options : Options) (recipe : Recipe)
    (result : Except Failure Text) : Event.runs (reaction options recipe result).2 = 0 := by
  rw [← Event.runs_actions, actions_reaction]
  rfl

/-- The answers of two hosts are the same in worlds that are alike, where a number says for how
many runs. -/
structure Host.Agrees (first : Host σ) (second : Host τ) (alike : Nat → σ → τ → Prop) : Prop where
  dates : ∀ {runs s t}, alike runs s t → ∀ name, first.modified name s = second.modified name t
  clock : ∀ {runs s t}, alike runs s t → alike runs (first.now s).2 (second.now t).2
  answers : ∀ {runs s t}, alike (runs + 1) s t → ∀ line,
    (first.run line false s).1.result = (second.run line false t).1.result ∧
      alike runs (first.run line false s).2 (second.run line false t).2

/-- From these worlds on the answers are the same, for that many runs. -/
def Host.AgreesFor (first : Host σ) (second : Host τ) (runs : Nat) (s : σ) (t : τ) : Prop :=
  ∃ alike, first.Agrees second alike ∧ alike runs s t

theorem Host.agrees_agreesFor (first : Host σ) (second : Host τ) :
    first.Agrees second (first.AgreesFor second) where
  dates := fun ⟨_, agrees, holds⟩ => agrees.dates holds
  clock := fun ⟨alike, agrees, holds⟩ => ⟨alike, agrees, agrees.clock holds⟩
  answers := fun ⟨alike, agrees, holds⟩ line =>
    ⟨(agrees.answers holds line).1, alike, agrees, (agrees.answers holds line).2⟩

namespace Walk
variable {first : Host σ} {second : Host τ} {options : Options} {started : Time} {total : Nat}
  {finished : List Text} {e e' : List Event} {s : Build σ} {t : Build τ}

/-- Two walks have shown the same so far, and the answers are still the same until there are
`total` runs. The registries differ at most in what is finished. -/
structure Agreeing (first : Host σ) (second : Host τ) (total : Nat) (finished : List Text)
    (e e' : List Event) (s : Build σ) (t : Build τ) : Prop where
  seen : Event.actions e = Event.actions e'
  ahead : ∃ left, left + Event.runs e = total ∧ first.AgreesFor second left s.world t.world
  phony : s.registry.phony = t.registry.phony
  targets : ∀ name, name ∉ finished → s.registry.target? name = t.registry.target? name

/-- Two walks have shown the same for more than `total` runs. -/
def Parted (total : Nat) (e e' : List Event) : Prop :=
  ∃ common, common <+: Event.actions e ∧ common <+: Event.actions e' ∧ total < Event.runs common

namespace Agreeing

theorem more (agreeing : Agreeing first second total finished e e' s t) {events : List Event}
    (silent : Event.runs events = 0) :
    Agreeing first second total finished (e ++ events) (e' ++ events) s t :=
  { agreeing with
    seen := by rw [Event.actions_append, Event.actions_append, agreeing.seen]
    ahead := by simpa [silent] using agreeing.ahead }

theorem isNewer_eq (agreeing : Agreeing first second total finished e e' s t) (name : Text)
    (date : Option Time) :
    isNewer s.registry started name date = isNewer t.registry started name date := by
  rw [isNewer, isNewer, Registry.isPhony, Registry.isPhony, agreeing.phony]

theorem put (agreeing : Agreeing first second total finished e e' s t) (target : Target) :
    Agreeing first second total finished e e' ⟨s.registry.put target, s.world⟩
      ⟨t.registry.put target, t.world⟩ :=
  { agreeing with
    targets := fun name unfinished => by
      rw [Registry.target?_put, Registry.target?_put, agreeing.targets name unfinished] }

theorem arrive (agreeing : Agreeing first second total finished e e' s t) {name : Text}
    (unfinished : name ∉ finished) :
    Coupled (fun target target' e e' (s : Build σ) (t : Build τ) =>
        target.prerequisites = target'.prerequisites ∧ target.commands = target'.commands ∧
          isNewer s.registry started name target.timestamp =
            isNewer t.registry started name target'.timestamp ∧
          Agreeing first second total finished e e' s t)
      (Halted (Agreeing first second total)) (Parted total) e e'
      (Walk.arrive first name s) (Walk.arrive second name t) := by
  have silent : Agreeing first second total finished (e ++ []) (e' ++ []) s t := agreeing.more rfl
  have phony : s.registry.isPhony name = t.registry.isPhony name := by
    rw [Registry.isPhony, Registry.isPhony, agreeing.phony]
  obtain ⟨left, _, agrees⟩ := agreeing.ahead
  have dates := (first.agrees_agreesFor second).dates agrees name
  rcases arrive_both (agreeing.targets name unfinished) phony dates with
    ⟨target, here, there⟩ | ⟨here, there⟩ | ⟨time, here, there⟩
  · rw [here, there]
    exact .ok ⟨rfl, rfl, agreeing.isNewer_eq name _, silent⟩
  · rw [here, there]
    exact .error ⟨rfl, finished, silent⟩
  · rw [here, there]
    exact .ok ⟨rfl, rfl, (agreeing.put _).isNewer_eq name _, (agreeing.put _).more rfl⟩

/-- Both sides have run a command, and have one run less ahead. -/
theorem ran (agreeing : Agreeing first second total finished e e' s t) {left : Nat}
    {events events' : List Event} {u : σ} {v : τ} (count : left + 1 + Event.runs e = total)
    (same : Event.actions events = Event.actions events') (one : Event.runs events = 1)
    (after : first.AgreesFor second left u v) :
    Agreeing first second total finished (e ++ events) (e' ++ events') ⟨s.registry, u⟩
      ⟨t.registry, v⟩ where
  seen := by rw [Event.actions_append, Event.actions_append, agreeing.seen, same]
  ahead := ⟨left, by rw [Event.runs_append, one]; omega, after⟩
  phony := agreeing.phony
  targets := agreeing.targets

theorem recipe (agreeing : Agreeing first second total finished e e' s t) (recipe : Recipe) :
    Coupled (fun _ _ => Agreeing first second total finished)
      (Halted (Agreeing first second total)) (Parted total) e e'
      (runRecipe first options recipe s) (runRecipe second options recipe t) := by
  cases dry : options.dryRun with
  | true =>
    rw [runRecipe_dry dry, runRecipe_dry dry]
    exact .ok (agreeing.more (by simp [Event.isRun]))
  | false =>
    obtain ⟨left, count, agrees⟩ := agreeing.ahead
    cases left with
    | zero =>
      -- Both sides have come to the run at which the answers may differ.
      refine .apart ⟨Event.actions e ++ recipe.actions options, ?_, ?_, ?_⟩
      · rw [Event.actions_append, actions_runRecipe]
      · rw [Event.actions_append, actions_runRecipe, agreeing.seen]
      · have one : Event.runs (recipe.actions options) = 1 := by
          simp [Recipe.actions, Event.isRun, dry]
        rw [Event.runs_append, Event.runs_actions]
        omega
    | succ left =>
      obtain ⟨same, after⟩ := (first.agrees_agreesFor second).answers agrees recipe.command
      rw [runRecipe_wet dry rfl, runRecipe_wet dry rfl, ← same]
      cases (reaction options recipe (first.run recipe.command false s.world).1.result).1 with
      | ok =>
        exact .ok (agreeing.ran count (by simp [Event.isAction]) (by simp [Event.isRun]) after)
      | error error =>
        exact .error ⟨rfl, finished,
          agreeing.ran count (by simp [Event.isAction]) (by simp [Event.isRun]) after⟩

theorem complete (agreeing : Agreeing first second total finished e e' s t) (name : Text) :
    Agreeing first second total (name :: finished) e e'
      ⟨s.registry.stamp name (first.now s.world).1, (first.now s.world).2⟩
      ⟨t.registry.stamp name (second.now t.world).1, (second.now t.world).2⟩ where
  seen := agreeing.seen
  ahead := by
    obtain ⟨left, count, agrees⟩ := agreeing.ahead
    exact ⟨left, count, (first.agrees_agreesFor second).clock agrees⟩
  phony := by rw [Registry.phony_stamp, Registry.phony_stamp, agreeing.phony]
  targets other unfinished := by
    rw [List.mem_cons, not_or] at unfinished
    obtain ⟨different, unfinished⟩ := unfinished
    rw [Registry.target?_stamp, Registry.target?_stamp, if_neg different, if_neg different,
      agreeing.targets other unfinished]

theorem skip (agreeing : Agreeing first second total finished e e' s t) (name : Text) :
    Agreeing first second total (name :: finished) e e' s t :=
  { agreeing with
    targets := fun other unfinished =>
      agreeing.targets other fun earlier => unfinished (List.mem_cons_of_mem _ earlier) }

end Agreeing

theorem lockstep_agreeing (first : Host σ) (second : Host τ) (options : Options) (started : Time)
    (total : Nat) :
    Lockstep first second options options started (Agreeing first second total)
      (Parted total) where
  lasting := by
    rintro e e' ⟨common, here, there, longer⟩ more more'
    refine ⟨common, ?_, ?_, longer⟩
    · exact here.trans (by simp)
    · exact there.trans (by simp)
  notice agreeing _ := agreeing.more rfl
  arrive agreeing _ unfinished := agreeing.arrive unfinished
  recipe agreeing recipe := agreeing.recipe recipe
  skip agreeing name := agreeing.skip name
  complete agreeing name := agreeing.complete name

/-- What is seen of a walk that breaks off at a run is the beginning of what is seen with a host
that answers alike before this run. -/
theorem actions_prefix_of_agreesFor {setting : Setting σ} {world : τ} {request : Text}
    {error : Error} {shown : List Event} {command : Text} {before : Nat}
    (failed : (setting.outcome request).answer = .error error)
    (last : Event.actions (setting.outcome request).events = shown ++ [.run command false])
    (count : Event.runs (setting.outcome request).events = before + 1)
    (agrees : setting.host.AgreesFor second before setting.world world) :
    Event.actions (setting.outcome request).events <+:
      Event.actions (process second setting.options request setting.started
        ⟨setting.registry, world⟩).events := by
  have coupled : Coupled _ _ (Parted before) [] [] (setting.outcome request)
      (process second setting.options request setting.started ⟨setting.registry, world⟩) :=
    (lockstep_agreeing setting.host second setting.options setting.started before).process rfl rfl
      ⟨rfl, ⟨before, rfl, agrees⟩, rfl, fun _ _ => rfl⟩
  generalize setting.outcome request = done at *
  generalize process second setting.options request setting.started _ = other at *
  cases coupled with
  | ok => cases failed
  | error holds =>
    obtain ⟨_, _, agreeing⟩ := holds
    rw [List.nil_append, List.nil_append] at agreeing
    rw [agreeing.seen]
  | apart holds =>
    obtain ⟨common, here, there, longer⟩ := holds
    rw [List.nil_append] at here there
    -- What is common has all the runs, and the last event is a run.
    rcases List.prefix_concat_iff.1 (last ▸ here) with whole | short
    · rwa [last, ← whole]
    · have fewer : Event.runs common ≤ Event.runs shown := short.sublist.countP_le
      have all : Event.runs shown + 1 = before + 1 := by
        rw [← count, ← Event.runs_actions done.events, last, Event.runs_append]
        rfl
      omega

end Walk

end BuildRules
