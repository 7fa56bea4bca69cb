import BuildRules.Proofs.Walk.Depth
import Mathlib.Data.Finset.Card
import Mathlib.Data.Finset.Dedup

/-! The recursion of a walk, said without a limit on its depth. It comes to an end on every graph of
prerequisites, because the names in progress are distinct and all of them are mentioned in the
registry. The files that are registered on the way mention no others. -/
namespace BuildRules
variable {σ : Type}

namespace Event

/-- The targets that are entered. The log names each right before its prerequisites are gone
through. -/
def entered (events : List Event) : List Text :=
  events.filterMap fun event =>
    match event with
    | .notice (.target name) => some name
    | _ => none

@[simp] theorem entered_nil : entered [] = [] := rfl

@[simp] theorem entered_append (first rest : List Event) :
    entered (first ++ rest) = entered first ++ entered rest :=
  List.filterMap_append

end Event

/-- The registered names and their prerequisites. -/
def Registry.mentioned (registry : Registry) : List Text :=
  registry.targets.toList.flatMap fun (name, target) => name :: target.prerequisites

theorem Registry.mem_mentioned {registry : Registry} {name other : Text} {target : Target}
    (present : registry.target? name = some target)
    (member : other ∈ name :: target.prerequisites) :
    other ∈ registry.mentioned := by
  have entry : (name, target) ∈ registry.targets.toList :=
    Std.ExtTreeMap.mem_toList_iff_getElem?_eq_some.2 present
  exact List.mem_flatMap.2 ⟨(name, target), entry, member⟩

/-- The targets of the registry need no names but these. -/
def Registry.Within (registry : Registry) (names : Finset Text) : Prop :=
  ∀ name target, registry.target? name = some target →
    ∀ needed ∈ target.prerequisites, needed ∈ names

namespace Walk

/-- What a walk has to do: to visit a name, or names in order. -/
inductive Task
  | one (name : Text)
  | all (names : List Text)

def Task.names : Task → List Text
  | one name => [name]
  | all names => names

/-- A task ends after so many levels of visits in each other, and this comes of it. -/
inductive Ends (host : Host σ) (options : Options) (started : Time) :
    Nat → List Text → List Text → Task → Build σ → Outcome (Build σ) (List Text) → Prop
  | cycle {opened finished : List Text} {name : Text} {build : Build σ} (isOpen : name ∈ opened) :
      Ends host options started 1 opened finished (.one name) build
        ⟨.error (.cycle (chain opened name)), [], build⟩
  | again {opened finished : List Text} {name : Text} {build : Build σ} (closed : name ∉ opened)
      (isFinished : name ∈ finished) :
      Ends host options started 1 opened finished (.one name) build
        ⟨.ok finished, [.notice (.nothingToDo name)], build⟩
  | unknown {opened finished : List Text} {name : Text} {build between : Build σ} {error : Error}
      {events : List Event} (closed : name ∉ opened) (unfinished : name ∉ finished)
      (arrived : arrive host name build = ⟨.error error, events, between⟩) :
      Ends host options started 1 opened finished (.one name) build
        ⟨.error error, events, between⟩
  | newer {opened finished : List Text} {name : Text} {target : Target} {build between : Build σ}
      {events : List Event} (closed : name ∉ opened) (unfinished : name ∉ finished)
      (arrived : arrive host name build = ⟨.ok target, events, between⟩)
      (newer : isNewer between.registry started name target.timestamp = true) :
      Ends host options started 1 opened finished (.one name) build
        ⟨.ok (name :: finished), events ++ [.notice (.nothingToDo name)], between⟩
  | broken {levels : Nat} {opened finished : List Text} {name : Text} {target : Target}
      {build between after : Build σ} {events inner : List Event} {error : Error}
      (closed : name ∉ opened) (unfinished : name ∉ finished)
      (arrived : arrive host name build = ⟨.ok target, events, between⟩)
      (older : isNewer between.registry started name target.timestamp = false)
      (below : Ends host options started levels (name :: opened) finished
        (.all target.prerequisites) between ⟨.error error, inner, after⟩) :
      Ends host options started (levels + 1) opened finished (.one name) build
        ⟨.error error, events ++ (introduction name target ++ inner), after⟩
  | failed {levels : Nat} {opened finished walked : List Text} {name : Text} {target : Target}
      {build between after last : Build σ} {events inner more : List Event} {error : Error}
      (closed : name ∉ opened) (unfinished : name ∉ finished)
      (arrived : arrive host name build = ⟨.ok target, events, between⟩)
      (older : isNewer between.registry started name target.timestamp = false)
      (below : Ends host options started levels (name :: opened) finished
        (.all target.prerequisites) between ⟨.ok walked, inner, after⟩)
      (ran : runRecipes host options target.commands after = ⟨.error error, more, last⟩) :
      Ends host options started (levels + 1) opened finished (.one name) build
        ⟨.error error, events ++ (introduction name target ++ inner ++ more), last⟩
  | built {levels : Nat} {opened finished walked : List Text} {name : Text} {target : Target}
      {build between after last : Build σ} {events inner more : List Event}
      (closed : name ∉ opened) (unfinished : name ∉ finished)
      (arrived : arrive host name build = ⟨.ok target, events, between⟩)
      (older : isNewer between.registry started name target.timestamp = false)
      (below : Ends host options started levels (name :: opened) finished
        (.all target.prerequisites) between ⟨.ok walked, inner, after⟩)
      (ran : runRecipes host options target.commands after = ⟨.ok (), more, last⟩) :
      Ends host options started (levels + 1) opened finished (.one name) build
        ⟨.ok (name :: walked), events ++ (introduction name target ++ inner ++ more),
          ⟨last.registry.stamp name (host.now last.world).1, (host.now last.world).2⟩⟩
  | nil {opened finished : List Text} {build : Build σ} :
      Ends host options started 0 opened finished (.all []) build ⟨.ok finished, [], build⟩
  | halt {levels : Nat} {opened finished rest : List Text} {name : Text} {build between : Build σ}
      {error : Error} {events : List Event}
      (first : Ends host options started levels opened finished (.one name) build
        ⟨.error error, events, between⟩) :
      Ends host options started levels opened finished (.all (name :: rest)) build
        ⟨.error error, events, between⟩
  | next {levels others : Nat} {opened finished walked rest : List Text} {name : Text}
      {build between : Build σ} {events : List Event} {done : Outcome (Build σ) (List Text)}
      (first : Ends host options started levels opened finished (.one name) build
        ⟨.ok walked, events, between⟩)
      (later : Ends host options started others opened walked (.all rest) between done) :
      Ends host options started (max levels others) opened finished (.all (name :: rest)) build
        ⟨done.answer, events ++ done.events, done.state⟩

variable {host : Host σ} {options : Options} {started : Time} {levels depth : Nat}
  {opened finished : List Text} {task : Task} {name : Text} {target : Target}
  {build between : Build σ} {done : Outcome (Build σ) (List Text)} {known : Finset Text}
  {events : List Event}

/-- The task as the walk does it that is limited to a depth. -/
def Task.act (host : Host σ) (options : Options) (started : Time) (depth : Nat)
    (opened finished : List Text) : Task → Act (Build σ) (List Text)
  | one name => visit host options started depth opened finished name
  | all names => inOrder (visit host options started depth opened) finished names

/-- What ends is what the walk does at every depth that has room for the levels. -/
theorem Ends.act_eq (ends : Ends host options started levels opened finished task build done)
    (room : levels ≤ depth) :
    task.act host options started depth opened finished build = done := by
  induction ends generalizing depth with
  | cycle isOpen => exact visit_cycle isOpen
  | again closed isFinished => exact visit_finished closed isFinished
  | unknown closed unfinished arrived =>
    obtain ⟨depth, rfl⟩ := Nat.exists_eq_add_of_le' room
    exact visit_unknown closed unfinished arrived
  | newer closed unfinished arrived newer =>
    obtain ⟨depth, rfl⟩ := Nat.exists_eq_add_of_le' room
    exact visit_newer closed unfinished arrived newer
  | broken closed unfinished arrived older _ ih =>
    obtain ⟨depth, rfl⟩ := Nat.exists_eq_add_of_le' (Nat.le_of_add_left_le room)
    have inner := ih (Nat.le_of_succ_le_succ room)
    refine (visit_entered closed unfinished arrived older).trans ?_
    simp only [enter_broken inner]
  | failed closed unfinished arrived older _ ran ih =>
    obtain ⟨depth, rfl⟩ := Nat.exists_eq_add_of_le' (Nat.le_of_add_left_le room)
    have inner := ih (Nat.le_of_succ_le_succ room)
    refine (visit_entered closed unfinished arrived older).trans ?_
    simp only [enter_failed inner ran]
  | built closed unfinished arrived older _ ran ih =>
    obtain ⟨depth, rfl⟩ := Nat.exists_eq_add_of_le' (Nat.le_of_add_left_le room)
    have inner := ih (Nat.le_of_succ_le_succ room)
    refine (visit_entered closed unfinished arrived older).trans ?_
    simp only [enter_ok inner ran]
  | nil => rfl
  | halt _ ih =>
    have here := ih room
    exact Act.bind_error here
  | next _ _ ih later =>
    have here := ih (Nat.le_trans (Nat.le_max_left _ _) room)
    have after : inOrder (visit host options started depth _) _ _ _ = _ :=
      later (Nat.le_trans (Nat.le_max_right _ _) room)
    refine (Act.bind_ok here).trans ?_
    rw [after]

theorem arrive_outcome (host : Host σ) (name : Text) (build : Build σ) :
    (∃ target, build.registry.target? name = some target ∧
      arrive host name build = ⟨.ok target, [], build⟩) ∨
    arrive host name build = ⟨.error (.unknownTarget name), [], build⟩ ∨
    ∃ time, arrive host name build = ⟨.ok ⟨name, [], [], some time⟩, [.notice (.foundFile name)],
      ⟨build.registry.put ⟨name, [], [], some time⟩, build.world⟩⟩ := by
  cases present : build.registry.target? name with
  | some target => exact .inl ⟨target, rfl, arrive_declared present⟩
  | none =>
    by_cases dateless : build.registry.isPhony name = true ∨
        host.modified name build.world = none
    · exact .inr (.inl (arrive_unknown present dateless))
    · obtain ⟨ordinary, dated⟩ := not_or.1 dateless
      obtain ⟨time, dated⟩ := Option.ne_none_iff_exists'.1 dated
      exact .inr (.inr ⟨time, arrive_found present (Bool.eq_false_iff.2 ordinary) dated⟩)

section Silent

theorem entered_arrive (host : Host σ) (name : Text) (build : Build σ) :
    Event.entered (arrive host name build).events = [] := by
  rcases arrive_outcome host name build with ⟨_, _, arrived⟩ | arrived | ⟨_, arrived⟩ <;>
    · rw [arrived]
      rfl

theorem entered_introduction (name : Text) (target : Target) :
    Event.entered (introduction name target) = [name] := by
  unfold introduction
  split <;> rfl

theorem entered_runRecipe (host : Host σ) (options : Options) (recipe : Recipe)
    (build : Build σ) : Event.entered (runRecipe host options recipe build).events = [] := by
  have echoed : Event.entered (recipe.echoes options) = [] := by
    unfold Recipe.echoes
    split <;> rfl
  have reacted (result : Except Failure Text) :
      Event.entered (reaction options recipe result).2 = [] := by
    unfold reaction
    split
    · rfl
    · split <;> rfl
  cases dry : options.dryRun with
  | true =>
    rw [runRecipe_dry dry, Event.entered_append, echoed]
    rfl
  | false =>
    rw [runRecipe_wet dry rfl, Event.entered_append, echoed]
    exact reacted _

theorem entered_runRecipes (host : Host σ) (options : Options) (recipes : List Recipe)
    (build : Build σ) : Event.entered (runRecipes host options recipes build).events = [] := by
  induction recipes generalizing build with
  | nil => rfl
  | cons recipe rest ih =>
    have here := entered_runRecipe host options recipe build
    rcases ran : runRecipe host options recipe build with ⟨error | _, events, between⟩
    · rw [ran] at here
      rw [runRecipes, Act.bind_error ran]
      exact here
    · rw [ran] at here
      rw [runRecipes, Act.bind_ok ran]
      simp [here, ih]

end Silent

section Within

theorem within_put (within : build.registry.Within known) (name : Text) (date : Option Time) :
    (build.registry.put ⟨name, [], [], date⟩).Within known := by
  intro other target present needed member
  rw [Registry.target?_put] at present
  split at present
  · cases present
    cases member
  · exact within other target present needed member

theorem within_stamp {registry : Registry} (within : registry.Within known) (name : Text)
    (time : Time) : (registry.stamp name time).Within known := by
  intro other target present needed member
  rw [Registry.target?_stamp] at present
  split at present
  · obtain ⟨entry, declared, rfl⟩ := Option.map_eq_some_iff.1 present
    exact within name entry declared needed member
  · exact within other target present needed member

theorem within_arrive (within : build.registry.Within known) {answer : Except Error Target}
    (arrived : arrive host name build = ⟨answer, events, between⟩) :
    between.registry.Within known ∧
      ∀ target, answer = .ok target → ∀ needed ∈ target.prerequisites, needed ∈ known := by
  rcases arrive_outcome host name build with ⟨target, declared, same⟩ | same | ⟨time, same⟩
  · rw [same] at arrived
    cases arrived
    refine ⟨within, ?_⟩
    rintro _ ⟨⟩
    exact within name target declared
  · rw [same] at arrived
    cases arrived
    exact ⟨within, nofun⟩
  · rw [same] at arrived
    cases arrived
    refine ⟨within_put within name _, ?_⟩
    rintro _ ⟨⟩ needed ⟨⟩

theorem registry_runRecipes (host : Host σ) (options : Options) (recipes : List Recipe)
    (build : Build σ) :
    (runRecipes host options recipes build).state.registry = build.registry := by
  let setting : Setting σ := ⟨host, options, 0, build.registry, build.world⟩
  have cases := runRecipes_cases setting recipes build
  rcases cases with ⟨_, _, state, _⟩ | ⟨_, _, _, _, _, _, _, state, _⟩ <;>
    · have same := congrArg Build.registry state
      exact same

theorem Ends.within (ends : Ends host options started levels opened finished task build done)
    (within : build.registry.Within known) : done.state.registry.Within known := by
  have kept {recipes : List Recipe} {answer : Except Error Unit} {more : List Event}
      {after last : Build σ} (ran : runRecipes host options recipes after = ⟨answer, more, last⟩)
      (within : after.registry.Within known) : last.registry.Within known := by
    have same := registry_runRecipes host options recipes after
    rw [ran] at same
    exact same ▸ within
  induction ends with
  | cycle | again | nil => exact within
  | unknown _ _ arrived | newer _ _ arrived _ => exact (within_arrive within arrived).1
  | broken _ _ arrived _ _ ih => exact ih (within_arrive within arrived).1
  | failed _ _ arrived _ _ ran ih => exact kept ran (ih (within_arrive within arrived).1)
  | built _ _ arrived _ _ ran ih =>
    exact within_stamp (kept ran (ih (within_arrive within arrived).1)) _ _
  | halt _ ih => exact ih within
  | next _ _ first later => exact later (first within)

end Within

/-- The names in progress are distinct and known. -/
structure Apart (known : Finset Text) (opened : List Text) : Prop where
  nodup : opened.Nodup
  known : ∀ name ∈ opened, name ∈ known

theorem Apart.nil (known : Finset Text) : Apart known [] := ⟨List.nodup_nil, nofun⟩

theorem Apart.cons (apart : Apart known opened) (closed : name ∉ opened) (member : name ∈ known) :
    Apart known (name :: opened) :=
  ⟨List.nodup_cons.2 ⟨closed, apart.nodup⟩, List.forall_mem_cons.2 ⟨member, apart.known⟩⟩

theorem Apart.length_le (apart : Apart known opened) : opened.length ≤ known.card := by
  have among : opened.toFinset ⊆ known := fun name member =>
    apart.known name (List.mem_toFinset.1 member)
  have size := Finset.card_le_card among
  rwa [List.toFinset_card_of_nodup apart.nodup] at size

/-- There are no more levels than known names that are not in progress, and one for a name that
closes a cycle. -/
theorem Ends.levels_le (ends : Ends host options started levels opened finished task build done)
    (apart : Apart known opened) (within : build.registry.Within known)
    (names : ∀ name ∈ task.names, name ∈ known) : levels + opened.length ≤ known.card + 1 := by
  have here {opened : List Text} (apart : Apart known opened) :
      1 + opened.length ≤ known.card + 1 := by
    have size := apart.length_le
    omega
  -- An entered target is one level above its prerequisites, and one more name is in progress.
  have above {levels : Nat} {opened : List Text} {name : Text}
      (below : levels + (name :: opened).length ≤ known.card + 1) :
      levels + 1 + opened.length ≤ known.card + 1 := by
    rw [List.length_cons] at below
    omega
  induction ends with
  | cycle | again | unknown | newer => exact here apart
  | broken closed _ arrived _ _ ih | failed closed _ arrived _ _ _ ih
  | built closed _ arrived _ _ _ ih =>
    obtain ⟨between, needed⟩ := within_arrive within arrived
    exact above (ih (apart.cons closed (names _ List.mem_cons_self)) between (needed _ rfl))
  | nil =>
    have size := apart.length_le
    omega
  | halt _ ih => exact ih apart within (by simpa [Task.names] using names _ List.mem_cons_self)
  | next first _ ih later =>
    obtain ⟨name, rest⟩ := List.forall_mem_cons.1 names
    have one := ih apart within (by simpa [Task.names] using name)
    have others := later apart (first.within within) rest
    omega

/-- What a task enters is new, and is finished when the task comes through. -/
structure EntersOnce (opened finished : List Text) (done : Outcome (Build σ) (List Text)) :
    Prop where
  nodup : (Event.entered done.events).Nodup
  fresh : ∀ name ∈ Event.entered done.events, name ∉ opened ∧ name ∉ finished
  finishes : ∀ walked, done.answer = .ok walked →
    ∀ name, name ∈ finished ∨ name ∈ Event.entered done.events → name ∈ walked

theorem EntersOnce.of_silent (silent : Event.entered done.events = [])
    (finishes : ∀ walked, done.answer = .ok walked → ∀ name ∈ finished, name ∈ walked) :
    EntersOnce opened finished done where
  nodup := by rw [silent]; exact List.nodup_nil
  fresh name member := by rw [silent] at member; cases member
  finishes walked through name seen := by
    rw [silent] at seen
    exact finishes walked through name (seen.resolve_right List.not_mem_nil)

/-- A target is entered before its prerequisites, and none of these is that target. -/
theorem EntersOnce.of_below {below : Outcome (Build σ) (List Text)} (closed : name ∉ opened)
    (unfinished : name ∉ finished) (once : EntersOnce (name :: opened) finished below)
    (entered : Event.entered done.events = name :: Event.entered below.events)
    (walks : ∀ walked, done.answer = .ok walked →
      ∃ inside, below.answer = .ok inside ∧ walked = name :: inside) :
    EntersOnce opened finished done := by
  refine ⟨?_, ?_, ?_⟩
  · rw [entered]
    refine List.nodup_cons.2 ⟨fun again => ?_, once.nodup⟩
    exact (once.fresh name again).1 List.mem_cons_self
  · rw [entered]
    refine List.forall_mem_cons.2 ⟨⟨closed, unfinished⟩, fun other member => ?_⟩
    obtain ⟨outside, new⟩ := once.fresh other member
    exact ⟨fun isOpen => outside (List.mem_cons_of_mem _ isOpen), new⟩
  · rw [entered]
    intro walked through other seen
    obtain ⟨inside, came, rfl⟩ := walks walked through
    rcases seen with earlier | here
    · exact List.mem_cons_of_mem _ (once.finishes inside came other (.inl earlier))
    · rcases List.mem_cons.1 here with rfl | below
      · exact List.mem_cons_self
      · exact List.mem_cons_of_mem _ (once.finishes inside came other (.inr below))

theorem EntersOnce.append {walked : List Text} {first : List Event}
    (here : EntersOnce opened finished ⟨.ok walked, first, between⟩)
    (later : EntersOnce opened walked done) :
    EntersOnce opened finished ⟨done.answer, first ++ done.events, done.state⟩ where
  nodup := by
    rw [Event.entered_append]
    refine List.nodup_append.2 ⟨here.nodup, later.nodup, ?_⟩
    rintro name earlier _ again rfl
    exact (later.fresh name again).2 (here.finishes walked rfl name (.inr earlier))
  fresh name member := by
    rw [Event.entered_append, List.mem_append] at member
    rcases member with earlier | again
    · exact here.fresh name earlier
    · obtain ⟨closed, new⟩ := later.fresh name again
      exact ⟨closed, fun old => new (here.finishes walked rfl name (.inl old))⟩
  finishes last through name seen := by
    rw [Event.entered_append, List.mem_append, ← or_assoc] at seen
    exact later.finishes last through name (seen.imp_left (here.finishes walked rfl name))

theorem Ends.entersOnce (ends : Ends host options started levels opened finished task build done) :
    EntersOnce opened finished done := by
  have arrives {name : Text} {build between : Build σ} {answer : Except Error Target}
      {events : List Event} (arrived : arrive host name build = ⟨answer, events, between⟩) :
      Event.entered events = [] := by
    have silent := entered_arrive host name build
    rwa [arrived] at silent
  have runs {recipes : List Recipe} {after last : Build σ} {answer : Except Error Unit}
      {more : List Event} (ran : runRecipes host options recipes after = ⟨answer, more, last⟩) :
      Event.entered more = [] := by
    have silent := entered_runRecipes host options recipes after
    rwa [ran] at silent
  induction ends with
  | cycle => exact .of_silent rfl nofun
  | again => exact .of_silent rfl (by rintro _ ⟨⟩ _ member; exact member)
  | unknown _ _ arrived => exact .of_silent (arrives arrived) nofun
  | newer _ _ arrived =>
    refine .of_silent ?_ ?_
    · rw [Event.entered_append, arrives arrived]
      rfl
    · rintro _ ⟨⟩ _ member
      exact List.mem_cons_of_mem _ member
  | broken closed unfinished arrived _ _ ih =>
    refine .of_below closed unfinished ih ?_ nofun
    simp [arrives arrived, entered_introduction]
  | failed closed unfinished arrived _ _ ran ih =>
    refine .of_below closed unfinished ih ?_ nofun
    simp [arrives arrived, entered_introduction, runs ran]
  | built closed unfinished arrived _ _ ran ih =>
    refine .of_below closed unfinished ih ?_ ?_
    · simp [arrives arrived, entered_introduction, runs ran]
    · rintro _ ⟨⟩
      exact ⟨_, rfl, rfl⟩
  | nil => exact .of_silent rfl (by rintro _ ⟨⟩ _ member; exact member)
  | halt _ ih => exact ih
  | next _ _ ih later => exact ih.append later

/-- Names in order end when each of them does, wherever it is come to. -/
theorem exists_ends_all {names : List Text}
    (each : ∀ finished name (build : Build σ), name ∈ known → build.registry.Within known →
      ∃ levels done, Ends host options started levels opened finished (.one name) build done)
    (among : ∀ name ∈ names, name ∈ known) (finished : List Text)
    (within : build.registry.Within known) :
    ∃ levels done, Ends host options started levels opened finished (.all names) build done := by
  induction names generalizing finished build with
  | nil => exact ⟨0, _, .nil⟩
  | cons name rest ih =>
    obtain ⟨member, others⟩ := List.forall_mem_cons.1 among
    obtain ⟨levels, ⟨error | walked, events, between⟩, first⟩ :=
      each finished name build member within
    · exact ⟨levels, _, .halt first⟩
    · obtain ⟨more, done, later⟩ := ih others walked (first.within within)
      exact ⟨max levels more, _, .next first later⟩

/-- A visit ends, since with every target that is entered one name more is in progress. -/
theorem exists_ends (room : Nat) (apart : Apart known opened)
    (bound : known.card ≤ room + opened.length) (finished : List Text) (name : Text)
    (build : Build σ) (member : name ∈ known) (within : build.registry.Within known) :
    ∃ levels done, Ends host options started levels opened finished (.one name) build done := by
  induction room generalizing opened finished name build with
  | zero =>
    by_cases isOpen : name ∈ opened
    · exact ⟨1, _, .cycle isOpen⟩
    · have size := (apart.cons isOpen member).length_le
      rw [List.length_cons] at size
      omega
  | succ room ih =>
    by_cases isOpen : name ∈ opened
    · exact ⟨1, _, .cycle isOpen⟩
    by_cases isFinished : name ∈ finished
    · exact ⟨1, _, .again isOpen isFinished⟩
    rcases arrived : arrive host name build with ⟨error | target, events, between⟩
    · exact ⟨1, _, .unknown isOpen isFinished arrived⟩
    obtain ⟨within, needed⟩ := within_arrive within arrived
    cases newer : isNewer between.registry started name target.timestamp with
    | true => exact ⟨1, _, .newer isOpen isFinished arrived newer⟩
    | false =>
      have inner := apart.cons isOpen member
      have less : known.card ≤ room + (name :: opened).length := by
        rw [List.length_cons]
        omega
      obtain ⟨levels, ⟨error | walked, inside, after⟩, below⟩ :=
        exists_ends_all (ih inner less) (needed target rfl) finished within
      · exact ⟨levels + 1, _, .broken isOpen isFinished arrived newer below⟩
      · rcases ran : runRecipes host options target.commands after with ⟨error | _, more, last⟩
        · exact ⟨levels + 1, _, .failed isOpen isFinished arrived newer below ran⟩
        · exact ⟨levels + 1, _, .built isOpen isFinished arrived newer below ran⟩

theorem within_mentioned (registry : Registry) (name : Text) :
    registry.Within (name :: registry.mentioned).toFinset := by
  intro other target present needed member
  refine List.mem_toFinset.2 (List.mem_cons_of_mem _ ?_)
  exact Registry.mem_mentioned present (List.mem_cons_of_mem _ member)

/-- A request comes to an end, whatever the prerequisites are. A visit of its goal ends, and any
account of how it does is what the request shows and leaves. There are at most as many levels of
visits as names mentioned, and one for a name that closes a cycle. No target is entered twice. -/
theorem process_ends (host : Host σ) (options : Options) (request : Text) (started : Time)
    (build : Build σ) :
    (∀ text, (process host options request started build).answer ≠ .error (.tooDeep text)) ∧
    match goal build.registry request with
    | .error error => process host options request started build = ⟨.error error, [], build⟩
    | .ok name =>
      (∃ levels done, Ends host options started levels [] [] (.one name) build done) ∧
      ∀ levels done, Ends host options started levels [] [] (.one name) build done →
        levels ≤ (name :: build.registry.mentioned).toFinset.card + 1 ∧
        (Event.entered done.events).Nodup ∧
        process host options request started build =
          ⟨done.answer.map fun _ => (), done.events, done.state⟩ := by
  refine ⟨process_ne_tooDeep host options request started build, ?_⟩
  cases named : goal build.registry request with
  | error error => exact process_goalless named
  | ok name =>
    let known := (name :: build.registry.mentioned).toFinset
    have member : name ∈ known := List.mem_toFinset.2 List.mem_cons_self
    have within : build.registry.Within known := within_mentioned build.registry name
    refine ⟨exists_ends known.card (.nil known) (Nat.le_refl _) [] name build member within, ?_⟩
    intro levels done ends
    have bound := ends.levels_le (.nil known) within (List.forall_mem_singleton.2 member)
    refine ⟨bound, ends.entersOnce.nodup, ?_⟩
    have deep : build.registry.targets.size + 1 ≤ max levels (build.registry.targets.size + 1) :=
      Nat.le_max_right _ _
    have same := ends.act_eq (Nat.le_max_left levels (build.registry.targets.size + 1))
    rw [process_deeper named deep]
    exact congrArg (fun done : Outcome (Build σ) (List Text) =>
      (⟨done.answer.map fun _ => (), done.events, done.state⟩ : Outcome (Build σ) Unit)) same

/-- A target with a prerequisite that is named twice, and one that needs itself. -/
def tangle : Setting Unit where
  host :=
    { run := fun _ _ _ => (⟨.ok [], [], []⟩, ())
      modified := fun name _ => if name = "source".toList then some 3 else none
      read := fun _ _ => .error .notFound
      now := fun _ => (7, ()) }
  options := {}
  started := 5
  registry :=
    let rule (name : String) (prerequisites : List String) : Target :=
      ⟨name.toList, prerequisites.map String.toList, ["make $@".toList], none⟩
    [rule "all" ["left", "left", "right"], rule "left" ["source"],
      rule "right" ["left", "right", "all"]].foldl Registry.put .empty
  world := ()

theorem process_ends_tangle :
    ("all".toList :: tangle.registry.mentioned).toFinset.card = 4 ∧
      ∃ levels done,
        Ends tangle.host {} 5 levels [] [] (.one "all".toList) ⟨tangle.registry, ()⟩ done ∧
        levels ≤ 5 ∧ done.answer = .error (.cycle ["right".toList, "right".toList]) ∧
        Event.entered done.events =
          ["all".toList, "left".toList, "source".toList, "right".toList] := by
  have size : ("all".toList :: tangle.registry.mentioned).toFinset.card = 4 := by decide +kernel
  have answer : (tangle.outcome "all".toList).answer =
      .error (.cycle ["right".toList, "right".toList]) := by decide +kernel
  have entered : Event.entered (tangle.outcome "all".toList).events =
      ["all".toList, "left".toList, "source".toList, "right".toList] := by decide +kernel
  have named : goal tangle.registry "all".toList = .ok "all".toList := rfl
  have ends := (process_ends tangle.host {} "all".toList 5 ⟨tangle.registry, ()⟩).2
  rw [named] at ends
  obtain ⟨⟨levels, done, ends⟩, every⟩ := ends
  obtain ⟨bound, _, same⟩ := every levels done ends
  have few : levels ≤ 5 := by
    change levels ≤ ("all".toList :: tangle.registry.mentioned).toFinset.card + 1 at bound
    rwa [size] at bound
  have outcome : tangle.outcome "all".toList =
      ⟨done.answer.map fun _ => (), done.events, done.state⟩ := same
  rw [outcome] at answer entered
  refine ⟨size, levels, done, ends, few, ?_, entered⟩
  cases came : done.answer with
  | error error =>
    rw [came] at answer
    cases answer
    rfl
  | ok walked =>
    rw [came] at answer
    cases answer

end Walk

end BuildRules
