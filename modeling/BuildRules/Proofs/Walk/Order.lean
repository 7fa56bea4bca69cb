import BuildRules.Proofs.Walk.Steps
import Mathlib.Data.List.Nodup

/-! The order in which a walk builds targets, said without the walk. From a goal the graph of
prerequisites is gone through depth first, prerequisites in declared order, and every target
comes after its prerequisites. A name is entered on its first visit only, and not at all when
it is then newer than the request. The order is determined by the setting and the goal, it
names no target twice, and along it prerequisites stand before what needs them. -/
namespace BuildRules

namespace Walk
variable {σ : Type}

/-- What the course of a walk depends on besides the goal: the host and the options, and the
time, the registry and the world in which the request was made. -/
structure Setting (σ : Type) where
  host : Host σ
  options : Options
  started : Time
  registry : Registry
  world : σ

namespace Setting
variable (setting : Setting σ)

/-- The request for a goal, carried out in the setting. -/
def outcome (request : Text) : Outcome (Build σ) Unit :=
  process setting.host setting.options request setting.started ⟨setting.registry, setting.world⟩

/-- What a name stands for. A name without a rule is that of a file, which needs nothing. -/
def target (name : Text) : Target :=
  (setting.registry.target? name).getD ⟨name, [], [], none⟩

def prerequisites (name : Text) : List Text := (setting.target name).prerequisites

def commands (name : Text) : List Recipe := (setting.target name).commands

/-- The echoes and runs of a target: those of its recipes in order. -/
def block (name : Text) : List Event :=
  (setting.commands name).flatMap (Recipe.actions setting.options)

def blocks (names : List Text) : List Event := names.flatMap setting.block

/-- The world after recipes, whether or not they succeed. -/
def afterRecipes (s : σ) (recipes : List Recipe) : σ :=
  if setting.options.dryRun then s
  else recipes.foldl (fun s recipe => (setting.host.run recipe.command false s).2) s

/-- The reading of the clock when the recipes of a target are through, and the world after it. -/
def completion (s : σ) (name : Text) : Time × σ :=
  setting.host.now (setting.afterRecipes s (setting.commands name))

/-- The world once targets have been built in order. -/
def worldAfter (built : List Text) : σ :=
  built.foldl (fun s name => (setting.completion s name).2) setting.world

/-- The date of a name that is reached first when these targets have been built: the stored
one, or that of the file for a name without a rule. -/
def date (built : List Text) (name : Text) : Option Time :=
  match setting.registry.target? name with
  | some target => target.timestamp
  | none => setting.host.modified name (setting.worldAfter built)

/-- A name is passed over when it is not phony and its date is after the start. -/
def Skips (built : List Text) (name : Text) : Prop :=
  setting.registry.isPhony name = false ∧
    ∃ time, setting.date built name = some time ∧ setting.started < time

theorem prerequisites_of_missing {name : Text} (missing : setting.registry.target? name = none) :
    setting.prerequisites name = [] := by
  simp [prerequisites, target, missing]

theorem prerequisites_of_declared {name : Text} {target : Target}
    (declared : setting.registry.target? name = some target) :
    setting.prerequisites name = target.prerequisites := by
  simp [prerequisites, Setting.target, declared]

@[simp] theorem blocks_nil : setting.blocks [] = [] := rfl

theorem blocks_append (first rest : List Text) :
    setting.blocks (first ++ rest) = setting.blocks first ++ setting.blocks rest :=
  List.flatMap_append

@[simp] theorem blocks_singleton (name : Text) : setting.blocks [name] = setting.block name := by
  simp [blocks]

theorem worldAfter_append (built : List Text) (name : Text) :
    setting.worldAfter (built ++ [name]) =
      (setting.completion (setting.worldAfter built) name).2 := by
  simp [worldAfter]

@[simp] theorem afterRecipes_nil (s : σ) : setting.afterRecipes s [] = s := by
  simp [afterRecipes]

theorem afterRecipes_cons (s : σ) (recipe : Recipe) (rest : List Recipe) :
    setting.afterRecipes s (recipe :: rest) =
      setting.afterRecipes (setting.afterRecipes s [recipe]) rest := by
  simp only [afterRecipes]
  split <;> rfl

end Setting

/-- A recipe fails in a world: it is run there, its failure is not ignored, and this is the
error. -/
structure Fails (setting : Setting σ) (s : σ) (recipe : Recipe) (error : Error) : Prop where
  runs : setting.options.dryRun = false
  heeded : recipe.ignore = false
  strict : setting.options.ignoreErrors = false
  failed : ∃ failure, (setting.host.run recipe.command false s).1.result = .error failure ∧
    error = failure.error recipe.command

/-- Recipes come through, one after the other, when none of them fails. -/
def Completes (setting : Setting σ) : σ → List Recipe → Prop
  | _, [] => True
  | s, recipe :: rest =>
    (∀ error, ¬ Fails setting s recipe error) ∧
      Completes setting (setting.afterRecipes s [recipe]) rest

/-- How far a walk has come. -/
structure Trail where
  /-- The names that need no further visit, the latest first. -/
  finished : List Text
  /-- Those of them that were entered, in the order of completion. -/
  built : List Text

namespace Trail

def start : Trail := ⟨[], []⟩

@[simp] theorem built_start : start.built = [] := rfl

def skip (trail : Trail) (name : Text) : Trail := ⟨name :: trail.finished, trail.built⟩

def complete (trail : Trail) (name : Text) : Trail :=
  ⟨name :: trail.finished, trail.built ++ [name]⟩

@[simp] theorem built_complete (trail : Trail) (name : Text) :
    (trail.complete name).built = trail.built ++ [name] := rfl

/-- A target of the trail is the latest one, or it was there before. -/
theorem split_complete {trail : Trail} {name other : Text} {before after : List Text}
    (split : (trail.complete name).built = before ++ other :: after) :
    (before = trail.built ∧ other = name) ∨
      ∃ between, trail.built = before ++ other :: between := by
  rcases List.eq_nil_or_concat after with rfl | ⟨between, latest, rfl⟩
  · obtain ⟨rfl, same⟩ := List.append_inj' split rfl
    cases same
    exact .inl ⟨rfl, rfl⟩
  · have regrouped : trail.built ++ [name] = (before ++ other :: between) ++ [latest] := by
      simpa using split
    exact .inr ⟨between, (List.append_inj' regrouped rfl).1⟩

end Trail

/-- Visits of names in order, from one trail to another, while the names `opened` are in
progress. A finished name is left as it is, and a name in progress cannot be visited. -/
inductive Visits (setting : Setting σ) : List Text → Trail → List Text → Trail → Prop
  | nil {opened : List Text} {trail : Trail} : Visits setting opened trail [] trail
  | again {opened : List Text} {trail last : Trail} {name : Text} {rest : List Text}
      (finished : name ∈ trail.finished) (after : Visits setting opened trail rest last) :
      Visits setting opened trail (name :: rest) last
  | skipped {opened : List Text} {trail last : Trail} {name : Text} {rest : List Text}
      (closed : name ∉ opened) (unfinished : name ∉ trail.finished)
      (skips : setting.Skips trail.built name)
      (after : Visits setting opened (trail.skip name) rest last) :
      Visits setting opened trail (name :: rest) last
  | entered {opened : List Text} {trail below last : Trail} {name : Text} {rest : List Text}
      (closed : name ∉ opened) (unfinished : name ∉ trail.finished)
      (enters : ¬ setting.Skips trail.built name)
      (within : Visits setting (name :: opened) trail (setting.prerequisites name) below)
      (after : Visits setting opened (below.complete name) rest last) :
      Visits setting opened trail (name :: rest) last

/-- The targets that a goal leads to, each after its prerequisites, in the order of a depth-first
walk. -/
def PostOrder (setting : Setting σ) (goal : Text) (targets : List Text) : Prop :=
  ∃ last, Visits setting [] .start [goal] last ∧ last.built = targets

/-- One target leads to another when it is declared with it as a prerequisite, and is not passed
over. -/
def Leads (setting : Setting σ) (name next : Text) : Prop :=
  ∃ target, setting.registry.target? name = some target ∧
    isNewer setting.registry setting.started name target.timestamp = false ∧
    next ∈ target.prerequisites

namespace Setting

theorem skips_iff {setting : Setting σ} {built : List Text} {name : Text} :
    setting.Skips built name ↔
      isNewer setting.registry setting.started name (setting.date built name) = true := by
  simp only [Skips, isNewer, Bool.and_eq_true, Bool.not_eq_true', Option.any_eq_true,
    decide_eq_true_eq]

theorem leads_of_enters {setting : Setting σ} {built : List Text} {name next : Text}
    (enters : ¬ setting.Skips built name) (needed : next ∈ setting.prerequisites name) :
    Leads setting name next := by
  cases declared : setting.registry.target? name with
  | none =>
    rw [setting.prerequisites_of_missing declared] at needed
    cases needed
  | some target =>
    rw [skips_iff, date, declared] at enters
    rw [setting.prerequisites_of_declared declared] at needed
    exact ⟨target, declared, by simpa using enters, needed⟩

theorem not_skips_of_leads {setting : Setting σ} {built : List Text} {name next : Text}
    (leads : Leads setting name next) : ¬ setting.Skips built name := by
  obtain ⟨target, declared, older, _⟩ := leads
  rw [skips_iff, date, declared]
  simp [older]

theorem mem_prerequisites_of_leads {setting : Setting σ} {name next : Text}
    (leads : Leads setting name next) : next ∈ setting.prerequisites name := by
  obtain ⟨target, declared, _, needed⟩ := leads
  rw [setting.prerequisites_of_declared declared]
  exact needed

end Setting

namespace Visits
variable {setting : Setting σ} {opened names rest : List Text} {trail middle last : Trail}

theorem append (first : Visits setting opened trail names middle)
    (after : Visits setting opened middle rest last) :
    Visits setting opened trail (names ++ rest) last := by
  induction first with
  | nil => exact after
  | again finished _ ih => exact .again finished (ih after)
  | skipped closed unfinished skips _ ih => exact .skipped closed unfinished skips (ih after)
  | entered closed unfinished enters within _ _ ih =>
    exact .entered closed unfinished enters within (ih after)

theorem finished_subset (visits : Visits setting opened trail names last) :
    trail.finished ⊆ last.finished := by
  induction visits with
  | nil => exact List.Subset.refl _
  | again _ _ ih => exact ih
  | skipped _ _ _ _ ih => exact fun _ member => ih (List.mem_cons_of_mem _ member)
  | entered _ _ _ _ _ below ih =>
    exact fun _ member => ih (List.mem_cons_of_mem _ (below member))

theorem mem_finished (visits : Visits setting opened trail names last) {name : Text}
    (visited : name ∈ names) : name ∈ last.finished := by
  induction visits with
  | nil => cases visited
  | again finished after ih =>
    rcases List.mem_cons.1 visited with rfl | later
    · exact after.finished_subset finished
    · exact ih later
  | skipped _ _ _ after ih =>
    rcases List.mem_cons.1 visited with rfl | later
    · exact after.finished_subset List.mem_cons_self
    · exact ih later
  | entered _ _ _ _ after _ ih =>
    rcases List.mem_cons.1 visited with rfl | later
    · exact after.finished_subset List.mem_cons_self
    · exact ih later

/-- A name in progress is not finished by what is visited meanwhile. -/
theorem opened_unfinished (visits : Visits setting opened trail names last) {name : Text}
    (isOpen : name ∈ opened) (unfinished : name ∉ trail.finished) : name ∉ last.finished := by
  induction visits with
  | nil => exact unfinished
  | again _ _ ih => exact ih isOpen unfinished
  | skipped closed _ _ _ ih =>
    apply ih isOpen
    rintro (_ | ⟨_, finished⟩)
    · exact closed isOpen
    · exact unfinished finished
  | entered closed _ _ _ _ below ih =>
    apply ih isOpen
    rintro (_ | ⟨_, finished⟩)
    · exact closed isOpen
    · exact below (List.mem_cons_of_mem _ isOpen) unfinished finished

/-- The trail at the end is determined by the one at the start and the names. -/
theorem unique (visits : Visits setting opened trail names middle)
    (other : Visits setting opened trail names last) : middle = last := by
  induction visits generalizing last with
  | nil => cases other; rfl
  | again finished _ ih =>
    cases other with
    | again _ after => exact ih after
    | skipped _ unfinished => exact absurd finished unfinished
    | entered _ unfinished => exact absurd finished unfinished
  | skipped _ unfinished skips _ ih =>
    cases other with
    | again finished => exact absurd finished unfinished
    | skipped _ _ _ after => exact ih after
    | entered _ _ enters => exact absurd skips enters
  | entered _ unfinished enters _ _ below ih =>
    cases other with
    | again finished => exact absurd finished unfinished
    | skipped _ _ skips => exact absurd skips enters
    | entered _ _ _ within after =>
      cases below within
      exact ih after

end Visits

/-- What holds of a trail at every point of a walk. -/
structure Sound (setting : Setting σ) (trail : Trail) : Prop where
  nodup : trail.built.Nodup
  finished : ∀ name ∈ trail.built, name ∈ trail.finished
  passed : ∀ name ∈ trail.finished, name ∉ trail.built → ∃ built, setting.Skips built name
  walked : ∀ name ∈ trail.built, ∀ needed ∈ setting.prerequisites name, needed ∈ trail.finished
  /-- A prerequisite is built before what needs it, or not at all. -/
  ordered : ∀ before name after, trail.built = before ++ name :: after →
    ∀ needed ∈ setting.prerequisites name, needed ∈ trail.built → needed ∈ before

namespace Sound
variable {setting : Setting σ} {trail : Trail} {name : Text}

theorem start : Sound setting .start where
  nodup := List.nodup_nil
  finished _ member := by cases member
  passed _ member := by cases member
  walked _ member := by cases member
  ordered before name after split := by simp [Trail.start] at split

theorem skip (sound : Sound setting trail) (unfinished : name ∉ trail.finished)
    (skips : setting.Skips trail.built name) : Sound setting (trail.skip name) where
  nodup := sound.nodup
  finished _ member := List.mem_cons_of_mem _ (sound.finished _ member)
  passed other member fresh := by
    rcases List.mem_cons.1 member with rfl | earlier
    · exact ⟨trail.built, skips⟩
    · exact sound.passed other earlier fresh
  walked _ member _ needed := List.mem_cons_of_mem _ (sound.walked _ member _ needed)
  ordered := sound.ordered

theorem complete (sound : Sound setting trail) (unfinished : name ∉ trail.finished)
    (walked : ∀ needed ∈ setting.prerequisites name, needed ∈ trail.finished) :
    Sound setting (trail.complete name) := by
  have fresh : name ∉ trail.built := fun member => unfinished (sound.finished _ member)
  refine ⟨?_, ?_, ?_, ?_, ?_⟩
  · rw [Trail.complete, ← List.concat_eq_append]
    exact sound.nodup.concat fresh
  · intro other member
    rcases List.mem_append.1 member with earlier | latest
    · exact List.mem_cons_of_mem _ (sound.finished _ earlier)
    · rw [List.mem_singleton.1 latest]
      exact List.mem_cons_self
  · intro other member unbuilt
    rcases List.mem_cons.1 member with rfl | earlier
    · exact absurd (List.mem_append_right _ List.mem_cons_self) unbuilt
    · exact sound.passed other earlier fun member => unbuilt (List.mem_append_left _ member)
  · intro other member needed isNeeded
    apply List.mem_cons_of_mem
    rcases List.mem_append.1 member with earlier | latest
    · exact sound.walked _ earlier _ isNeeded
    · rw [List.mem_singleton.1 latest] at isNeeded
      exact walked _ isNeeded
  · intro before other after split needed isNeeded member
    -- The new target stands last, and what was built before it does not need it.
    rcases Trail.split_complete split with ⟨rfl, rfl⟩ | ⟨between, earlier⟩
    · rcases List.mem_append.1 member with earlier | latest
      · exact earlier
      · rw [List.mem_singleton.1 latest] at isNeeded
        exact absurd (walked _ isNeeded) unfinished
    · have isFinished := sound.walked other (by simp [earlier]) needed isNeeded
      apply sound.ordered before other between earlier needed isNeeded
      rcases List.mem_append.1 member with built | latest
      · exact built
      · rw [List.mem_singleton.1 latest] at isFinished
        exact absurd isFinished unfinished

theorem idxOf_lt (sound : Sound setting trail) {next : Text} (built : name ∈ trail.built)
    (needed : next ∈ setting.prerequisites name) (nextBuilt : next ∈ trail.built) :
    trail.built.idxOf next < trail.built.idxOf name := by
  obtain ⟨before, after, split⟩ := List.append_of_mem built
  have earlier := sound.ordered before name after split next needed nextBuilt
  have nodup := sound.nodup
  rw [split] at nodup ⊢
  have fresh : name ∉ before := fun member =>
    List.disjoint_of_nodup_append nodup member List.mem_cons_self
  rw [List.idxOf_append_of_mem earlier, List.idxOf_append_of_notMem fresh]
  have bound := List.idxOf_lt_length_of_mem earlier
  omega

end Sound

namespace Visits
variable {setting : Setting σ} {opened names : List Text} {trail last : Trail}

theorem sound (visits : Visits setting opened trail names last) (sound : Sound setting trail) :
    Sound setting last := by
  induction visits with
  | nil => exact sound
  | again _ _ ih => exact ih sound
  | skipped _ unfinished skips _ ih => exact ih (sound.skip unfinished skips)
  | entered _ unfinished _ within _ below ih =>
    exact ih ((below sound).complete (within.opened_unfinished List.mem_cons_self unfinished)
      fun _ needed => within.mem_finished needed)

end Visits

namespace PostOrder
variable {setting : Setting σ} {goal : Text} {targets : List Text}

theorem unique (order : PostOrder setting goal targets) {others : List Text}
    (other : PostOrder setting goal others) : others = targets := by
  obtain ⟨last, visits, rfl⟩ := order
  obtain ⟨last', visits', rfl⟩ := other
  rw [visits.unique visits']

theorem nodup (order : PostOrder setting goal targets) : targets.Nodup := by
  obtain ⟨last, visits, rfl⟩ := order
  exact (visits.sound .start).nodup

theorem ordered (order : PostOrder setting goal targets) :
    ∀ before name after, targets = before ++ name :: after →
      ∀ needed ∈ setting.prerequisites name, needed ∈ targets → needed ∈ before := by
  obtain ⟨last, visits, rfl⟩ := order
  exact (visits.sound .start).ordered

theorem eq_nil (order : PostOrder setting goal targets) (skips : setting.Skips [] goal) :
    targets = [] := by
  obtain ⟨last, visits, rfl⟩ := order
  cases visits with
  | again finished => cases finished
  | skipped _ _ _ after => cases after; rfl
  | entered _ _ enters => exact absurd skips enters

theorem getLast?_eq (order : PostOrder setting goal targets) (enters : ¬ setting.Skips [] goal) :
    targets.getLast? = some goal := by
  obtain ⟨last, visits, rfl⟩ := order
  cases visits with
  | again finished => cases finished
  | skipped _ _ skips => exact absurd skips enters
  | entered _ _ _ _ after =>
    cases after
    exact List.getLast?_concat

end PostOrder

end Walk

end BuildRules
