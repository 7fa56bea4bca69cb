import BuildRules.Proofs.Walk.Order
import Mathlib.Data.List.Perm.Subperm

/-! Points of a walk. A point is a name that the walk comes to, with the trail behind it and the
names in progress above it. These names are a path of prerequisites from the goal, so there are
no more of them than targets. What the registry holds at a point is determined by the registry
of the request and the trail, up to the dates at which files were found. -/
namespace BuildRules.Walk
variable {σ : Type}

/-- The walk for a request comes to a name after a trail, with the names `opened` in progress,
innermost first. -/
inductive Reaches (setting : Setting σ) (request : Text) : List Text → Trail → Text → Prop
  | goal {name : Text} (named : Walk.goal setting.registry request = .ok name) :
      Reaches setting request [] .start name
  | step {opened before rest : List Text} {trail below : Trail} {name next : Text}
      (reached : Reaches setting request opened trail name)
      (closed : name ∉ opened) (unfinished : name ∉ trail.finished)
      (enters : ¬ setting.Skips trail.built name)
      (split : setting.prerequisites name = before ++ next :: rest)
      (within : Visits setting (name :: opened) trail before below) :
      Reaches setting request (name :: opened) below next

namespace Reaches
variable {setting : Setting σ} {request name : Text} {opened : List Text} {trail : Trail}

theorem sound (reached : Reaches setting request opened trail name) : Sound setting trail := by
  induction reached with
  | goal => exact .start
  | step _ _ _ _ _ within ih => exact within.sound ih

theorem nodup (reached : Reaches setting request opened trail name) : opened.Nodup := by
  induction reached with
  | goal => exact List.nodup_nil
  | step _ closed _ _ _ _ ih => exact List.nodup_cons.2 ⟨closed, ih⟩

theorem unfinished (reached : Reaches setting request opened trail name) :
    ∀ other ∈ opened, other ∉ trail.finished := by
  induction reached with
  | goal => intro other isOpen; cases isOpen
  | step _ _ unfinished _ _ within ih =>
    intro other isOpen
    apply within.opened_unfinished isOpen
    rcases List.mem_cons.1 isOpen with rfl | outer
    · exact unfinished
    · exact ih other outer

/-- The names in progress are a path from the goal to the name that the walk has come to. -/
theorem isChain (reached : Reaches setting request opened trail name) :
    (name :: opened).IsChain fun next outer => Leads setting outer next := by
  induction reached with
  | goal => exact .singleton _
  | step _ _ _ enters split _ ih =>
    exact .cons_cons (Setting.leads_of_enters enters (by simp [split])) ih

/-- Only targets of the registry lead anywhere, so there are no more names in progress. -/
theorem length_opened_le (reached : Reaches setting request opened trail name) :
    opened.length ≤ setting.registry.targets.size := by
  have declared : opened ⊆ setting.registry.targets.keys := by
    induction reached with
    | goal => exact List.nil_subset _
    | @step _ _ _ _ _ _ next _ _ _ enters split _ ih =>
      obtain ⟨target, declared, _⟩ : Leads setting _ next :=
        Setting.leads_of_enters enters (by simp [split])
      refine List.cons_subset.2 ⟨?_, ih⟩
      rw [Std.ExtTreeMap.mem_keys, Std.ExtTreeMap.mem_iff_isSome_getElem?]
      exact Option.isSome_of_eq_some declared
  rw [← Std.ExtTreeMap.length_keys]
  exact (List.subperm_of_subset reached.nodup declared).length_le

end Reaches

/-- The entry under which a name is entered once these targets have been built. -/
def Setting.entry (setting : Setting σ) (built : List Text) (name : Text) : Target :=
  { setting.target name with timestamp := setting.date built name }

theorem Setting.entry_of_declared {setting : Setting σ} {name : Text} {target : Target}
    (declared : setting.registry.target? name = some target) (built : List Text) :
    setting.entry built name = target := by
  simp [entry, Setting.target, date, declared]

theorem Setting.entry_of_missing {setting : Setting σ} {name : Text}
    (missing : setting.registry.target? name = none) (built : List Text) :
    setting.entry built name =
      ⟨name, [], [], setting.host.modified name (setting.worldAfter built)⟩ := by
  simp [entry, Setting.target, date, missing]

/-- What holds of the registry, and of what was built, at every point of a walk. -/
structure Keeps (setting : Setting σ) (opened : List Text) (trail : Trail)
    (registry : Registry) : Prop where
  /-- The recipes of a target that was built came through. -/
  completed : ∀ before name after, trail.built = before ++ name :: after →
    Completes setting (setting.worldAfter before) (setting.commands name)
  phony : registry.phony = setting.registry.phony
  defaultGoal : registry.defaultGoal = setting.registry.defaultGoal
  kept : ∀ name target, setting.registry.target? name = some target → name ∉ trail.built →
    registry.target? name = some target
  /-- A target that was built carries the reading of the clock at its completion. -/
  stamped : ∀ before name after, trail.built = before ++ name :: after →
    registry.target? name =
      some { setting.target name with
        timestamp := some (setting.completion (setting.worldAfter before) name).1 }
  /-- A new entry is that of a file, which was there when the name was reached. -/
  found : ∀ name target, setting.registry.target? name = none →
    registry.target? name = some target → ∃ built time, built <+: trail.built ∧
      setting.registry.isPhony name = false ∧
      setting.host.modified name (setting.worldAfter built) = some time ∧
      target.name = name ∧ target.prerequisites = [] ∧ target.recipes = [] ∧
      (name ∉ trail.built → target.timestamp = some time)
  unseen : ∀ name, setting.registry.target? name = none → name ∉ trail.finished →
    name ∉ opened → registry.target? name = none
  pending : ∀ name ∈ opened, ∃ built, registry.target? name = some (setting.entry built name)

namespace Keeps
variable {setting : Setting σ} {opened : List Text} {trail : Trail} {registry : Registry}
  {name : Text}

theorem start (setting : Setting σ) : Keeps setting [] .start setting.registry where
  completed before name after split := by simp [Trail.start] at split
  phony := rfl
  defaultGoal := rfl
  kept _ _ declared _ := declared
  stamped before name after split := by simp [Trail.start] at split
  found _ _ missing present := by rw [missing] at present; cases present
  unseen _ missing _ _ := missing
  pending _ isOpen := by cases isOpen

theorem isPhony_eq (keeps : Keeps setting opened trail registry) (name : Text) :
    registry.isPhony name = setting.registry.isPhony name := by
  rw [Registry.isPhony, keeps.phony, Registry.isPhony]

theorem isNewer_iff (keeps : Keeps setting opened trail registry) :
    isNewer registry setting.started name (setting.entry trail.built name).timestamp = true ↔
      setting.Skips trail.built name := by
  rw [Setting.skips_iff, isNewer, keeps.isPhony_eq]
  rfl

/-- A declared target stays what it is, and its date may change. -/
theorem exists_target?_eq (keeps : Keeps setting opened trail registry) {target : Target}
    (declared : setting.registry.target? name = some target) :
    ∃ timestamp, registry.target? name = some { target with timestamp } := by
  by_cases built : name ∈ trail.built
  · obtain ⟨before, after, split⟩ := List.append_of_mem built
    have stamped := keeps.stamped before name after split
    have same : setting.target name = target := by simp [Setting.target, declared]
    rw [same] at stamped
    exact ⟨_, stamped⟩
  · exact ⟨target.timestamp, keeps.kept name target declared built⟩

theorem opening (keeps : Keeps setting opened trail registry) {built : List Text}
    (present : registry.target? name = some (setting.entry built name)) :
    Keeps setting (name :: opened) trail registry :=
  { keeps with
    unseen := fun other missing unfinished closed =>
      keeps.unseen other missing unfinished fun isOpen => closed (List.mem_cons_of_mem _ isOpen)
    pending := fun other isOpen => by
      rcases List.mem_cons.1 isOpen with rfl | outer
      · exact ⟨built, present⟩
      · exact keeps.pending other outer }

theorem skip (keeps : Keeps setting (name :: opened) trail registry) :
    Keeps setting opened (trail.skip name) registry :=
  { keeps with
    unseen := fun other missing unfinished closed =>
      keeps.unseen other missing (fun finished => unfinished (List.mem_cons_of_mem _ finished))
        fun isOpen => by
          rcases List.mem_cons.1 isOpen with rfl | outer
          · exact unfinished List.mem_cons_self
          · exact closed outer
    pending := fun other isOpen => keeps.pending other (List.mem_cons_of_mem _ isOpen) }

theorem put (keeps : Keeps setting opened trail registry) {time : Time}
    (fresh : name ∉ trail.built) (missing : setting.registry.target? name = none)
    (ordinary : setting.registry.isPhony name = false)
    (dated : setting.host.modified name (setting.worldAfter trail.built) = some time) :
    Keeps setting (name :: opened) trail (registry.put ⟨name, [], [], some time⟩) where
  completed := keeps.completed
  phony := keeps.phony
  defaultGoal := keeps.defaultGoal
  kept other target declared fresh := by
    have different : other ≠ name := by
      rintro rfl
      rw [missing] at declared
      cases declared
    rw [Registry.target?_put, if_neg different]
    exact keeps.kept other target declared fresh
  stamped before other after split := by
    have different : other ≠ name := by
      rintro rfl
      exact fresh (by simp [split])
    rw [Registry.target?_put, if_neg different]
    exact keeps.stamped before other after split
  found other target undeclared present := by
    rw [Registry.target?_put] at present
    split at present
    · next same =>
      cases present
      cases same
      exact ⟨trail.built, time, List.prefix_rfl, ordinary, dated, rfl, rfl, rfl, fun _ => rfl⟩
    · exact keeps.found other target undeclared present
  unseen other undeclared unfinished closed := by
    have different : other ≠ name := by
      rintro rfl
      exact closed List.mem_cons_self
    rw [Registry.target?_put, if_neg different]
    exact keeps.unseen other undeclared unfinished fun isOpen =>
      closed (List.mem_cons_of_mem _ isOpen)
  pending other isOpen := by
    rw [Registry.target?_put]
    split
    · next same =>
      cases same
      exact ⟨trail.built, by rw [Setting.entry_of_missing missing, dated]⟩
    · next different =>
      exact keeps.pending other ((List.mem_cons.1 isOpen).resolve_left different)

theorem complete (keeps : Keeps setting (name :: opened) trail registry)
    (closed : name ∉ opened) (fresh : name ∉ trail.built)
    (through : Completes setting (setting.worldAfter trail.built) (setting.commands name)) :
    Keeps setting opened (trail.complete name)
      (registry.stamp name (setting.completion (setting.worldAfter trail.built) name).1) where
  completed before other after split := by
    rcases Trail.split_complete split with ⟨rfl, rfl⟩ | ⟨between, earlier⟩
    · exact through
    · exact keeps.completed before other between earlier
  phony := (Registry.phony_stamp _ _ _).trans keeps.phony
  defaultGoal := (Registry.defaultGoal_stamp _ _ _).trans keeps.defaultGoal
  kept other target declared unbuilt := by
    have different : other ≠ name := by
      rintro rfl
      exact unbuilt (by simp [Trail.complete])
    rw [Registry.target?_stamp, if_neg different]
    exact keeps.kept other target declared fun built => unbuilt (List.mem_append_left _ built)
  stamped before other after split := by
    rcases Trail.split_complete split with ⟨rfl, rfl⟩ | ⟨between, earlier⟩
    · obtain ⟨built, present⟩ := keeps.pending other List.mem_cons_self
      rw [Registry.target?_stamp, if_pos rfl, present]
      rfl
    · have different : other ≠ name := by
        rintro rfl
        exact fresh (by simp [earlier])
      rw [Registry.target?_stamp, if_neg different]
      exact keeps.stamped before other between earlier
  found other target undeclared stamped := by
    rw [Registry.target?_stamp] at stamped
    split at stamped
    · next same =>
      cases same
      obtain ⟨target, old, rfl⟩ := Option.map_eq_some_iff.1 stamped
      obtain ⟨built, time, earlier, ordinary, dated, named, alone, idle, _⟩ :=
        keeps.found _ target undeclared old
      exact ⟨built, time, earlier.trans (List.prefix_append _ _), ordinary, dated, named, alone,
        idle, fun unbuilt => absurd (by simp [Trail.complete]) unbuilt⟩
    · obtain ⟨built, time, earlier, ordinary, dated, named, alone, idle, keepsDate⟩ :=
        keeps.found other target undeclared stamped
      exact ⟨built, time, earlier.trans (List.prefix_append _ _), ordinary, dated, named, alone,
        idle, fun unbuilt => keepsDate fun built => unbuilt (List.mem_append_left _ built)⟩
  unseen other undeclared unfinished inner := by
    have different : other ≠ name := by
      rintro rfl
      exact unfinished List.mem_cons_self
    rw [Registry.target?_stamp, if_neg different]
    refine keeps.unseen other undeclared
      (fun finished => unfinished (List.mem_cons_of_mem _ finished)) fun isOpen => ?_
    rcases List.mem_cons.1 isOpen with same | outer
    · exact different same
    · exact inner outer
  pending other isOpen := by
    have different : other ≠ name := by
      rintro rfl
      exact closed isOpen
    rw [Registry.target?_stamp, if_neg different]
    exact keeps.pending other (List.mem_cons_of_mem _ isOpen)

end Keeps

end BuildRules.Walk
