import BuildRules.Registry

/-! What the registration of rules and of phony names adds to a registry. -/
namespace BuildRules
variable {dates : Text → Option Time} {rule : Rule} {registry after : Registry}

theorem Registry.target?_put_target (name other : Text) (date : Option Time) :
    (registry.put (rule.target name date)).target? other =
      if other = name then some (rule.target name date) else registry.target? other :=
  target?_put registry (rule.target name date) other

theorem Registry.mem_names (registry : Registry) (name : Text) :
    name ∈ registry.names ↔ (registry.target? name).isSome = true := by
  simp [names, target?]

/-- Names of a rule are declared: none of them was before, and none is named twice. -/
structure Declares (dates : Text → Option Time) (rule : Rule) (names : List Text)
    (registry after : Registry) : Prop where
  nodup : names.Nodup
  fresh : ∀ name ∈ names, registry.target? name = none
  phony : after.phony = registry.phony
  defaultGoal : after.defaultGoal = registry.defaultGoal
  declared : ∀ name ∈ names,
    after.target? name = some (rule.target name (registry.date dates name))
  kept : ∀ name, name ∉ names → after.target? name = registry.target? name

theorem Declares.of_addTargets {names : List Text}
    (added : Registry.addTargets dates rule names registry = (after, .ok ())) :
    Declares dates rule names registry after := by
  induction names generalizing registry with
  | nil =>
    cases added
    exact ⟨List.nodup_nil, by simp, rfl, rfl, by simp, fun _ _ => rfl⟩
  | cons name rest ih =>
    rw [Registry.addTargets] at added
    split at added
    · cases added
    · next unknown =>
      have missing : registry.target? name = none := by simpa using unknown
      have later := ih added
      have fresh : name ∉ rest := by
        intro again
        have absent := later.fresh name again
        rw [Registry.target?_put_target, if_pos rfl] at absent
        cases absent
      have other {other : Text} (member : other ∈ rest) : other ≠ name := by
        rintro rfl
        exact fresh member
      refine ⟨List.nodup_cons.2 ⟨fresh, later.nodup⟩, ?_, later.phony, later.defaultGoal, ?_, ?_⟩
      · intro another member
        rcases List.mem_cons.1 member with rfl | member
        · exact missing
        · have absent := later.fresh another member
          rwa [Registry.target?_put_target, if_neg (other member)] at absent
      · intro another member
        rcases List.mem_cons.1 member with rfl | member
        · rw [later.kept another fresh, Registry.target?_put_target, if_pos rfl]
        · exact later.declared another member
      · intro another absent
        rw [List.mem_cons, not_or] at absent
        rw [later.kept another absent.2, Registry.target?_put_target, if_neg absent.1]

namespace Registry

@[simp] theorem phony_addTargets (dates : Text → Option Time) (rule : Rule) (names : List Text)
    (registry : Registry) : (addTargets dates rule names registry).1.phony = registry.phony := by
  induction names generalizing registry with
  | nil => rfl
  | cons name rest ih =>
    rw [addTargets]
    split
    · rfl
    · exact ih _

@[simp] theorem defaultGoal_addTargets (dates : Text → Option Time) (rule : Rule)
    (names : List Text) (registry : Registry) :
    (addTargets dates rule names registry).1.defaultGoal = registry.defaultGoal := by
  induction names generalizing registry with
  | nil => rfl
  | cons name rest ih =>
    rw [addTargets]
    split
    · rfl
    · exact ih _

theorem addTargets_ok {names : List Text} (nodup : names.Nodup)
    (fresh : ∀ name ∈ names, registry.target? name = none) :
    ∃ after, addTargets dates rule names registry = (after, .ok ()) := by
  induction names generalizing registry with
  | nil => exact ⟨registry, rfl⟩
  | cons name rest ih =>
    obtain ⟨missing, others⟩ := List.forall_mem_cons.1 fresh
    obtain ⟨absent, nodup⟩ := List.nodup_cons.1 nodup
    rw [addTargets, if_neg (by simp [missing])]
    refine ih nodup fun other member => ?_
    have different : other ≠ name := by
      rintro rfl
      exact absent member
    rw [target?_put_target, if_neg different, others other member]

/-- How a registration goes depends on which names are registered, and where the rule stands. -/
theorem addTargets_congr {other : Registry} {rule' : Rule} (line : rule.line = rule'.line)
    (dates dates' : Text → Option Time) {names : List Text}
    (known : ∀ name, (registry.target? name).isSome = (other.target? name).isSome) :
    (addTargets dates rule names registry).2 = (addTargets dates' rule' names other).2 ∧
      ∀ name, ((addTargets dates rule names registry).1.target? name).isSome =
        ((addTargets dates' rule' names other).1.target? name).isSome := by
  induction names generalizing registry other with
  | nil => exact ⟨rfl, known⟩
  | cons name rest ih =>
    rw [addTargets, addTargets, ← known name, line]
    split
    · exact ⟨rfl, known⟩
    · refine ih fun another => ?_
      rw [target?_put_target, target?_put_target]
      split
      · rfl
      · exact known another

theorem addRule_congr {other : Registry} {rule' : Rule} (targets : rule.targets = rule'.targets)
    (line : rule.line = rule'.line) (dates dates' : Text → Option Time)
    (known : ∀ name, (registry.target? name).isSome = (other.target? name).isSome) :
    (registry.addRule dates rule).2 = (other.addRule dates' rule').2 ∧
      ∀ name, ((registry.addRule dates rule).1.target? name).isSome =
        ((other.addRule dates' rule').1.target? name).isSome := by
  rw [addRule, addRule, targets]
  exact addTargets_congr line dates dates' known

/-- A registration fails at a name that is taken, and blames the header of the rule. -/
theorem addTargets_error {names : List Text} {error : Error}
    (failed : (addTargets dates rule names registry).2 = .error error) :
    ∃ name, error = .badLine (.duplicateTarget name) rule.line.number rule.line.text := by
  induction names generalizing registry with
  | nil => cases failed
  | cons name rest ih =>
    rw [addTargets] at failed
    split at failed
    · cases failed
      exact ⟨name, rfl⟩
    · exact ih failed

/-- What is left behind by a registration, also by one that stops at a name. -/
theorem target?_addTargets (dates : Text → Option Time) (rule : Rule) (names : List Text)
    (registry : Registry) (name : Text) :
    (addTargets dates rule names registry).1.target? name = registry.target? name ∨
      registry.target? name = none ∧ name ∈ names ∧
        ∃ timestamp, (addTargets dates rule names registry).1.target? name =
          some (rule.target name timestamp) := by
  induction names generalizing registry with
  | nil => exact .inl rfl
  | cons first rest ih =>
    rw [addTargets]
    split
    · exact .inl rfl
    · next unknown =>
      have missing : registry.target? first = none := by simpa using unknown
      have later := ih (registry.put (rule.target first (registry.date dates first)))
      rw [target?_put_target] at later
      by_cases same : name = first
      · subst same
        rw [if_pos rfl] at later
        have kept := later.resolve_right (by simp)
        exact .inr ⟨missing, List.mem_cons_self, _, kept⟩
      · rw [if_neg same] at later
        rcases later with kept | ⟨absent, member, added⟩
        · exact .inl kept
        · exact .inr ⟨absent, List.mem_cons_of_mem _ member, added⟩

/-- The first name is registered afterwards, by this registration or by an earlier one. -/
theorem isSome_addTargets_cons (dates : Text → Option Time) (rule : Rule) (name : Text)
    (rest : List Text) (registry : Registry) :
    ((addTargets dates rule (name :: rest) registry).1.target? name).isSome = true := by
  rw [addTargets]
  split
  · next known => exact known
  · let put := registry.put (rule.target name (registry.date dates name))
    have here : put.target? name = some (rule.target name (registry.date dates name)) := by
      rw [target?_put_target, if_pos rfl]
    rcases target?_addTargets dates rule rest put name with kept | ⟨missing, _⟩
    · rw [kept, here]
      rfl
    · rw [here] at missing
      cases missing

end Registry

/-- The registration of a rule declares its targets, and the first of them becomes the default
goal if there is none yet. -/
theorem Declares.of_addRule (added : registry.addRule dates rule = (after, .ok ())) :
    Declares dates rule rule.targets
      { registry with defaultGoal := registry.defaultGoal.or rule.targets.head? } after :=
  .of_addTargets added

namespace Registry

@[simp] theorem target?_addPhonies (names : List Text) (registry : Registry) (name : Text) :
    (names.foldl addPhony registry).target? name = registry.target? name := by
  induction names generalizing registry with
  | nil => rfl
  | cons first rest ih => exact ih (registry.addPhony first)

@[simp] theorem defaultGoal_addPhonies (names : List Text) (registry : Registry) :
    (names.foldl addPhony registry).defaultGoal = registry.defaultGoal := by
  induction names generalizing registry with
  | nil => rfl
  | cons first rest ih => exact ih (registry.addPhony first)

theorem isPhony_addPhonies (names : List Text) (registry : Registry) (name : Text) :
    (names.foldl addPhony registry).isPhony name = true ↔
      name ∈ names ∨ registry.isPhony name = true := by
  induction names generalizing registry with
  | nil => simp
  | cons first rest ih =>
    rw [List.foldl_cons, ih, isPhony_addPhony, Bool.or_eq_true, beq_iff_eq, List.mem_cons,
      eq_comm (a := first), or_left_comm, or_assoc]

end Registry

/-- These rules are registered, each name once, and nothing else is. -/
structure Registered (rules : List Rule) (registry : Registry) : Prop where
  nodup : (rules.flatMap Rule.targets).Nodup
  declared : ∀ rule ∈ rules, ∀ name ∈ rule.targets,
    ∃ timestamp, registry.target? name = some (rule.target name timestamp)
  only : ∀ name, (registry.target? name).isSome = true → name ∈ rules.flatMap Rule.targets
  defaultGoal : registry.defaultGoal = (rules.flatMap Rule.targets).head?

namespace Registered
variable {rules : List Rule}

theorem empty : Registered [] .empty where
  nodup := List.nodup_nil
  declared _ member := by cases member
  only name present := by simp at present
  defaultGoal := rfl

theorem isSome_iff (registered : Registered rules registry) (name : Text) :
    (registry.target? name).isSome = true ↔ name ∈ rules.flatMap Rule.targets := by
  refine ⟨registered.only name, fun member => ?_⟩
  obtain ⟨rule, isRule, member⟩ := List.mem_flatMap.1 member
  obtain ⟨timestamp, present⟩ := registered.declared rule isRule name member
  rw [present]
  rfl

theorem addPhonies (registered : Registered rules registry) (names : List Text) :
    Registered rules (names.foldl Registry.addPhony registry) where
  nodup := registered.nodup
  declared rule isRule name member := by
    simpa using registered.declared rule isRule name member
  only name present := registered.only name (by simpa using present)
  defaultGoal := by simpa using registered.defaultGoal

/-- It does not matter where a rule stands. -/
theorem move {rule : Rule} {line : Line}
    (registered : Registered (rules ++ [{ rule with line }]) registry) :
    Registered (rules ++ [rule]) registry where
  nodup := by simpa using registered.nodup
  declared other isRule name member := by
    rcases List.mem_append.1 isRule with earlier | latest
    · exact registered.declared other (List.mem_append_left _ earlier) name member
    · cases List.mem_singleton.1 latest
      exact registered.declared { rule with line } (by simp) name member
  only name present := by simpa using registered.only name present
  defaultGoal := by simpa using registered.defaultGoal

theorem addRule (registered : Registered rules registry)
    (added : registry.addRule dates rule = (after, .ok ())) :
    Registered (rules ++ [rule]) after := by
  have declares := Declares.of_addRule added
  have fresh (name : Text) (member : name ∈ rule.targets) :
      name ∉ rules.flatMap Rule.targets := by
    intro earlier
    have present := (registered.isSome_iff name).2 earlier
    have absent : registry.target? name = none := declares.fresh name member
    rw [absent] at present
    cases present
  have names : (rules ++ [rule]).flatMap Rule.targets =
      rules.flatMap Rule.targets ++ rule.targets := by simp
  refine ⟨?_, ?_, ?_, ?_⟩
  · rw [names]
    refine List.nodup_append.2 ⟨registered.nodup, declares.nodup, ?_⟩
    rintro name earlier _ member rfl
    exact fresh name member earlier
  · intro other isRule name member
    rcases List.mem_append.1 isRule with earlier | latest
    · have old : name ∈ rules.flatMap Rule.targets :=
        List.mem_flatMap.2 ⟨other, earlier, member⟩
      obtain ⟨timestamp, present⟩ := registered.declared other earlier name member
      refine ⟨timestamp, ?_⟩
      rw [declares.kept name fun again => fresh name again old]
      exact present
    · cases List.mem_singleton.1 latest
      exact ⟨_, declares.declared name member⟩
  · intro name present
    rw [names, List.mem_append]
    by_cases member : name ∈ rule.targets
    · exact .inr member
    · rw [declares.kept name member] at present
      exact .inl (registered.only name present)
  · rw [names, List.head?_append, declares.defaultGoal, registered.defaultGoal]

end Registered

end BuildRules
