import BuildRules.Proofs.History
import BuildRules.Proofs.Walk.Companions

/-! Rules and phony names that are declared one after the other, while the files keep their dates.
As long as no target is declared twice, the order does not matter to what is built. It decides about
the default goal, and a name that is declared phony after its rule keeps the date of its file, but
nothing looks at that date. -/
namespace BuildRules

/-- What a build file declares. -/
inductive Declaration
  | rule (added : Rule)
  | phony (name : Text)
deriving DecidableEq

namespace Declaration

def rule? : Declaration → Option Rule
  | rule added => some added
  | phony _ => none

/-- The call that makes the declaration. -/
def call (dates : Text → Option Time) : Declaration → Registry.Call
  | rule added => .addRule dates added
  | phony name => .addPhony name

def rules (declarations : List Declaration) : List Rule := declarations.filterMap rule?

theorem rules_concat_rule (declarations : List Declaration) (added : Rule) :
    rules (declarations ++ [rule added]) = rules declarations ++ [added] := by
  simp [rules, rule?]

theorem rules_concat_phony (declarations : List Declaration) (name : Text) :
    rules (declarations ++ [phony name]) = rules declarations := by
  simp [rules, rule?]

end Declaration

open Declaration
variable {dates : Text → Option Time} {declarations declarations' : List Declaration}
  {registry other : Registry}

/-- The registry of these declarations. -/
def Registry.ofDeclarations (dates : Text → Option Time) (declarations : List Declaration) :
    Registry :=
  history (declarations.map (call dates))

theorem Registry.ofDeclarations_concat (dates : Text → Option Time)
    (declarations : List Declaration) (declaration : Declaration) :
    ofDeclarations dates (declarations ++ [declaration]) =
      (ofDeclarations dates declarations).after (declaration.call dates) := by
  simp only [ofDeclarations, List.map_append, List.map_cons, List.map_nil, history_concat]

/-- The dates under a name are the same, or nothing looks at them. -/
def Registry.Overlooks (registry : Registry) (name : Text) (date date' : Option Time) : Prop :=
  date = date' ∨ registry.isPhony name = true

/-- A registry has what was declared, in whatever order. -/
structure Declared (dates : Text → Option Time) (declarations : List Declaration)
    (registry : Registry) : Prop where
  registered : Registered (rules declarations) registry
  phony : ∀ name, registry.isPhony name = true ↔ .phony name ∈ declarations
  /-- The date is that of the file, unless nothing looks at it. -/
  dated : ∀ name target, registry.target? name = some target →
    target.timestamp = dates name ∨ registry.isPhony name = true

namespace Declared

theorem empty (dates : Text → Option Time) : Declared dates [] .empty where
  registered := .empty
  phony name := by simp [Registry.isPhony, Registry.empty]
  dated name target present := by simp at present

theorem addPhony (declared : Declared dates declarations registry) (name : Text) :
    Declared dates (declarations ++ [.phony name]) (registry.addPhony name) where
  registered := by
    rw [rules_concat_phony]
    exact declared.registered.addPhonies [name]
  phony another := by
    rw [Registry.isPhony_addPhony, Bool.or_eq_true, beq_iff_eq, declared.phony, List.mem_append,
      List.mem_singleton, Declaration.phony.injEq, or_comm, eq_comm (a := name)]
  dated another target present := by
    refine (declared.dated another target present).imp_right fun isPhony => ?_
    rw [Registry.isPhony_addPhony, isPhony, Bool.or_true]

/-- A rule is taken up when all its names are new. -/
theorem addRule (declared : Declared dates declarations registry) (rule : Rule)
    (distinct : ((rules (declarations ++ [.rule rule])).flatMap Rule.targets).Nodup) :
    Declared dates (declarations ++ [.rule rule]) (registry.addRule dates rule).1 := by
  have all := rules_concat_rule declarations rule
  rw [all, List.flatMap_append, List.flatMap_singleton, List.nodup_append] at distinct
  obtain ⟨_, own, apart⟩ := distinct
  have fresh (name : Text) (member : name ∈ rule.targets) : registry.target? name = none := by
    cases present : registry.target? name with
    | none => rfl
    | some target =>
      have earlier := declared.registered.only name (by rw [present]; rfl)
      exact (apart name earlier name member rfl).elim
  obtain ⟨after, added⟩ : ∃ after, registry.addRule dates rule = (after, .ok ()) :=
    Registry.addTargets_ok own fresh
  have declares := Declares.of_addRule added
  have isPhony (name : Text) : after.isPhony name = registry.isPhony name := by
    rw [Registry.isPhony, Registry.isPhony, declares.phony]
  rw [added]
  refine ⟨?_, ?_, ?_⟩
  · rw [all]
    exact declared.registered.addRule added
  · intro name
    rw [isPhony, declared.phony]
    simp
  · intro name target present
    rw [isPhony]
    by_cases member : name ∈ rule.targets
    · rw [declares.declared name member] at present
      cases present
      cases phony : registry.isPhony name with
      | true => exact .inr rfl
      | false =>
        have ordinary : Registry.date _ dates name = dates name := if_neg (by simpa using phony)
        exact .inl ordinary
    · rw [declares.kept name member] at present
      exact declared.dated name target present

theorem ofDeclarations (dates : Text → Option Time)
    (distinct : ((rules declarations).flatMap Rule.targets).Nodup) :
    Declared dates declarations (.ofDeclarations dates declarations) := by
  induction declarations using List.reverseRecOn with
  | nil => exact .empty dates
  | append_singleton earlier declaration ih =>
    rw [Registry.ofDeclarations_concat]
    cases declaration with
    | rule rule =>
      refine (ih ?_).addRule rule distinct
      rw [rules_concat_rule, List.flatMap_append] at distinct
      exact (List.nodup_append.1 distinct).1
    | phony name =>
      rw [rules_concat_phony] at distinct
      exact (ih distinct).addPhony name

theorem isPhony_eq (declared : Declared dates declarations registry)
    (declared' : Declared dates declarations' other) (perm : declarations.Perm declarations')
    (name : Text) : registry.isPhony name = other.isPhony name :=
  Bool.eq_iff_iff.2 ((declared.phony name).trans (perm.mem_iff.trans (declared'.phony name).symm))

/-- Registries with the same declarations differ at most in the dates of phony names. -/
theorem like (declared : Declared dates declarations registry)
    (declared' : Declared dates declarations' other) (perm : declarations.Perm declarations') :
    registry.Like registry.Overlooks other where
  phony := Std.ExtTreeSet.ext_contains (declared.isPhony_eq declared' perm)
  targets name := by
    have rulesPerm : (rules declarations).Perm (rules declarations') := perm.filterMap rule?
    cases here : registry.target? name with
    | none =>
      cases there : other.target? name with
      | none => exact .none
      | some target =>
        have listed := declared'.registered.only name (by rw [there]; rfl)
        obtain ⟨rule, isRule, member⟩ := List.mem_flatMap.1 listed
        obtain ⟨_, present⟩ :=
          declared.registered.declared rule (rulesPerm.mem_iff.2 isRule) name member
        rw [here] at present
        cases present
    | some target =>
      have listed := declared.registered.only name (by rw [here]; rfl)
      obtain ⟨rule, isRule, member⟩ := List.mem_flatMap.1 listed
      obtain ⟨date, present⟩ := declared.registered.declared rule isRule name member
      obtain ⟨date', present'⟩ :=
        declared'.registered.declared rule (rulesPerm.mem_iff.1 isRule) name member
      have dated := declared.dated name _ present
      have dated' := declared'.dated name _ present'
      rw [← declared.isPhony_eq declared' perm] at dated'
      rw [here] at present
      rw [present, present']
      refine .some ⟨rfl, ?_⟩
      rcases dated with same | phony
      · exact dated'.imp_left fun same' => same.trans same'.symm
      · exact .inr phony

end Declared

namespace Walk

theorem goal_of_ne (registry : Registry) {request : Text} (named : request ≠ []) :
    goal registry request = .ok request := by
  rw [goal, if_neg (by simpa using named)]

theorem isNewer_of_overlooks {name : Text} {date date' : Option Time}
    (overlooks : registry.Overlooks name date date') (started : Time) :
    isNewer registry started name date = isNewer registry started name date' := by
  rcases overlooks with rfl | phony
  · rfl
  · rw [isNewer_of_isPhony phony, isNewer_of_isPhony phony]

/-- The order of declarations does not matter, when no target is declared twice: the same names have
targets, which are made alike, the same names are phony, and dates differ under phony names alone. A
request that names its goal shows the same and comes out the same. -/
theorem process_of_perm {declarations declarations' : List Declaration}
    (perm : declarations.Perm declarations')
    (distinct : ((rules declarations).flatMap Rule.targets).Nodup)
    (dates : Text → Option Time) :
    let registry := Registry.ofDeclarations dates declarations
    let other := Registry.ofDeclarations dates declarations'
    registry.names = other.names ∧
      registry.Like registry.Overlooks other ∧
      ∀ (σ : Type) (host : Host σ) (options : Options) (request : Text) (started : Time) (s : σ),
        request ≠ [] →
        let done := process host options request started ⟨registry, s⟩
        let again := process host options request started ⟨other, s⟩
        done.answer = again.answer ∧ done.events = again.events ∧
          done.state.world = again.state.world := by
  have distinct' : ((rules declarations').flatMap Rule.targets).Nodup :=
    ((perm.filterMap rule?).flatMap_right Rule.targets).nodup_iff.1 distinct
  have like := (Declared.ofDeclarations dates distinct).like (.ofDeclarations dates distinct') perm
  refine ⟨like.names_eq, like, fun σ host options request started s named => ?_⟩
  have companions : Companions host host options options started
      (Registry.ofDeclarations dates declarations)
      (.same σ (Registry.ofDeclarations dates declarations).Overlooks) fun _ _ => True :=
    companions_of_run rfl (fun _ => rfl)
      (fun _ _ _ overlooks => isNewer_of_overlooks overlooks started)
      fun s name _ _ => rel_refl (fun _ => .inl rfl) _
  have goals : goal (Registry.ofDeclarations dates declarations) request =
      goal (Registry.ofDeclarations dates declarations') request := by
    rw [goal_of_ne _ named, goal_of_ne _ named]
  exact process_same (s := ⟨_, s⟩) (t := ⟨_, s⟩) companions goals rfl like

/-- A rule and its phony name, both after the rule that needs them. -/
def lateDeclarations : List Declaration :=
  let rule (name : String) (prerequisites recipes : List String) : Declaration :=
    .rule ⟨[name.toList], prerequisites.map String.toList, recipes.map String.toList, ⟨1, []⟩⟩
  [rule "all" ["clean", "app"] [], rule "clean" [] ["rm $@"], rule "app" ["source"] ["make $@"],
    .phony "clean".toList]

/-- A host with files that stay as they are. One is dated far ahead. -/
def filed : Host Nat where
  run _ _ runs := (⟨.ok [], [], []⟩, runs + 1)
  modified name _ :=
    if name = "source".toList then some 3 else if name = "clean".toList then some 500 else none
  read _ _ := .error .notFound
  now runs := (runs, runs)

theorem process_of_perm_reversed :
    let dates := fun name => filed.modified name 0
    let registry := Registry.ofDeclarations dates lateDeclarations
    let other := Registry.ofDeclarations dates lateDeclarations.reverse
    lateDeclarations.Perm lateDeclarations.reverse ∧
      ((rules lateDeclarations).flatMap Rule.targets).Nodup ∧
      (registry.target? "clean".toList).map Target.timestamp = some (some 500) ∧
      (other.target? "clean".toList).map Target.timestamp = some none ∧
      registry.defaultGoal = some "all".toList ∧ other.defaultGoal = some "app".toList ∧
      registry.Like registry.Overlooks other ∧
      Event.actions (process filed {} "all".toList 100 ⟨registry, 0⟩).events =
        ["rm clean", "make app"].flatMap
          (fun line => [.echo line.toList, .run line.toList false]) ∧
      (process filed {} "all".toList 100 ⟨other, 0⟩).events =
        (process filed {} "all".toList 100 ⟨registry, 0⟩).events := by
  have perm : lateDeclarations.Perm lateDeclarations.reverse := (List.reverse_perm _).symm
  have distinct : ((rules lateDeclarations).flatMap Rule.targets).Nodup := by decide
  obtain ⟨_, like, same⟩ := process_of_perm perm distinct fun name => filed.modified name 0
  obtain ⟨_, events, _⟩ := same Nat filed {} "all".toList 100 0 (by decide)
  exact ⟨perm, distinct, by decide +kernel, by decide +kernel, by decide +kernel,
    by decide +kernel, like, by decide +kernel, events.symm⟩

end Walk

end BuildRules
