import BuildRules.Proofs.Walk.Course
import Mathlib.Data.List.Chain
import Mathlib.Logic.Relation

/-! Cycles of prerequisites. A walk that reports a cycle has come back to a name in progress, and
nothing of the cycle was built. A walk that comes through leaves none behind: the order of
building numbers what was entered, and the numbers fall along prerequisites. -/
namespace BuildRules.Walk
open Relation
variable {σ : Type} {setting : Setting σ} {request goal name next : Text} {opened : List Text}
  {trail : Trail}

theorem Reaches.exists_goal (reached : Reaches setting request opened trail name) :
    ∃ goal, Walk.goal setting.registry request = .ok goal := by
  induction reached with
  | goal named => exact ⟨_, named⟩
  | step _ _ _ _ _ _ ih => exact ih

theorem Reaches.leads_from_goal (reached : Reaches setting request opened trail name)
    (named : Walk.goal setting.registry request = .ok goal) :
    ReflTransGen (Leads setting) goal name := by
  induction reached with
  | goal other =>
    cases named.symm.trans other
    exact .refl
  | step _ _ _ enters split _ ih => exact ih.tail (Setting.leads_of_enters enters (by simp [split]))

/-- The reported chain goes down from the first visit of the name to the second. -/
theorem Reaches.chain_eq (reached : Reaches setting request opened trail name)
    (isOpen : name ∈ opened) :
    ∃ path, chain opened name = name :: path ++ [name] ∧ (name :: path).Nodup ∧
      (name :: path ++ [name]).IsChain (Leads setting) ∧ ∀ other ∈ path, other ∈ opened := by
  obtain ⟨inner, outer, rfl, fresh⟩ := List.eq_append_cons_of_mem isOpen
  have taken : (inner ++ name :: outer).takeWhile (· != name) = inner := by
    rw [List.takeWhile_append_of_pos]
    · simp
    · intro other member
      rw [bne_iff_ne]
      rintro rfl
      exact fresh member
  refine ⟨inner.reverse, by rw [chain, taken], ?_, ?_, fun other member => ?_⟩
  · have apart := (List.nodup_append.1 reached.nodup).1
    exact List.nodup_cons.2 ⟨by simpa using fresh, List.nodup_reverse.2 apart⟩
  · have path : (name :: inner ++ [name]).IsChain fun next outer => Leads setting outer next :=
      reached.isChain.prefix ⟨outer, by simp⟩
    have back := List.isChain_reverse.2 path
    simpa using back
  · exact List.mem_append_left _ (List.mem_reverse.1 member)

theorem Stops.of_cycle {names : List Text} {begun : List Recipe}
    (stops : Stops setting request (.cycle names) opened trail begun) :
    ∃ name, Reaches setting request opened trail name ∧ name ∈ opened ∧
      names = chain opened name ∧ begun = [] := by
  cases stops with
  | cycle reached isOpen => exact ⟨_, reached, isOpen, rfl, rfl⟩
  | failed _ _ _ _ _ _ _ fails =>
    obtain ⟨failure, _, same⟩ := fails.failed
    cases failure <;> cases same

namespace Sound
variable (sound : Sound setting trail)
include sound

theorem built_of_leads (finished : name ∈ trail.finished) (leads : Leads setting name next) :
    name ∈ trail.built := by
  by_contra unbuilt
  obtain ⟨built, skips⟩ := sound.passed name finished unbuilt
  exact Setting.not_skips_of_leads leads skips

theorem finished_of_leads (finished : name ∈ trail.finished) (leads : Leads setting name next) :
    next ∈ trail.finished :=
  sound.walked name (sound.built_of_leads finished leads) next
    (Setting.mem_prerequisites_of_leads leads)

theorem finished_of_path (finished : goal ∈ trail.finished)
    (path : ReflTransGen (Leads setting) goal name) : name ∈ trail.finished := by
  induction path with
  | refl => exact finished
  | tail _ leads ih => exact sound.finished_of_leads ih leads

/-- Along a path of prerequisites the places in the order of building fall. -/
theorem idxOf_lt_of_path (finished : name ∈ trail.finished)
    (path : TransGen (Leads setting) name next) (built : next ∈ trail.built) :
    trail.built.idxOf next < trail.built.idxOf name := by
  induction path with
  | single leads =>
    exact sound.idxOf_lt (sound.built_of_leads finished leads)
      (Setting.mem_prerequisites_of_leads leads) built
  | tail path leads ih =>
    have between := sound.finished_of_path finished path.to_reflTransGen
    have earlier := sound.built_of_leads between leads
    have last := sound.idxOf_lt earlier (Setting.mem_prerequisites_of_leads leads) built
    have first := ih earlier
    omega

theorem acyclic (finished : name ∈ trail.finished) : ¬ TransGen (Leads setting) name name := by
  intro cycle
  obtain ⟨next, leads, _⟩ := TransGen.head'_iff.1 cycle
  have less := sound.idxOf_lt_of_path finished cycle (sound.built_of_leads finished leads)
  omega

end Sound

/-- A reported cycle is one: a path of prerequisites that comes back to its start and to no other
name, reached from the goal, with all its names still in progress. When a request comes through,
the goal leads to no cycle. -/
theorem cycle_of_outcome (setting : Setting σ) (request : Text) :
    (∀ chain, (setting.outcome request).answer = .error (.cycle chain) →
      ∃ goal name path trail, Walk.goal setting.registry request = .ok goal ∧
        chain = name :: path ++ [name] ∧ (name :: path).Nodup ∧ chain.IsChain (Leads setting) ∧
        ReflTransGen (Leads setting) goal name ∧
        (∃ opened, Reaches setting request opened trail name ∧ ∀ other ∈ chain, other ∈ opened) ∧
        Event.actions (setting.outcome request).events = setting.blocks trail.built ∧
        ∀ other ∈ chain, other ∉ trail.built) ∧
    ((setting.outcome request).answer = .ok () →
      ∃ goal, Walk.goal setting.registry request = .ok goal ∧
        ¬ ∃ name, ReflTransGen (Leads setting) goal name ∧ TransGen (Leads setting) name name) := by
  have course := course_outcome setting request
  rcases came : setting.outcome request with ⟨answer, events, build⟩
  rw [came] at course
  constructor
  · rintro chain rfl
    cases course with
    | @off _ _ opened trail _ _ stops seen _ =>
      obtain ⟨name, reached, isOpen, rfl, rfl⟩ := stops.of_cycle
      obtain ⟨goal, named⟩ := reached.exists_goal
      obtain ⟨path, chain_eq, nodup, leads, inner⟩ := reached.chain_eq isOpen
      have allOpen : ∀ other ∈ Walk.chain opened name, other ∈ opened := by
        intro other member
        rw [chain_eq] at member
        rcases List.mem_append.1 member with down | last
        · rcases List.mem_cons.1 down with rfl | below
          · exact isOpen
          · exact inner other below
        · rwa [List.mem_singleton.1 last]
      exact ⟨goal, name, path, trail, named, chain_eq, nodup, chain_eq ▸ leads,
        reached.leads_from_goal named, ⟨opened, reached, allOpen⟩, by simpa using seen,
        fun other member built => reached.unfinished other (allOpen other member)
          (reached.sound.finished other built)⟩
  · rintro rfl
    cases course with
    | through named visits _ _ =>
      refine ⟨_, named, ?_⟩
      rintro ⟨name, path, cycle⟩
      have sound := visits.sound .start
      have finished := sound.finished_of_path (visits.mem_finished List.mem_cons_self) path
      exact sound.acyclic finished cycle

/-- Targets with a cycle below one goal, and a cycle below another that is cut by a target newer
than the request. -/
def wheel : Setting Unit where
  host :=
    { run := fun _ _ _ => (⟨.ok [], [], []⟩, ())
      modified := fun _ _ => none
      read := fun _ _ => .error .notFound
      now := fun _ => (7, ()) }
  options := {}
  started := 5
  registry :=
    let rule (name : String) (prerequisites : List String) (date : Option Time) : Target :=
      ⟨name.toList, prerequisites.map String.toList, ["make $@".toList], date⟩
    [rule "all" ["hub", "spoke"] none, rule "hub" [] none, rule "spoke" ["rim"] none,
      rule "rim" ["hub", "axle", "spoke"] none, rule "axle" [] none, rule "cut" ["spare"] none,
      rule "spare" ["cut"] (some 9)].foldl Registry.put .empty
  world := ()

theorem cycle_of_outcome_wheel :
    ((wheel.outcome "all".toList).answer =
        .error (.cycle ["spoke".toList, "rim".toList, "spoke".toList]) ∧
      ∃ goal name path trail, Walk.goal wheel.registry "all".toList = .ok goal ∧
        ["spoke".toList, "rim".toList, "spoke".toList] = name :: path ++ [name] ∧
        (name :: path).Nodup ∧
        ["spoke".toList, "rim".toList, "spoke".toList].IsChain (Leads wheel) ∧
        ReflTransGen (Leads wheel) goal name ∧
        (∃ opened, Reaches wheel "all".toList opened trail name ∧
          ∀ other ∈ ["spoke".toList, "rim".toList, "spoke".toList], other ∈ opened) ∧
        Event.actions (wheel.outcome "all".toList).events = wheel.blocks trail.built ∧
        ∀ other ∈ ["spoke".toList, "rim".toList, "spoke".toList], other ∉ trail.built) ∧
    ((wheel.outcome "cut".toList).answer = .ok () ∧
      ∃ goal, Walk.goal wheel.registry "cut".toList = .ok goal ∧
        ¬ ∃ name, ReflTransGen (Leads wheel) goal name ∧ TransGen (Leads wheel) name name) :=
  ⟨⟨rfl, (cycle_of_outcome wheel "all".toList).1 _ rfl⟩,
    ⟨rfl, (cycle_of_outcome wheel "cut".toList).2 rfl⟩⟩

end BuildRules.Walk
