import BuildRules.Proofs.Walk.Course

/-! Requests that come through. What they show is the blocks of the targets that the goal leads
to, in post-order: each target once, after the prerequisites that were entered. -/
namespace BuildRules.Walk
variable {σ : Type}

/-- The targets of a request that comes through are the post-order of its goal. The goal is the
last of them, unless it is newer than the request, and then there are none. -/
theorem events_of_success (setting : Setting σ) (request : Text)
    (success : (setting.outcome request).answer = .ok ()) :
    ∃ goal targets, Walk.goal setting.registry request = .ok goal ∧
      PostOrder setting goal targets ∧
      (∀ others, PostOrder setting goal others → others = targets) ∧
      Event.actions (setting.outcome request).events = setting.blocks targets ∧
      targets.Nodup ∧
      (∀ before name after, targets = before ++ name :: after →
        ∀ needed ∈ setting.prerequisites name, needed ∈ targets → needed ∈ before) ∧
      (setting.Skips [] goal → targets = []) ∧
      (¬ setting.Skips [] goal → targets.getLast? = some goal) := by
  have course := course_outcome setting request
  rcases came : setting.outcome request with ⟨answer, events, build⟩
  rw [came] at course success
  cases course with
  | off => cases success
  | @through goal last _ _ named visits seen =>
    have order : PostOrder setting goal last.built := ⟨last, visits, rfl⟩
    exact ⟨goal, last.built, named, order, fun _ => order.unique, seen, order.nodup, order.ordered,
      order.eq_nil, order.getLast?_eq⟩

/-- Targets of which two share a prerequisite. One file is dated after the request, and another
is there only after the recipe of the shared target. -/
def diamond : Setting Nat where
  host :=
    { run := fun line _ runs =>
        (⟨if line = "touch left".toList then .error (.ended (some 1)) else .ok [], [], []⟩,
          runs + 1)
      modified := fun name runs => if name = "source".toList ∧ 0 < runs then some 3 else none
      read := fun _ _ => .error .notFound
      now := fun runs => (100 + runs, runs) }
  options := {}
  started := 5
  registry :=
    let rule (name : String) (prerequisites recipes : List String) (date : Option Time) : Target :=
      ⟨name.toList, prerequisites.map String.toList, recipes.map String.toList, date⟩
    [rule "all" ["left", "right", "left"] ["link $@"] none,
      rule "left" ["base", "source"] ["@make $@", "-touch $@"] none,
      rule "right" ["fresh", "base"] ["make $@"] none,
      rule "base" [] ["make $@"] (some 1),
      rule "fresh" ["absent"] ["make $@"] (some 9)].foldl Registry.put .empty
  world := 0

/-- In the diamond the shared target is built once, and its file is found when it is there. -/
theorem events_of_success_diamond :
    (diamond.outcome "all".toList).answer = .ok () ∧
      Event.actions (diamond.outcome "all".toList).events = diamond.blocks
        ["base".toList, "source".toList, "left".toList, "right".toList, "all".toList] ∧
      ∃ goal targets, Walk.goal diamond.registry "all".toList = .ok goal ∧
        PostOrder diamond goal targets ∧
        (∀ others, PostOrder diamond goal others → others = targets) ∧
        Event.actions (diamond.outcome "all".toList).events = diamond.blocks targets ∧
        targets.Nodup ∧
        (∀ before name after, targets = before ++ name :: after →
          ∀ needed ∈ diamond.prerequisites name, needed ∈ targets → needed ∈ before) ∧
        (diamond.Skips [] goal → targets = []) ∧
        (¬ diamond.Skips [] goal → targets.getLast? = some goal) :=
  ⟨rfl, rfl, events_of_success diamond "all".toList rfl⟩

end BuildRules.Walk
