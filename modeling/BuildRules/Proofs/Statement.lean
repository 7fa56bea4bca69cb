import BuildRules.Statement
import Mathlib.Data.List.TakeWhile

/-! Assignments and headers by their words. -/
namespace BuildRules

theorem Assignment.ofWords?_eq_some {words : List Text} {assignment : Assignment} :
    ofWords? words = some assignment ↔
      ∃ value, assignment.value = Text.join [' '] value ∧
        (words = assignment.name :: ['='] :: value ∨
          words = assignment.name :: [':'] :: ['='] :: value) := by
  obtain ⟨name, text⟩ := assignment
  constructor
  · intro said
    unfold ofWords? at said
    split at said
    · cases said
      exact ⟨_, rfl, .inl rfl⟩
    · cases said
      exact ⟨_, rfl, .inr rfl⟩
    · cases said
  · rintro ⟨value, rfl, rfl | rfl⟩ <;> rfl

namespace Header
variable {words targets prerequisites names : List Text}

theorem ofWords?_append (fresh : [':'] ∉ targets) :
    ofWords? (targets ++ [':'] :: prerequisites) =
      if targets.isEmpty then none
      else if targets == [phonyName] then some (.phony prerequisites)
      else some (.rule targets prerequisites) := by
  have taken : (targets ++ [':'] :: prerequisites).takeWhile (· != [':']) = targets := by
    rw [List.takeWhile_append_of_pos]
    · simp
    · intro word member
      rw [bne_iff_ne]
      rintro rfl
      exact fresh member
  simp only [ofWords?, taken, List.drop_left]

theorem ofWords?_eq_none (fresh : [':'] ∉ words) : ofWords? words = none := by
  have taken : words.takeWhile (· != [':']) = words := by
    refine List.takeWhile_eq_self_iff.2 fun word member => ?_
    rw [bne_iff_ne]
    rintro rfl
    exact fresh member
  simp only [ofWords?, taken, List.drop_length]

/-- The header of a rule has targets before the first colon, and not just the name that declares
phony ones. -/
theorem ofWords?_eq_rule :
    ofWords? words = some (.rule targets prerequisites) ↔
      words = targets ++ [':'] :: prerequisites ∧ [':'] ∉ targets ∧ targets ≠ [] ∧
        targets ≠ [phonyName] := by
  constructor
  · intro said
    by_cases colon : [':'] ∈ words
    · obtain ⟨first, rest, rfl, fresh⟩ := List.eq_append_cons_of_mem colon
      rw [ofWords?_append fresh] at said
      split at said
      · cases said
      · next some =>
        split at said
        · cases said
        · next other =>
          cases said
          exact ⟨rfl, fresh, by simpa using some, by simpa using other⟩
    · rw [ofWords?_eq_none colon] at said
      cases said
  · rintro ⟨rfl, fresh, some, other⟩
    rw [ofWords?_append fresh, if_neg (by simpa using some), if_neg (by simpa using other)]

theorem ofWords?_eq_phony :
    ofWords? words = some (.phony names) ↔ words = phonyName :: [':'] :: names := by
  constructor
  · intro said
    by_cases colon : [':'] ∈ words
    · obtain ⟨first, rest, rfl, fresh⟩ := List.eq_append_cons_of_mem colon
      rw [ofWords?_append fresh] at said
      split at said
      · cases said
      · split at said
        · next alone =>
          cases said
          rw [beq_iff_eq.1 alone]
          rfl
        · cases said
    · rw [ofWords?_eq_none colon] at said
      cases said
  · rintro rfl
    rfl

end Header

end BuildRules
