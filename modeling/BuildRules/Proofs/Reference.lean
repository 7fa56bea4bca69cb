import BuildRules.Reference
import Mathlib.Data.List.TakeWhile

/-! Where references stand in a text, said without the walk through it. A reference is written as
`$` with a name, or with a body in balanced parentheses, and neither is empty. A text in which
none is written anywhere is inert, and these are the texts of one segment. -/
namespace BuildRules

/-- Every parenthesis of the text has its counterpart. -/
inductive Text.Balanced : Text → Prop
  | nil : Balanced []
  | char {c : Char} {rest : Text} (opens : c ≠ '(') (closes : c ≠ ')') (after : Balanced rest) :
      Balanced (c :: rest)
  | group {inner rest : Text} (within : Balanced inner) (after : Balanced rest) :
      Balanced ('(' :: inner ++ ')' :: rest)

theorem Text.Balanced.of_no_parenthesis {text : Text} (opens : '(' ∉ text) (closes : ')' ∉ text) :
    text.Balanced := by
  induction text with
  | nil => exact .nil
  | cons c rest ih =>
    rw [List.mem_cons, not_or] at opens closes
    exact .char (Ne.symm opens.1) (Ne.symm closes.1) (ih opens.2 closes.2)

namespace Reference
variable {body text : Text}

/-- The name of a reference is a word, and its body is balanced; neither is empty. -/
def WellFormed : Reference → Prop
  | word name => name ≠ [] ∧ ∀ c ∈ name, isWordChar c = true
  | group body => body ≠ [] ∧ body.Balanced

@[simp] theorem closing_open (depth length : Nat) (rest : Text) :
    closing depth length ('(' :: rest) = closing (depth + 1) (length + 1) rest := by
  cases depth <;> rfl

@[simp] theorem closing_close (length : Nat) (rest : Text) :
    closing 0 length (')' :: rest) = some length := rfl

@[simp] theorem closing_close_inner (depth length : Nat) (rest : Text) :
    closing (depth + 1) length (')' :: rest) = closing depth (length + 1) rest := rfl

theorem closing_other {c : Char} (opens : c ≠ '(') (closes : c ≠ ')') (depth length : Nat)
    (rest : Text) : closing depth length (c :: rest) = closing depth (length + 1) rest := by
  cases depth <;> simp [closing, opens, closes]

theorem closing_append (balanced : body.Balanced) (depth length : Nat) (rest : Text) :
    closing depth length (body ++ rest) = closing depth (length + body.length) rest := by
  induction balanced generalizing depth length rest with
  | nil => rfl
  | char opens closes _ ih =>
    rw [List.cons_append, closing_other opens closes, ih, List.length_cons, Nat.add_right_comm,
      Nat.add_assoc]
  | @group inner after _ _ within beyond =>
    rw [List.append_assoc, List.cons_append, closing_open, within, List.cons_append,
      closing_close_inner, beyond]
    congr 1
    simp only [List.length_append, List.length_cons]
    omega

/-- Where a parenthesis closes, what stands before it is balanced. -/
theorem exists_balanced_of_closing {depth length place : Nat}
    (closes : closing depth length text = some place) :
    ∃ body rest, text = body ++ ')' :: rest ∧ body.Balanced := by
  -- A group inside the text ends before its rest begins, so the induction is on the length.
  induction size : text.length using Nat.strong_induction_on
    generalizing depth length text with
  | _ bound ih =>
    cases text with
    | nil => cases closes
    | cons c rest =>
      rw [List.length_cons] at size
      by_cases opens : c = '('
      · subst opens
        rw [closing_open] at closes
        obtain ⟨inner, outer, rfl, within⟩ := ih rest.length (by omega) closes rfl
        rw [closing_append within, closing_close_inner] at closes
        have shorter : outer.length < bound := by
          rw [← size, List.length_append, List.length_cons]
          omega
        obtain ⟨body, after, rfl, beyond⟩ := ih outer.length shorter closes rfl
        exact ⟨'(' :: inner ++ ')' :: body, after, by simp, .group within beyond⟩
      · by_cases isClose : c = ')'
        · subst isClose
          exact ⟨[], rest, rfl, .nil⟩
        · rw [closing_other opens isClose] at closes
          obtain ⟨body, after, rfl, balanced⟩ := ih rest.length (by omega) closes rfl
          exact ⟨c :: body, after, rfl, .char opens isClose balanced⟩

def isParenthesis (c : Char) : Bool := c == '(' || c == ')'

/-- Whether a parenthesis closes depends on the parentheses alone. -/
theorem isSome_closing_filter (depth length length' : Nat) (text : Text) :
    (closing depth length' (text.filter isParenthesis)).isSome =
      (closing depth length text).isSome := by
  induction text generalizing depth length length' with
  | nil => rfl
  | cons c rest ih =>
    by_cases opens : c = '('
    · subst opens
      rw [List.filter_cons_of_pos rfl, closing_open, closing_open]
      exact ih (depth + 1) (length + 1) (length' + 1)
    by_cases closes : c = ')'
    · subst closes
      rw [List.filter_cons_of_pos rfl]
      cases depth with
      | zero => rfl
      | succ depth => exact ih depth (length + 1) (length' + 1)
    · rw [List.filter_cons_of_neg (by simp [isParenthesis, opens, closes]),
        closing_other opens closes]
      exact ih depth (length + 1) length'

theorem isSome_closing_congr {other : Text}
    (same : text.filter isParenthesis = other.filter isParenthesis) (depth length : Nat) :
    (closing depth length text).isSome = (closing depth length other).isSome := by
  rw [← isSome_closing_filter depth length length text, same, isSome_closing_filter]

theorem closing_eq_zero_iff : closing 0 0 text = some 0 ↔ text.head? = some ')' := by
  constructor
  · intro closes
    obtain ⟨body, rest, rfl, balanced⟩ := exists_balanced_of_closing closes
    rw [closing_append balanced, closing_close, Option.some.injEq, Nat.zero_add,
      List.length_eq_zero_iff] at closes
    rw [closes]
    rfl
  · intro first
    obtain ⟨rest, rfl⟩ := List.head?_eq_some_iff.1 first
    rfl

/-- An opening parenthesis begins no body when it is not closed, or closed at once. -/
theorem after?_open_eq_none :
    after? ('(' :: text) = none ↔ (closing 0 0 text).isSome = false ∨ text.head? = some ')' := by
  rw [← closing_eq_zero_iff]
  rcases found : closing 0 0 text with _ | _ | length <;> simp [after?, found]

theorem after?_word {c : Char} (isWord : isWordChar c = true) (rest : Text) :
    after? (c :: rest) = some (word (c :: rest.takeWhile isWordChar)) := by
  have notOpen : c ≠ '(' := by
    rintro rfl
    cases isWord
  simp [after?, isWord, notOpen]

theorem after?_group (balanced : body.Balanced) (nonempty : body ≠ []) (rest : Text) :
    after? ('(' :: body ++ ')' :: rest) = some (group body) := by
  obtain ⟨c, more, rfl⟩ := List.exists_cons_of_ne_nil nonempty
  have closes : closing 0 0 (c :: more ++ ')' :: rest) = some (more.length + 1) := by
    rw [closing_append balanced, closing_close, List.length_cons, Nat.zero_add]
  simp only [after?, List.cons_append] at closes ⊢
  rw [closes]
  simp

theorem after?_other {c : Char} (notOpen : c ≠ '(') (noWord : isWordChar c = false) (rest : Text) :
    after? (c :: rest) = none := by
  simp [after?, noWord, notOpen]

theorem wellFormed_of_after? {reference : Reference} (found : after? text = some reference) :
    reference.WellFormed ∧ ∃ rest, '$' :: text = reference.text ++ rest := by
  cases text with
  | nil => cases found
  | cons c rest =>
    by_cases notOpen : c = '('
    · subst notOpen
      cases closes : closing 0 0 rest with
      | none => simp [after?, closes] at found
      | some length =>
        obtain ⟨body, tail, rfl, balanced⟩ := exists_balanced_of_closing closes
        by_cases empty : body = []
        · subst empty
          simp [after?] at found
        · rw [← List.cons_append, after?_group balanced empty] at found
          cases found
          exact ⟨⟨empty, balanced⟩, tail, by simp [Reference.text]⟩
    · cases isWord : isWordChar c with
      | false =>
        rw [after?_other notOpen isWord] at found
        cases found
      | true =>
        rw [after?_word isWord] at found
        cases found
        refine ⟨⟨by simp, ?_⟩, rest.dropWhile isWordChar, ?_⟩
        · rw [List.forall_mem_cons]
          exact ⟨isWord, fun d member => List.mem_takeWhile_imp member⟩
        · simp [Reference.text]

/-- What stands after a dollar sign begins no reference when none is written there. -/
theorem after?_eq_none_iff :
    after? text = none ↔
      ∀ reference rest, WellFormed reference → '$' :: text ≠ reference.text ++ rest := by
  constructor
  · rintro none (name | body) rest ⟨nonempty, sound⟩ written
    · obtain ⟨c, more, rfl⟩ := List.exists_cons_of_ne_nil nonempty
      obtain rfl : text = c :: (more ++ rest) := List.tail_eq_of_cons_eq written
      rw [after?_word (sound c List.mem_cons_self)] at none
      cases none
    · obtain rfl : text = '(' :: body ++ ')' :: rest := by
        simpa [Reference.text] using written
      rw [after?_group sound nonempty] at none
      cases none
  · intro unwritten
    rw [Option.eq_none_iff_forall_ne_some]
    intro reference found
    obtain ⟨sound, rest, written⟩ := wellFormed_of_after? found
    exact unwritten reference rest sound written

end Reference

/-- No reference is written anywhere in the text. -/
def Text.Inert (text : Text) : Prop :=
  ∀ before reference rest, Reference.WellFormed reference → text ≠ before ++ reference.text ++ rest

namespace Text.Inert
variable {text part : Text}

theorem of_infix (inert : text.Inert) (within : part <:+: text) : part.Inert := by
  obtain ⟨first, last, rfl⟩ := within
  rintro before reference rest sound rfl
  exact inert (first ++ before) reference (rest ++ last) sound (by simp)

theorem nil : Inert [] := by
  rintro before (name | body) rest _ written <;> simp [Reference.text] at written

theorem of_no_dollar (free : '$' ∉ text) : text.Inert := by
  rintro before reference rest _ rfl
  cases reference <;> simp [Reference.text] at free

/-- A text is inert when no dollar sign in it begins a reference. -/
theorem iff_after? :
    text.Inert ↔ ∀ rest, '$' :: rest <:+ text → Reference.after? rest = none := by
  constructor
  · rintro inert rest ⟨before, rfl⟩
    rw [Reference.after?_eq_none_iff]
    intro reference tail sound written
    exact inert before reference tail sound (by rw [written, List.append_assoc])
  · rintro none before reference rest sound rfl
    obtain ⟨after, written⟩ : ∃ after, reference.text ++ rest = '$' :: after := by
      cases reference <;> exact ⟨_, rfl⟩
    have begins := none after ⟨before, by rw [← written, List.append_assoc]⟩
    exact Reference.after?_eq_none_iff.1 begins reference rest sound written.symm

theorem cons {c : Char} (other : c ≠ '$') (inert : text.Inert) : Inert (c :: text) := by
  rw [iff_after?] at inert ⊢
  intro rest place
  rcases List.suffix_cons_iff.1 place with here | later
  · exact absurd (List.cons.inj here).1.symm other
  · exact inert rest later

/-- Two texts together are inert when the second is, and no dollar sign of the first begins a
reference. -/
theorem append {first : Text} (inert : text.Inert)
    (begins : ∀ rest, '$' :: rest <:+ first → Reference.after? (rest ++ text) = none) :
    Inert (first ++ text) := by
  induction first with
  | nil => exact inert
  | cons c first ih =>
    have later := ih fun rest place => begins rest (List.suffix_cons_iff.2 (.inr place))
    by_cases dollar : c = '$'
    · subst dollar
      rw [iff_after?] at later ⊢
      intro rest place
      rcases List.suffix_cons_iff.1 place with here | place
      · obtain ⟨_, rfl⟩ := List.cons.inj here
        exact begins first (List.suffix_refl _)
      · exact later rest place
    · exact later.cons dollar

end Text.Inert

namespace Segments
variable {text : Text}

/-- The walk through a text finds no reference when the text is inert. -/
theorem isPlain_scan_iff (plain : Text) :
    (scan 0 plain text).isPlain = true ↔
      ∀ rest, '$' :: rest <:+ text → Reference.after? rest = none := by
  induction text generalizing plain with
  | nil => simp [scan, isPlain]
  | cons c rest ih =>
    simp only [List.suffix_cons_iff, List.cons.injEq]
    by_cases dollar : c = '$'
    · subst dollar
      cases found : Reference.after? rest with
      | some reference =>
        refine iff_of_false (by simp [scan, found, cons, isPlain]) fun none => ?_
        rw [none rest (.inl ⟨rfl, rfl⟩)] at found
        cases found
      | none =>
        rw [scan, if_pos rfl]
        simp only [found, ih]
        exact ⟨fun inner tail place => place.elim (fun here => here.2 ▸ found) (inner tail),
          fun all tail place => all tail (.inr place)⟩
    · rw [scan, if_neg dollar, ih]
      exact ⟨fun inner tail place =>
          place.elim (fun here => absurd here.1.symm dollar) (inner tail),
        fun all tail place => all tail (.inr place)⟩

theorem isPlain_ofText_iff : (ofText text).isPlain = true ↔ text.Inert := by
  rw [Text.Inert.iff_after?, ofText, isPlain_scan_iff]

end Segments

end BuildRules
