import BuildRules.Proofs.Evaluation
import BuildRules.Proofs.Template.Basic

/-! Blanks around a line. They end no reference and begin none, so they stay where they are while
the line between them is expanded as it would be without them. -/
namespace BuildRules

namespace Text
variable {text before after : Text}

/-- The blanks in front of a text, which are all of it when there is nothing else. -/
def leading (text : Text) : Text := text.takeWhile isBlank

/-- The blanks behind the last other character. -/
def trailing (text : Text) : Text := ((trimStart text).reverse.takeWhile isBlank).reverse

theorem isBlank_leading (text : Text) : ∀ c ∈ leading text, isBlank c = true :=
  fun _ member => List.mem_takeWhile_imp member

theorem isBlank_trailing (text : Text) : ∀ c ∈ trailing text, isBlank c = true :=
  fun _ member => List.mem_takeWhile_imp (List.mem_reverse.1 member)

theorem leading_trim_trailing (text : Text) :
    leading text ++ trim text ++ trailing text = text := by
  have back : trim text ++ trailing text = trimStart text := by
    rw [trim, trimEnd_eq, trailing, ← List.reverse_append, List.takeWhile_append_dropWhile,
      List.reverse_reverse]
  rw [List.append_assoc, back]
  exact List.takeWhile_append_dropWhile

/-- Blanks are trimmed off with those that the text has itself. -/
theorem trim_margins (blankBefore : ∀ c ∈ before, isBlank c = true)
    (blankAfter : ∀ c ∈ after, isBlank c = true) : trim (before ++ text ++ after) = trim text := by
  have atEnd (first : Text) : trimEnd (first ++ after) = trimEnd first := by
    have reversed : ∀ c ∈ after.reverse, isBlank c = true := by simpa using blankAfter
    rw [trimEnd_eq, List.reverse_append, List.dropWhile_append_of_pos reversed, ← trimEnd_eq]
  rw [List.append_assoc, trim, trimStart, List.dropWhile_append_of_pos blankBefore,
    List.dropWhile_append]
  split
  · next whole =>
    have nothing : trimStart text = [] := List.isEmpty_iff.1 whole
    rw [trim, nothing, List.dropWhile_eq_nil_iff.2 blankAfter]
  · exact atEnd (trimStart text)

end Text

namespace Reference
variable {text gap rest : Text} {reference : Reference}

theorem WellFormed.isBlank_getLast? (sound : reference.WellFormed) :
    ∀ c ∈ reference.text.getLast?, Text.isBlank c = false := by
  intro c last
  cases reference with
  | word name =>
    obtain ⟨nonempty, whole⟩ := sound
    rw [text, List.getLast?_cons_of_ne_nil nonempty] at last
    exact isBlank_of_isWordChar (whole c (List.mem_of_getLast? last))
  | group body =>
    rw [text, List.getLast?_concat] at last
    cases last
    rfl

theorem isWordChar_of_isBlank {c : Char} (blank : Text.isBlank c = true) :
    isWordChar c = false := by
  rw [← Bool.not_eq_true]
  intro isWord
  rw [isBlank_of_isWordChar isWord] at blank
  cases blank

section Blank
variable (blank : ∀ c ∈ gap, Text.isBlank c = true)
include blank

theorem EndsBefore.append_blank (ends : reference.EndsBefore rest) :
    reference.EndsBefore (rest ++ gap) := by
  cases reference with
  | group _ => trivial
  | word name =>
    intro c first
    cases rest with
    | nil => exact isWordChar_of_isBlank (blank c (List.mem_of_mem_head? first))
    | cons d rest => exact ends c first

/-- Blanks behind a text neither complete a reference nor belong to one. -/
theorem after?_append_blank : after? (text ++ gap) = after? text := by
  cases found : after? text with
  | some reference =>
    obtain ⟨sound, rest, written, ends⟩ := after?_eq_some_iff.1 found
    refine after?_eq_some_iff.2 ⟨sound, rest ++ gap, ?_, ends.append_blank blank⟩
    rw [← List.append_assoc, ← written, List.cons_append]
  | none =>
    rw [after?_eq_none_iff] at found ⊢
    intro reference rest sound written
    rw [← List.cons_append] at written
    rcases List.append_eq_append_iff.1 written with ⟨more, longer, rfl⟩ | ⟨more, shorter, _⟩
    · rcases List.eq_nil_or_concat more with rfl | ⟨inner, c, rfl⟩
      · exact found reference [] sound (by rw [longer, List.append_nil, List.append_nil])
      · have last : c ∈ reference.text.getLast? := by
          rw [longer, List.concat_eq_append, ← List.append_assoc, List.getLast?_concat]
          rfl
        have isBlank := blank c (by simp)
        rw [sound.isBlank_getLast? c last] at isBlank
        cases isBlank
    · exact found reference more sound shorter

end Blank

end Reference

namespace Segments
variable {line text rest gap before after : Text} {segments : Segments}

/-- The segments of the line with text around it. -/
def within (before after : Text) : Segments → Segments
  | ⟨[], tail⟩ => ⟨[], before ++ tail ++ after⟩
  | ⟨(plain, reference) :: rest, tail⟩ => ⟨(before ++ plain, reference) :: rest, tail ++ after⟩

section Blank
variable (blank : ∀ c ∈ gap, Text.isBlank c = true)
include blank

theorem Bare.of_blank (rest : Text) : Bare gap rest := by
  refine .of_no_dollar (fun member => ?_) rest
  cases blank _ member

theorem Bare.append_blank (bare : Bare text rest) : Bare text (rest ++ gap) := by
  rw [bare_iff] at bare ⊢
  intro after place
  rw [← List.append_assoc, Reference.after?_append_blank blank]
  exact bare after place

theorem Falls.append_blank (falls : Falls line segments) :
    Falls (line ++ gap) { segments with tail := segments.tail ++ gap } := by
  induction falls with
  | tail bare =>
    have here := bare.append_blank blank
    rw [List.nil_append, ← List.append_nil gap] at here
    exact .tail (here.append (.of_blank blank []))
  | part bare sound ends _ ih =>
    have beyond := bare.append_blank blank
    rw [List.append_assoc] at beyond ⊢
    exact .part beyond sound (ends.append_blank blank) ih

theorem Falls.blank_append (falls : Falls line segments) :
    Falls (gap ++ line) (segments.within gap []) := by
  cases falls with
  | tail bare =>
    simpa [within] using Falls.tail ((Bare.of_blank blank _).append bare)
  | part bare sound ends later =>
    simpa [within, Segments.cons] using
      Falls.part ((Bare.of_blank blank _).append bare) sound ends later

end Blank

theorem ofText_within (blankBefore : ∀ c ∈ before, Text.isBlank c = true)
    (blankAfter : ∀ c ∈ after, Text.isBlank c = true) (line : Text) :
    ofText (before ++ line ++ after) = (ofText line).within before after := by
  have falls := ((falls_ofText line).append_blank blankAfter).blank_append blankBefore
  rw [List.append_assoc, falls.ofText_eq]
  rcases ofText line with ⟨_ | ⟨part, rest⟩, tail⟩ <;> simp [within]

end Segments

namespace Expansion
variable {σ : Type} {resolve : Text → Act σ Text} {before after : Text}

theorem substitute_append (resolve : Text → Act σ Text) (tail more : Text)
    (parts : List (Text × Reference)) :
    substitute resolve (tail ++ more) parts = (· ++ more) <$> substitute resolve tail parts := by
  induction parts with
  | nil => rfl
  | cons part rest ih => simp [substitute, ih]

theorem substitute_within (resolve : Text → Act σ Text) (before after : Text)
    (segments : Segments) :
    substitute resolve (segments.within before after).tail (segments.within before after).parts =
      (fun text => before ++ text ++ after) <$>
        substitute resolve segments.tail segments.parts := by
  obtain ⟨_ | ⟨⟨plain, reference⟩, rest⟩, tail⟩ := segments
  · rfl
  · simp [Segments.within, substitute, substitute_append]

section Margins
variable (blankBefore : ∀ c ∈ before, Text.isBlank c = true)
  (blankAfter : ∀ c ∈ after, Text.isBlank c = true)
include blankBefore blankAfter

theorem pass_margins (line : Text) :
    pass resolve (before ++ line ++ after) =
      Option.map (fun text => before ++ text ++ after) <$> pass resolve line := by
  rw [pass_eq, pass_eq, Segments.ofText_within blankBefore blankAfter, substitute_within]
  have plain : ((Segments.ofText line).within before after).parts = [] ↔
      (Segments.ofText line).parts = [] := by
    rcases Segments.ofText line with ⟨_ | ⟨⟨plain, reference⟩, rest⟩, tail⟩ <;>
      simp [Segments.within]
  by_cases none : (Segments.ofText line).parts = [] <;> simp [none, plain]

/-- Blanks around a line are still there when it has been expanded, and nothing else is. -/
theorem expand_margins (host : Host σ) (scope : Scope) (line : Text) (s : σ) :
    (expand host scope (before ++ line ++ after) s).Kindred
      (((fun text => before ++ text ++ after) <$> expand host scope line) s) := by
  rw [expand_eq, expand_eq]
  exact settle_framed _ (pass_margins blankBefore blankAfter) _ _ 100 line s

end Margins

end Expansion

end BuildRules
