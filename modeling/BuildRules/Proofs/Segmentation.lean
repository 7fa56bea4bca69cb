import BuildRules.Proofs.Reference

/-! How a line falls into references and the text between them. There is one way only, said here
without the walk through the line: a name goes on as far as it can, and no reference of the line
begins in the text between. -/
namespace BuildRules

namespace Reference
variable {text rest name : Text} {reference : Reference}

/-- The reference is not cut off. A name goes on as far as it can; a body ends at its parenthesis,
whatever follows. -/
def EndsBefore (rest : Text) : Reference → Prop
  | word _ => ∀ c ∈ rest.head?, isWordChar c = false
  | group _ => True

theorem takeWhile_name_iff (whole : ∀ c ∈ name, isWordChar c = true) :
    (name ++ rest).takeWhile isWordChar = name ↔ (word name).EndsBefore rest := by
  rw [List.takeWhile_append_of_pos whole, List.append_right_eq_self]
  cases rest with
  | nil => simp [EndsBefore]
  | cons c rest => simp [EndsBefore, List.takeWhile_cons]

theorem after?_name (sound : (word name).WellFormed) (rest : Text) :
    after? (name ++ rest) = some (word ((name ++ rest).takeWhile isWordChar)) := by
  obtain ⟨nonempty, whole⟩ := sound
  obtain ⟨c, more, rfl⟩ := List.exists_cons_of_ne_nil nonempty
  have isWord := whole c List.mem_cons_self
  rw [List.cons_append, after?_word isWord, List.takeWhile_cons, if_pos isWord]

/-- The reference that a dollar sign begins is the one that is written there as a whole. -/
theorem after?_eq_some_iff :
    after? text = some reference ↔
      reference.WellFormed ∧
        ∃ rest, '$' :: text = reference.text ++ rest ∧ reference.EndsBefore rest := by
  constructor
  · intro found
    obtain ⟨sound, rest, written⟩ := wellFormed_of_after? found
    refine ⟨sound, rest, written, ?_⟩
    cases reference with
    | group body => trivial
    | word name =>
      obtain rfl : text = name ++ rest := List.tail_eq_of_cons_eq written
      rw [after?_name sound, Option.some.injEq, word.injEq] at found
      exact (takeWhile_name_iff sound.2).1 found
  · rintro ⟨sound, rest, written, ends⟩
    cases reference with
    | group body =>
      obtain rfl : text = '(' :: body ++ ')' :: rest := by simpa [Reference.text] using written
      exact after?_group sound.2 sound.1 rest
    | word name =>
      obtain rfl : text = name ++ rest := List.tail_eq_of_cons_eq written
      rw [after?_name sound, (takeWhile_name_iff sound.2).2 ends]

theorem exists_text (reference : Reference) :
    ∃ after, reference.text = '$' :: after ∧ after.length = reference.width := by
  cases reference <;> exact ⟨_, rfl, by simp [width]⟩

theorem length_le_of_written (written : '$' :: text = reference.text ++ rest) :
    rest.length ≤ text.length := by
  obtain ⟨after, begins, _⟩ := reference.exists_text
  rw [begins] at written
  obtain rfl : text = after ++ rest := List.tail_eq_of_cons_eq written
  rw [List.length_append]
  exact Nat.le_add_left _ _

end Reference

namespace Segments
variable {line text rest front : Text} {reference : Reference} {segments other : Segments}

/-- No dollar sign of the text begins a reference when the rest follows it. -/
def Bare (text rest : Text) : Prop :=
  ∀ before after reference beyond, text = before ++ '$' :: after →
    Reference.WellFormed reference → '$' :: (after ++ rest) ≠ reference.text ++ beyond

/-- The line is made up of these segments: text in which no reference of the line begins, a
reference as long as it can be, and what follows it in the same way. -/
inductive Falls : Text → Segments → Prop
  | tail {tail : Text} (bare : Bare tail []) : Falls tail ⟨[], tail⟩
  | part {plain rest : Text} {reference : Reference} {segments : Segments}
      (bare : Bare plain (reference.text ++ rest)) (sound : reference.WellFormed)
      (ends : reference.EndsBefore rest) (later : Falls rest segments) :
      Falls (plain ++ reference.text ++ rest) (segments.cons (plain, reference))

theorem bare_iff :
    Bare text rest ↔ ∀ after, '$' :: after <:+ text → Reference.after? (after ++ rest) = none := by
  simp only [Reference.after?_eq_none_iff, Bare]
  constructor
  · rintro bare after ⟨before, rfl⟩ reference beyond sound
    exact bare before after reference beyond rfl sound
  · rintro none before after reference beyond rfl sound
    exact none after ⟨before, rfl⟩ reference beyond sound

theorem Bare.of_no_dollar (free : '$' ∉ text) (rest : Text) : Bare text rest := by
  rintro before after _ _ rfl
  simp at free

theorem Bare.cons {c : Char} (bare : Bare text rest)
    (here : c = '$' → Reference.after? (text ++ rest) = none) : Bare (c :: text) rest := by
  rw [bare_iff] at bare ⊢
  intro after place
  rcases List.suffix_cons_iff.1 place with first | later
  · obtain ⟨rfl, rfl⟩ := List.cons.inj first
    exact here rfl
  · exact bare after later

theorem Bare.begins_nothing (bare : Bare ('$' :: text) rest) :
    Reference.after? (text ++ rest) = none :=
  bare_iff.1 bare text List.suffix_rfl

theorem Bare.of_cons {c : Char} (bare : Bare (c :: text) rest) : Bare text rest :=
  bare_iff.2 fun after place => bare_iff.1 bare after (List.suffix_cons_iff.2 (.inr place))

theorem Bare.append (here : Bare front (text ++ rest)) (later : Bare text rest) :
    Bare (front ++ text) rest := by
  induction front with
  | nil => exact later
  | cons c front ih =>
    refine (ih here.of_cons).cons fun dollar => ?_
    subst dollar
    rw [List.append_assoc]
    exact here.begins_nothing

theorem scan_char {c : Char} (nothing : c = '$' → Reference.after? text = none) (plain : Text) :
    scan 0 plain (c :: text) = scan 0 (c :: plain) text := by
  rw [scan]
  by_cases dollar : c = '$'
  · rw [if_pos dollar, nothing dollar]
  · rw [if_neg dollar]

/-- The walk finds a reference where it comes to it, and passes over it as a whole. -/
theorem scan_found (found : Reference.after? text = some reference)
    (written : '$' :: text = reference.text ++ rest) (plain : Text) :
    scan 0 plain ('$' :: text) = (ofText rest).cons (plain.reverse, reference) := by
  obtain ⟨after, begins, size⟩ := reference.exists_text
  rw [begins] at written
  obtain rfl : text = after ++ rest := List.tail_eq_of_cons_eq written
  rw [scan, if_pos rfl, found]
  simp only
  rw [scan_skip, ← size, List.drop_left, ofText]

theorem scan_reference (sound : reference.WellFormed) (ends : reference.EndsBefore rest)
    (plain : Text) :
    scan 0 plain (reference.text ++ rest) = (ofText rest).cons (plain.reverse, reference) := by
  obtain ⟨after, begins, _⟩ := reference.exists_text
  have written : '$' :: (after ++ rest) = reference.text ++ rest := by
    rw [begins, List.cons_append]
  rw [← written]
  exact scan_found (Reference.after?_eq_some_iff.2 ⟨sound, rest, written, ends⟩) written plain

/-- The walk goes through a text in which nothing begins. -/
theorem scan_bare (bare : Bare front rest) (plain : Text) :
    scan 0 plain (front ++ rest) = scan 0 (front.reverse ++ plain) rest := by
  induction front generalizing plain with
  | nil => rfl
  | cons c front ih =>
    have nothing : c = '$' → Reference.after? (front ++ rest) = none := by
      rintro rfl
      exact bare.begins_nothing
    rw [List.cons_append, scan_char nothing, ih bare.of_cons]
    simp

theorem scan_free (free : '$' ∉ front) (plain rest : Text) :
    scan 0 plain (front ++ rest) = scan 0 (front.reverse ++ plain) rest :=
  scan_bare (.of_no_dollar free rest) plain

theorem scan_group {body : Text} (balanced : body.Balanced) (nonempty : body ≠ [])
    (plain rest : Text) :
    scan 0 plain ((Reference.group body).text ++ rest) =
      (ofText rest).cons (plain.reverse, .group body) := by
  have sound : (Reference.group body).WellFormed := ⟨nonempty, balanced⟩
  exact scan_reference sound trivial plain

theorem Falls.ofText_eq (falls : Falls line segments) : ofText line = segments := by
  induction falls with
  | tail bare =>
    have walked := scan_bare bare []
    rw [List.append_nil, List.append_nil] at walked
    rw [ofText, walked, scan, List.reverse_reverse]
  | part bare sound ends _ ih =>
    rw [ofText, List.append_assoc, scan_bare bare, scan_reference sound ends, ih]
    simp

/-- One more character in front belongs to the text before the first reference. -/
theorem Falls.cons {c : Char} (falls : Falls line segments)
    (here : c = '$' → Reference.after? line = none) :
    ∃ segments, Falls (c :: line) segments := by
  cases falls with
  | tail bare =>
    rw [← List.append_nil line] at here
    exact ⟨_, .tail (bare.cons here)⟩
  | part bare sound ends later =>
    rw [List.append_assoc] at here
    exact ⟨_, .part (bare.cons here) sound ends later⟩

theorem falls_ofText (line : Text) : Falls line (ofText line) := by
  suffices exists_falls : ∃ segments, Falls line segments by
    obtain ⟨segments, falls⟩ := exists_falls
    rwa [falls.ofText_eq]
  -- A reference is passed over as a whole, so the induction is on the length.
  induction size : line.length using Nat.strong_induction_on generalizing line with
  | _ bound ih =>
    cases line with
    | nil => exact ⟨_, .tail (.of_no_dollar (by simp) [])⟩
    | cons c line =>
      rw [List.length_cons] at size
      have later : ∃ segments, Falls line segments := ih line.length (by omega) line rfl
      by_cases dollar : c = '$'
      · subst dollar
        cases found : Reference.after? line with
        | none => exact later.elim fun segments falls => falls.cons fun _ => found
        | some reference =>
          obtain ⟨sound, rest, written, ends⟩ := Reference.after?_eq_some_iff.1 found
          have shorter := Reference.length_le_of_written written
          obtain ⟨segments, falls⟩ := ih rest.length (by omega) rest rfl
          have whole : Falls ([] ++ reference.text ++ rest) _ :=
            .part (.of_no_dollar (by simp) _) sound ends falls
          exact ⟨_, written ▸ whole⟩
      · exact later.elim fun segments falls => falls.cons fun same => absurd same dollar

/-- The segments of a line are written as the line. -/
theorem text_ofText (line : Text) : (ofText line).text = line := by
  have falls := falls_ofText line
  generalize ofText line = segments at falls ⊢
  induction falls with
  | tail _ => simp [Segments.text]
  | part _ _ _ _ ih => rw [text_cons, ih]

theorem falls_iff : Falls line segments ↔ segments = ofText line :=
  ⟨fun falls => falls.ofText_eq.symm, fun same => same ▸ falls_ofText line⟩

end Segments

end BuildRules
