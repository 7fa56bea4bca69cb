import BuildRules.Proofs.Evaluation
import BuildRules.Proofs.Template.Basic
import Mathlib.Data.List.Forall2

/-! The two spellings of a reference. A name that goes on no further can be written with parentheses
or without, wherever it stands: on the line itself, in a body at any depth, or behind a dollar sign
or a parenthesis that belongs to nothing. The references around it are the same, their bodies are
respelled in the same way, and after one pass the two lines are one. -/
namespace BuildRules

/-- The second text has a name in parentheses where the first one has it without. -/
inductive Text.Respelled (name : Text) : Text → Text → Prop
  | intro (front : Text) {back : Text} (ends : (Reference.word name).EndsBefore back) :
      Respelled name (front ++ (Reference.word name).text ++ back)
        (front ++ (Reference.group name).text ++ back)

namespace Reference
variable {text name front back : Text}

theorem EndsBefore.of_isPrefix {reference : Reference} {rest part : Text}
    (ends : reference.EndsBefore rest) (within : part <+: rest) : reference.EndsBefore part := by
  cases reference with
  | group _ => trivial
  | word name =>
    obtain ⟨more, rfl⟩ := within
    intro c first
    exact ends c (by simp [Option.mem_def.1 first])

theorem closing_add (depth length more : Nat) (text : Text) :
    closing depth (length + more) text = (closing depth length text).map (· + more) := by
  induction text generalizing depth length with
  | nil => rfl
  | cons c rest ih =>
    by_cases opens : c = '('
    · subst opens
      rw [closing_open, closing_open, Nat.add_right_comm, ih]
    by_cases closes : c = ')'
    · subst closes
      cases depth with
      | zero => rfl
      | succ depth => rw [closing_close_inner, closing_close_inner, Nat.add_right_comm, ih]
    · rw [closing_other opens closes, closing_other opens closes, Nat.add_right_comm, ih]

/-- A text closes the parenthesis that is open before it, or leaves the rest to be read at some
depth. -/
theorem closing_append_cases (text : Text) (depth length : Nat) :
    (∃ place, closing depth length text = some place) ∨
      ∃ deeper, ∀ rest,
        closing depth length (text ++ rest) = closing deeper (length + text.length) rest := by
  induction text generalizing depth length with
  | nil => exact .inr ⟨depth, fun _ => rfl⟩
  | cons c text ih =>
    have size : length + (c :: text).length = length + 1 + text.length := by
      rw [List.length_cons]
      omega
    rw [size]
    by_cases opens : c = '('
    · subst opens
      simpa only [List.cons_append, closing_open] using ih (depth + 1) (length + 1)
    by_cases closes : c = ')'
    · subst closes
      cases depth with
      | zero => exact .inl ⟨length, rfl⟩
      | succ depth =>
        simpa only [List.cons_append, closing_close_inner] using ih depth (length + 1)
    · simpa only [List.cons_append, closing_other opens closes] using ih depth (length + 1)

/-- The place of a parenthesis that closes is the length of what stands before it. -/
theorem exists_of_closing {depth length place : Nat}
    (closes : closing depth length text = some place) :
    ∃ inner rest, text = inner ++ ')' :: rest ∧ place = length + inner.length := by
  induction text generalizing depth length with
  | nil => cases closes
  | cons c text ih =>
    have further {depth : Nat} (later : closing depth (length + 1) text = some place) :
        ∃ inner rest, c :: text = inner ++ ')' :: rest ∧ place = length + inner.length := by
      obtain ⟨inner, rest, rfl, rfl⟩ := ih later
      exact ⟨c :: inner, rest, rfl, by rw [List.length_cons]; omega⟩
    by_cases opens : c = '('
    · subst opens
      exact further closes
    by_cases isClose : c = ')'
    · subst isClose
      cases depth with
      | zero => exact ⟨[], text, rfl, (Option.some.inj closes).symm⟩
      | succ depth => exact further closes
    · rw [closing_other opens isClose] at closes
      exact further closes

theorem after?_of_closing {place : Nat} (closes : closing 0 0 text = some place)
    (positive : place ≠ 0) : after? ('(' :: text) = some (group (text.take place)) := by
  obtain ⟨length, rfl⟩ := Nat.exists_eq_succ_of_ne_zero positive
  simp [after?, closes]

/-- What the dollar sign in front of a text begins, when balanced texts that begin with one stand
between this text and another. -/
inductive Around (front back : Text) : Prop
  /-- It begins nothing. -/
  | nothing (none : ∀ middle, Text.Balanced ('$' :: middle) →
      after? (front ++ '$' :: middle ++ back) = none)
  /-- Its reference ends before them. -/
  | before (reference : Reference) (rest : Text) (written : '$' :: front = reference.text ++ rest)
      (found : ∀ middle, Text.Balanced ('$' :: middle) →
        after? (front ++ '$' :: middle ++ back) = some reference)
  /-- They stand in the body of its reference. -/
  | within (first last rest : Text) (opens : front = '(' :: first)
      (closes : back = last ++ ')' :: rest)
      (found : ∀ middle, Text.Balanced ('$' :: middle) →
        after? (front ++ '$' :: middle ++ back) = some (group (first ++ '$' :: middle ++ last)))

theorem around_open (front back : Text) : Around ('(' :: front) back := by
  rcases closing_append_cases front 0 0 with ⟨place, closes⟩ | ⟨deeper, reads⟩
  · obtain ⟨body, rest, rfl, balanced⟩ := exists_balanced_of_closing closes
    by_cases empty : body = []
    · subst empty
      exact .nothing fun _ _ => rfl
    · refine .before (group body) rest (by simp [Reference.text]) fun middle _ => ?_
      simpa using after?_group balanced empty (rest ++ ('$' :: middle ++ back))
  · have found {middle : Text} (balanced : Text.Balanced ('$' :: middle)) :
        closing 0 0 (front ++ '$' :: middle ++ back) =
          (closing deeper 0 back).map (· + (front ++ '$' :: middle).length) := by
      rw [List.append_assoc, reads, closing_append balanced, ← closing_add, List.length_append,
        Nat.zero_add, Nat.zero_add]
    cases closes : closing deeper 0 back with
    | none =>
      refine .nothing fun middle balanced => ?_
      have stays : (closing 0 0 (front ++ '$' :: middle ++ back)).isSome = false := by
        rw [found balanced, closes]
        rfl
      exact after?_open_eq_none.2 (.inl stays)
    | some place =>
      obtain ⟨last, rest, rfl, rfl⟩ := exists_of_closing closes
      refine .within front last rest rfl rfl fun middle balanced => ?_
      have whole : closing 0 0 (front ++ '$' :: middle ++ (last ++ ')' :: rest)) =
          some (front ++ '$' :: middle ++ last).length := by
        rw [found balanced, closes, Option.map_some, Nat.zero_add, Nat.add_comm,
          ← List.length_append]
      rw [← List.append_assoc] at whole
      have taken := after?_of_closing whole (by simp)
      rw [List.take_left] at taken
      simpa using taken

/-- A name ends at a dollar sign. -/
theorem takeWhile_dollar (front rest : Text) :
    (front ++ '$' :: rest).takeWhile isWordChar = front.takeWhile isWordChar := by
  rw [List.takeWhile_append]
  split
  · next whole =>
    have all := (List.takeWhile_prefix isWordChar).eq_of_length whole
    simp [all, isWordChar]
  · rfl

theorem around (front back : Text) : Around front back := by
  cases front with
  | nil => exact .nothing fun _ _ => after?_other (by decide) rfl _
  | cons c front =>
    by_cases opens : c = '('
    · exact opens ▸ around_open front back
    · cases isWord : isWordChar c with
      | false => exact .nothing fun _ _ => after?_other opens isWord _
      | true =>
        refine .before (word (c :: front.takeWhile isWordChar)) (front.dropWhile isWordChar)
          (by simp [Reference.text]) fun middle _ => ?_
        have name := after?_word isWord (front ++ '$' :: (middle ++ back))
        rw [takeWhile_dollar] at name
        simpa using name

end Reference

namespace Text
variable {name text other front core back : Text}

theorem dropWhile_solid (solid : ∀ c ∈ core, isBlank c = false) (nonempty : core ≠ [])
    (front back : Text) :
    (front ++ (core ++ back)).dropWhile isBlank = front.dropWhile isBlank ++ (core ++ back) := by
  obtain ⟨c, core, rfl⟩ := List.exists_cons_of_ne_nil nonempty
  rw [List.dropWhile_append]
  split
  · next whole =>
    rw [List.isEmpty_iff.1 whole, List.cons_append, List.dropWhile_cons, solid c List.mem_cons_self]
    rfl
  · rfl

/-- Trimming goes no further than a word in the text. -/
theorem trim_solid (solid : ∀ c ∈ core, isBlank c = false) (nonempty : core ≠ [])
    (front back : Text) :
    trim (front ++ core ++ back) = trimStart front ++ core ++ trimEnd back := by
  have reversed : core.reverse ≠ [] := by simpa using nonempty
  rw [trim, trimStart, List.append_assoc, dropWhile_solid solid nonempty, trimEnd_eq,
    List.reverse_append, List.reverse_append, List.append_assoc,
    dropWhile_solid (by simpa using solid) reversed]
  simp [trimEnd_eq, trimStart]

/-- Blanks are trimmed off around the name, however it is spelled. -/
theorem Respelled.trim (isName : name.IsPlainName) (respelled : Respelled name text other) :
    Respelled name text.trim other.trim := by
  obtain @⟨front, back, ends⟩ := respelled
  have solid : ∀ c ∈ name, isBlank c = false := fun c member =>
    Reference.isBlank_of_isWordChar (isName.2 c member)
  have word : ∀ c ∈ (Reference.word name).text, isBlank c = false :=
    List.forall_mem_cons.2 ⟨rfl, solid⟩
  have group : ∀ c ∈ (Reference.group name).text, isBlank c = false := by
    simpa [Reference.text, or_imp, forall_and] using ⟨rfl, rfl, solid, rfl⟩
  have shorter : trimEnd back <+: back := by
    rw [trimEnd_eq, ← List.reverse_suffix, List.reverse_reverse]
    exact List.dropWhile_suffix isBlank
  rw [trim_solid word (by simp [Reference.text]), trim_solid group (by simp [Reference.text])]
  exact .intro _ (ends.of_isPrefix shorter)

end Text

/-- Segments of which one body has the name in parentheses where the other has it without. -/
structure Segments.Respelled (name : Text) (segments other : Segments) : Prop where
  parts : List.Forall₂ (fun part part' => part.1 = part'.1 ∧
    (part.2.body = part'.2.body ∨ Text.Respelled name part.2.body part'.2.body))
    segments.parts other.parts
  tail : segments.tail = other.tail

namespace Segments
variable {name front back : Text}

theorem parts_ne_nil {reference : Reference} (sound : reference.WellFormed) (front back : Text) :
    (ofText (front ++ reference.text ++ back)).parts ≠ [] := by
  intro plain
  exact isPlain_ofText_iff.1 (isPlain_iff.2 plain) front reference back sound rfl

theorem Respelled.refl (name : Text) (segments : Segments) : Respelled name segments segments :=
  ⟨List.forall₂_same.2 fun _ _ => ⟨rfl, .inl rfl⟩, rfl⟩

theorem Respelled.cons {plain : Text} {reference reference' : Reference}
    {segments other : Segments}
    (here : reference.body = reference'.body ∨
      Text.Respelled name reference.body reference'.body)
    (later : Respelled name segments other) :
    Respelled name (segments.cons (plain, reference)) (other.cons (plain, reference')) :=
  ⟨.cons ⟨rfl, here⟩ later.parts, later.tail⟩

/-- The walk comes to the name, or passes over the reference in whose body it stands. -/
theorem respelled_scan (isName : name.IsPlainName) (plain front : Text)
    (ends : (Reference.word name).EndsBefore back) :
    Respelled name (scan 0 plain (front ++ (Reference.word name).text ++ back))
      (scan 0 plain (front ++ (Reference.group name).text ++ back)) := by
  have word : Text.Balanced ('$' :: name) := .char (by decide) (by decide) isName.balanced
  have group : Text.Balanced ('$' :: ('(' :: name ++ [')'])) :=
    .char (by decide) (by decide) (.group isName.balanced .nil)
  -- A reference in front is passed over as a whole, so the induction is on the length of the front.
  induction size : front.length using Nat.strong_induction_on generalizing plain front back with
  | _ bound ih =>
    cases front with
    | nil =>
      have sound : (Reference.word name).WellFormed := isName
      rw [List.nil_append, List.nil_append, scan_reference sound ends,
        scan_group isName.balanced isName.1]
      exact .cons (.inl rfl) (.refl name _)
    | cons c front =>
      rw [List.length_cons] at size
      by_cases dollar : c = '$'
      · subst dollar
        change Respelled name (scan 0 plain ('$' :: (front ++ '$' :: name ++ back)))
          (scan 0 plain ('$' :: (front ++ '$' :: ('(' :: name ++ [')']) ++ back)))
        cases Reference.around front back with
        | nothing none =>
          rw [scan_char (fun _ => none name word), scan_char fun _ => none _ group]
          exact ih front.length (by omega) _ front ends rfl
        | before reference rest written found =>
          have passed (middle : Text) : '$' :: (front ++ '$' :: middle ++ back) =
              reference.text ++ (rest ++ '$' :: middle ++ back) := by
            simpa using congrArg (· ++ ('$' :: middle ++ back)) written
          have shorter := Reference.length_le_of_written written
          rw [scan_found (found name word) (passed name), scan_found (found _ group) (passed _)]
          exact .cons (.inl rfl) (ih rest.length (by omega) [] rest ends rfl)
        | within first last rest opens closes found =>
          have written (middle : Text) : '$' :: (front ++ '$' :: middle ++ back) =
              (Reference.group (first ++ '$' :: middle ++ last)).text ++ rest := by
            simp [opens, closes, Reference.text]
          have within : last <+: back := closes ▸ List.prefix_append last (')' :: rest)
          rw [scan_found (found name word) (written name), scan_found (found _ group) (written _)]
          exact .cons (.inr (.intro first (ends.of_isPrefix within))) (.refl name _)
      · simp only [List.cons_append]
        rw [scan_char fun same => absurd same dollar, scan_char fun same => absurd same dollar]
        exact ih front.length (by omega) _ front ends rfl

end Segments

namespace Expansion
variable {σ : Type} {resolve : Text → Act σ Text} {name text other : Text}

theorem kindred_substitute {resolve' : Text → Act σ Text} {parts parts' : List (Text × Reference)}
    (alike : List.Forall₂ (fun part part' => part.1 = part'.1 ∧
      ∀ s, (resolve part.2.body s).Kindred (resolve' part'.2.body s)) parts parts')
    (tail : Text) (s : σ) :
    (substitute resolve tail parts s).Kindred (substitute resolve' tail parts' s) := by
  induction alike generalizing s with
  | nil => exact .refl _
  | cons here _ ih =>
    obtain ⟨plain, kindred⟩ := here
    rw [substitute, substitute, plain]
    exact (kindred s).bind fun value t => (ih t).map _

/-- A pass over a line with references replaces them. -/
theorem settle_armed (resolve : Text → Act σ Text) (line : Text) (passes : Nat)
    (armed : (Segments.ofText text).parts ≠ []) :
    settle resolve line (passes + 1) text = (do
      Act.note (.beforeExpand text)
      let next ← substitute resolve (Segments.ofText text).tail (Segments.ofText text).parts
      settle resolve line passes next) := by
  simp only [settle, pass_eq, if_neg armed, bind_map_left]

theorem kindred_settle_respelled (isName : name.IsPlainName)
    (each : ∀ body body', Text.Respelled name body body' → ∀ s,
      (resolve body s).Kindred (resolve body' s))
    (respelled : Text.Respelled name text other) (line line' : Text) (passes : Nat) (s : σ) :
    (settle resolve line (passes + 1) text s).Kindred
      (settle resolve line' (passes + 1) other s) := by
  obtain ⟨segments, armed, armed'⟩ :
      (Segments.ofText text).Respelled name (Segments.ofText other) ∧
        (Segments.ofText text).parts ≠ [] ∧ (Segments.ofText other).parts ≠ [] := by
    obtain @⟨front, back, ends⟩ := respelled
    have word : (Reference.word name).WellFormed := isName
    have group : (Reference.group name).WellFormed := ⟨isName.1, isName.balanced⟩
    exact ⟨Segments.respelled_scan isName [] front ends, Segments.parts_ne_nil word front back,
      Segments.parts_ne_nil group front back⟩
  have alike : List.Forall₂ (fun part part' => part.1 = part'.1 ∧
      ∀ s, (resolve part.2.body s).Kindred (resolve part'.2.body s))
      (Segments.ofText text).parts (Segments.ofText other).parts := by
    refine segments.parts.imp fun part part' here => ⟨here.1, fun t => ?_⟩
    rcases here.2 with same | within
    · rw [same]
      exact .refl _
    · exact each _ _ within t
  rw [settle_armed resolve line passes armed, settle_armed resolve line' passes armed',
    segments.tail]
  have noted : (Act.note (.beforeExpand text) s).Kindred (Act.note (.beforeExpand other) s) :=
    ⟨rfl, rfl, rfl⟩
  refine noted.bind fun _ t => (kindred_substitute alike _ t).bind fun next u => ?_
  -- From here on the two lines are one.
  exact kindred_settle resolve line line' passes next u

theorem kindred_expandWithin (host : Host σ) (scope : Scope) (isName : name.IsPlainName)
    (nesting : Nat) (respelled : Text.Respelled name text other) (s : σ) :
    (expandWithin host scope nesting text s).Kindred (expandWithin host scope nesting other s) := by
  induction nesting generalizing text other s with
  | zero =>
    refine kindred_settle_respelled isName (fun body body' _ t => ?_) respelled _ _ 99 s
    exact ⟨rfl, rfl, rfl⟩
  | succ nesting ih =>
    refine kindred_settle_respelled isName (fun body body' within t => ?_) respelled _ _ 99 s
    exact (ih (within.trim isName) t).bind fun inner u => .refl _

/-- A name that goes on no further is the same reference with parentheses and without, in every
place of a line. The same commands are run, and the line expands to the same text or fails in the
same way, but for the text that the error quotes. -/
theorem expand_of_spelling (host : Host σ) (scope : Scope) (front : Text) {name back : Text}
    (isName : name.IsPlainName) (ends : ∀ c ∈ back.head?, Reference.isWordChar c = false) (s : σ) :
    (expand host scope (front ++ '$' :: name ++ back) s).Kindred
      (expand host scope (front ++ '$' :: '(' :: name ++ ')' :: back) s) := by
  have respelled : Text.Respelled name (front ++ (Reference.word name).text ++ back)
      (front ++ (Reference.group name).text ++ back) := .intro front ends
  have closed : front ++ '$' :: '(' :: name ++ ')' :: back =
      front ++ (Reference.group name).text ++ back := by
    simp [Reference.text]
  rw [closed]
  exact kindred_expandWithin host scope isName maxNesting respelled s

/-- A host on which every command prints its own line, and then this text. -/
def printing (last : Text) : Host Nat where
  run line _ runs := (⟨.ok (line ++ last), [], []⟩, runs + 1)
  modified _ _ := none
  read _ _ := .error .notFound
  now runs := (runs, runs)

/-- The name stands in the argument of a function. In front of it there are a dollar sign and a
parenthesis that belong to nothing. -/
theorem expand_of_spelling_argument :
    let scope := Scope.start (fun name => if name = ['X'] then some "a b".toList else none) false
    let bare := expand (printing ['\n']) scope "$( $@ $(shell echo $X) $".toList 0
    let closed := expand (printing ['\n']) scope "$( $@ $(shell echo $(X)) $".toList 0
    bare.Kindred closed ∧ Event.captured closed.events = ["echo a b".toList] ∧
      closed.answer = .ok "$( $@ echo a b\n $".toList := by
  intro scope bare closed
  have isName : Text.IsPlainName ['X'] := ⟨by decide, List.forall_mem_singleton.2 rfl⟩
  have ends : ∀ c ∈ [')', ' ', '$'].head?, Reference.isWordChar c = false := by
    rintro c ⟨⟩
    rfl
  have front : "$( $@ $(shell echo ".toList ++ '$' :: ['X'] ++ [')', ' ', '$'] =
      "$( $@ $(shell echo $X) $".toList := by decide
  have front' : "$( $@ $(shell echo ".toList ++ '$' :: '(' :: ['X'] ++ ')' :: [')', ' ', '$'] =
      "$( $@ $(shell echo $(X)) $".toList := by decide
  have kindred : bare.Kindred closed := by
    have found :=
      expand_of_spelling (printing ['\n']) scope "$( $@ $(shell echo ".toList isName ends 0
    rwa [front, front'] at found
  exact ⟨kindred, by decide +kernel, by decide +kernel⟩

end Expansion

end BuildRules
