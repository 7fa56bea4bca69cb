import BuildRules.Proofs.Template.Basic
import Mathlib.Logic.Function.Iterate
import Mathlib.Logic.Relation

/-! Substitution in templates. When each reference of a template gives way to the value of its name
and the values are templates, the result is one, and it refers to what the values refer to. So after
some rounds a reference is left just when a chain of references is longer than the rounds, and a
cycle has chains of every length. When none is left, the text is the recursive substitution. -/
namespace BuildRules

/-- The line with a value in the place of each reference. -/
def Segments.filled (value : Text → Text) (segments : Segments) : Text :=
  (segments.parts.flatMap fun part => part.1 ++ value part.2.body) ++ segments.tail

namespace Segments

@[simp] theorem filled_cons (value : Text → Text) (part : Text × Reference) (segments : Segments) :
    (segments.cons part).filled value = part.1 ++ value part.2.body ++ segments.filled value := by
  simp [cons, filled]

theorem filled_scan (value : Text → Text) (plain text : Text) :
    (scan 0 plain text).filled value = plain.reverse ++ (ofText text).filled value := by
  rw [ofText]
  induction text generalizing plain with
  | nil => simp [scan, filled]
  | cons c rest ih =>
    have passed : (scan 0 (c :: plain) rest).filled value =
        plain.reverse ++ (scan 0 [c] rest).filled value := by
      rw [ih (c :: plain), ih [c]]
      simp
    by_cases dollar : c = '$'
    · rw [scan, scan, if_pos dollar, if_pos dollar]
      cases Reference.after? rest with
      | some reference => simp
      | none => exact passed
    · rw [scan, scan, if_neg dollar, if_neg dollar]
      exact passed

end Segments

namespace Scope
variable {scope : Scope} {first rest text name : Text} {c : Char}

/-- One round of substitution. -/
def filled (scope : Scope) (text : Text) : Text := (Segments.ofText text).filled scope.value

theorem filled_free (free : '$' ∉ first) :
    scope.filled (first ++ rest) = first ++ scope.filled rest := by
  rw [filled, Segments.ofText, Segments.scan_free free, Segments.filled_scan]
  simp [filled]

theorem filled_eq_self (free : '$' ∉ text) : scope.filled text = text := by
  have whole : scope.filled (text ++ []) = text ++ scope.filled [] := filled_free free
  rwa [List.append_nil, show scope.filled [] = [] from rfl, List.append_nil] at whole

theorem filled_char (other : c ≠ '$') : scope.filled (c :: rest) = c :: scope.filled rest :=
  have free : '$' ∉ [c] := by simpa using other.symm
  filled_free free

theorem filled_reference (isName : name.IsPlainName) :
    scope.filled ((Reference.group name).text ++ rest) = scope.value name ++ scope.filled rest := by
  rw [filled, Segments.ofText, Segments.scan_group isName.balanced isName.1, Segments.filled_cons]
  rfl

/-- The text in which each reference is replaced by the substituted value of its name. -/
inductive Substituted (scope : Scope) : Text → Text → Prop
  | nil : Substituted scope [] []
  | char {c : Char} {rest result : Text} (other : c ≠ '$') (after : Substituted scope rest result) :
      Substituted scope (c :: rest) (c :: result)
  | reference {name rest value result : Text} (isName : name.IsPlainName)
      (here : Substituted scope (scope.value name) value) (after : Substituted scope rest result) :
      Substituted scope ((Reference.group name).text ++ rest) (value ++ result)

/-- References one below the other: the text refers to the first name, its value to the next, and
so on. -/
inductive Chain (scope : Scope) : Text → List Text → Prop
  | nil (text : Text) : Chain scope text []
  | cons {text name : Text} {names : List Text} (mentions : text.Mentions name)
      (below : Chain scope (scope.value name) names) : Chain scope text (name :: names)

/-- The value of a name refers to another name. -/
def Leads (scope : Scope) (name other : Text) : Prop := (scope.value name).Mentions other

/-- From the references of the text one gets to a name that comes back to itself. -/
def Cyclic (scope : Scope) (text : Text) : Prop :=
  ∃ first name, text.Mentions first ∧ Relation.ReflTransGen scope.Leads first name ∧
    Relation.TransGen scope.Leads name name

theorem Chain.take {names : List Text} (chain : scope.Chain text names) (n : Nat) :
    scope.Chain text (names.take n) := by
  induction chain generalizing n with
  | nil => simpa using .nil _
  | cons mentions _ ih =>
    cases n with
    | zero => exact .nil _
    | succ n => exact .cons mentions (ih n)

namespace Substituted
variable {value result other : Text}

theorem of_free (free : '$' ∉ text) : scope.Substituted text text := by
  induction text with
  | nil => exact .nil
  | cons c rest ih =>
    rw [List.mem_cons, not_or] at free
    exact .char (Ne.symm free.1) (ih free.2)

theorem of_char (otherwise : c ≠ '$') (substituted : scope.Substituted (c :: rest) result) :
    ∃ after, scope.Substituted rest after ∧ result = c :: after := by
  cases substituted with
  | char _ after => exact ⟨_, after, rfl⟩
  | reference => exact absurd rfl otherwise

theorem of_reference (isName : name.IsPlainName)
    (substituted : scope.Substituted ((Reference.group name).text ++ rest) result) :
    ∃ value after, scope.Substituted (scope.value name) value ∧ scope.Substituted rest after ∧
      result = value ++ after := by
  generalize written : (Reference.group name).text ++ rest = text at substituted
  cases substituted with
  | nil => cases written
  | char otherwise => exact absurd (List.cons.inj written).1.symm otherwise
  | @reference name' rest' value after isName' here later =>
    have same : name ++ ')' :: rest = name' ++ ')' :: rest' := by
      simpa [Reference.text] using written
    obtain ⟨rfl, rfl⟩ := isName.eq_of_closed isName' same
    exact ⟨value, after, here, later, rfl⟩

theorem unique (substituted : scope.Substituted text result)
    (again : scope.Substituted text other) : other = result := by
  induction substituted generalizing other with
  | nil =>
    cases again
    rfl
  | char otherwise _ ih =>
    obtain ⟨after, later, rfl⟩ := again.of_char otherwise
    rw [ih later]
  | reference isName _ _ within beyond =>
    obtain ⟨value, after, here, later, rfl⟩ := again.of_reference isName
    rw [within here, beyond later]

theorem of_append (template : Template first)
    (substituted : scope.Substituted (first ++ rest) result) :
    ∃ value after, scope.Substituted first value ∧ scope.Substituted rest after ∧
      result = value ++ after := by
  induction template generalizing result with
  | nil => exact ⟨[], result, .nil, substituted, rfl⟩
  | char otherwise _ ih =>
    obtain ⟨after, later, rfl⟩ := substituted.of_char otherwise
    obtain ⟨value, beyond, here, last, rfl⟩ := ih later
    exact ⟨_, beyond, .char otherwise here, last, rfl⟩
  | reference isName _ ih =>
    rw [List.append_assoc] at substituted
    obtain ⟨inner, after, within, later, rfl⟩ := substituted.of_reference isName
    obtain ⟨value, beyond, here, last, rfl⟩ := ih later
    exact ⟨_, beyond, .reference isName within here, last, (List.append_assoc ..).symm⟩

end Substituted

section Rounds
variable (values : ∀ name : Text, name.IsPlainName → Template (scope.value name))
include values

theorem template_filled (template : Template text) : Template (scope.filled text) := by
  induction template with
  | nil => exact .nil
  | char other _ ih =>
    rw [filled_char other]
    exact .char other ih
  | reference isName _ ih =>
    rw [filled_reference isName]
    exact (values _ isName).append ih

/-- After a round the text refers to what the values of its names referred to. -/
theorem mentions_filled (template : Template text) :
    (scope.filled text).Mentions name ↔
      ∃ other, text.Mentions other ∧ (scope.value other).Mentions name := by
  induction template with
  | nil => simp [filled, Segments.ofText, Segments.scan, Segments.filled, Text.Mentions,
      Reference.text]
  | char otherwise _ ih =>
    rw [filled_char otherwise, Text.Mentions.char otherwise, ih]
    simp only [Text.Mentions.char otherwise]
  | @reference first _ isName _ ih =>
    rw [filled_reference isName, Text.Mentions.append (values _ isName), ih]
    simp only [Text.Mentions.reference isName]
    constructor
    · rintro (here | ⟨other, mentions, below⟩)
      · exact ⟨first, .inl rfl, here⟩
      · exact ⟨other, .inr mentions, below⟩
    · rintro ⟨other, rfl | mentions, below⟩
      · exact .inl below
      · exact .inr ⟨other, mentions, below⟩

theorem substituted_of_filled {result : Text} (template : Template text)
    (substituted : scope.Substituted (scope.filled text) result) :
    scope.Substituted text result := by
  induction template generalizing result with
  | nil => exact substituted
  | char other _ ih =>
    rw [filled_char other] at substituted
    obtain ⟨after, later, rfl⟩ := substituted.of_char other
    exact .char other (ih later)
  | reference isName _ ih =>
    rw [filled_reference isName] at substituted
    obtain ⟨value, after, here, later, rfl⟩ := substituted.of_append (values _ isName)
    exact .reference isName here (ih later)

/-- A round takes the first reference off each chain. -/
theorem exists_chain_filled (template : Template text) (n : Nat) :
    (∃ names, scope.Chain (scope.filled text) names ∧ names.length = n + 1) ↔
      ∃ names, scope.Chain text names ∧ names.length = n + 2 := by
  constructor
  · rintro ⟨names, chain, size⟩
    cases chain with
    | nil => cases size
    | @cons _ name names mentions below =>
      obtain ⟨other, refers, here⟩ := (mentions_filled values template).1 mentions
      exact ⟨other :: name :: names, .cons refers (.cons here below), by simpa using size⟩
  · rintro ⟨names, chain, size⟩
    cases chain with
    | nil => cases size
    | @cons _ other names refers chain =>
      cases chain with
      | nil => cases size
      | @cons _ name names here below =>
        have mentions := (mentions_filled values template).2 ⟨other, refers, here⟩
        exact ⟨name :: names, .cons mentions below, by simpa using size⟩

theorem template_rounds (template : Template text) (n : Nat) :
    Template (scope.filled^[n] text) := by
  induction n generalizing text with
  | zero => exact template
  | succ n ih => exact ih (template_filled values template)

/-- A reference is left after some rounds when a chain is longer than they are many. -/
theorem dollar_mem_rounds (template : Template text) (n : Nat) :
    '$' ∈ scope.filled^[n] text ↔ ∃ names, scope.Chain text names ∧ names.length = n + 1 := by
  induction n generalizing text with
  | zero =>
    rw [Function.iterate_zero_apply, template.dollar_mem_iff]
    constructor
    · rintro ⟨name, mentions⟩
      exact ⟨[name], .cons mentions (.nil _), rfl⟩
    · rintro ⟨_, _ | ⟨mentions, _⟩, size⟩
      · cases size
      · exact ⟨_, mentions⟩
  | succ n ih =>
    rw [Function.iterate_succ_apply, ih (template_filled values template)]
    exact exists_chain_filled values template n

/-- When no reference is left, the rounds bound the chains. -/
theorem length_le_of_rounds (template : Template text) {n : Nat}
    (free : '$' ∉ scope.filled^[n] text) {names : List Text} (chain : scope.Chain text names) :
    names.length ≤ n := by
  by_contra long
  refine free ((dollar_mem_rounds values template n).2 ⟨_, chain.take (n + 1), ?_⟩)
  rw [List.length_take]
  omega

theorem substituted_rounds (template : Template text) (n : Nat)
    (free : '$' ∉ scope.filled^[n] text) : scope.Substituted text (scope.filled^[n] text) := by
  induction n generalizing text with
  | zero => exact .of_free free
  | succ n ih =>
    rw [Function.iterate_succ_apply] at free ⊢
    exact substituted_of_filled values template (ih (template_filled values template) free)

end Rounds

/-- The text has chains of every length. -/
def Endless (scope : Scope) (text : Text) : Prop :=
  ∀ n, ∃ names, scope.Chain text names ∧ names.length = n

theorem Endless.of_mentions (mentions : text.Mentions name)
    (below : scope.Endless (scope.value name)) : scope.Endless text := by
  intro n
  cases n with
  | zero => exact ⟨[], .nil _, rfl⟩
  | succ n =>
    obtain ⟨names, chain, size⟩ := below n
    exact ⟨name :: names, .cons mentions chain, by rw [List.length_cons, size]⟩

/-- A name on a cycle leads to another one. -/
theorem endless_of_cycle (cycle : Relation.TransGen scope.Leads name name) :
    scope.Endless (scope.value name) := by
  intro n
  induction n generalizing name with
  | zero => exact ⟨[], .nil _, rfl⟩
  | succ n ih =>
    obtain ⟨next, leads, back⟩ := Relation.TransGen.head'_iff.1 cycle
    obtain ⟨names, chain, size⟩ := ih (.tail' back leads)
    exact ⟨next :: names, .cons leads chain, by rw [List.length_cons, size]⟩

theorem Cyclic.endless (cyclic : scope.Cyclic text) : scope.Endless text := by
  obtain ⟨first, name, mentions, path, cycle⟩ := cyclic
  have below : scope.Endless (scope.value first) := by
    clear mentions
    induction path using Relation.ReflTransGen.head_induction_on with
    | refl => exact endless_of_cycle cycle
    | head leads _ ih => exact .of_mentions leads ih
  exact below.of_mentions mentions

end Scope

end BuildRules
