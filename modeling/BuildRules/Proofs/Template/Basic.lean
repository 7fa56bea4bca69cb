import BuildRules.Proofs.Expansion
import BuildRules.Scope

/-! Templates. In such a text each dollar sign begins a reference to a plain name in parentheses, so
the references of two templates in a row are those of the one and those of the other. -/
namespace BuildRules

/-- A name without a character that has a meaning of its own. -/
def Text.IsPlainName (name : Text) : Prop := name ≠ [] ∧ ∀ c ∈ name, Reference.isWordChar c = true

/-- Each dollar sign of the text begins a reference to a plain name. -/
def Text.IsTemplate (text : Text) : Prop :=
  ∀ before after, text = before ++ '$' :: after →
    ∃ name rest, name.IsPlainName ∧ '$' :: after = (Reference.group name).text ++ rest

/-- The text refers to the name. -/
def Text.Mentions (text name : Text) : Prop :=
  name.IsPlainName ∧ (Reference.group name).text <:+: text

/-- A template is put together of references and other characters. -/
inductive Template : Text → Prop
  | nil : Template []
  | char {c : Char} {rest : Text} (other : c ≠ '$') (after : Template rest) : Template (c :: rest)
  | reference {name rest : Text} (isName : name.IsPlainName) (after : Template rest) :
      Template ((Reference.group name).text ++ rest)

theorem Reference.isBlank_of_isWordChar {c : Char} (isWord : isWordChar c = true) :
    Text.isBlank c = false := by
  by_cases underscore : c = '_'
  · subst underscore
    rfl
  · have range : 48 ≤ c.toNat ∧ c.toNat ≤ 122 := by
      have ranges : isWordChar c =
          ((decide (c.val ≥ 65 ∧ c.val ≤ 90) || (c.val ≥ 97 && c.val ≤ 122)) ||
            (c.val ≥ 48 && c.val ≤ 57) || c == '_') := rfl
      simp only [ranges, Bool.or_eq_true, Bool.and_eq_true, decide_eq_true_eq, beq_iff_eq,
        underscore, or_false, UInt32.le_iff_toNat_le, ge_iff_le] at isWord
      change ((65 ≤ c.toNat ∧ c.toNat ≤ 90) ∨ 97 ≤ c.toNat ∧ c.toNat ≤ 122) ∨
        48 ≤ c.toNat ∧ c.toNat ≤ 57 at isWord
      omega
    simp only [Text.isBlank, Bool.or_eq_false_iff, Bool.and_eq_false_iff, decide_eq_false_iff_not,
      beq_eq_false_iff_ne]
    omega

namespace Text.IsPlainName
variable {name other rest rest' : Text}

theorem notMem (isName : name.IsPlainName) {c : Char} (noWord : Reference.isWordChar c = false) :
    c ∉ name := by
  intro member
  rw [isName.2 c member] at noWord
  cases noWord

theorem dollar_notMem (isName : name.IsPlainName) : '$' ∉ '(' :: name ++ [')'] := by
  simpa using isName.notMem rfl

theorem balanced (isName : name.IsPlainName) : name.Balanced :=
  .of_no_parenthesis (isName.notMem rfl) (isName.notMem rfl)

/-- A name ends where its parenthesis closes. -/
theorem eq_of_closed (isName : name.IsPlainName) (isName' : other.IsPlainName)
    (same : name ++ ')' :: rest = other ++ ')' :: rest') : name = other ∧ rest = rest' := by
  have read {first : Text} (isFirst : first.IsPlainName) (after : Text) :
      (first ++ ')' :: after).takeWhile Reference.isWordChar = first := by
    rw [List.takeWhile_append_of_pos isFirst.2]
    simp [Reference.isWordChar]
  have names : name = other := by
    rw [← read isName rest, same, read isName' rest']
  subst names
  exact ⟨rfl, by simpa using same⟩

end Text.IsPlainName

namespace Template
variable {text first rest name other : Text} {c : Char}

theorem of_isTemplate (isTemplate : text.IsTemplate) : Template text := by
  -- A reference is passed over as a whole, so the induction is on the length.
  induction size : text.length using Nat.strong_induction_on generalizing text with
  | _ bound ih =>
    have later {front back : Text} (split : text = front ++ back) : back.IsTemplate := by
      rintro before after rfl
      exact isTemplate (front ++ before) after (by rw [split, List.append_assoc])
    cases text with
    | nil => exact .nil
    | cons c rest =>
      by_cases dollar : c = '$'
      · subst dollar
        obtain ⟨name, after, isName, written⟩ := isTemplate [] rest rfl
        have shorter : after.length < bound := by
          rw [← size, written, List.length_append]
          exact Nat.lt_add_of_pos_left (by simp [Reference.text])
        rw [written]
        exact .reference isName (ih _ shorter (later written) rfl)
      · have shorter : rest.length < bound := by simp [← size]
        have written : c :: rest = [c] ++ rest := rfl
        exact .char dollar (ih _ shorter (later written) rfl)

theorem isTemplate (template : Template text) : text.IsTemplate := by
  induction template with
  | nil =>
    intro before after written
    simp at written
  | char other _ ih =>
    intro before after written
    cases before with
    | nil => exact absurd (List.cons.inj written).1 other
    | cons _ before => exact ih before after (List.cons.inj written).2
  | @reference name rest isName _ ih =>
    intro before after written
    cases before with
    | nil => exact ⟨name, rest, isName, written.symm⟩
    | cons _ before =>
      -- The dollar sign is none of the characters of the reference, so it stands behind them.
      rcases List.append_eq_append_iff.1 (List.cons.inj written).2 with
        ⟨between, _, behind⟩ | ⟨between, within, behind⟩
      · exact ih between after behind
      · cases between with
        | nil => exact ih [] after behind.symm
        | cons c between =>
          obtain ⟨rfl, _⟩ := List.cons.inj behind
          have member : '$' ∈ before ++ '$' :: between := by simp
          have inside : '$' ∈ ('(' :: name).append [')'] := within.symm ▸ member
          exact absurd inside isName.dollar_notMem

theorem append (template : Template first) (after : Template rest) : Template (first ++ rest) := by
  induction template with
  | nil => exact after
  | char other _ ih => exact .char other ih
  | reference isName _ ih =>
    rw [List.append_assoc]
    exact .reference isName ih

end Template

namespace Text.Mentions
variable {text first rest name other : Text} {c : Char}

theorem dollar_mem (mentions : Mentions text name) : '$' ∈ text :=
  mentions.2.subset List.mem_cons_self

/-- A reference begins with its dollar sign, which is in none of the characters in front. -/
theorem of_free (free : '$' ∉ first) : Mentions (first ++ rest) name ↔ Mentions rest name := by
  refine and_congr_right fun _ => ⟨fun within => ?_, fun within => ?_⟩
  · induction first with
    | nil => exact within
    | cons c first ih =>
      rw [List.mem_cons, not_or] at free
      rcases List.infix_cons_iff.1 within with here | later
      · exact absurd (List.cons_prefix_cons.1 here).1 free.1
      · exact ih free.2 later
  · exact within.trans (List.suffix_append first rest).isInfix

theorem char (otherwise : c ≠ '$') : Mentions (c :: rest) name ↔ Mentions rest name :=
  have free : '$' ∉ [c] := by simpa using otherwise.symm
  of_free free

theorem reference (isName : name.IsPlainName) :
    Mentions ((Reference.group name).text ++ rest) other ↔ other = name ∨ Mentions rest other := by
  constructor
  · rintro ⟨isOther, within⟩
    rcases List.infix_cons_iff.1 within with ⟨after, here⟩ | later
    · have same : other ++ ')' :: after = name ++ ')' :: rest := by
        simpa [Reference.text] using here
      exact .inl (isOther.eq_of_closed isName same).1
    · exact .inr ((of_free isName.dollar_notMem).1 ⟨isOther, later⟩)
  · rintro (rfl | ⟨isOther, within⟩)
    · exact ⟨isName, (List.prefix_append _ rest).isInfix⟩
    · exact ⟨isOther, within.trans (List.suffix_append _ rest).isInfix⟩

theorem append (template : Template first) :
    Mentions (first ++ rest) name ↔ Mentions first name ∨ Mentions rest name := by
  induction template with
  | nil => simp [Mentions, Reference.text]
  | char otherwise _ ih => rw [List.cons_append, char otherwise, char otherwise, ih]
  | reference isName _ ih =>
    rw [List.append_assoc, reference isName, reference isName, ih, or_assoc]

end Text.Mentions

theorem Template.dollar_mem_iff {text : Text} (template : Template text) :
    '$' ∈ text ↔ ∃ name, text.Mentions name := by
  constructor
  · intro dollar
    induction template with
    | nil => cases dollar
    | char other _ ih =>
      obtain ⟨name, mentions⟩ := ih (List.mem_of_ne_of_mem other.symm dollar)
      exact ⟨name, (Text.Mentions.char other).2 mentions⟩
    | @reference name _ isName _ _ => exact ⟨name, (Text.Mentions.reference isName).2 (.inl rfl)⟩
  · rintro ⟨name, mentions⟩
    exact mentions.dollar_mem

end BuildRules
