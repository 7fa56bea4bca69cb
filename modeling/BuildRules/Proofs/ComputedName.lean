import BuildRules.Proofs.Margin
import BuildRules.Proofs.Spelling
import BuildRules.Proofs.Walk.Depth

/-! Computed names. What a line expands to holds no reference, and nothing can change it any more.
So a text that references have given can name a variable or call a function as if it had been written
in the parentheses, but for blanks at its ends: those of the body are trimmed off before the
references in it are expanded, and those that come out of the references stay. -/
namespace BuildRules

namespace Expansion
variable {σ : Type} {host : Host σ} {scope : Scope}

/-- Expansion takes out all references. What is left expands to itself, with every host and in every
scope, and no command is run for it. This is also so of a line in which there was no reference. -/
theorem expand_settled (host : Host σ) (scope : Scope) (line : Text) (s : σ) :
    (∀ text events t, expand host scope line s = ⟨.ok text, events, t⟩ →
      text.Inert ∧ ∀ (τ : Type) (other : Host τ) (scope' : Scope) (u : τ),
        expand other scope' text u = ⟨.ok text, [.notice (.beforeExpand text)], u⟩) ∧
    (line.Inert → expand host scope line s = ⟨.ok line, [.notice (.beforeExpand line)], s⟩) := by
  refine ⟨fun text events t expanded => ?_, fun inert => expand_inert host scope inert s⟩
  have inert : text.Inert := inert_of_expand expanded
  exact ⟨inert, fun _ other scope' u => expand_inert other scope' inert u⟩

/-- The values of two names make a reference to a third where they meet. -/
def seam : Scope :=
  (((Scope.start (fun _ => none) false).assign ['A'] ['$']).assign ['B'] "(C)".toList).assign
    ['C'] ['x']

theorem expand_settled_seam :
    let line : Text := "$(A)$(B)$A $()".toList
    let text : Text := "x$ $()".toList
    (expand BuildFile.emptyHost seam line ()).answer = .ok text ∧ text.Inert ∧
      expand (printing []) (seam.assign ['x'] ['y']) text 7 =
        ⟨.ok text, [.notice (.beforeExpand text)], 7⟩ ∧
      expand BuildFile.failingHost seam text 0 =
        ⟨.ok text, [.notice (.beforeExpand text)], 0⟩ := by
  intro line text
  have answer : (expand BuildFile.emptyHost seam line ()).answer = .ok text := by decide +kernel
  rcases ran : expand BuildFile.emptyHost seam line () with ⟨result, events, u⟩
  rw [ran] at answer
  obtain rfl : result = .ok text := answer
  obtain ⟨settles, _⟩ := expand_settled BuildFile.emptyHost seam line ()
  obtain ⟨inert, stays⟩ := settles text events u ran
  obtain ⟨_, unchanged⟩ := expand_settled BuildFile.failingHost seam text 0
  exact ⟨rfl, inert, stays Nat (printing []) _ 7, unchanged inert⟩

/-- What comes of a reference when this is the text that it is resolved by. -/
def resolved (host : Host σ) (scope : Scope) (text : Text) : Act σ Text := do
  settle (bodyValue host scope) [] 99 (← valueOf host scope text)

theorem follows_resolved (host : Host σ) (scope : Scope) (text : Text) :
    Follows host host (fun error => error.isBadLine = false) (· = ·) (resolved host scope text)
      (resolved host scope text) := by
  refine (follows_valueOf scope text).bind fun value _ same => ?_
  subst same
  have each (body : Text) : Follows host host (fun error => error.isBadLine = false) (· = ·)
      (bodyValue host scope body) (bodyValue host scope body) := by
    refine (follows_expandWithin scope 65535 (Text.trim body)).bind fun inner _ same => ?_
    subst same
    exact follows_valueOf scope inner
  have kind : (Error.unterminated []).isBadLine = false := rfl
  exact related_settle Follows.pairing.congruence each (.fail kind) 99 value

theorem deepens_congruence : Act.Congruence fun {_} (act other : Act σ _) =>
    ∀ s, Walk.Deepens (act s) (other s) where
  pure _ _ := .refl _
  note _ _ := .refl _
  bind here later s := (here s).bind later

/-- One level more changes nothing, unless bodies lie too deep. -/
theorem expandWithin_deepens (host : Host σ) (scope : Scope) (nesting : Nat) (line : Text) (s : σ) :
    Walk.Deepens (expandWithin host scope nesting line s)
      (expandWithin host scope (nesting + 1) line s) := by
  induction nesting generalizing line s with
  | zero =>
    exact related_settle deepens_congruence (fun body _ => .inl ⟨body, rfl⟩) (fun _ => .refl _)
      maxPasses line s
  | succ nesting ih =>
    refine related_settle deepens_congruence (fun body t => ?_) (fun _ => .refl _) maxPasses line s
    exact (ih (Text.trim body) t).bind fun _ _ => .refl _

/-- A line that is one reference is resolved in its first pass, and the others go over the value. -/
theorem kindred_expand_group (host : Host σ) (scope : Scope) {body : Text}
    (balanced : body.Balanced) (nonempty : body ≠ []) (s : σ) :
    (expand host scope (Reference.group body).text s).Kindred
      ((bodyValue host scope body >>= settle (bodyValue host scope) [] 99) s) := by
  have alone : Segments.ofText (Reference.group body).text = ⟨[([], .group body)], []⟩ := by
    simpa using Segments.ofText_group (List.not_mem_nil (a := '$')) balanced nonempty
  rw [expand_eq, settle_armed _ _ 99 (by simp [alone]), alone]
  refine (Outcome.Akin.note _ _ s).kindred.trans ?_
  have first : substitute (bodyValue host scope) [] [([], .group body)] =
      bodyValue host scope body := by
    simp [substitute, Reference.body]
  rw [first]
  exact (Outcome.Kindred.refl _).bind fun value t => kindred_settle _ _ _ 99 value t

theorem verdict_of_group {body inner : Text} {events : List Event} {s t : σ}
    (balanced : body.Balanced) (nonempty : body ≠ [])
    (expanded : expandWithin host scope 65535 (Text.trim body) s = ⟨.ok inner, events, t⟩) :
    (expand host scope (Reference.group body).text s).verdict =
      (resolved host scope inner t).verdict := by
  refine (kindred_expand_group host scope balanced nonempty s).verdict.trans ?_
  rw [bodyValue, bind_assoc, Act.bind_ok expanded]
  rfl

theorem tooDeep_of_verdict {done : Outcome σ Text} (cut : done.verdict = .error (.tooDeep [])) :
    ∃ deep, done.answer = .error (.tooDeep deep) := by
  obtain ⟨answer, events, state⟩ := done
  rcases answer with error | text
  · cases error <;> cases cut
    exact ⟨_, rfl⟩
  · cases cut

theorem tooDeep_of_group {body deep : Text} {s : σ} (balanced : body.Balanced)
    (nonempty : body ≠ [])
    (cut : (expandWithin host scope 65535 body.trim s).answer = .error (.tooDeep deep)) :
    ∃ deep, (expand host scope (Reference.group body).text s).answer = .error (.tooDeep deep) := by
  refine tooDeep_of_verdict ?_
  refine (kindred_expand_group host scope balanced nonempty s).verdict.trans ?_
  rcases ran : expandWithin host scope 65535 body.trim s with ⟨answer, events, t⟩
  rw [ran] at cut
  obtain rfl : answer = .error (.tooDeep deep) := cut
  rw [bodyValue, bind_assoc, Act.bind_error ran]
  rfl

/-- What a body expands to is what lies between its margins, and those. -/
theorem exists_between {body text : Text} {s : σ}
    (expanded : (expand host scope body s).answer = .ok text) :
    ∃ between events t, expand host scope body.trim s = ⟨.ok between, events, t⟩ ∧
      text = body.leading ++ between ++ body.trailing := by
  have margins :=
    (expand_margins body.isBlank_leading body.isBlank_trailing host scope body.trim s).verdict
  rw [Text.leading_trim_trailing, Outcome.verdict, expanded, Outcome.verdict, Act.map_apply]
    at margins
  rcases inside : expand host scope body.trim s with ⟨error | between, events, t⟩ <;>
    rw [inside] at margins
  · cases margins
  · exact ⟨between, events, t, rfl, Except.ok.inj margins⟩

/-- The text in parentheses can be computed. When each command is always answered in the same way,
and a body expands to a text that can stand in parentheses too, the reference with the body and the
one with the text are resolved alike, whenever they are expanded, unless the body already goes as
deep as is allowed. Only blanks at the ends of the text make a difference, if they are not those of
the body: they belong to the computed name, and from the written one they are trimmed off. -/
theorem expand_computed (host : Host σ) (scope : Scope) {answers : Text → Except Failure Text}
    (steady : ∀ line s, (host.run line true s).1.result = answers line) {body text : Text} {s : σ}
    (balanced : body.Balanced) (expanded : (expand host scope body s).answer = .ok text)
    (nonempty : text ≠ []) (balanced' : text.Balanced) (t u : σ) :
    let computed := expand host scope (Reference.group body).text t
    let written := expand host scope (Reference.group text).text u
    (∃ deep, computed.answer = .error (.tooDeep deep)) ∨
      ∃ between, text = body.leading ++ between ++ body.trailing ∧
        computed.verdict = (resolved host scope between u).verdict ∧
        written.verdict = (resolved host scope between.trim u).verdict ∧
        (between.trim = between → computed.verdict = written.verdict) := by
  intro computed written
  have solid : body ≠ [] := by
    rintro rfl
    rw [expand_inert host scope .nil] at expanded
    exact nonempty (Except.ok.inj expanded).symm
  have inert : text.Inert := by
    rcases ran : expand host scope body s with ⟨answer, events, v⟩
    rw [ran] at expanded
    obtain rfl : answer = .ok text := expanded
    exact inert_of_expand ran
  have again : (expand host scope body t).answer = .ok text :=
    ((follows_expandWithin scope maxNesting body).answer_eq steady t s).trans expanded
  obtain ⟨between, events, v, inside, rfl⟩ := exists_between again
  rcases expandWithin_deepens host scope 65535 body.trim t with ⟨deep, cut⟩ | same
  · exact .inl (tooDeep_of_group balanced solid cut)
  · right
    have here : expandWithin host scope 65535 body.trim t = ⟨.ok between, events, v⟩ :=
      same.symm.trans inside
    have trimmed : Text.trim (body.leading ++ between ++ body.trailing) = between.trim :=
      Text.trim_margins body.isBlank_leading body.isBlank_trailing
    have computedVerdict : computed.verdict = (resolved host scope between u).verdict := by
      refine (verdict_of_group balanced solid here).trans ?_
      exact congrArg (Except.mapError Error.unquoted)
        ((follows_resolved host scope between).answer_eq steady v u)
    have writtenVerdict : written.verdict = (resolved host scope between.trim u).verdict := by
      have alone := inert.of_infix (Text.trim_infix _)
      rw [← trimmed]
      exact verdict_of_group balanced' nonempty (expandWithin_inert host scope 65535 alone u)
    refine ⟨between, rfl, computedVerdict, writtenVerdict, fun own => ?_⟩
    rw [computedVerdict, writtenVerdict, own]

/-- A command gives a part of the name. -/
theorem expand_computed_flags :
    let scope := (Scope.start (fun _ => none) false).assign "DEBUG_FLAGS".toList "-g -O0".toList
    let body : Text := " $(shell DEBUG)_FLAGS ".toList
    let text : Text := " DEBUG_FLAGS ".toList
    let computed := expand (printing []) scope (Reference.group body).text 0
    let written := expand (printing []) scope (Reference.group text).text 5
    (expand (printing []) scope body 0).answer = .ok text ∧ computed.verdict = written.verdict ∧
      written.answer = .ok "-g -O0".toList := by
  intro scope body text computed written
  have found : Reference.after? ('(' :: body ++ [')']) = some (.group body) := by decide
  have balanced : body.Balanced := (Reference.wellFormed_of_after? found).1.2
  have balanced' : text.Balanced := .of_no_parenthesis (by decide) (by decide)
  have expanded : (expand (printing []) scope body 0).answer = .ok text := by decide +kernel
  have value : written.answer = .ok "-g -O0".toList := by decide +kernel
  have found' : computed.answer = .ok "-g -O0".toList := by decide +kernel
  have steady : ∀ line s, ((printing []).run line true s).1.result = .ok (line ++ []) :=
    fun _ _ => rfl
  obtain ⟨deep, cut⟩ | ⟨between, whole, _, _, alike⟩ :=
    expand_computed (printing []) scope steady balanced expanded (by decide) balanced' 0 5
  · cases found'.symm.trans cut
  · have name : between = "DEBUG_FLAGS".toList := by
      have margins : body.leading = [' '] ∧ body.trailing = [' '] := by decide
      have spaced : text = [' '] ++ "DEBUG_FLAGS".toList ++ [' '] := by decide
      rw [margins.1, margins.2, spaced, List.append_left_inj, List.append_right_inj] at whole
      exact whole.symm
    have own : between.trim = between := by
      rw [name]
      decide
    exact ⟨expanded, alike own, value⟩

/-- A command ends its output with a line feed, which is trimmed off only where it is written. -/
theorem computed_differs :
    let scope := (Scope.start (fun _ => none) false).assign ['X'] ['v']
    let host := printing ['\n']
    let body : Text := "$(shell X)".toList
    let text : Text := ['X', '\n']
    (∀ line s, (host.run line true s).1.result = .ok (line ++ ['\n'])) ∧
      body.Balanced ∧ (expand host scope body 0).answer = .ok text ∧ text.Balanced ∧
      (expand host scope (Reference.group body).text 0).answer = .ok [] ∧
      (expand host scope (Reference.group text).text 0).answer = .ok ['v'] := by
  intro scope host body text
  have balanced : body.Balanced := by
    have found : Reference.after? ('(' :: body ++ [')']) = some (.group body) := by decide
    exact (Reference.wellFormed_of_after? found).1.2
  have balanced' : text.Balanced := .of_no_parenthesis (by decide) (by decide)
  exact ⟨fun _ _ => rfl, balanced, by decide +kernel, balanced', by decide +kernel,
    by decide +kernel⟩

end Expansion

end BuildRules
