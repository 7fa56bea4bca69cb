import BuildRules.Expansion
import BuildRules.Proofs.Segmentation

/-! Expansion and inert texts. What expansion gives is inert, and an inert text expands to itself
in every scope, with nothing run. A line begins as it did before, unless a reference begins it.
A relation between acts that is kept by putting them in a row holds of two expansions when it holds
of the values of bodies. -/
namespace BuildRules

/-- A relation between acts that holds of the same answer and of the same notice on both sides, and
is kept by putting acts in a row. -/
structure Act.Congruence {σ τ : Type} (related : {α : Type} → Act σ α → Act τ α → Prop) : Prop where
  pure : ∀ {α : Type} (a : α), related (Pure.pure a) (Pure.pure a)
  note : ∀ notice, related (Act.note notice) (Act.note notice)
  bind : ∀ {α β : Type} {act : Act σ α} {other : Act τ α} {next : α → Act σ β}
    {next' : α → Act τ β}, related act other → (∀ a, related (next a) (next' a)) →
      related (act >>= next) (other >>= next')

namespace Segments

/-- The text before the first reference, which is all when there is none. -/
def front (segments : Segments) : Text :=
  match segments.parts with
  | [] => segments.tail
  | (first, _) :: _ => first

/-- A reference in parentheses at the end of a text is the only one when no dollar sign stands
before it. -/
theorem ofText_group {front body : Text} (free : '$' ∉ front) (balanced : body.Balanced)
    (nonempty : body ≠ []) :
    ofText (front ++ (Reference.group body).text) = ⟨[(front, .group body)], []⟩ := by
  have last : (Reference.group body).text = (Reference.group body).text ++ [] :=
    (List.append_nil _).symm
  rw [ofText, scan_free free, last, scan_group balanced nonempty]
  simp [ofText, scan, cons]

/-- What has been passed stands in front of the first reference. -/
theorem front_scan (plain text : Text) : plain.reverse <+: (scan 0 plain text).front := by
  induction text generalizing plain with
  | nil => exact List.prefix_rfl
  | cons c text ih =>
    have longer : plain.reverse <+: (c :: plain).reverse := by
      rw [List.reverse_cons]
      exact List.prefix_append _ _
    rw [scan]
    split
    · next dollar =>
      cases Reference.after? text with
      | some reference => exact List.prefix_rfl
      | none => exact longer.trans (ih (c :: plain))
    · exact longer.trans (ih (c :: plain))

end Segments

namespace Expansion
variable {σ : Type} {host : Host σ} {scope : Scope} {resolve : Text → Act σ Text}
  {line text current : Text} {c : Char} {s t : σ} {events : List Event}

theorem pass_inert (resolve : Text → Act σ Text) (inert : text.Inert) :
    pass resolve text = pure none := by
  rw [pass, if_pos (Segments.isPlain_ofText_iff.2 inert)]

theorem settle_inert (resolve : Text → Act σ Text) (inert : text.Inert) (passes : Nat) (s : σ) :
    settle resolve text (passes + 1) text s = ⟨.ok text, [.notice (.beforeExpand text)], s⟩ := by
  simp [settle, pass_inert resolve inert, Act.bind_apply, Act.note, Act.emit, Act.pure_apply]

theorem expandWithin_inert (host : Host σ) (scope : Scope) (nesting : Nat) (inert : text.Inert)
    (s : σ) :
    expandWithin host scope nesting text s = ⟨.ok text, [.notice (.beforeExpand text)], s⟩ := by
  cases nesting with
  | zero => exact settle_inert _ inert 99 s
  | succ nesting => exact settle_inert _ inert 99 s

/-- An inert text stays as it is, and nothing is run for it. -/
theorem expand_inert (host : Host σ) (scope : Scope) (inert : text.Inert) (s : σ) :
    expand host scope text s = ⟨.ok text, [.notice (.beforeExpand text)], s⟩ :=
  expandWithin_inert host scope maxNesting inert s

theorem inert_of_pass
    (passed : pass resolve text s = ⟨.ok none, events, t⟩) : text.Inert := by
  rw [pass] at passed
  split at passed
  · next plain => exact Segments.isPlain_ofText_iff.1 plain
  · rw [Act.map_apply] at passed
    generalize substitute resolve _ _ s = done at passed
    rcases done with ⟨_ | _, _, _⟩ <;> cases passed

/-- A line settles after one more pass, or as it is when a pass replaces nothing. -/
theorem settle_cases {passes : Nat}
    (settled : settle resolve line (passes + 1) current s = ⟨.ok text, events, t⟩) :
    (∃ next first rest u, pass resolve current s = ⟨.ok (some next), first, u⟩ ∧
      settle resolve line passes next u = ⟨.ok text, rest, t⟩) ∨
    (∃ first u, pass resolve current s = ⟨.ok none, first, u⟩) ∧ current = text := by
  rw [settle] at settled
  obtain ⟨_, _, _, _, noted, passed, _⟩ := Act.bind_eq_ok.1 settled
  cases noted
  obtain ⟨next, first, u, rest, found, done, _⟩ := Act.bind_eq_ok.1 passed
  cases next with
  | some next => exact .inl ⟨next, first, rest, u, found, done⟩
  | none =>
    refine .inr ⟨⟨first, u, found⟩, ?_⟩
    by_cases unchanged : (current == line) = true
    · simp only [unchanged] at done
      exact (Act.pure_eq_ok.1 done).1
    · simp only [unchanged] at done
      obtain ⟨_, _, _, _, _, last, _⟩ := Act.bind_eq_ok.1 done
      exact (Act.pure_eq_ok.1 last).1

theorem inert_of_settle {passes : Nat}
    (settled : settle resolve line passes current s = ⟨.ok text, events, t⟩) : text.Inert := by
  induction passes generalizing current s events with
  | zero => cases settled
  | succ passes ih =>
    rcases settle_cases settled with ⟨_, _, _, _, _, later⟩ | ⟨⟨_, _, plain⟩, rfl⟩
    · exact ih later
    · exact inert_of_pass plain

/-- A line with one reference settles in the pass after the one that replaces it. -/
theorem settle_group {front body value : Text} (free : '$' ∉ front) (balanced : body.Balanced)
    (nonempty : body ≠ []) (inert : (front ++ value).Inert)
    (resolved : resolve body s = ⟨.ok value, events, t⟩) (passes : Nat) :
    ∃ events, settle resolve line (passes + 2) (front ++ (Reference.group body).text) s =
      ⟨.ok (front ++ value), events, t⟩ := by
  have passed : pass resolve (front ++ (Reference.group body).text) s =
      ⟨.ok (some (front ++ value)), events, t⟩ := by
    have done : substitute resolve [] [(front, .group body)] s =
        ⟨.ok (front ++ value ++ []), events ++ [], t⟩ := by
      have found : resolve (Reference.group body).body s = ⟨.ok value, events, t⟩ := resolved
      rw [substitute, Act.bind_ok found]
      rfl
    rw [List.append_nil, List.append_nil] at done
    rw [pass, Segments.ofText_group free balanced nonempty]
    change (some <$> substitute resolve [] [(front, .group body)]) s = _
    rw [Act.map_apply, done]
    rfl
  have last : pass resolve (front ++ value) t = ⟨.ok none, [], t⟩ := by
    rw [pass_inert resolve inert]
    rfl
  rw [settle, Act.bind_ok (Act.note_apply _ s), Act.bind_ok passed]
  simp only
  rw [settle, Act.bind_ok (Act.note_apply _ t), Act.bind_ok last]
  by_cases unchanged : (front ++ value == line) = true
  · exact ⟨_, by simp only [unchanged]; rfl⟩
  · exact ⟨_, by simp only [unchanged]; rfl⟩

/-- A name that is written in parentheses at the end of a line expands to its value. -/
theorem expand_name (host : Host σ) (scope : Scope) {front name : Text} (free : '$' ∉ front)
    (balanced : name.Balanced) (nonempty : name ≠ []) (inertName : name.Inert)
    (trimmed : Text.trim name = name) (noCall : Function.call? name = none)
    (inert : (front ++ scope.value name).Inert) (s : σ) :
    ∃ events, expand host scope (front ++ (Reference.group name).text) s =
      ⟨.ok (front ++ scope.value name), events, s⟩ := by
  have resolved : (do valueOf host scope (← expandWithin host scope 65535 (Text.trim name))) s =
      ⟨.ok (scope.value name), [.notice (.beforeExpand name)], s⟩ := by
    rw [trimmed, Act.bind_ok (expandWithin_inert host scope 65535 inertName s), valueOf, noCall]
    rfl
  exact settle_group free balanced nonempty inert resolved 98

theorem inert_of_expand
    (expanded : expand host scope line s = ⟨.ok text, events, t⟩) : text.Inert :=
  inert_of_settle expanded

theorem front_of_substitute {segments : Segments}
    (done : substitute resolve segments.tail segments.parts s = ⟨.ok text, events, t⟩) :
    segments.front <+: text := by
  obtain ⟨_ | ⟨⟨first, reference⟩, rest⟩, tail⟩ := segments
  · obtain ⟨rfl, _, _⟩ := Act.pure_eq_ok.1 done
    exact List.prefix_rfl
  · obtain ⟨value, _, u, _, _, done, _⟩ := Act.bind_eq_ok.1 done
    rw [Act.map_apply] at done
    generalize substitute resolve tail rest u = after at done
    rcases after with ⟨_ | after, _, _⟩
    · cases done
    · cases done
      exact ⟨value ++ after, (List.append_assoc _ _ _).symm⟩

theorem head?_of_pass (first : current.head? = some c) (other : c ≠ '$')
    (passed : pass resolve current s = ⟨.ok (some text), events, t⟩) : text.head? = some c := by
  obtain ⟨rest, rfl⟩ := List.head?_eq_some_iff.1 first
  rw [pass] at passed
  split at passed
  · cases passed
  · rw [Act.map_apply] at passed
    rcases done : substitute resolve (Segments.ofText (c :: rest)).tail
      (Segments.ofText (c :: rest)).parts s with ⟨_ | after, _, _⟩
    · rw [done] at passed
      cases passed
    · rw [done] at passed
      cases passed
      have kept : [c] <+: text := by
        refine List.IsPrefix.trans ?_ (front_of_substitute done)
        rw [Segments.ofText, Segments.scan, if_neg other]
        exact Segments.front_scan [c] rest
      obtain ⟨more, rfl⟩ := kept
      rfl

theorem head?_of_settle {passes : Nat} (first : current.head? = some c) (other : c ≠ '$')
    (settled : settle resolve line passes current s = ⟨.ok text, events, t⟩) :
    text.head? = some c := by
  induction passes generalizing current s events with
  | zero => cases settled
  | succ passes ih =>
    rcases settle_cases settled with ⟨next, _, _, _, passed, later⟩ | ⟨_, same⟩
    · exact ih (head?_of_pass first other passed) later
    · exact same ▸ first

/-- Expansion leaves the first character of a line where it is, unless it begins a reference. -/
theorem head?_of_expand (first : line.head? = some c) (other : c ≠ '$')
    (expanded : expand host scope line s = ⟨.ok text, events, t⟩) : text.head? = some c :=
  head?_of_settle first other expanded

/-- Expansion with a value for each body in which no reference is left. -/
def expandBy (value : Text → Act σ Text) : Nat → Text → Act σ Text
  | 0, line => settle (fun body => .fail (.tooDeep body)) line maxPasses line
  | nesting + 1, line =>
    settle (fun body => do value (← expandBy value nesting (Text.trim body))) line maxPasses line

theorem expandWithin_eq_expandBy (host : Host σ) (scope : Scope) (nesting : Nat) (line : Text) :
    expandWithin host scope nesting line = expandBy (valueOf host scope) nesting line := by
  induction nesting generalizing line with
  | zero => rfl
  | succ nesting ih => simp only [expandWithin, expandBy, ih]

section Related
variable {τ : Type} {related : {α : Type} → Act σ α → Act τ α → Prop} {resolve' : Text → Act τ Text}
  (congruence : Act.Congruence related) (each : ∀ body, related (resolve body) (resolve' body))
include congruence each

theorem related_substitute (tail : Text) (parts : List (Text × Reference)) :
    related (substitute resolve tail parts) (substitute resolve' tail parts) := by
  induction parts with
  | nil => exact congruence.pure tail
  | cons part rest ih =>
    simp only [substitute, ← bind_pure_comp]
    exact congruence.bind (each part.2.body) fun _ =>
      congruence.bind ih fun _ => congruence.pure _

theorem related_pass (line : Text) : related (pass resolve line) (pass resolve' line) := by
  simp only [pass, ← bind_pure_comp]
  split
  · exact congruence.pure none
  · exact congruence.bind (related_substitute congruence each _ _) fun _ => congruence.pure _

theorem related_settle (unterminated : related (.fail (.unterminated line) : Act σ Text)
      (.fail (.unterminated line))) (passes : Nat) (current : Text) :
    related (settle resolve line passes current) (settle resolve' line passes current) := by
  induction passes generalizing current with
  | zero => exact unterminated
  | succ passes ih =>
    refine congruence.bind (congruence.note _) fun _ =>
      congruence.bind (related_pass congruence each current) fun next => ?_
    cases next with
    | some next => exact ih next
    | none =>
      by_cases unchanged : (current == line) = true
      · simp only [unchanged]
        exact congruence.pure current
      · simp only [unchanged]
        exact congruence.bind (congruence.note _) fun _ => congruence.pure current

/-- Two expansions are related when the values of bodies are, and the errors of expansions. -/
theorem related_expandBy (tooDeep : ∀ body, related (.fail (.tooDeep body) : Act σ Text)
      (.fail (.tooDeep body)))
    (unterminated : ∀ line, related (.fail (.unterminated line) : Act σ Text)
      (.fail (.unterminated line))) (nesting : Nat) (line : Text) :
    related (expandBy resolve nesting line) (expandBy resolve' nesting line) := by
  induction nesting generalizing line with
  | zero => exact related_settle congruence tooDeep (unterminated line) maxPasses line
  | succ nesting ih =>
    have nested (body : Text) : related (expandBy resolve nesting (Text.trim body) >>= resolve)
        (expandBy resolve' nesting (Text.trim body) >>= resolve') :=
      congruence.bind (ih (Text.trim body)) each
    exact related_settle congruence nested (unterminated line) maxPasses line

end Related

section Commands
variable {first second : Host σ} (run : second.run = first.run)
include run

theorem valueOf_congr (scope : Scope) (body : Text) :
    valueOf second scope body = valueOf first scope body := by
  have commands : second.command = first.command := by
    funext line capture s
    simp only [Host.command, run]
  simp only [valueOf]
  split
  · next f argument _ =>
    cases f with
    | shell => exact congrFun (congrFun commands argument) true
    | env => rfl
  · rfl

theorem expandWithin_congr (scope : Scope) (nesting : Nat) :
    expandWithin second scope nesting = expandWithin first scope nesting := by
  funext line
  rw [expandWithin_eq_expandBy, expandWithin_eq_expandBy, funext (valueOf_congr run scope)]

/-- Expansion asks its host for nothing but the output of commands. -/
theorem expand_congr (scope : Scope) (line : Text) :
    expand second scope line = expand first scope line :=
  congrFun (expandWithin_congr run scope maxNesting) line

end Commands

end Expansion

end BuildRules
