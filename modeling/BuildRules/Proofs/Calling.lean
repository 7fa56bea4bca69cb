import BuildRules.Proofs.Margin

/-! Calls without an argument. A body that comes to one word is the name of a variable. But blanks
that its references leave behind the word are not trimmed off, and when the word is the name of a
function, a space or a tab right behind it makes a call of the body. The argument of the call is
empty then, so `shell` runs an empty command. -/
namespace BuildRules

namespace Text
variable {text front rest : Text} {c : Char}

/-- What stands behind a space or a tab that is trimmed off is trimmed off with it. -/
theorem isBlank_behind (begins : ∀ d ∈ front.head?, isBlank d = false) (some : front ≠ [])
    (indent : isIndent c = true)
    (single : ∀ d ∈ trim (front ++ c :: rest), isIndent d = false) :
    ∀ d ∈ rest, isBlank d = true := by
  have unindented : leading (front ++ c :: rest) = [] := by
    obtain ⟨first, more, rfl⟩ := List.exists_cons_of_ne_nil some
    rw [List.cons_append, leading, List.takeWhile_cons, begins first rfl]
    rfl
  have whole := leading_trim_trailing (front ++ c :: rest)
  rw [unindented, List.nil_append] at whole
  have behind : c :: rest <:+ trailing (front ++ c :: rest) := by
    rcases List.append_eq_append_iff.1 whole with ⟨gap, _, split⟩ | ⟨gap, split, behind⟩
    · exact ⟨gap, split.symm⟩
    · cases gap with
      | nil => exact ⟨[], behind⟩
      | cons d gap =>
        obtain ⟨rfl, _⟩ := List.cons.inj behind
        have kept : c ∈ trim (front ++ c :: rest) := by simp [split]
        rw [single c kept] at indent
        cases indent
  intro d member
  exact isBlank_trailing _ d (behind.subset (List.mem_cons_of_mem c member))

end Text

namespace Function
variable {body text argument name : Text} {f : Function}

theorem named?_eq_some_iff : named? name = some f ↔ name = f.name := by
  constructor
  · intro found
    have same := List.find?_some found
    exact (beq_iff_eq.1 same).symm
  · rintro rfl
    exact named?_name f

theorem noBlank_name (f : Function) : ∀ c ∈ f.name, Text.isBlank c = false := by
  have solid : (f.name.all fun c => !Text.isBlank c) = true := by cases f <;> rfl
  simpa using solid

theorem name_ne_nil (f : Function) : f.name ≠ [] := by
  cases f <;> exact List.cons_ne_nil _ _

/-- A call is the name of a function, a space or a tab, and the argument. -/
theorem call?_eq_some_iff :
    call? body = some (f, argument) ↔ ∃ c rest, body = f.name ++ c :: rest ∧
      Text.isIndent c = true ∧ argument = Text.trimStart rest := by
  constructor
  · intro called
    have cut : (body.takeWhile fun c => !Text.isIndent c) ++
        (body.dropWhile fun c => !Text.isIndent c) = body := List.takeWhile_append_dropWhile
    have stopped := List.head?_dropWhile_not (fun c => !Text.isIndent c) body
    rw [call?] at called
    generalize (body.takeWhile fun c => !Text.isIndent c) = first at called cut
    generalize (body.dropWhile fun c => !Text.isIndent c) = behind at cut stopped
    subst cut
    simp only [List.drop_left] at called
    cases behind with
    | nil => cases called
    | cons c rest =>
      obtain ⟨g, found, same⟩ := Option.map_eq_some_iff.1 called
      obtain ⟨rfl, rfl⟩ := Prod.mk.inj same
      exact ⟨c, rest, by rw [named?_eq_some_iff.1 found], by simpa using stopped, rfl⟩
  · rintro ⟨c, rest, rfl, indent, rfl⟩
    have first : ((f.name ++ c :: rest).takeWhile fun c => !Text.isIndent c) = f.name := by
      rw [List.takeWhile_append_of_pos]
      · simp [indent]
      · intro d member
        rw [Bool.not_eq_true', Bool.eq_false_iff]
        intro isIndent
        have blank := Text.isBlank_of_isIndent isIndent
        rw [noBlank_name f d member] at blank
        cases blank
    simp only [call?, first, List.drop_left, named?_name]
    rfl

/-- The text is the name of the function and blanks behind it, the first of them a space or a tab. -/
def Hangs (f : Function) (text : Text) : Prop :=
  ∃ c gap, text = f.name ++ c :: gap ∧ Text.isIndent c = true ∧ ∀ d ∈ gap, Text.isBlank d = true

/-- A text of one word is no call, unless the name of a function hangs in front of blanks. -/
theorem call?_of_single (single : ∀ c ∈ Text.trim text, Text.isIndent c = false) :
    call? text = some (f, argument) ↔ f.Hangs text ∧ argument = [] := by
  rw [call?_eq_some_iff]
  constructor
  · rintro ⟨c, rest, rfl, indent, rfl⟩
    have begins : ∀ d ∈ f.name.head?, Text.isBlank d = false := fun d first =>
      noBlank_name f d (List.mem_of_mem_head? first)
    have blank := Text.isBlank_behind begins (name_ne_nil f) indent single
    exact ⟨⟨c, rest, rfl, indent, blank⟩, List.dropWhile_eq_nil_iff.2 blank⟩
  · rintro ⟨⟨c, gap, rfl, indent, blank⟩, rfl⟩
    exact ⟨c, gap, rfl, indent, (List.dropWhile_eq_nil_iff.2 blank).symm⟩

end Function

namespace Expansion
variable {σ : Type} {host : Host σ} {scope : Scope} {text : Text}

/-- What a body comes to that has one word: the value of a variable, or that of a call without an
argument. -/
theorem valueOf_single (host : Host σ) (scope : Scope)
    (single : ∀ c ∈ Text.trim text, Text.isIndent c = false) :
    ((∀ f : Function, ¬ f.Hangs text) → valueOf host scope text = pure (scope.value text)) ∧
      ∀ f : Function, f.Hangs text →
        valueOf host scope text = f.call host scope.environment [] := by
  constructor
  · intro free
    cases called : Function.call? text with
    | none => rw [valueOf, called]
    | some call =>
      exact absurd ((Function.call?_of_single single).1 called).1 (free call.1)
  · intro f hangs
    rw [valueOf, (Function.call?_of_single single).2 ⟨hangs, rfl⟩]

theorem captured_call (host : Host σ) (environment : Environment) (f : Function) (s : σ) :
    Event.captured (f.call host environment [] s).events = if f = .shell then [[]] else [] := by
  cases f <;> rfl

/-- A body that has one word once the references in it have been expanded names a variable, and only
those references have run commands. The one exception is the name of a function in front of blanks
that begin with a space or a tab. The function is called then, with nothing for its argument: `env`
looks up the empty name, and `shell` runs one more command, the empty one. -/
theorem value_of_single (host : Host σ) (scope : Scope) (nesting : Nat) (body : Text) (s : σ)
    {text : Text} {events : List Event} {t : σ}
    (expanded : expandWithin host scope nesting (Text.trim body) s = ⟨.ok text, events, t⟩)
    (single : ∀ c ∈ Text.trim text, Text.isIndent c = false) :
    let done := (do valueOf host scope (← expandWithin host scope nesting (Text.trim body))) s
    ((∀ f : Function, ¬ f.Hangs text) → done = ⟨.ok (scope.value text), events, t⟩) ∧
    (∀ f : Function, f.Hangs text →
      let called := f.call host scope.environment [] t
      done = ⟨called.answer, events ++ called.events, called.state⟩) ∧
    (Function.shell.Hangs text → Event.captured done.events = Event.captured events ++ [[]]) ∧
    (¬ Function.shell.Hangs text → Event.captured done.events = Event.captured events) := by
  intro done
  obtain ⟨plain, calls⟩ := valueOf_single host scope single
  have through : done = ⟨(valueOf host scope text t).answer,
      events ++ (valueOf host scope text t).events, (valueOf host scope text t).state⟩ :=
    Act.bind_ok expanded
  have named (free : ∀ f : Function, ¬ f.Hangs text) :
      done = ⟨.ok (scope.value text), events, t⟩ := by
    rw [through, plain free, Act.pure_apply, List.append_nil]
  have called (f : Function) (hangs : f.Hangs text) :
      done = ⟨(f.call host scope.environment [] t).answer,
        events ++ (f.call host scope.environment [] t).events,
        (f.call host scope.environment [] t).state⟩ := by
    rw [through, calls f hangs]
  refine ⟨named, called, fun hangs => ?_, fun free => ?_⟩
  · rw [called .shell hangs, Event.captured_append, captured_call]
    rfl
  · by_cases env : Function.env.Hangs text
    · rw [called .env env, Event.captured_append, captured_call]
      simp
    · have none : ∀ f : Function, ¬ f.Hangs text := by
        intro f
        cases f with
        | shell => exact free
        | env => exact env
      rw [named none]

/-- The argument of the outer call is the output of a command that prints nothing. -/
theorem value_of_single_probe :
    let scope := Scope.start (fun _ => none) false
    let body := "shell $(shell probe)".toList
    let text := "shell ".toList
    ∃ events, expandWithin BuildFile.emptyHost scope 65535 (Text.trim body) () =
        ⟨.ok text, events, ()⟩ ∧
      Event.captured events = ["probe".toList] ∧
      (∀ c ∈ Text.trim text, Text.isIndent c = false) ∧ Function.shell.Hangs text ∧
      Event.captured (bodyValue BuildFile.emptyHost scope body ()).events =
        ["probe".toList, []] := by
  intro scope body text
  have answer : (expandWithin BuildFile.emptyHost scope 65535 (Text.trim body) ()).answer =
      .ok text := by decide +kernel
  have ran : Event.captured
      (expandWithin BuildFile.emptyHost scope 65535 (Text.trim body) ()).events =
        ["probe".toList] := by decide +kernel
  rcases expanded : expandWithin BuildFile.emptyHost scope 65535 (Text.trim body) ()
    with ⟨result, events, u⟩
  rw [expanded] at answer ran
  obtain rfl : result = .ok text := answer
  have word : ((Text.trim text).all fun c => !Text.isIndent c) = true := by decide
  have single : ∀ c ∈ Text.trim text, Text.isIndent c = false := by simpa using word
  have hangs : Function.shell.Hangs text := ⟨' ', [], rfl, rfl, fun _ member => by cases member⟩
  obtain ⟨_, _, runs, _⟩ :=
    value_of_single BuildFile.emptyHost scope 65535 body () expanded single
  refine ⟨events, rfl, ran, single, hangs, (runs hangs).trans ?_⟩
  rw [ran]
  rfl

/-- A name that is not defined is expanded to nothing, and the empty command is run. -/
theorem empty_command :
    let scope := Scope.start (fun _ => none) false
    let body := "shell $(CMD)".toList
    let inner := expandWithin BuildFile.emptyHost scope 65535 (Text.trim body) ()
    inner.answer = .ok "shell ".toList ∧ Text.trim "shell ".toList = "shell".toList ∧
      Event.captured inner.events = [] ∧
      Event.captured (bodyValue BuildFile.emptyHost scope body ()).events = [[]] := by
  intro scope body inner
  exact ⟨by decide +kernel, by decide, by decide +kernel, by decide +kernel⟩

end Expansion

end BuildRules
