import BuildRules.Proofs.BuildFile.Pairing
import BuildRules.Proofs.Likeness

/-! One reading with two hosts. A reading asks its host for the output of commands, and for the
dates of files, which decide nothing. With a second host it goes the same way when the commands
that it runs are answered as they were by the first, one after the other. -/
namespace BuildRules
variable {σ τ α β γ δ : Type}

/-- The commands that are run for their output. -/
def Event.captured (events : List Event) : List Text :=
  events.filterMap fun event =>
    match event with
    | .run line true => some line
    | _ => none

@[simp] theorem Event.captured_append (events rest : List Event) :
    captured (events ++ rest) = captured events ++ captured rest :=
  List.filterMap_append

namespace Host
variable {first : Host σ} {second : Host τ} {s : σ} {t : τ}

/-- What commands answer that are run for their output in order. -/
def answers (host : Host σ) : List Text → σ → List (Except Failure Text)
  | [], _ => []
  | line :: rest, s =>
    (host.run line true s).1.result :: answers host rest (host.run line true s).2

/-- The world after commands. -/
def afterAll (host : Host σ) (lines : List Text) (s : σ) : σ :=
  lines.foldl (fun s line => (host.run line true s).2) s

theorem afterAll_append (host : Host σ) (lines rest : List Text) (s : σ) :
    host.afterAll (lines ++ rest) s = host.afterAll rest (host.afterAll lines s) :=
  List.foldl_append

theorem answers_append (host : Host σ) (lines rest : List Text) (s : σ) :
    host.answers (lines ++ rest) s =
      host.answers lines s ++ host.answers rest (host.afterAll lines s) := by
  induction lines generalizing s with
  | nil => rfl
  | cons line lines ih => simp [answers, afterAll, ih]

@[simp] theorem length_answers (host : Host σ) (lines : List Text) (s : σ) :
    (host.answers lines s).length = lines.length := by
  induction lines generalizing s with
  | nil => rfl
  | cons line lines ih => simp [answers, ih]

theorem answers_split {lines rest : List Text}
    (same : second.answers (lines ++ rest) t = first.answers (lines ++ rest) s) :
    second.answers lines t = first.answers lines s ∧
      second.answers rest (second.afterAll lines t) =
        first.answers rest (first.afterAll lines s) := by
  rw [answers_append, answers_append] at same
  exact List.append_inj same (by simp)

theorem answers_eq_map {host : Host σ} {answers : Text → Except Failure Text}
    (steady : ∀ line s, (host.run line true s).1.result = answers line) (lines : List Text)
    (s : σ) : host.answers lines s = lines.map answers := by
  induction lines generalizing s with
  | nil => rfl
  | cons line rest ih => rw [Host.answers, steady, ih, List.map_cons]

end Host

/-- Answers that are related, or one error on both sides, of a certain kind. -/
inductive Same (fails : Error → Prop) (related : α → β → Prop) :
    Except Error α → Except Error β → Prop
  | ok {a : α} {b : β} (holds : related a b) : Same fails related (.ok a) (.ok b)
  | error {error : Error} (kind : fails error) : Same fails related (.error error) (.error error)

namespace Same
variable {fails : Error → Prop} {related : α → β → Prop}

theorem exists_related {a : α} {answer : Except Error β}
    (same : Same fails related (.ok a) answer) : ∃ b, answer = .ok b ∧ related a b := by
  cases same with
  | ok holds => exact ⟨_, rfl, holds⟩

theorem exists_ok {a : α} {answer : Except Error β} (same : Same fails related (.ok a) answer) :
    ∃ b, answer = .ok b := by
  obtain ⟨b, same, _⟩ := same.exists_related
  exact ⟨b, same⟩

theorem eq_error {error : Error} {answer : Except Error β}
    (same : Same fails related (.error error) answer) : answer = .error error := by
  cases same
  rfl

theorem eq {answer other : Except Error α} (same : Same fails (· = ·) answer other) :
    answer = other := by
  cases same with
  | ok holds => rw [holds]
  | error _ => rfl

end Same

/-- Two acts come to the same. They ran the same commands, and nothing else changed the worlds in
which they began. -/
structure Alike (first : Host σ) (second : Host τ) (fails : Error → Prop) (related : α → β → Prop)
    (s : σ) (t : τ) (done : Outcome σ α) (other : Outcome τ β) : Prop where
  answer : Same fails related done.answer other.answer
  captured : Event.captured other.events = Event.captured done.events
  state : done.state = first.afterAll (Event.captured done.events) s
  otherState : other.state = second.afterAll (Event.captured done.events) t

/-- Two acts come to the same in worlds where the runs of the first are answered alike. -/
def Follows (first : Host σ) (second : Host τ) (fails : Error → Prop) (related : α → β → Prop)
    (act : Act σ α) (other : Act τ β) : Prop :=
  ∀ s t, second.answers (Event.captured (act s).events) t =
      first.answers (Event.captured (act s).events) s →
    Alike first second fails related s t (act s) (other t)

namespace Follows
variable {first : Host σ} {second : Host τ} {fails : Error → Prop} {related : α → β → Prop}
  {goal : γ → δ → Prop}

theorem pure {a : α} {b : β} (holds : related a b) :
    Follows first second fails related (Pure.pure a) (Pure.pure b) :=
  fun _ _ _ => ⟨.ok holds, rfl, rfl, rfl⟩

theorem fail {error : Error} (kind : fails error) :
    Follows first second fails related (Act.fail error) (Act.fail error) :=
  fun _ _ _ => ⟨.error kind, rfl, rfl, rfl⟩

theorem note (notice : Notice) :
    Follows first second fails (· = ·) (Act.note notice) (Act.note notice) :=
  fun _ _ _ => ⟨.ok rfl, rfl, rfl, rfl⟩

theorem dates : Follows first second fails (fun _ _ => True) first.dates second.dates :=
  fun _ _ _ => ⟨.ok trivial, rfl, rfl, rfl⟩

theorem command {line : Text} (kind : ∀ failure : Failure, fails (failure.error line)) :
    Follows first second fails (· = ·) (first.command line true) (second.command line true) := by
  intro s t same
  have answer : (second.run line true t).1.result = (first.run line true s).1.result :=
    (List.cons.inj same).1
  refine ⟨?_, rfl, rfl, rfl⟩
  simp only [Host.command, answer]
  cases (first.run line true s).1.result with
  | error failure => exact .error (kind failure)
  | ok output => exact .ok rfl

/-- What comes to the same can be followed by what does. -/
theorem bind {act : Act σ α} {other : Act τ β} {next : α → Act σ γ} {next' : β → Act τ δ}
    (here : Follows first second fails related act other)
    (later : ∀ a b, related a b → Follows first second fails goal (next a) (next' b)) :
    Follows first second fails goal (act >>= next) (other >>= next') := by
  intro s t same
  have alike := here s t
  rcases ran : act s with ⟨error | a, events, u⟩
  · rw [ran] at alike
    rw [Act.bind_error ran] at same ⊢
    obtain ⟨answer, captured, state, state'⟩ := alike same
    rcases ran' : other t with ⟨error' | b, events', v⟩
    · rw [ran'] at answer captured state'
      cases answer with
      | error kind =>
        rw [Act.bind_error ran']
        exact ⟨.error kind, captured, state, state'⟩
    · rw [ran'] at answer
      cases answer
  · rw [ran] at alike
    rw [Act.bind_ok ran] at same ⊢
    simp only [Event.captured_append] at same
    obtain ⟨before, after⟩ := Host.answers_split same
    -- The first acts leave the worlds in which the answers to the rest are those that are alike.
    obtain ⟨answer, captured, state, state'⟩ := alike before
    rcases ran' : other t with ⟨error' | b, events', v⟩
    · rw [ran'] at answer
      cases answer
    · rw [ran'] at answer captured state'
      obtain rfl : u = first.afterAll (Event.captured events) s := state
      obtain rfl : v = second.afterAll (Event.captured events) t := state'
      cases answer with
      | ok holds =>
        rw [Act.bind_ok ran']
        have rest := later a b holds _ _ after
        refine ⟨rest.answer, ?_, ?_, ?_⟩
        · simpa only [Event.captured_append, captured] using congrArg _ rest.captured
        · simpa only [Event.captured_append, Host.afterAll_append] using rest.state
        · simpa only [Event.captured_append, Host.afterAll_append] using rest.otherState

theorem pairing : Act.Pairing fun {_ _} related act other =>
    Follows first second fails related act other where
  pure := .pure
  note := .note
  bind := .bind

theorem weaken {wider : Error → Prop} {act : Act σ α} {other : Act τ β}
    (here : Follows first second fails related act other) (kinds : ∀ e, fails e → wider e) :
    Follows first second wider related act other := by
  intro s t same
  obtain ⟨answer, captured, state, state'⟩ := here s t same
  refine ⟨?_, captured, state, state'⟩
  generalize (act s).answer = answer', (other t).answer = answer'' at answer ⊢
  cases answer with
  | ok holds => exact .ok holds
  | error kind => exact .error (kinds _ kind)

/-- When each command is always answered in the same way, the world decides no answer. -/
theorem answer_eq {act : Act σ α} {answers : Text → Except Failure Text}
    (here : Follows first first fails (· = ·) act act)
    (steady : ∀ line s, (first.run line true s).1.result = answers line) (s t : σ) :
    (act s).answer = (act t).answer := by
  have alike := here s t (by rw [Host.answers_eq_map steady, Host.answers_eq_map steady])
  exact alike.answer.eq

end Follows

def Error.isBadLine : Error → Bool
  | badLine _ _ _ => true
  | _ => false

namespace Expansion
variable {first : Host σ} {second : Host τ}

theorem follows_valueOf (scope : Scope) (body : Text) :
    Follows first second (fun error => error.isBadLine = false) (· = ·) (valueOf first scope body)
      (valueOf second scope body) := by
  simp only [valueOf]
  split
  · next f argument _ =>
    cases f with
    | shell => exact .command fun failure => by cases failure <;> rfl
    | env => exact .pure rfl
  · exact .pure rfl

theorem follows_expandWithin (scope : Scope) (nesting : Nat) (line : Text) :
    Follows first second (fun error => error.isBadLine = false) (· = ·)
      (expandWithin first scope nesting line) (expandWithin second scope nesting line) := by
  rw [expandWithin_eq_expandBy, expandWithin_eq_expandBy]
  exact related_expandBy Follows.pairing.congruence (follows_valueOf scope) (fun _ => .fail rfl)
    (fun _ => .fail rfl) nesting line

/-- An expansion blames no line. It does not know where it takes place. -/
theorem isBadLine_of_expand {host : Host σ} {scope : Scope} {line : Text} {s : σ} {error : Error}
    (failed : (expand host scope line s).answer = .error error) : error.isBadLine = false := by
  have follows : Follows host host _ _ _ _ := follows_expandWithin scope maxNesting line
  have answer := (follows s s rfl).answer
  rw [expand] at failed
  rw [failed] at answer
  cases answer with
  | error kind => exact kind

end Expansion

/-- Registries that are the same but for the dates of targets. -/
structure Registry.Agrees (registry other : Registry) : Prop where
  defaultGoal : registry.defaultGoal = other.defaultGoal
  like : registry.Like (fun _ _ _ => True) other

namespace Registry.Agrees
variable {registry other : Registry}

theorem refl (registry : Registry) : registry.Agrees registry :=
  ⟨rfl, .refl registry fun _ _ => trivial⟩

theorem addRule (agrees : registry.Agrees other) (rule : Rule) (dates dates' : Text → Option Time) :
    (registry.addRule dates rule).2 = (other.addRule dates' rule).2 ∧
      (registry.addRule dates rule).1.Agrees (other.addRule dates' rule).1 := by
  have added : (registry.addRule dates rule).2 = (other.addRule dates' rule).2 ∧
      (registry.addRule dates rule).1.Like (fun _ _ _ => True) (other.addRule dates' rule).1 :=
    agrees.like.addRule rule (fun _ => trivial) fun _ => trivial
  refine ⟨added.1, ?_, added.2⟩
  rw [Registry.addRule, Registry.addRule, defaultGoal_addTargets, defaultGoal_addTargets,
    agrees.defaultGoal]

theorem addPhonies (agrees : registry.Agrees other) (names : List Text) :
    (names.foldl addPhony registry).Agrees (names.foldl addPhony other) :=
  ⟨by simpa using agrees.defaultGoal, agrees.like.addPhonies names⟩

end Registry.Agrees

namespace BuildFile
variable {first : Host σ} {second : Host τ} {reader reader' : Reader}

/-- Readers that know the same, but for the dates of targets. -/
structure Reader.Agrees (reader reader' : Reader) : Prop where
  scope : reader.scope = reader'.scope
  block : reader.block = reader'.block
  registry : reader.registry.Agrees reader'.registry

theorem Reader.Agrees.start (options : Options) (environment : Environment) :
    (start options environment).Agrees (start options environment) :=
  ⟨rfl, rfl, .refl _⟩

theorem follows_close (agrees : reader.Agrees reader') :
    Follows first second (fun _ => True) Reader.Agrees (close first reader)
      (close second reader') := by
  rw [close, close, ← agrees.block]
  split
  · exact .pure agrees
  · next rule _ =>
    refine Follows.dates.bind fun dates dates' _ => ?_
    obtain ⟨same, registry⟩ := agrees.registry.addRule rule dates dates'
    rcases added : reader.registry.addRule dates rule with ⟨after, result⟩
    rcases added' : reader'.registry.addRule dates' rule with ⟨after', result'⟩
    rw [added, added'] at same registry
    cases same
    cases result with
    | error error => exact .fail trivial
    | ok _ => exact .pure ⟨agrees.scope, rfl, registry⟩

theorem follows_readings : Paired first second
    (fun {_ _} related act other => Follows first second (fun _ => True) related act other)
    Reader.Agrees (· = ·) where
  pairing := Follows.pairing
  text same := by rw [same]
  expanded _ same := by rw [same]
  words words same := by
    rw [same]
    exact .note _
  refuse fault text same := by
    rw [same]
    exact .fail trivial
  expand scope text :=
    (Expansion.follows_expandWithin scope Expansion.maxNesting text).weaken fun _ _ => trivial
  scope := Reader.Agrees.scope
  block := by
    intro reader reader' agrees
    cases block : reader'.block with
    | none => exact .inl ⟨agrees.block.trans block, rfl⟩
    | some rule =>
      exact .inr ⟨rule, rule, agrees.block.trans block, rfl, fun _ =>
        ⟨agrees.scope, rfl, agrees.registry⟩⟩
  close := follows_close
  assign _ agrees := ⟨rfl, agrees.block, agrees.registry⟩
  declare names agrees := ⟨agrees.scope, agrees.block, agrees.registry.addPhonies names⟩
  header _ _ agrees same := by
    rw [same]
    exact ⟨agrees.scope, rfl, agrees.registry⟩

/-- A build file is accepted by both hosts with the same registry but for dates, or it is refused by
both for the same reason. -/
theorem follows_parse (first : Host σ) (second : Host τ) (options : Options)
    (environment : Environment) (source : Text) :
    Follows first second (fun _ => True) Registry.Agrees
      (parse first options environment source) (parse second options environment source) :=
  follows_readings.parse (List.forall₂_refl _) (.start options environment)
    fun _ _ closed => closed.registry

end BuildFile

end BuildRules
