import BuildRules.Session

/-! The goals of an invocation. They are requested in order, each on the registry and in the world
that the one before it has left. The first that fails is the last, unless the build keeps going.
Then all are requested, and the failures are counted. -/
namespace BuildRules
variable {σ : Type}

/-- A goal that was requested: when, how the request ended, and what was seen of it. -/
structure Attempt where
  goal : Text
  started : Time
  answer : Except Error Unit
  events : List Event

namespace Attempt

def failed (attempt : Attempt) : Bool :=
  match attempt.answer with
  | .ok _ => false
  | .error _ => true

/-- The events of an attempt, and the error that the log shows of it when the build keeps going. -/
def logged (attempt : Attempt) : List Event :=
  attempt.events ++
    match attempt.answer with
    | .ok _ => []
    | .error error => [.notice (.goalFailed error)]

end Attempt

namespace Session
variable {host : Host σ} {options : Options} {goal : Text} {goals : List Text}
  {before after last : Build σ} {events : List Event} {error : Error}

/-- The request for a goal starts at the time that the clock shows. -/
def request (host : Host σ) (options : Options) (goal : Text) (before : Build σ) :
    Outcome (Build σ) Unit :=
  let (started, t) := host.now before.world
  Walk.process host options goal started ⟨before.registry, t⟩

/-- Requests made one after the other, and the build that the last one leaves. -/
inductive Requests (host : Host σ) (options : Options) :
    Build σ → List Attempt → Build σ → Prop
  | nil {before : Build σ} : Requests host options before [] before
  | cons {goal : Text} {answer : Except Error Unit} {events : List Event}
      {before after last : Build σ} {rest : List Attempt}
      (requested : request host options goal before = ⟨answer, events, after⟩)
      (later : Requests host options after rest last) :
      Requests host options before
        (⟨goal, (host.now before.world).1, answer, events⟩ :: rest) last

theorem runGoals_cons (host : Host σ) (options : Options) (goal : Text) (goals : List Text)
    (before : Build σ) :
    runGoals host options (goal :: goals) before =
      (do
        match ← Act.attempt fun _ => request host options goal before with
        | .ok _ => runGoals host options goals
        | .error error =>
          if options.keepGoing then do
            .note (.goalFailed error)
            (· + 1) <$> runGoals host options goals
          else .fail error) before := by
  rw [runGoals]
  rfl

theorem runGoals_succeeded
    (requested : request host options goal before = ⟨.ok (), events, after⟩) :
    runGoals host options (goal :: goals) before =
      let done := runGoals host options goals after
      ⟨done.answer, events ++ done.events, done.state⟩ := by
  rw [runGoals_cons, requested]
  rfl

theorem runGoals_stopped (strict : options.keepGoing = false)
    (requested : request host options goal before = ⟨.error error, events, after⟩) :
    runGoals host options (goal :: goals) before = ⟨.error error, events, after⟩ := by
  rw [runGoals_cons, requested, strict]
  simp [Act.bind_apply, Act.attempt, Act.fail]

theorem runGoals_kept (keeps : options.keepGoing = true)
    (requested : request host options goal before = ⟨.error error, events, after⟩) :
    runGoals host options (goal :: goals) before =
      let done := runGoals host options goals after
      ⟨done.answer.map (· + 1), events ++ .notice (.goalFailed error) :: done.events,
        done.state⟩ := by
  rw [runGoals_cons, requested, keeps]
  simp [Act.bind_apply, Act.attempt, Act.note_apply, Act.map_apply]

/-- Keeping going, all goals are requested, whatever comes of them. -/
theorem runGoals_keepGoing (keeps : options.keepGoing = true) (goals : List Text)
    (before : Build σ) :
    ∃ attempts last, Requests host options before attempts last ∧
      attempts.map Attempt.goal = goals ∧
      runGoals host options goals before =
        ⟨.ok (attempts.countP Attempt.failed), attempts.flatMap Attempt.logged, last⟩ := by
  induction goals generalizing before with
  | nil => exact ⟨[], before, .nil, rfl, rfl⟩
  | cons goal goals ih =>
    rcases requested : request host options goal before with ⟨answer, events, after⟩
    obtain ⟨attempts, last, later, named, done⟩ := ih after
    refine ⟨_, last, .cons requested later, congrArg (goal :: ·) named, ?_⟩
    cases answer with
    | ok _ =>
      rw [runGoals_succeeded requested, done]
      simp [Attempt.failed, Attempt.logged]
    | error error =>
      rw [runGoals_kept keeps requested, done, List.countP_cons_of_pos rfl]
      simp [Attempt.logged, Except.map]

/-- Otherwise goals are requested as long as none fails. -/
theorem runGoals_strict (strict : options.keepGoing = false) (goals : List Text)
    (before : Build σ) :
    ∃ attempts last, Requests host options before attempts last ∧
      ((attempts.map Attempt.goal = goals ∧ (∀ attempt ∈ attempts, attempt.answer = .ok ()) ∧
          runGoals host options goals before = ⟨.ok 0, attempts.flatMap Attempt.events, last⟩) ∨
        ∃ earlier failing error left, attempts = earlier ++ [failing] ∧
          goals = attempts.map Attempt.goal ++ left ∧
          (∀ attempt ∈ earlier, attempt.answer = .ok ()) ∧ failing.answer = .error error ∧
          runGoals host options goals before =
            ⟨.error error, attempts.flatMap Attempt.events, last⟩) := by
  induction goals generalizing before with
  | nil => exact ⟨[], before, .nil, .inl ⟨rfl, by simp, rfl⟩⟩
  | cons goal goals ih =>
    rcases requested : request host options goal before with ⟨answer, events, after⟩
    cases answer with
    | error error =>
      refine ⟨_, after, .cons requested .nil, .inr ?_⟩
      refine ⟨[], _, error, goals, rfl, rfl, by simp, rfl, ?_⟩
      rw [runGoals_stopped strict requested]
      simp
    | ok _ =>
      obtain ⟨attempts, last, later, course⟩ := ih after
      refine ⟨_, last, .cons requested later, ?_⟩
      rcases course with ⟨named, succeeded, done⟩ |
        ⟨earlier, failing, error, left, rfl, named, succeeded, failed, done⟩
      · refine .inl ⟨congrArg (goal :: ·) named, List.forall_mem_cons.2 ⟨rfl, succeeded⟩, ?_⟩
        rw [runGoals_succeeded requested, done]
        simp
      · refine .inr ⟨_ :: earlier, failing, error, left, rfl, congrArg (goal :: ·) named,
          List.forall_mem_cons.2 ⟨rfl, succeeded⟩, failed, ?_⟩
        rw [runGoals_succeeded requested, done]
        simp

/-- What is seen of an invocation, by its exit status, its events and the message at its end. -/
def reported (environment : Environment) (options : Options) (status : Nat) (events : List Event)
    (message? : Option Text) : Report :=
  let last := match message? with
    | some text => "error: ".toList ++ Octets.ofText text ++ ['\n']
    | none => []
  ⟨status, Transcript.output events,
    Transcript.diagnostics (logRank environment options) events ++ last⟩

section Invocation
variable {environment : Environment} {arguments : List Text} {invocation : Invocation}
  {registry : Registry} {verdict : Verdict} {world s : σ}

theorem perform_eq (asked : CommandLine.parse environment arguments = .build invocation)
    (ran : run host environment invocation world = ⟨.ok verdict, events, s⟩) :
    perform host environment arguments world =
      (reported environment invocation.options verdict.exitStatus events verdict.message?, s) := by
  rw [perform, asked]
  simp only [ran]
  rfl

theorem run_notLoaded
    (loaded : BuildFile.load host invocation.options environment invocation.file world =
      ⟨.error error, events, s⟩) :
    run host environment invocation world =
      ⟨.ok (.notLoaded invocation.file error), events, s⟩ := by
  simp [run, Act.bind_apply, Act.attempt, loaded, Act.pure_apply]

theorem run_listed
    (loaded : BuildFile.load host invocation.options environment invocation.file world =
      ⟨.ok registry, events, s⟩)
    (lists : invocation.listsTargets = true) :
    run host environment invocation world =
      ⟨.ok .success, events ++ [.wrote (listing registry) []], s⟩ := by
  simp [run, Act.bind_apply, Act.attempt, loaded, lists, Act.emit, Act.map_apply, Except.map]

/-- The verdict on goals, by how their requests ended. -/
def verdictOf (total : Nat) : Except Error Nat → Verdict
  | .error error => .goalFailed error
  | .ok 0 => .success
  | .ok (failed + 1) => .goalsFailed (failed + 1) total

theorem run_built {answer : Except Error Nat} {more : List Event}
    (loaded : BuildFile.load host invocation.options environment invocation.file world =
      ⟨.ok registry, events, s⟩)
    (builds : invocation.listsTargets = false)
    (ran : runGoals host invocation.options (Session.goals invocation) ⟨registry, s⟩ =
      ⟨answer, more, last⟩) :
    run host environment invocation world =
      ⟨.ok (verdictOf (Session.goals invocation).length answer), events ++ more, last.world⟩ := by
  have built : build host invocation registry s =
      ⟨.ok (verdictOf (Session.goals invocation).length answer), more, last.world⟩ := by
    rw [build, ran]
    rcases answer with error | _ | failed <;> rfl
  simp [run, Act.bind_apply, Act.attempt, loaded, builds, built]

end Invocation

/-- An invocation loads the build file. If that fails, or if only the targets are listed, no goal is
requested. Otherwise the goals are requested in order, or the default goal once when there are none.
Unless the build keeps going, it ends with the first goal that fails and with the error of that
goal. If it keeps going it requests all goals, logs the error of each that fails, and ends with
their number if there are any. -/
theorem perform_of_goals (host : Host σ) (environment : Environment) (arguments : List Text)
    (world : σ) {invocation : Invocation}
    (asked : CommandLine.parse environment arguments = .build invocation) :
    let options := invocation.options
    let goals := if invocation.goals = [] then [[]] else invocation.goals
    let loaded := BuildFile.load host options environment invocation.file world
    let reports := reported environment options
    let done := perform host environment arguments world
    (∀ error, loaded.answer = .error error →
      done = (reports 1 loaded.events (some ("failed to load ".toList ++ invocation.file ++
        ": ".toList ++ error.chainMessage)), loaded.state)) ∧
    (∀ registry, loaded.answer = .ok registry → invocation.listsTargets = true →
      done = (reports 0 (loaded.events ++ [.wrote (listing registry) []]) none, loaded.state)) ∧
    ∀ registry, loaded.answer = .ok registry → invocation.listsTargets = false →
      ∃ attempts last, Requests host options ⟨registry, loaded.state⟩ attempts last ∧
        done.2 = last.world ∧
        (options.keepGoing = false →
          (attempts.map Attempt.goal = goals ∧ (∀ attempt ∈ attempts, attempt.answer = .ok ()) ∧
            done.1 = reports 0 (loaded.events ++ attempts.flatMap Attempt.events) none) ∨
          ∃ earlier failing error left, attempts = earlier ++ [failing] ∧
            goals = attempts.map Attempt.goal ++ left ∧
            (∀ attempt ∈ earlier, attempt.answer = .ok ()) ∧ failing.answer = .error error ∧
            done.1 = reports 1 (loaded.events ++ attempts.flatMap Attempt.events)
              (some error.chainMessage)) ∧
        (options.keepGoing = true →
          attempts.map Attempt.goal = goals ∧
          let failures := attempts.countP Attempt.failed
          done.1 = reports (if failures = 0 then 0 else 1)
            (loaded.events ++ attempts.flatMap Attempt.logged)
            (if failures = 0 then none
              else some (Text.ofNat failures ++ " of ".toList ++ Text.ofNat goals.length ++
                " goals failed".toList))) := by
  intro options goals loaded reports done
  have named : Session.goals invocation = goals := by
    simp only [Session.goals, List.isEmpty_iff, goals]
  rcases load : BuildFile.load host options environment invocation.file world
    with ⟨answer, events, s⟩
  have isLoaded : loaded = ⟨answer, events, s⟩ := load
  rw [isLoaded]
  refine ⟨?_, ?_, ?_⟩
  · rintro error rfl
    exact perform_eq asked (run_notLoaded load)
  · rintro registry rfl lists
    exact perform_eq asked (run_listed load lists)
  · rintro registry rfl builds
    rw [← named]
    cases keeps : options.keepGoing with
    | true =>
      obtain ⟨attempts, last, requests, all, ran⟩ :=
        runGoals_keepGoing keeps (Session.goals invocation) ⟨registry, s⟩
      have performed := perform_eq asked (run_built load builds ran)
      refine ⟨attempts, last, requests, congrArg Prod.snd performed, nofun, fun _ => ⟨all, ?_⟩⟩
      refine (congrArg Prod.fst performed).trans ?_
      cases attempts.countP Attempt.failed <;> rfl
    | false =>
      obtain ⟨attempts, last, requests, course⟩ :=
        runGoals_strict keeps (Session.goals invocation) ⟨registry, s⟩
      rcases course with ⟨all, succeeded, ran⟩ |
        ⟨earlier, failing, error, left, split, begun, succeeded, failed, ran⟩
      · have performed := perform_eq asked (run_built load builds ran)
        exact ⟨attempts, last, requests, congrArg Prod.snd performed,
          fun _ => .inl ⟨all, succeeded, congrArg Prod.fst performed⟩, nofun⟩
      · have performed := perform_eq asked (run_built load builds ran)
        exact ⟨attempts, last, requests, congrArg Prod.snd performed,
          fun _ => .inr ⟨earlier, failing, error, left, split, begun, succeeded, failed,
            congrArg Prod.fst performed⟩, nofun⟩

/-- A host with a build file of two rules, of which one fails. -/
def twoRules : Host Nat where
  run line _ time :=
    if line = "false".toList then (⟨.error (.ended (some 1)), [], []⟩, time)
    else (⟨.ok [], "good\n".toList, []⟩, time)
  modified _ _ := none
  read _ _ := .ok "bad:\n\t@false\ngood:\n\t@echo good\n".toList
  now time := (time, time + 1)

theorem perform_of_goals_three :
    let arguments := ["-k", "bad", "good", "none"].map String.toList
    let goals := ["bad", "good", "none"].map String.toList
    let options : Options := { keepGoing := true }
    let loaded := BuildFile.load twoRules options (fun _ => none) "Makefile".toList 0
    let done := perform twoRules (fun _ => none) arguments 0
    CommandLine.parse (fun _ => none) arguments =
        .build ⟨"Makefile".toList, false, options, goals⟩ ∧
      done.1.exitStatus = 1 ∧ done.1.output = "good\n".toList ∧
      done.1.diagnostics = ("ERROR \x60false\x60 failed with exit status 1\n" ++
        "ERROR unknown target \"none\"\nerror: 2 of 3 goals failed\n").toList ∧
      ∃ registry attempts last, loaded.answer = .ok registry ∧
        Requests twoRules options ⟨registry, loaded.state⟩ attempts last ∧ done.2 = last.world ∧
        attempts.map Attempt.goal = goals ∧
        let failures := attempts.countP Attempt.failed
        done.1 = reported (fun _ => none) options (if failures = 0 then 0 else 1)
          (loaded.events ++ attempts.flatMap Attempt.logged)
          (if failures = 0 then none
            else some (Text.ofNat failures ++ " of ".toList ++ Text.ofNat 3 ++
              " goals failed".toList)) := by
  intro arguments goals options loaded done
  have asked : CommandLine.parse (fun _ => none) arguments =
      .build ⟨"Makefile".toList, false, options, goals⟩ := by decide +kernel
  have names : loaded.answer.toOption.map Registry.names = some ["bad".toList, "good".toList] := by
    decide +kernel
  refine ⟨asked, by decide +kernel, by decide +kernel, by decide +kernel, ?_⟩
  cases answer : loaded.answer with
  | error error =>
    rw [answer] at names
    cases names
  | ok registry =>
    obtain ⟨_, _, built⟩ := perform_of_goals twoRules (fun _ => none) arguments 0 asked
    obtain ⟨attempts, last, requests, left, _, kept⟩ := built registry answer rfl
    obtain ⟨all, seen⟩ := kept rfl
    exact ⟨registry, attempts, last, rfl, requests, left, all, seen⟩

end Session

end BuildRules
