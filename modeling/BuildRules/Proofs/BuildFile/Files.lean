import BuildRules.Proofs.BuildFile.Pairing
import BuildRules.Proofs.Walk.Companions

/-! What the files have to do with a build. A build file is read and a goal is brought up to date
with two hosts that differ in their files alone. Nothing is different as long as the files agree for
names that are not phony: on which of them are dated after the start, and on which exist among those
without a rule. The dates are taken when a rule is registered, before all phony names are known. -/
namespace BuildRules
variable {σ : Type} {dates dates' : Text → Option Time}

/-- The hosts differ in their files and their clocks. Commands neither change files nor depend on
them: the dates are these in every world. -/
structure Host.ApartFromFiles (first second : Host σ) (dates dates' : Text → Option Time) :
    Prop where
  run : second.run = first.run
  clock : ∀ s, (second.now s).2 = (first.now s).2
  files : ∀ name s, first.modified name s = dates name
  otherFiles : ∀ name s, second.modified name s = dates' name

/-- The files agree in what a build can see of them. -/
structure Registry.FilesAgree (registry : Registry) (started : Time)
    (dates dates' : Text → Option Time) : Prop where
  newer : ∀ name, registry.isPhony name = false →
    (dates name).any (started < ·) = (dates' name).any (started < ·)
  isSome : ∀ name, registry.isPhony name = false → registry.target? name = none →
    (dates name).isSome = (dates' name).isSome

/-- The date of a file was taken on both sides, or no date on either. -/
def Drawn (dates dates' : Text → Option Time) (name : Text) (date date' : Option Time) : Prop :=
  date = none ∧ date' = none ∨ date = dates name ∧ date' = dates' name

namespace BuildFile

/-- Readers that know the same, but for dates of files. -/
structure Reader.Twin (dates dates' : Text → Option Time) (reader other : Reader) : Prop where
  scope : reader.scope = other.scope
  block : reader.block = other.block
  defaultGoal : reader.registry.defaultGoal = other.registry.defaultGoal
  like : reader.registry.Like (Drawn dates dates') other.registry

variable {first second : Host σ} {reader other : Reader}

theorem matches_close (apart : first.ApartFromFiles second dates dates')
    (twin : reader.Twin dates dates' other) :
    Matches (Reader.Twin dates dates') (close first reader) (close second other) := by
  rw [close, close, ← twin.block]
  split
  · exact .pure twin
  · next rule _ =>
    have looked : Matches (fun found found' => found = dates ∧ found' = dates') first.dates
        second.dates := by
      intro e s
      refine .ok ⟨⟨?_, ?_⟩, rfl, rfl⟩
      · funext name
        exact apart.files name s
      · funext name
        exact apart.otherFiles name s
    refine looked.bind ?_
    rintro found found' ⟨rfl, rfl⟩
    obtain ⟨same, like⟩ :=
      twin.like.addRule rule (fun _ => .inl ⟨rfl, rfl⟩) fun _ => .inr ⟨rfl, rfl⟩
    have goals : (reader.registry.addRule found rule).1.defaultGoal =
        (other.registry.addRule found' rule).1.defaultGoal := by
      rw [Registry.addRule, Registry.addRule, Registry.defaultGoal_addTargets,
        Registry.defaultGoal_addTargets, twin.defaultGoal]
    generalize reader.registry.addRule found rule = done at same like goals
    generalize other.registry.addRule found' rule = done' at same like goals
    obtain ⟨registry, result⟩ := done
    obtain ⟨registry', result'⟩ := done'
    obtain rfl : result = result' := same
    exact (Matches.refl _).bind fun _ _ _ => .pure ⟨twin.scope, rfl, goals, like⟩

theorem matches_readings (apart : first.ApartFromFiles second dates dates') :
    Paired first second (fun {_ _} related act other => Matches related act other)
      (Reader.Twin dates dates') (· = ·) where
  pairing := ⟨.pure, fun _ => .refl _, .bind⟩
  text same := by rw [same]
  expanded _ same := by rw [same]
  words words same := by
    rw [same]
    exact .refl _
  refuse fault text same := by
    rw [same]
    exact .fail _
  expand scope text := by
    rw [Expansion.expand_congr apart.run]
    exact .refl _
  scope := Reader.Twin.scope
  block := by
    intro reader reader' twin
    cases block : reader'.block with
    | none => exact .inl ⟨twin.block.trans block, rfl⟩
    | some rule =>
      exact .inr ⟨rule, rule, twin.block.trans block, rfl, fun _ =>
        ⟨twin.scope, rfl, twin.defaultGoal, twin.like⟩⟩
  close := matches_close apart
  assign _ twin := ⟨rfl, twin.block, twin.defaultGoal, twin.like⟩
  declare names twin :=
    ⟨twin.scope, twin.block, by simpa using twin.defaultGoal, twin.like.addPhonies names⟩
  header _ _ twin same := by
    rw [same]
    exact ⟨twin.scope, rfl, twin.defaultGoal, twin.like⟩

/-- Two readings of a build file give registries that differ in dates of files. -/
theorem matches_parse (apart : first.ApartFromFiles second dates dates') (options : Options)
    (environment : Environment) (source : Text) :
    Matches (fun registry other => registry.defaultGoal = other.defaultGoal ∧
        registry.Like (Drawn dates dates') other)
      (parse first options environment source) (parse second options environment source) := by
  have start : Reader.Twin dates dates' (start options environment) (start options environment) :=
    ⟨rfl, rfl, rfl, .empty _⟩
  exact (matches_readings apart).parse (List.forall₂_refl _) start fun _ _ closed =>
    ⟨closed.defaultGoal, closed.like⟩

/-- Reads a build file and brings a goal up to date. -/
def make (host : Host σ) (options : Options) (environment : Environment) (source request : Text)
    (started : Time) : Act σ Unit := do
  let registry ← parse host options environment source
  Act.onPart (fun s => ⟨registry, s⟩) (fun build _ => build.world)
    (Walk.process host options request started)

theorem isNewer_of_drawn {registry : Registry} {started : Time}
    (agree : registry.FilesAgree started dates dates') {name : Text} {date date' : Option Time}
    (drawn : Drawn dates dates' name date date') :
    Walk.isNewer registry started name date = Walk.isNewer registry started name date' := by
  rcases drawn with ⟨rfl, rfl⟩ | ⟨rfl, rfl⟩
  · rfl
  · cases phony : registry.isPhony name with
    | true => rw [Walk.isNewer_of_isPhony phony, Walk.isNewer_of_isPhony phony]
    | false => rw [Walk.isNewer, Walk.isNewer, agree.newer name phony]

/-- Under names where a walk looks for a file, there is one on both sides or on neither. -/
theorem rel_drawn {name : Text} (same : (dates name).isSome = (dates' name).isSome) :
    Option.Rel (fun time time' => Drawn dates dates' name (some time) (some time')) (dates name)
      (dates' name) := by
  cases here : dates name with
  | none =>
    cases there : dates' name with
    | none => exact .none
    | some time' => simp [here, there] at same
  | some time =>
    cases there : dates' name with
    | none => simp [here, there] at same
    | some time' => exact .some (.inr ⟨here.symm, there.symm⟩)

theorem companions_of_files (apart : first.ApartFromFiles second dates dates')
    (options : Options) {started : Time} {registry : Registry}
    (agree : registry.FilesAgree started dates dates') :
    Walk.Companions first second options options started registry
      (.same σ (Drawn dates dates')) fun _ _ => True := by
  refine Walk.companions_of_run apart.run apart.clock (fun _ _ _ => isNewer_of_drawn agree) ?_
  intro s name missing ordinary
  rw [apart.files, apart.otherFiles]
  exact rel_drawn (agree.isSome name ordinary missing)

/-- Files matter to a build in two ways only: which names that are not phony have one dated after
the start, and which names without a rule have one. Where two file systems agree in this, the same
is made of a build file, with the same events. -/
theorem make_of_files {first second : Host σ} {dates dates' : Text → Option Time}
    (apart : first.ApartFromFiles second dates dates') (options : Options)
    (environment : Environment) (source request : Text) (started : Time) (s : σ)
    (agree : ∀ registry, (parse first options environment source s).answer = .ok registry →
      registry.FilesAgree started dates dates') :
    make second options environment source request started s =
      make first options environment source request started s := by
  rcases (matches_parse apart options environment source).cases s with
    ⟨error, events, t, here, there⟩ | ⟨registry, other, events, t, here, there, goals, like⟩
  · rw [make, make, Act.bind_error here, Act.bind_error there]
  · have agree := agree registry (by rw [here])
    have named : Walk.goal registry request = Walk.goal other request := by
      rw [Walk.goal, Walk.goal, goals]
    obtain ⟨answer, shown, worlds⟩ :=
      Walk.process_same (s := ⟨registry, t⟩) (t := ⟨other, t⟩)
        (companions_of_files apart options agree) named rfl like
    rw [make, make, Act.bind_ok here, Act.bind_ok there]
    simp only [Act.onPart, answer, shown, worlds]

/-- A host with these files, which counts the commands that it runs. -/
def shelf (dates : Text → Option Time) : Host Nat where
  run _ capture runs := (⟨.ok (if capture then "cc".toList else []), [], []⟩, runs + 1)
  modified name _ := dates name
  read _ _ := .error .notFound
  now runs := (runs, runs)

/-- An old program that is newer than its source, and a file that stands where nothing is built. -/
def cluttered (name : Text) : Option Time :=
  if name = "app".toList then some 50
  else if name = "main.c".toList then some 10
  else if name = "clean".toList then some 900
  else none

/-- A source alone. -/
def bare (name : Text) : Option Time := if name = "main.c".toList then some 80 else none

/-- The phony name is declared after its rule. -/
def lateSource : Text :=
  ("all: clean app\napp: main.c\n\t$(shell which cc) -o $@ $<\n" ++
    "clean:\n\trm app\n.PHONY: clean").toList

theorem make_of_files_late :
    (shelf cluttered).ApartFromFiles (shelf bare) cluttered bare ∧
      (∀ registry, (parse (shelf cluttered) {} (fun _ => none) lateSource 0).answer = .ok registry →
        registry.FilesAgree 100 cluttered bare) ∧
      ((parse (shelf cluttered) {} (fun _ => none) lateSource 0).answer.toOption.map
        fun registry => (registry.isPhony "clean".toList, (registry.target? "app".toList).isSome,
          (registry.target? "clean".toList).bind Target.timestamp)) = some (true, true, some 900) ∧
      (make (shelf cluttered) {} (fun _ => none) lateSource [] 100 0).answer = .ok () ∧
      Event.actions (make (shelf cluttered) {} (fun _ => none) lateSource [] 100 0).events =
        [.run "which cc".toList true, .echo "rm app".toList, .run "rm app".toList false,
          .echo "cc -o app main.c".toList, .run "cc -o app main.c".toList false] ∧
      make (shelf bare) {} (fun _ => none) lateSource [] 100 0 =
        make (shelf cluttered) {} (fun _ => none) lateSource [] 100 0 := by
  have apart : (shelf cluttered).ApartFromFiles (shelf bare) cluttered bare :=
    ⟨rfl, fun _ => rfl, fun _ _ => rfl, fun _ _ => rfl⟩
  have known : ((parse (shelf cluttered) {} (fun _ => none) lateSource 0).answer.toOption.map
      fun registry => (registry.isPhony "clean".toList, (registry.target? "app".toList).isSome,
        (registry.target? "clean".toList).bind Target.timestamp)) =
      some (true, true, some 900) := by
    decide +kernel
  have agree (registry : Registry)
      (parsed : (parse (shelf cluttered) {} (fun _ => none) lateSource 0).answer = .ok registry) :
      registry.FilesAgree 100 cluttered bare := by
    rw [parsed] at known
    obtain ⟨isPhony, rest⟩ := Prod.mk.inj (Option.some.inj known)
    have declared : (registry.target? "app".toList).isSome = true := (Prod.mk.inj rest).1
    have other {name : Text} (ordinary : registry.isPhony name = false) :
        name ≠ "clean".toList := by
      rintro rfl
      rw [isPhony] at ordinary
      cases ordinary
    refine ⟨fun name ordinary => ?_, fun name ordinary missing => ?_⟩
    · rw [cluttered, bare, if_neg (other ordinary)]
      split
      · next app => rw [app]; rfl
      · split <;> rfl
    · have ruleless : name ≠ "app".toList := by
        rintro rfl
        rw [missing] at declared
        cases declared
      rw [cluttered, bare, if_neg (other ordinary), if_neg ruleless]
      split <;> rfl
  exact ⟨apart, agree, known, by decide +kernel, by decide +kernel,
    make_of_files apart {} (fun _ => none) lateSource [] 100 0 agree⟩

end BuildFile

end BuildRules
