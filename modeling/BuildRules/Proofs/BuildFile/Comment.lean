import BuildRules.Proofs.BuildFile.Commands
import BuildRules.Proofs.BuildFile.Recipes

/-! Comments that stand on lines of their own. Such a line is expanded like any other before its
marker is seen, so the text behind the marker may run commands, and it may fail to come to an end.
That is all that it can do. -/
namespace BuildRules
variable {σ : Type}

/-- What an expansion shows apart from its result: the commands that it runs, and its error if it
fails. -/
def Expansion.trace (host : Host σ) (scope : Scope) (text : Text) (s : σ) :
    List Text × Except Error Unit :=
  let done := expand host scope text s
  (Event.captured done.events, done.answer.map fun _ => ())

theorem Expansion.trace_inert (host : Host σ) (scope : Scope) {text : Text} (inert : text.Inert)
    (s : σ) : trace host scope text s = ([], .ok ()) := by
  rw [trace, expand_inert host scope inert]
  rfl

namespace BuildFile
variable {host : Host σ} {reader : Reader} {text other : Text} {s : σ}

/-- A line that begins with the marker has no words, however it is expanded. -/
theorem isRecipe_of_marked {events : List Event} {t : σ} {result : Text}
    (marked : text.head? = some '#')
    (expanded : Expansion.expand host reader.scope text s = ⟨.ok result, events, t⟩) :
    isRecipe result = false := by
  have first := Expansion.head?_of_expand marked (by decide) expanded
  obtain ⟨rest, rfl⟩ := List.head?_eq_some_iff.1 first
  have trimmed : (Text.trim ([] ++ '#' :: rest)).head? = some '#' :=
    Text.head?_trim (by simp) rfl rest
  rw [List.nil_append] at trimmed
  simp [isRecipe, Word.isComment, trimmed]

theorem readLine_akin (marked : text.head? = some '#') (marked' : other.head? = some '#')
    (alike : Expansion.trace host reader.scope text s = Expansion.trace host reader.scope other s)
    (number : Nat) :
    (readLine host reader ⟨number, text⟩ s).Akin (readLine host reader ⟨number, other⟩ s) := by
  have obeys : Obeys host s (Expansion.expand host reader.scope text s) :=
    Expansion.minds_expandWithin reader.scope Expansion.maxNesting text s
  have obeys' : Obeys host s (Expansion.expand host reader.scope other s) :=
    Expansion.minds_expandWithin reader.scope Expansion.maxNesting other s
  obtain ⟨commands, ends⟩ := Prod.mk.inj alike
  have effects := obeys.effects
  rw [commands, ← obeys'.effects] at effects
  have state := obeys.state
  rw [commands, ← obeys'.state] at state
  rcases expanded : Expansion.expand host reader.scope text s with ⟨error | result, events, t⟩ <;>
    rcases expanded' : Expansion.expand host reader.scope other s
      with ⟨error' | result', events', t'⟩ <;>
    rw [expanded, expanded'] at effects state ends <;> cases state <;> cases ends
  · rw [readLine, readLine, Act.bind_error expanded, Act.bind_error expanded']
    exact ⟨rfl, effects, rfl⟩
  -- Both lines are blank once they are expanded.
  · have wordless := isRecipe_of_marked marked expanded
    have wordless' := isRecipe_of_marked marked' expanded'
    rw [readLine_wordless expanded wordless, readLine_wordless expanded' wordless']
    refine ⟨rfl, ?_, rfl⟩
    rw [Event.effects_append, Event.effects_append, effects]

section Parse
variable {options : Options} {environment : Environment} {before old new after : Text}

/-- A comment on a line of its own can stand for another one whose text can be expanded instead. -/
theorem parse_akin (lineStart : ∀ last ∈ before.getLast?, last = '\n')
    (begins : Line.Begins before ('#' :: (old ++ after)))
    (single : Line.Lone ('#' :: old) after) (single' : Line.Lone ('#' :: new) after)
    (alike : ∀ reader events t,
      readLines host (start options environment) (Line.logical before) s =
        ⟨.ok reader, events, t⟩ →
      Expansion.trace host reader.scope (Line.lone ('#' :: old) after) t =
        Expansion.trace host reader.scope (Line.lone ('#' :: new) after) t) :
    (parse host options environment (before ++ '#' :: (old ++ after)) s).Akin
      (parse host options environment (before ++ '#' :: (new ++ after)) s) := by
  have lines := single.logical_append lineStart begins
  have lines' := single'.logical_append lineStart begins
  rw [List.cons_append] at lines lines'
  have read : (readLines host (start options environment)
        (Line.logical (before ++ '#' :: (old ++ after))) s).Akin
      (readLines host (start options environment)
        (Line.logical (before ++ '#' :: (new ++ after))) s) := by
    rw [lines, lines', readLines_append, readLines_append]
    refine .after fun reader events t ran => ?_
    rw [readLines, readLines]
    exact .bind (readLine_akin (Line.head?_lone rfl) (Line.head?_lone rfl)
      (alike reader events t ran) _)
  exact read.bind

/-- Comments on lines of their own are inert when there are no references in them. Otherwise they
matter through their expansion alone: any other text can stand behind the marker, if the same
commands are run for it and its expansion ends in the same way. -/
theorem parse_of_comments (host : Host σ) (options : Options) (environment : Environment) (s : σ)
    (lineStart : ∀ last ∈ before.getLast?, last = '\n')
    (begins : Line.Begins before ('#' :: (old ++ after)))
    (single : Line.Lone ('#' :: old) after) (single' : Line.Lone ('#' :: new) after) :
    let done := parse host options environment (before ++ '#' :: (old ++ after)) s
    let done' := parse host options environment (before ++ '#' :: (new ++ after)) s
    (old.Inert → new.Inert → done.Akin done') ∧
      ((∀ reader events t,
          readLines host (start options environment) (Line.logical before) s =
            ⟨.ok reader, events, t⟩ →
          Expansion.trace host reader.scope (Line.lone ('#' :: old) after) t =
            Expansion.trace host reader.scope (Line.lone ('#' :: new) after) t) →
        done.Akin done') := by
  have silent {text : Text} (inert : text.Inert) (scope : Scope) (t : σ) :
      Expansion.trace host scope (Line.lone ('#' :: text) after) t = ([], .ok ()) := by
    have marked : Text.Inert ('#' :: text) := inert.cons (by decide)
    have still := marked.of_infix (Line.lone_isPrefix ('#' :: text) after).isInfix
    exact Expansion.trace_inert host scope still t
  refine ⟨fun inert inert' => ?_, parse_akin lineStart begins single single'⟩
  refine parse_akin lineStart begins single single' fun reader _ t _ => ?_
  rw [silent inert, silent inert']

end Parse

theorem parse_of_comments_between :
    let before := "X = 1\na: b\n".toList
    let parse (text : Text) :=
      parse staying {} (fun _ => none) (before ++ '#' :: (text ++ "\nc:\n".toList)) ()
    (parse " one".toList).Akin (parse "\\\\\r".toList) ∧
      (parse " one $(shell date)".toList).Akin (parse "$X$(shell $(none)date)".toList) := by
  intro before parse
  have lineStart : ∀ last ∈ before.getLast?, last = '\n' := by
    intro last member
    have feed : before.getLast? = some '\n' := by decide
    rw [feed] at member
    cases member
    rfl
  have single {text : Text} (free : '\n' ∉ '#' :: text)
      (whole : Line.isContinued (Line.bare ('#' :: text) "\nc:\n".toList) = false) :
      Line.Lone ('#' :: text) "\nc:\n".toList := by
    refine ⟨List.cons_ne_nil _ _, free, fun first member => ?_, fun continued => ?_⟩
    · cases member
      rfl
    · rw [whole] at continued
      cases continued
  constructor
  · refine (parse_of_comments staying {} (fun _ => none) () lineStart ?_ ?_ ?_).1 ?_ ?_
    · exact ⟨⟨3, "# one".toList⟩, by decide, by decide⟩
    · exact single (by decide) (by decide)
    · exact single (by decide) (by decide)
    · exact .of_no_dollar (by decide)
    · exact .of_no_dollar (by decide)
  · refine (parse_of_comments staying {} (fun _ => none) () lineStart ?_ ?_ ?_).2 ?_
    · exact ⟨⟨3, "# one $(shell date)".toList⟩, by decide, by decide⟩
    · exact single (by decide) (by decide)
    · exact single (by decide) (by decide)
    · intro reader events t ran
      have known : (readLines staying (start {} fun _ => none) (Line.logical before) ()).answer.map
          (fun reader =>
            (Expansion.trace staying reader.scope "# one $(shell date)".toList (),
              Expansion.trace staying reader.scope "#$X$(shell $(none)date)".toList ())) =
          .ok ((["date".toList], .ok ()), ["date".toList], .ok ()) := by decide +kernel
      rw [ran] at known
      have same := (Prod.mk.inj (Except.ok.inj known)).1.trans
        (Prod.mk.inj (Except.ok.inj known)).2.symm
      exact same

/-- The text of a comment runs a command, or keeps the file from being read. -/
theorem comments_differ :
    let parse (environment : Environment) (source : String) :=
      parse emptyHost {} environment source.toList ()
    let knot : Environment := fun name => if name = ['X'] then some "$X".toList else none
    Event.captured (parse knot "# x\n").events = [] ∧
      Event.captured (parse knot "# $(shell date)\n").events = ["date".toList] ∧
      (parse knot "# x\n").answer.map Registry.names = .ok [] ∧
      (parse knot "# $X\n").answer.map Registry.names = .error (.unterminated "# $X".toList) := by
  decide +kernel

end BuildFile

end BuildRules
