import BuildRules.Proofs.BuildFile.Closing
import BuildRules.Proofs.BuildFile.Value
import BuildRules.Proofs.BuildFile.Writing
import BuildRules.Proofs.Template.Expansion

/-! What stands behind the colon of a header can be assigned to a variable first. The assignment
keeps the words of the text, and where the variable is put in behind the colon they are found again,
so the line is taken up as if the text stood there. -/
namespace BuildRules
variable {σ : Type}

/-- A name that a line can assign to and that a reference in parentheses finds. -/
structure Text.IsVariable (name : Text) : Prop where
  alone : Word.split name = [name]
  free : '$' ∉ name
  balanced : name.Balanced
  trimmed : trim name = name

theorem Text.IsPlainName.isName {name : Text} (isPlainName : name.IsPlainName) :
    name.IsName where
  nonempty := isPlainName.1
  solid c member := Reference.isBlank_of_isWordChar (isPlainName.2 c member)
  noEquals := isPlainName.notMem rfl
  noColon := isPlainName.notMem rfl
  noDollar := isPlainName.notMem rfl
  noBackslash := isPlainName.notMem rfl
  noComment first := isPlainName.notMem rfl (List.mem_of_head? first)

/-- Letters, digits and underscores make up such a name. -/
theorem Text.IsPlainName.isVariable {name : Text} (isPlainName : name.IsPlainName) :
    name.IsVariable where
  alone := by
    refine Word.split_of_isWord isPlainName.isName.isWord ?_
    rw [Word.isComment, beq_eq_false_iff_ne]
    exact isPlainName.isName.noComment
  free := isPlainName.isName.noDollar
  balanced := isPlainName.balanced
  trimmed := isPlainName.trim

namespace Text.IsVariable
variable {name : Text}

theorem isWord (isVariable : name.IsVariable) : Word.IsWord name :=
  (Word.isWord_of_split isVariable.alone).1

theorem nonempty (isVariable : name.IsVariable) : name ≠ [] := by
  obtain ⟨c, more, rfl, _⟩ := isVariable.isWord.exists_head
  exact List.cons_ne_nil c more

theorem oneLine (isVariable : name.IsVariable) : '\n' ∉ name := by
  intro feed
  cases isVariable.isWord.noSpace '\n' feed

end Text.IsVariable

namespace Line
variable {front value after : Text}

/-- The text is one line that refers to nothing and goes on with no other. -/
structure Simple (text : Text) : Prop where
  free : '$' ∉ text
  oneLine : '\n' ∉ text
  stops : (dropReturn text).getLast? ≠ some '\\'

theorem dropReturn_append (some : value ≠ []) :
    dropReturn (front ++ value) = front ++ dropReturn value := by
  rw [dropReturn, dropReturn, List.getLast?_append_of_ne_nil front some]
  split
  · rw [List.dropLast_append_of_ne_nil some]
  · rfl

/-- A line with a space in it ends as what stands behind the space does. Where that ends in no
backslash, it is a logical line of its own. -/
theorem gather_behind (space : front.getLast? = some ' ') (oneLine : '\n' ∉ front ++ value)
    (stops : (dropReturn value).getLast? ≠ some '\\') (ends : ∀ first ∈ after.head?, first = '\n')
    (number : Nat) :
    gather none number (physical (front ++ value ++ after)) =
      ⟨number, front ++ bare value after⟩ :: gather none (number + 1) (physical after.tail) := by
  have bared : bare (front ++ value) after = front ++ bare value after := by
    -- Where nothing stands behind the space, it is the space that ends the line.
    by_cases none : value = []
    · simp [none, bare, dropReturn, space]
    · rw [bare, bare, dropReturn_append none]
      split <;> rfl
  have whole : isContinued (bare (front ++ value) after) = false := by
    rw [bared, isContinued_append (by simp [space])]
    refine isContinued_eq_false fun slash => stops ?_
    -- A last line keeps its carriage return, and then does not end in a backslash either.
    rw [bare] at slash
    split at slash
    · rw [dropReturn, if_neg (by simp [slash]), slash]
    · exact slash
  have single : Lone (front ++ value) after := by
    refine ⟨?_, oneLine, ends, by simp [whole]⟩
    rintro empty
    rw [(List.append_eq_nil_iff.1 empty).1] at space
    cases space
  rw [single.gather_physical, lone, if_neg (by simp [whole]), bared]

end Line

namespace Word
variable {word text : Text}

/-- A carriage return at the end of a line belongs to no word. -/
theorem split_dropReturn (text : Text) : split (Line.dropReturn text) = split text := by
  rw [Line.dropReturn]
  split
  · next last =>
    obtain ⟨front, rfl⟩ := List.getLast?_eq_some_iff.1 last
    have ends : ∀ d ∈ ['\r'].head?, isPlain d = false := by
      rintro d ⟨⟩
      rfl
    have none : scan [] ['\r'] = [] := rfl
    rw [List.dropLast_concat, split, split, scan_append ends, none, List.append_nil]
  · rfl

theorem split_bare (text after : Text) : split (Line.bare text after) = split text := by
  rw [Line.bare]
  split
  · rfl
  · exact split_dropReturn text

/-- The words of a text are found again when they are put together with spaces. -/
theorem split_respace (text : Text) : split (respace text) = split text := by
  have found : scan [] (respace text) = split text := by
    rw [respace, scan_join, flatMap_scan fun word => isWord_of_mem_split]
  rw [split, found]
  refine List.takeWhile_eq_self_iff.2 fun word member => ?_
  rw [isComment_of_mem_split member]
  rfl

theorem mem_of_mem_respace {c : Char} (member : c ∈ respace text) : c = ' ' ∨ c ∈ text := by
  refine (mem_of_mem_join member).imp_right ?_
  rintro ⟨word, among, inside⟩
  have found := (split_isPrefix text).subset among
  exact ((falls_scan text).infix_of_mem found).subset inside

end Word

/-- A name has the value that it was last assigned, unless the environment overrules it. -/
theorem Scope.value_assign {scope : Scope} {name : Text} (value : Text)
    (own : scope.environmentFirst = false ∨ scope.environment name = none) :
    (scope.assign name value).value name = value := by
  have assigned : (scope.assign name value).assigned? name = some value := by
    rw [assigned?_assign, if_pos rfl]
  rw [Scope.value, assigned]
  rcases own with behind | unset
  · simp [assign, behind]
  · simp [assign, unset]

/-- The registry of one target. -/
def Registry.alone (target : Target) : Registry :=
  { empty with defaultGoal := some target.name }.put target

theorem Registry.addRule_empty (dates : Text → Option Time) (target : Text)
    (prerequisites : List Text) (line : Line) :
    empty.addRule dates ⟨[target], prerequisites, [], line⟩ =
      (alone ⟨target, prerequisites, [], dates target⟩, .ok ()) := by
  simp [addRule, addTargets, Rule.target, alone, empty, target?, date, isPhony]

namespace BuildFile
variable {host : Host σ} {reader : Reader} {line : Line} {target name value feed rest : Text}
  {events : List Event} {s : σ}

/-- A line with one name before the colon and any text behind it. -/
def headed (target rest : Text) : Text := target ++ ':' :: ' ' :: rest

theorem split_headed (isWord : Word.split target = [target]) (rest : Text) :
    Word.split (headed target rest) = target :: [':'] :: Word.split rest := by
  obtain ⟨isWord, noComment⟩ := Word.isWord_of_split isWord
  have ends : ∀ d ∈ (':' :: ' ' :: rest).head?, Word.isPlain d = false := by
    rintro d ⟨⟩
    rfl
  have found : Word.scan [] (headed target rest) = target :: [':'] :: Word.scan [] rest := by
    rw [headed, Word.scan_append ends, Word.isWord_iff_scan.1 isWord, Word.scan_operator rfl,
      Word.scan_space rfl]
    rfl
  rw [Word.split, found, List.takeWhile_cons, noComment]
  rfl

theorem isIndented_headed (isWord : Word.split target = [target]) (rest : Text) :
    isIndented (headed target rest) = false := by
  obtain ⟨c, more, rfl, solid⟩ := (Word.isWord_of_split isWord).1.exists_head
  refine Bool.eq_false_iff.2 fun indented => ?_
  have indent : Text.isIndent c = true := by simpa [isIndented, headed] using indented
  rw [Text.isBlank_of_isIndent indent] at solid
  cases solid

/-- The only line of a source is a statement, and what it opens is closed after it. -/
theorem readRest_statement (after closed : Reader) {text : Text} (notes : List Event)
    (idle : reader.block = none)
    (expanded : Expansion.expand host reader.scope line.text s = ⟨.ok text, events, s⟩)
    (worded : Word.split text ≠ [])
    (taken : takeStatement ⟨line.number, text⟩ (Word.split text) reader s =
      ⟨.ok after, notes, s⟩)
    (closes : close host after s = ⟨.ok closed, [], s⟩) :
    readRest host reader [line] s =
      ⟨.ok closed.registry,
        events ++ .notice (.words line.number (Word.split text)) :: notes, s⟩ := by
  have isClosed : close host reader = pure reader := by rw [close, idle]
  have read := readLine_of_expand expanded
  rw [takeLine_outside host worded (.inl idle), isClosed, pure_bind, taken] at read
  rw [readRest_cons, Act.bind_ok read, readRest, readLines, pure_bind, Act.bind_ok closes]
  simp [Act.pure_apply]

/-- A line with one name before the colon declares it with the words behind the colon, unless these
make it an assignment. -/
theorem readRest_headed (line : Line) (isName : target.IsPlainName) (idle : reader.block = none)
    (empty : reader.registry = .empty)
    (expanded : Expansion.expand host reader.scope line.text s =
      ⟨.ok (headed target rest), events, s⟩) :
    ∃ log, readRest host reader [line] s =
        ⟨.ok (if (Word.split rest).head? = some ['='] then .empty
          else .alone ⟨target, Word.split rest, [], host.modified target s⟩), log, s⟩ ∧
      .notice (.words line.number (target :: [':'] :: Word.split rest)) ∈ log := by
  have alone := isName.isVariable.alone
  have words := split_headed alone rest
  have read (after closed : Reader) (notes : List Event) :=
    readRest_statement after closed notes idle expanded (by simp [words])
  rw [words] at read
  generalize Word.split rest = behind at read ⊢
  by_cases assigns : behind.head? = some ['=']
  · obtain ⟨values, rfl⟩ := List.head?_eq_some_iff.1 assigns
    let value := Text.join [' '] values
    let after : Reader := { reader with scope := reader.scope.assign target value }
    have taken : takeStatement ⟨line.number, headed target rest⟩
        (target :: [':'] :: ['='] :: values) reader s =
          ⟨.ok after, [.notice (.assigned target value)], s⟩ := rfl
    have closes : close host after s = ⟨.ok after, [], s⟩ := by
      rw [close, idle]
      rfl
    rw [if_pos assigns, ← empty]
    exact ⟨_, read after after _ taken closes, by simp⟩
  · have other : Assignment.ofWords? (target :: [':'] :: behind) = none := by
      refine Option.eq_none_iff_forall_ne_some.2 fun assignment said => ?_
      obtain ⟨value, _, plain | colon⟩ := Assignment.ofWords?_eq_some.1 said
      · cases plain
      · cases colon
        exact assigns rfl
    have header : Header.ofWords? (target :: [':'] :: behind) = some (.rule [target] behind) := by
      refine Header.ofWords?_eq_rule.2 ⟨rfl, ?_, by simp, ?_⟩
      · rw [List.mem_singleton]
        rintro rfl
        exact isName.notMem rfl (List.mem_singleton_self ':')
      · rintro ⟨⟩
        exact isName.notMem rfl (List.mem_cons_self (a := '.'))
    let rule : Rule := ⟨[target], behind, [], ⟨line.number, headed target rest⟩⟩
    let after : Reader := { reader with block := some rule }
    let registry : Registry := .alone ⟨target, behind, [], host.modified target s⟩
    have taken : takeStatement ⟨line.number, headed target rest⟩ (target :: [':'] :: behind)
        reader s = ⟨.ok after, [], s⟩ := by
      rw [takeStatement, other, takeHeader, isIndented_headed alone, header]
      rfl
    let closed : Reader := { reader with registry, block := none }
    have closes : close host after s = ⟨.ok closed, [], s⟩ := by
      rw [close]
      simp only [after]
      rw [Host.dates, Act.bind_look, empty, Registry.addRule_empty]
      rfl
    rw [if_neg assigns]
    exact ⟨_, read after closed _ taken closes, by simp⟩

section Factored
variable (host : Host σ) (options : Options) (environment : Environment) (s : σ)

theorem gather_headed (isName : target.IsPlainName) (oneLine : '\n' ∉ value)
    (stops : (Line.dropReturn value).getLast? ≠ some '\\')
    (ends : feed = [] ∨ feed = ['\n']) (number : Nat) :
    Line.gather none number (Line.physical (headed target value ++ feed)) =
      [⟨number, headed target (Line.bare value feed)⟩] := by
  have first : ∀ first ∈ feed.head?, first = '\n' := by
    rcases ends with rfl | rfl <;> simp
  have space : (target ++ [':', ' ']).getLast? = some ' ' := by simp
  have line : '\n' ∉ target ++ [':', ' '] ++ value := by
    simp [isName.notMem (c := '\n') rfl, oneLine]
  have parted := Line.gather_behind space line stops first number
  have last : Line.physical feed.tail = [] := by
    rcases ends with rfl | rfl <;> rfl
  rw [last, Line.gather_nil] at parted
  simpa [headed] using parted

theorem inert_headed (isName : target.IsPlainName) (free : '$' ∉ rest) :
    (headed target rest).Inert :=
  .of_no_dollar (by simp [headed, isName.notMem (c := '$') rfl, free])

/-- Where it refers to a name behind the colon, the value of the name is put in there. -/
theorem expand_headed {scope : Scope} (isName : target.IsPlainName) (isVariable : name.IsVariable)
    (free : '$' ∉ scope.value name) :
    ∃ events, Expansion.expand host scope (headed target (Reference.group name).text) s =
      ⟨.ok (headed target (scope.value name)), events, s⟩ := by
  have front : '$' ∉ target ++ [':', ' '] := by simp [isName.notMem (c := '$') rfl]
  have inert : Text.Inert (target ++ [':', ' '] ++ scope.value name) := by
    simpa [headed] using inert_headed isName free
  have noCall : Function.call? name = none := Function.call?_eq_none isVariable.isWord.noIndent
  obtain ⟨events, expanded⟩ := Expansion.expand_name host scope front isVariable.balanced
    isVariable.nonempty (.of_no_dollar isVariable.free) isVariable.trimmed noCall inert s
  exact ⟨events, by simpa [headed] using expanded⟩

/-- The line by itself declares the target with the words of the text. -/
theorem parse_whole (isName : target.IsPlainName) (simple : Line.Simple value)
    (ends : feed = [] ∨ feed = ['\n']) :
    ∃ log, parse host options environment (headed target value ++ feed) s =
        ⟨.ok (if (Word.split value).head? = some ['='] then .empty
          else .alone ⟨target, Word.split value, [], host.modified target s⟩), log, s⟩ ∧
      .notice (.words 1 (target :: [':'] :: Word.split value)) ∈ log := by
  have parse_eq : parse host options environment (headed target value ++ feed) =
      readRest host (start options environment)
        [⟨1, headed target (Line.bare value feed)⟩] := by
    rw [← gather_headed isName simple.oneLine simple.stops ends 1]
    rfl
  have bared : '$' ∉ Line.bare value feed := fun dollar =>
    simple.free ((Line.bare_isPrefix ..).subset dollar)
  have expanded :=
    Expansion.expand_inert host (start options environment).scope (inert_headed isName bared) s
  obtain ⟨log, read, told⟩ :=
    readRest_headed ⟨1, headed target (Line.bare value feed)⟩ isName rfl rfl expanded
  rw [Word.split_bare] at read told
  exact ⟨log, by rw [parse_eq, read], told⟩

/-- The two lines are read one after the other. -/
theorem logical_assigned (isName : target.IsPlainName) (isVariable : name.IsVariable)
    (oneLine : '\n' ∉ value) (stops : (Line.dropReturn value).getLast? ≠ some '\\')
    (ends : feed = [] ∨ feed = ['\n']) :
    Line.logical (assignmentLine name [value] ++
        '\n' :: (headed target (Reference.group name).text ++ feed)) =
      [⟨1, assignmentLine name [Line.dropReturn value]⟩,
        ⟨2, headed target (Reference.group name).text⟩] := by
  have last : (Reference.group name).text.getLast? = some ')' := List.getLast?_concat
  have unreturned : Line.dropReturn (Reference.group name).text = (Reference.group name).text :=
    if_neg (by simp [last])
  have bared : Line.bare (Reference.group name).text feed = (Reference.group name).text := by
    rw [Line.bare, unreturned, ite_self]
  have second : Line.gather none 2
      (Line.physical (headed target (Reference.group name).text ++ feed)) = _ :=
    gather_headed isName (by simp [Reference.text, isVariable.oneLine])
      (by simp [unreturned, last]) ends 2
  have space : (name ++ [' ', '=', ' ']).getLast? = some ' ' := by simp
  have line : '\n' ∉ name ++ [' ', '=', ' '] ++ value := by
    simp [isVariable.oneLine, oneLine]
  let after := '\n' :: (headed target (Reference.group name).text ++ feed)
  have ended : ∀ first ∈ after.head?, first = '\n' := by simp [after]
  have parted := Line.gather_behind space line stops ended 1
  rw [List.tail_cons, second, bared] at parted
  have written (value : Text) : assignmentLine name [value] = name ++ [' ', '=', ' '] ++ value := by
    simp [assignmentLine, Text.join]
  rw [written, written]
  exact parted

/-- The line with a reference behind the colon does the same under an assignment to the name. -/
theorem parse_assigned (isName : target.IsPlainName) (isVariable : name.IsVariable)
    (own : options.environmentFirst = false ∨ environment name = none) (simple : Line.Simple value)
    (ends : feed = [] ∨ feed = ['\n']) :
    ∃ log, parse host options environment (assignmentLine name [value] ++
          '\n' :: (headed target (Reference.group name).text ++ feed)) s =
        ⟨.ok (if (Word.split value).head? = some ['='] then .empty
          else .alone ⟨target, Word.split value, [], host.modified target s⟩), log, s⟩ ∧
      .notice (.words 2 (target :: [':'] :: Word.split value)) ∈ log := by
  let written := Line.dropReturn value
  let kept := Word.respace written
  let first := start options environment
  let after : Reader := { first with scope := first.scope.assign name kept }
  have freeWritten : '$' ∉ written := fun dollar =>
    simple.free ((Line.dropReturn_isPrefix value).subset dollar)
  have inert : (assignmentLine name [written]).Inert :=
    .of_no_dollar (by simp [assignmentLine, Text.join, isVariable.free, freeWritten])
  have assigned : readLine host first ⟨1, assignmentLine name [written]⟩ s =
      ⟨.ok after, [.notice (.beforeExpand (assignmentLine name [written])),
        .notice (.words 1 (name :: ['='] :: Word.split written)), .notice (.assigned name kept)],
        s⟩ := by
    have alone : Text.join [' '] [written] = written := by simp [Text.join]
    rw [readLine_assignment host first 1 isVariable.alone inert, alone]
    rfl
  have held : after.scope.value name = kept := Scope.value_assign kept own
  have freeKept : '$' ∉ after.scope.value name := by
    rw [held]
    intro dollar
    rcases Word.mem_of_mem_respace dollar with space | inside
    · cases space
    · exact freeWritten inside
  obtain ⟨events, expanded⟩ := expand_headed host s isName isVariable freeKept
  rw [held] at expanded
  -- The value has lost its comment and its runs of blanks, but none of its words.
  obtain ⟨log, read, told⟩ :=
    readRest_headed ⟨2, headed target (Reference.group name).text⟩ isName rfl rfl expanded
  rw [Word.split_respace, Word.split_dropReturn] at read told
  have parse_eq (source : Text) : parse host options environment source =
      readRest host first (Line.logical source) := rfl
  rw [parse_eq, logical_assigned isName isVariable simple.oneLine simple.stops ends, readRest_cons,
    Act.bind_ok assigned, read]
  exact ⟨_, rfl, List.mem_append_right _ told⟩

/-- What stands behind the colon of a line can be assigned to a variable first. The line that refers
to the variable has the same words then, it is accepted as the line itself is, and the same is
registered: the target with these words, unless they begin with `=` and the line is an assignment. -/
theorem parse_factored (isName : target.IsPlainName) (isVariable : name.IsVariable)
    (own : options.environmentFirst = false ∨ environment name = none)
    (simple : Line.Simple value) (ends : feed = [] ∨ feed = ['\n']) :
    let whole := parse host options environment (headed target value ++ feed) s
    let factored := parse host options environment (assignmentLine name [value] ++
      '\n' :: (headed target (Reference.group name).text ++ feed)) s
    let words := target :: [':'] :: Word.split value
    .notice (.words 1 words) ∈ whole.events ∧ .notice (.words 2 words) ∈ factored.events ∧
      ∃ registry, whole.answer = .ok registry ∧ factored.answer = .ok registry ∧
        registry.target? target =
          if (Word.split value).head? = some ['='] then none
          else some ⟨target, Word.split value, [], host.modified target s⟩ := by
  intro whole factored words
  obtain ⟨_, read, told⟩ := parse_whole host options environment s isName simple ends
  obtain ⟨_, read', told'⟩ :=
    parse_assigned host options environment s isName isVariable own simple ends
  simp only [whole, factored, read, read']
  refine ⟨told, told', _, rfl, rfl, ?_⟩
  split
  · exact Registry.target?_empty target
  · simp [Registry.alone, Registry.target?_put]

end Factored

/-- Operators in words and by themselves, blanks of several kinds, and a comment. -/
def tangle : Text := "\t a=b: \u00A0c\t d#e : # = f \r".toList

theorem parse_factored_tangle :
    let parse (source : Text) := parse wandering {} (fun _ => some "out".toList) source true
    let whole := parse "t: \t a=b: \u00A0c\t d#e : # = f \r\n".toList
    let factored := parse "N-1 = \t a=b: \u00A0c\t d#e : # = f \r\nt: $(N-1)\n".toList
    let words := ["t", ":", "a", "=", "b", ":", "c", "d#e", ":"].map String.toList
    Text.IsPlainName ['t'] ∧ Text.IsVariable "N-1".toList ∧ Line.Simple tangle ∧
      .notice (.words 1 words) ∈ whole.events ∧ .notice (.words 2 words) ∈ factored.events ∧
      ∃ registry, whole.answer = .ok registry ∧ factored.answer = .ok registry ∧
        registry.target? ['t'] = some ⟨['t'], words.drop 2, [], some 5⟩ := by
  intro parse whole factored words
  have isName : Text.IsPlainName ['t'] := ⟨by decide, List.forall_mem_singleton.2 rfl⟩
  have isVariable : Text.IsVariable "N-1".toList :=
    ⟨by decide, by decide, .of_no_parenthesis (by decide) (by decide), by decide⟩
  have simple : Line.Simple tangle := ⟨by decide, by decide, by decide⟩
  have found : Word.split tangle = words.drop 2 := by decide
  obtain ⟨told, told', registry, read, read', target⟩ :=
    parse_factored wandering {} (fun _ => some "out".toList) true isName isVariable (.inl rfl)
      simple (.inr rfl)
  rw [found] at told told' target
  exact ⟨isName, isVariable, simple, told, told', registry, read, read', target⟩

end BuildFile

end BuildRules
