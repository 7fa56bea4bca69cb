import BuildRules.Shell.DateText
import BuildRules.Shell.Find.Format
import BuildRules.Shell.Regex.Reader

/-! Reading of what is looked for: words are taken one after the other, and the operators among
them bind the way their strength says. Two words without an operator between them stand for a
conjunction. -/
namespace BuildRules.Shell.Find

inductive Token
  /-- A parenthesis; the outer ones are put around all that has been given. -/
  | opening (isOuter : Bool)
  | closing (isOuter : Bool)
  | negation (name : Octets)
  | operator (name : Octets) (strength : Nat)
  | primary (query : Query)

namespace Token

def isClosing : Token → Bool
  | closing _ => true
  | _ => false

/-- How strongly the token binds what stands before it. -/
def strength : Token → Nat
  | operator _ strength => strength
  | _ => 0

def name : Token → Octets
  | opening _ => ['(']
  | closing _ => [')']
  | negation name | operator name _ => name
  | primary _ => []

/-- Whether an operand has to follow. -/
def wantsOperand : Token → Bool
  | negation _ | operator _ _ => true
  | _ => false

/-- Whether an operand can end with the token. -/
def endsOperand : Token → Bool
  | primary _ | closing _ => true
  | _ => false

/-- Whether an operand can start with the token. -/
def startsOperand : Token → Bool
  | primary _ | opening _ | negation _ => true
  | _ => false

end Token

def conjunction : Token := .operator "-a".toList 3

/-- The query that an operator makes of two others. -/
def combined (strength : Nat) (first second : Query) : Query :=
  match strength with
  | 1 => .sequence first second
  | 2 => .either first second
  | _ => .both first second

mutual

/-- Reads an operand with all that binds more strongly than what stands before it. -/
def operand : Nat → Nat → Token → List Token → Except Octets (Query × List Token)
  | 0, _, _, _ => .error "invalid expression".toList
  | fuel + 1, strength, previous, tokens => do
    let (first, rest) ← match tokens with
      | [] => .error "invalid expression".toList
      | .operator name _ :: _ =>
        .error ("invalid expression; you have used a binary operator '".toList ++ name ++
          "' with nothing before it.".toList)
      | .closing isOuter :: _ =>
        if previous.wantsOperand && !isOuter then
          .error ("expected an expression between '".toList ++ previous.name ++ "' and ')'".toList)
        else if isOuter then
          .error ("expected an expression after '".toList ++ previous.name ++ ['\''])
        else .error "invalid expression; you have too many ')'".toList
      | .primary query :: rest => pure (query, rest)
      | .negation name :: rest => do
        let (query, rest) ← operand fuel 4 (.negation name) rest
        pure (Query.negation query, rest)
      | .opening isOuter :: rest => parenthesis fuel isOuter rest
    operators fuel strength first rest

/-- Reads what stands between parentheses. -/
def parenthesis : Nat → Bool → List Token → Except Octets (Query × List Token)
  | 0, _, _ => .error "invalid expression".toList
  | fuel + 1, isOuter, tokens => do
    match tokens with
    | [] | .closing true :: _ =>
      .error ("invalid expression; expected to find a ')' but didn't see one. " ++
        "Perhaps you need an extra predicate after '('").toList
    | .closing false :: _ =>
      if isOuter then
        .error ("invalid expression: expected expression before closing parentheses " ++
          "')'.").toList
      else .error "invalid expression; empty parentheses are not allowed.".toList
    | _ =>
      let (query, rest) ← operand fuel 0 (.opening isOuter) tokens
      match rest with
      | .closing _ :: rest => pure (query, rest)
      | _ =>
        .error ("invalid expression; I was expecting to find a ')' somewhere " ++
          "but did not see one.").toList

/-- Goes on with operators that bind more strongly than what stands before. -/
def operators : Nat → Nat → Query → List Token → Except Octets (Query × List Token)
  | 0, _, _, _ => .error "invalid expression".toList
  | fuel + 1, strength, first, tokens => do
    match tokens with
    | .operator name own :: rest =>
      if strength < own then
        let (second, rest) ← operand fuel own (.operator name own) rest
        operators fuel strength (combined own first second) rest
      else pure (first, tokens)
    | _ => pure (first, tokens)

end

/-- The query that tokens stand for. -/
def queryOf (tokens : List Token) : Except Octets Query := do
  let (query, rest) ← operand (4 * tokens.length + 4) 0 (.opening true) tokens
  if rest.isEmpty then return query else throw "you have too many ')'".toList

/-! Words. -/

/-- What is known while words are read. -/
structure World where
  files : FileTree
  base : Location

structure Reading where
  rest : List Octets
  /-- The latest token first. -/
  tokens : List Token := []
  settings : Settings
  dialect : Regex.Dialect := { hasBareRepeats := true }
  /-- The predicate that has been read last. -/
  latest : Option Octets := none
  made : List Octets := []
  warnings : List Octets := []
  /-- Whether an action takes the place of the one that is usual. -/
  acts : Bool := false
  deletes : Bool := false
  prunes : Bool := false
  gathers : Nat := 0

abbrev Reader := StateT Reading (Except (List Octets))

def refuse {α : Type} (message : Octets) : Reader α := throw [message]

/-- A word between the two kinds of quotes. -/
def marked (word : Octets) : Octets := '\x60' :: word ++ ['\'']

/-- The next word. -/
def argument (name : Octets) : Reader Octets := do
  match (← get).rest with
  | [] => refuse ("missing argument to ".toList ++ marked name)
  | word :: rest =>
    modify fun reading => { reading with rest := rest }
    return word

def refuseArgument {α : Type} (name word : Octets) : Reader α :=
  refuse ("invalid argument ".toList ++ marked word ++ " to ".toList ++ marked name)

def push (token : Token) : Reader Unit :=
  modify fun reading =>
    let joins := token.startsOperand && reading.tokens.head?.any Token.endsOperand
    { reading with
      tokens := token :: (if joins then conjunction :: reading.tokens else reading.tokens) }

def pushTest (test : Test) : Reader Unit := push (.primary (.test test))

def pushAction (action : Action) : Reader Unit := do
  push (.primary (.act action))
  modify fun reading => { reading with acts := true }

def amount (name : Octets) : Reader Amount := do
  let word ← argument name
  match Amount.read? word with
  | some amount => return amount
  | none => refuseArgument name word

/-- The settings change, and the word itself is always true. -/
def set (change : Settings → Settings) : Reader Unit := do
  modify fun reading => { reading with settings := change reading.settings }
  pushTest (.constant true)

def depthOf (name : Octets) : Reader Nat := do
  let word ← argument name
  if !word.isEmpty && word.all Char.isDigit then return Integer.ofDigits 10 word
  else refuse ("Expected a positive decimal integer argument to ".toList ++ name ++
    ", but got ".toList ++ Work.cite word)

/-- What is at a path that a word gives. -/
def entryOf (world : World) (word : Octets) : Reader FileTree.Place := do
  let follow := (← get).settings.follow != .none
  match world.files.resolve world.base follow word with
  | .ok ⟨location, some entry⟩ => return ⟨location, some entry⟩
  | .ok ⟨_, none⟩ => refuse (Work.cite word ++ ": No such file or directory".toList)
  | .error fault => refuse (Work.cite word ++ ": ".toList ++ fault.reason)

def dialects : List (String × Regex.Dialect) :=
  let extended : Regex.Dialect := { isExtended := true, nestsRepeats := true, allowsLoneRepeats := true }
  let basic : Regex.Dialect := {}
  [("findutils-default", { hasBareRepeats := true }), ("ed", basic), ("emacs", { hasBareRepeats := true }),
    ("gnu-awk", extended), ("grep", basic), ("posix-awk", extended), ("awk", extended),
    ("posix-basic", basic), ("posix-egrep", extended), ("egrep", extended),
    ("posix-extended", extended), ("posix-minimal-basic", basic), ("sed", basic)]

/-- Words that change how the search is made. -/
def option? (name : Octets) : Option (Reader Unit) :=
  match String.ofList name with
  | "-maxdepth" => some do
    let n ← depthOf name
    set fun settings => { settings with most := some n }
  | "-mindepth" => some do
    let n ← depthOf name
    set fun settings => { settings with least := n }
  | "-depth" | "-d" =>
    some (set fun settings => { settings with isDeep := true, hasDepthOption := true })
  | "-follow" => some (set fun settings => { settings with follow := .all })
  | "-daystart" | "-xdev" | "-mount" | "-noleaf" | "-warn" | "-nowarn" | "-ignore_readdir_race"
  | "-noignore_readdir_race" => some (set id)
  | "-regextype" => some do
    let word ← argument name
    match dialects.find? fun item => item.1.toList == word with
    | some (_, dialect) =>
      modify fun reading => { reading with dialect := dialect }
      set id
    | none =>
      refuse ("Unknown regular expression type ".toList ++ Work.cite word ++ "; valid types are ".toList ++
        Text.join ", ".toList (dialects.map fun item => Work.cite item.1.toList) ++ ['.'])
  | _ => none

/-- The letters of kinds of files between commas. -/
def kinds (name word : Octets) : Nat → Octets → Octets → Reader Octets
  | 0, seen, _ => return seen
  | fuel + 1, seen, rest => do
    match rest with
    | [] =>
      if seen.isEmpty then
        refuse ("Arguments to ".toList ++ name ++ " should contain at least one letter".toList)
      else
        refuse ("Last file type in list argument to ".toList ++ name ++
          " is missing, i.e., list is ending on: ','".toList)
    | c :: rest =>
      if !"bcdpflsD".toList.contains c then
        refuse ("Unknown argument to ".toList ++ name ++ ": ".toList ++ [c])
      if seen.contains c then
        refuse ("Duplicate file type '".toList ++ c :: "' in the argument list to ".toList ++ name ++ ['.'])
      match rest with
      | [] => return c :: seen
      | ',' :: rest => kinds name word fuel (c :: seen) rest
      | _ => refuse ("Must separate multiple arguments to ".toList ++ name ++ " using: ','".toList)

/-- The unit that the letter at the end of a size stands for. -/
def unit? (c : Char) : Option Nat :=
  match c with
  | 'b' => some 512
  | 'c' => some 1
  | 'w' => some 2
  | 'k' => some 1024
  | 'M' => some 1048576
  | 'G' => some 1073741824
  | _ => none

def sizeTest (name : Octets) : Reader Unit := do
  let word ← argument name
  match word.getLast? with
  | none => refuse "invalid null argument to -size".toList
  | some c =>
    let (unit, digits) ← match unit? c, c.isDigit with
      | some unit, _ => pure (unit, word.dropLast)
      | none, true => pure (512, word)
      | none, false => refuse ("invalid -size type ".toList ++ marked [c])
    match Amount.read? digits with
    | some amount => pushTest (.size unit amount)
    | none => refuse ("Invalid argument ".toList ++ marked word ++ " to -size".toList)

def modeTest (name : Octets) : Reader Unit := do
  let word ← argument name
  let (comparison, symbols) : Comparison × Octets := match word with
    | '-' :: rest => (.allOf, rest)
    | '/' :: rest => (.someOf, rest)
    | _ => (.equal, word)
  let isOctal := !symbols.isEmpty && symbols.all Format.isOctal
  let isSigned := symbols.head? == some '+' && (symbols.drop 1).head?.any Char.isDigit
  match if isSigned then none else Mode.change? false 0 symbols 0,
      if isOctal then Mode.change? false 0 symbols 0 else Mode.change? true 0 symbols 0 with
  | some ofFile, some ofDirectory => pushTest (.mode comparison ofFile ofDirectory)
  | _, _ => refuse ("invalid mode ".toList ++ Work.cite word)

/-- The time that the last two letters of a word and the next word ask for. -/
def newerTest (world : World) (name : Octets) : Reader Unit := do
  let wrong : Reader Unit := refuse ("invalid predicate ".toList ++ marked name)
  match name.drop "-newer".length with
  | [x, y] =>
    if !"aBcm".toList.contains x || !"aBcmt".toList.contains y || (← get).rest.isEmpty then wrong
    else
      let word ← argument name
      if y == 't' then
        match DateText.read? world.files.now word with
        | some time => pushTest (.newerThan time)
        | none =>
          refuse ("I cannot figure out how to interpret ".toList ++ Work.cite word ++
            " as a date or time".toList)
      else
        let place ← entryOf world word
        pushTest (.newerThan ((place.entry.map Entry.modified).getD 0))
  | _ => wrong

def ownerTest (name : Octets) (isUser : Bool) : Reader Unit := do
  let word ← argument name
  if word.isEmpty then
    refuse (if isUser then "The argument to -user should not be empty".toList
      else "argument to -group is empty, but should be a group name".toList)
  else if word == "root".toList then pushTest (.owner ⟨.eq, 0⟩)
  else if word.all Char.isDigit then pushTest (.owner ⟨.eq, Integer.ofDigits 10 word⟩)
  else if ["daemon", "bin", "sys", "nobody"].any fun known => known.toList == word then
    pushTest (.constant false)
  else
    refuse (Work.cite word ++
      (if isUser then " is not the name of a known user" else " is not the name of an existing group").toList)

def expressionTest (name : Octets) (ignoresCase : Bool) : Reader Unit := do
  let word ← argument name
  match Regex.read (← get).dialect word with
  | .ok (regex, _) => pushTest (.expression ignoresCase regex)
  | .error flaw =>
    refuse ("failed to compile regular expression ".toList ++ Work.cite word ++ ": ".toList ++ flaw.message)

def kindTest (name : Octets) (other : Bool) : Reader Unit := do
  let word ← argument name
  let letters ← kinds name word (word.length + 1) [] word
  pushTest (.kind other letters)

def patternTest (name : Octets) (subject : Subject) (ignoresCase : Bool) : Reader Unit := do
  let word ← argument name
  pushTest (.pattern subject ignoresCase word)

def ageTest (name : Octets) (unit : Nat) (roundsUp : Bool) : Reader Unit := do
  let word ← argument name
  let whole := word.takeWhile (· != '.')
  let fraction := (word.drop whole.length).drop 1
  match if fraction.all Char.isDigit then Amount.read? whole else none with
  | some amount => pushTest (.age unit roundsUp amount)
  | none => refuseArgument name word

/-- Words that test what is known of the name of a file. -/
def nameTest? (name : Octets) : Option (Reader Unit) :=
  match String.ofList name with
  | "-name" => some (patternTest name .name false)
  | "-iname" => some (patternTest name .name true)
  | "-path" | "-wholename" => some (patternTest name .path false)
  | "-ipath" | "-iwholename" => some (patternTest name .path true)
  | "-lname" => some (patternTest name .target false)
  | "-ilname" => some (patternTest name .target true)
  | "-regex" => some (expressionTest name false)
  | "-iregex" => some (expressionTest name true)
  | "-true" => some (pushTest (.constant true))
  | "-false" | "-nouser" | "-nogroup" => some (pushTest (.constant false))
  | "-readable" | "-writable" => some (pushTest (.constant true))
  | "-fstype" => some do
    let _ ← argument name
    pushTest (.constant false)
  | _ => none

/-- Words that test other facts. -/
def factTest? (world : World) (name : Octets) : Option (Reader Unit) :=
  match String.ofList name with
  | "-type" => some (kindTest name false)
  | "-xtype" => some (kindTest name true)
  | "-empty" => some (pushTest .isEmpty)
  | "-size" => some (sizeTest name)
  | "-perm" => some (modeTest name)
  | "-executable" => some (pushTest .isRunnable)
  | "-newer" | "-anewer" | "-cnewer" => some do
    let place ← entryOf world (← argument name)
    pushTest (.newerThan ((place.entry.map Entry.modified).getD 0))
  | "-samefile" => some do
    let place ← entryOf world (← argument name)
    pushTest (.same ((world.files.number? place.location).getD 0))
  | "-mtime" | "-atime" | "-ctime" => some (ageTest name 86400 false)
  | "-mmin" | "-amin" | "-cmin" => some (ageTest name 60 true)
  | "-links" => some do pushTest (.links (← amount name))
  | "-inum" => some do pushTest (.number (← amount name))
  | "-uid" | "-gid" => some do pushTest (.owner (← amount name))
  | "-used" => some do
    let _ ← amount name
    pushTest (.constant false)
  | "-user" => some (ownerTest name true)
  | "-group" => some (ownerTest name false)
  | _ => if "-newer".toList.isPrefixOf name then some (newerTest world name) else none

/-- Whether the sign for the path of a file stands in a word. -/
def hasMark : Octets → Bool
  | '\x7b' :: '\x7d' :: _ => true
  | _ :: rest => hasMark rest
  | [] => false

/-- The words of a command up to its end, and whether it ends with a plus. The last word seen says
whether a plus can end the command. -/
def commandWords (allowsPlus : Bool) :
    List Octets → Option Octets → List Octets → Option (List Octets × Bool × List Octets)
  | _, _, [] => none
  | seen, last, word :: rest =>
    if word == [';'] then some (seen.reverse, false, rest)
    else if allowsPlus && word == ['+'] && last.any hasMark then some (seen.reverse, true, rest)
    else commandWords allowsPlus (word :: seen) (some word) rest

def commandAction (name : Octets) (isLocal asks : Bool) : Reader Unit := do
  match commandWords (!asks) [] none (← get).rest with
  | none => refuse ("missing argument to ".toList ++ marked name)
  | some ([], _, _) => refuseArgument name [';']
  | some (words, isMany, rest) =>
    modify fun reading => { reading with rest := rest }
    if !isMany then pushAction (.run isLocal asks words)
    else
      let ending := (if isLocal then "-execdir" else "-exec").toList
      if 1 < words.countP hasMark then
        refuse ("Only one instance of \x7b\x7d is supported with ".toList ++ ending ++ " ... +".toList)
      if words.getLast? != some "\x7b\x7d".toList then
        refuse ("In ".toList ++ Work.cite (ending ++ " ... \x7b\x7d +".toList) ++ " the ".toList ++
          Work.cite "\x7b\x7d".toList ++ " must appear by itself, but you specified ".toList ++
          Work.cite (words.getLast?.getD []))
      let number := (← get).gathers
      modify fun reading => { reading with gathers := number + 1 }
      pushAction (.gather number isLocal words.dropLast)

def formatAction (target : Option Octets) (name : Octets) : Reader Unit := do
  let word ← argument name
  match Piece.read (word.length + 1) word with
  | .ok (pieces, warnings) =>
    modify fun reading => { reading with warnings := reading.warnings ++ warnings }
    pushAction (.format target pieces)
  | .error message => refuse message

/-- The file that output goes to. It is made before the search starts. -/
def targetOf (name : Octets) : Reader Octets := do
  let word ← argument name
  modify fun reading => { reading with made := reading.made ++ [word] }
  return word

/-- Words that do something. -/
def action? (name : Octets) : Option (Reader Unit) :=
  match String.ofList name with
  | "-print" => some (pushAction (.print none '\n'))
  | "-print0" => some (pushAction (.print none '\x00'))
  | "-printf" => some (formatAction none name)
  | "-fprint" => some do
    let path ← targetOf name
    pushAction (.print path '\n')
  | "-fprint0" => some do
    let path ← targetOf name
    pushAction (.print path '\x00')
  | "-fprintf" => some do
    let path ← targetOf name
    formatAction path name
  | "-delete" => some do
    pushAction .delete
    modify fun reading =>
      { reading with deletes := true, settings := { reading.settings with isDeep := true } }
  | "-prune" => some do
    push (.primary (.act .prune))
    modify fun reading => { reading with prunes := true }
  | "-quit" => some (push (.primary (.act .quit)))
  | "-exec" => some (commandAction name false false)
  | "-execdir" => some (commandAction name true false)
  | "-ok" => some (commandAction name false true)
  | "-okdir" => some (commandAction name true true)
  | _ => none

/-- Words that put others together. -/
def operator? (name : Octets) : Option (Reader Unit) :=
  match String.ofList name with
  | "(" => some (push (.opening false))
  | ")" => some (push (.closing false))
  | "!" | "-not" => some (push (.negation name))
  | "-a" | "-and" => some (push (.operator name 3))
  | "-o" | "-or" => some (push (.operator name 2))
  | "," => some (push (.operator name 1))
  | _ => none

/-- Whether a word belongs to what is looked for and is no path. -/
def isPredicate (isLeading : Bool) (word : Octets) : Bool :=
  match word with
  | '-' :: _ :: _ => true
  | [')'] | [','] => !isLeading
  | ['!'] | ['('] => true
  | _ => false

/-- Reads all words. The number bounds the work. -/
def predicates (world : World) : Nat → Reader Unit
  | 0 => return
  | fuel + 1 => do
    let reading ← get
    match reading.rest with
    | [] => return
    | name :: rest =>
      if !isPredicate false name then
        let hint := match reading.latest with
          | some latest =>
            if (world.files.find world.base name).toOption.isSome then
              ["possible unquoted pattern after predicate ".toList ++ marked latest ++ ['?']]
            else []
          | none => []
        throw (("paths must precede expression: ".toList ++ marked name) :: hint)
      StateT.set { reading with rest := rest }
      let known := (operator? name).orElse fun _ => (option? name).orElse fun _ =>
        (nameTest? name).orElse fun _ => (factTest? world name).orElse fun _ => action? name
      match known with
      | none => refuse ("unknown predicate ".toList ++ marked name)
      | some read =>
        read
        modify fun reading => { reading with latest := some name }
        predicates world fuel

/-- The settings that stand before all paths, and what follows them. -/
def leading : Settings → List Octets → Except Octets (Settings × List Octets)
  | settings, word :: rest =>
    match word with
    | ['-', 'H'] => leading { settings with follow := .given } rest
    | ['-', 'L'] => leading { settings with follow := .all } rest
    | ['-', 'P'] => leading { settings with follow := .none } rest
    | ['-', '-'] => .ok (settings, rest)
    | '-' :: 'O' :: level =>
      if level.isEmpty || !level.all Char.isDigit then
        .error "The -O option must be immediately followed by a decimal integer".toList
      else leading settings rest
    | _ => .ok (settings, word :: rest)
  | settings, [] => .ok (settings, [])

/-- What arguments ask for, or the complaints about them. -/
def read (world : World) (arguments : List Octets) : Except (List Octets) Quest := do
  let (settings, words) ← (leading {} arguments).mapError fun message => [message]
  let paths := words.takeWhile fun word => !isPredicate true word
  let rest := words.drop paths.length
  let ((), reading) ← (predicates world (rest.length + 1)).run { rest := rest, settings := settings }
  if reading.deletes && reading.prunes && !reading.settings.hasDepthOption then
    throw [("The -delete action automatically turns on -depth, but -prune does nothing when " ++
      "-depth is in effect.  If you want to carry on anyway, just explicitly use the -depth " ++
      "option.").toList]
  let given := reading.tokens.reverse
  let usual : Token := .primary (.act (.print none '\n'))
  let tokens := if given.isEmpty then [usual]
    else if reading.acts then given
    else .opening true :: given ++ [.closing true, conjunction, usual]
  let query ← (queryOf tokens).mapError fun message => [message]
  return {
    starts := if paths.isEmpty then [['.']] else paths
    settings := reading.settings
    query := query
    made := reading.made
    warnings := reading.warnings }

end BuildRules.Shell.Find
