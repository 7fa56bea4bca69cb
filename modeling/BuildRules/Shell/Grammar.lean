import BuildRules.Shell.Cursor

/-! Reading of commands. Quotes, substitutions and commands lie in each other to any depth, so
words and commands are read together; a number bounds how deep and how long, and a bound made
from the length of the text is never reached. -/
namespace BuildRules.Shell.Grammar
open Cursor

/-- Ends the reading at a token. The token that was wanted is named if there was one. -/
def unexpected {α : Type} (token : Token) (wanted : Option String) : Read α :=
  let hint := match wanted with
    | some text => " (expecting ".toList ++ (Token.operator text.toList).label ++ [')']
    | none => []
  throw (token.label ++ " unexpected".toList ++ hint)

/-- Literal text of a word outside quotes. -/
def isBareText (c : Char) : Bool := !"\\'\"$\x60\x7d \t\n;&|<>()".toList.contains c

/-- Literal text between double quotes. -/
def isQuotedText (c : Char) : Bool := !"\\\"$\x60".toList.contains c

/-- Literal text of a here-document. -/
def isHereText (c : Char) : Bool := !"\\$\x60".toList.contains c

/-- Literal text of an argument in braces that are quoted. -/
def isBraceText (c : Char) : Bool := !"\\\"$\x60\x7d".toList.contains c

/-- Literal text of an arithmetic expression. -/
def isNumberText (c : Char) : Bool := !"\\$\x60()".toList.contains c

/-- What a backslash before a character gives, where it keeps its meaning before a few only. -/
def escaped (special : String) (c : Option Char) : Octets :=
  match c with
  | none => ['\\']
  | some c => if special.toList.contains c then [c] else ['\\', c]

/-- The command line inside backquotes: a backslash quotes a few characters. -/
def takeBackquoted (quoted : Bool) : Nat → Octets → Read Octets
  | 0, seen => return seen.reverse
  | fuel + 1, seen => do
    match ← take with
    | none => refuse "EOF in backquote substitution"
    | some '\x60' => return seen.reverse
    | some '\\' =>
      match ← takeRaw with
      | none => refuse "EOF in backquote substitution"
      | some c =>
        let special := if quoted then "\\\x60$\"" else "\\\x60$"
        takeBackquoted quoted fuel ((escaped special (some c)).reverse ++ seen)
    | some c => takeBackquoted quoted fuel (c :: seen)

/-- The operator behind the name of a parameter, and whether the brace that closes it has been
taken with it. -/
def takeTreatment (c : Option Char) : Read (Treatment × Bool) := do
  match c with
  | some '\x7d' => return (.value, true)
  | some ':' =>
    match ← takeOperator with
    | some '-' => return (.useDefault true, false)
    | some '=' => return (.assignDefault true, false)
    | some '?' => return (.demand true, false)
    | some '+' => return (.alternative true, false)
    | some '\x7d' => return (.value, false)
    | _ => return (.unknown, false)
  | some '-' => return (.useDefault false, false)
  | some '=' => return (.assignDefault false, false)
  | some '?' => return (.demand false, false)
  | some '+' => return (.alternative false, false)
  | some '%' => return (.removeEnd (← accept '%'), false)
  | some '#' => return (.removeStart (← accept '#'), false)
  | _ => return (.unknown, false)

/-- Whether a character is the whole name of a parameter. -/
def isOneCharName (c : Option Char) : Bool :=
  c.any fun c => isSpecialParameter c || c.isDigit

/-- The name at the start of braces, what is done with its value, and whether the brace that
closes it has been taken. -/
def takeHead : Read (Octets × Treatment × Bool) := do
  let lengthOf (name : Octets) : Read (Octets × Treatment × Bool) := do
    if ← accept '\x7d' then return (name, .length, true) else return (name, .unknown, false)
  let rest (name : Octets) : Read (Octets × Treatment × Bool) := do
    return (name, ← takeTreatment (← takeOperator))
  match ← peek with
  | none | some '\x7d' => return ([], .unknown, false)
  | some c =>
    if isNameStart c then rest (← takeWhile isNameChar)
    else if c.isDigit then rest (← takeWhile Char.isDigit)
    else
      let _ ← takeOperator
      if c == '#' then
        match ← peek with
        | some d =>
          if isNameStart d then lengthOf (← takeWhile isNameChar)
          else if d.isDigit then lengthOf (← takeWhile Char.isDigit)
          else
            let _ ← takeOperator
            let following ← peek
            if d == '\x7d' || following != some '\x7d' then
              return (['#'], ← takeTreatment (some d))
            else if isSpecialParameter d then lengthOf [d]
            else return ([], .unknown, false)
        | none => return ([], .unknown, false)
      else if isSpecialParameter c then rest [c]
      else return ([], .unknown, false)

/-- The lines of a here-document that is taken as it is, with the text behind the line that ends it. -/
def hereLines (doc : Announced) (seen : List Octets) : List Octets → Octets × List Octets
  | [] => (Text.join ['\n'] seen.reverse, [])
  | line :: rest =>
    let line := if doc.stripsTabs then line.dropWhile (· == '\t') else line
    if line == doc.delimiter then (Text.join ['\n'] ([] :: seen).reverse, rest)
    else if rest.isEmpty && line.isEmpty then (Text.join ['\n'] ([] :: seen).reverse, [])
    else hereLines doc (line :: seen) rest

/-- A simple command that is being read. Each list has its last item first. -/
structure Simple where
  line : Nat
  assignments : List (Octets × Template) := []
  words : List Template := []
  redirects : List Redirect := []

def Simple.command (found : Simple) : Command :=
  .simple found.line found.assignments.reverse found.words.reverse found.redirects.reverse

/-- Commands in braces. One command alone is the same without them. -/
def braced : List Command → Command
  | [single] => single
  | body => .group body

/-- A command with the redirections behind it. They take the place of those that a subshell, braced by
itself, has of its own. -/
def redirected (line : Nat) (body : Command) (redirects : List Redirect) : Command :=
  if redirects.isEmpty then body
  else match body with
    | .subshell _ commands _ => .subshell line commands redirects
    | _ => .redirected line body redirects

mutual

/-- A template outside quotes, up to a character that ends a word, or in braces up to the brace
that closes them. The parts read so far stand last one first. -/
def bare (inBraces : Bool) : Nat → Template → Read Template
  | 0, seen => return seen.reverse
  | fuel + 1, seen => do
    let onward (text : Octets) (quoted : Bool) : Read Template :=
      bare inBraces fuel (Template.addText quoted text seen)
    match ← peek with
    | none => if inBraces then refuse "Missing '\x7d'" else return seen.reverse
    | some c =>
      if isBareText c then onward (← takeWhile isBareText) false
      else match c with
      | '\\' =>
        advance
        onward [(← takeRaw).getD '\\'] true
      | '\'' =>
        advance
        let inner ← takeApostrophes ((← get).rest.length + 1) []
        bare inBraces fuel (.quotes :: .text true inner :: .quotes :: seen)
      | '"' =>
        advance
        let inner ← quoted fuel []
        bare inBraces fuel ((Template.enclose inner).reverse ++ seen)
      | '$' =>
        advance
        bare inBraces fuel (← addParts seen (substitution false fuel))
      | '\x60' =>
        advance
        if (← get).isLiteral then onward ['\x60'] false
        else bare inBraces fuel ((← backquoted false fuel) :: seen)
      | '\x7d' =>
        advance
        if inBraces then return seen.reverse else onward ['\x7d'] false
      | _ =>
        if inBraces then
          advance
          onward [c] false
        else return seen.reverse

/-- A template between double quotes, up to the quote that closes it. -/
def quoted : Nat → Template → Read Template
  | 0, seen => return seen.reverse
  | fuel + 1, seen => do
    match ← peek with
    | none =>
      if (← get).isInDocument then refuse "Missing '\x7d'" else refuse "Unterminated quoted string"
    | some '"' =>
      advance
      return seen.reverse
    | some '\\' =>
      advance
      quoted fuel (Template.addText true (escaped "\\\x60$\"" (← takeRaw)) seen)
    | some '$' =>
      advance
      quoted fuel (← addParts seen (substitution true fuel))
    | some '\x60' =>
      advance
      if (← get).isLiteral then quoted fuel (Template.addText true ['\x60'] seen)
      else quoted fuel ((← backquoted true fuel) :: seen)
    | some _ => quoted fuel (Template.addText true (← takeWhile isQuotedText) seen)

/-- The argument in braces that stand between double quotes, or in a here-document. Inside `inner` quotes
a brace stands for itself. -/
def quotedBraces (inner : Bool) : Nat → Template → Read Template
  | 0, seen => return seen.reverse
  | fuel + 1, seen => do
    match ← peek with
    | none =>
      if (← get).isInDocument then refuse "Missing '\x7d'" else refuse "Unterminated quoted string"
    | some '"' =>
      advance
      quotedBraces (!inner) fuel seen
    | some '\x7d' =>
      advance
      if inner then quotedBraces inner fuel (Template.addText true ['\x7d'] seen)
      else return seen.reverse
    | some '\\' =>
      advance
      quotedBraces inner fuel
        (Template.addText true (escaped "\\\x60$\"\x7d" (← takeRaw)) seen)
    | some '$' =>
      advance
      quotedBraces inner fuel (← addParts seen (substitution true fuel))
    | some '\x60' =>
      advance
      quotedBraces inner fuel ((← backquoted true fuel) :: seen)
    | some _ => quotedBraces inner fuel (Template.addText true (← takeWhile isBraceText) seen)

/-- An arithmetic expression, up to the two parentheses that close it, or a group in one, up to
its parenthesis. What has been read stands last one first, and so does the answer. -/
def expression (isGroup : Bool) : Nat → Template → Read Template
  | 0, seen => return seen
  | fuel + 1, seen => do
    match ← peek with
    | none => refuse "Missing '))'"
    | some '(' =>
      advance
      expression isGroup fuel (← expression true fuel (Template.addText true ['('] seen))
    | some ')' =>
      advance
      if isGroup then return Template.addText true [')'] seen
      else if ← accept ')' then return seen
      else expression isGroup fuel (Template.addText true [')'] seen)
    | some '\\' =>
      advance
      expression isGroup fuel (Template.addText true (escaped "\\\x60$\"" (← takeRaw)) seen)
    | some '$' =>
      advance
      expression isGroup fuel (← addParts seen (substitution true fuel))
    | some '\x60' =>
      advance
      expression isGroup fuel ((← backquoted true fuel) :: seen)
    | some _ => expression isGroup fuel (Template.addText true (← takeWhile isNumberText) seen)

/-- The text of a here-document, to its end. -/
def hereText : Nat → Template → Read Template
  | 0, seen => return seen.reverse
  | fuel + 1, seen => do
    match ← peek with
    | none => return seen.reverse
    | some '\\' =>
      advance
      hereText fuel (Template.addText true (escaped "\\\x60$" (← takeRaw)) seen)
    | some '$' =>
      advance
      hereText fuel (← addParts seen (substitution true fuel))
    | some '\x60' =>
      advance
      hereText fuel ((← backquoted true fuel) :: seen)
    | some _ => hereText fuel (Template.addText true (← takeWhile isHereText) seen)

/-- What follows a dollar, in order. -/
def substitution (quoted : Bool) : Nat → Read Template
  | 0 => return [.text quoted ['$']]
  | fuel + 1 => do
    if (← get).isLiteral then return [.text quoted ['$']]
    match ← peek with
    | none => return [.text quoted ['$']]
    | some '(' =>
      advance
      if ← accept '(' then
        return Template.closing (.number quoted) (← expression false fuel []).reverse
      else
        let outer ← get
        set { outer with announced := [], watched := none, behind := none }
        let body ← list true fuel
        let token ← next .word fuel
        unless token.isOperator ")" do unexpected token (some ")")
        modify fun inner =>
          { inner with announced := outer.announced, watched := outer.watched, behind := outer.behind }
        return [.output quoted body]
    | some '\x7b' =>
      advance
      let (name, treatment, closed) ← takeHead
      if closed then return [.parameter quoted name treatment []]
      let argument ← match quoted, treatment with
        | false, _ | _, .removeEnd _ | _, .removeStart _ => bare true fuel []
        | true, _ => quotedBraces false fuel []
      if treatment = .value then
        return .parameter quoted name .value [] :: argument ++ [.surplus]
      return Template.closing (.parameter quoted name treatment) argument
    | some c =>
      if isNameStart c then return [.parameter quoted (← takeWhile isNameChar) .value []]
      else if isOneCharName (some c) then
        advance
        return [.parameter quoted [c] .value []]
      else return [.text quoted ['$']]

/-- Adds the parts that are read next; a dollar that stands for itself is text. -/
def addParts (seen : Template) (read : Read Template) : Read Template := do
  match ← read with
  | [.text quoted text] => return Template.addText quoted text seen
  | parts => return parts.reverse ++ seen

/-- What follows a backquote. What stands behind the commands in it is not looked at. -/
def backquoted (quoted : Bool) : Nat → Read Part
  | 0 => return .text quoted ['\x60']
  | fuel + 1 => do
    let around ← get
    set { around with watched := none, behind := none }
    let text ← takeBackquoted quoted fuel []
    let outer ← get
    set { outer.inside text with line := 1, announced := [] }
    let body ← list true fuel
    modify fun inner =>
      { inner with
        rest := outer.rest
        line := outer.line
        announced := outer.announced
        held := none
        opened := outer.opened
        spent := outer.spent
        busy := outer.busy
        watched := around.watched
        behind := around.behind }
    return .output quoted body

/-- Reads the texts of the here-documents that the line has announced. -/
def takeHereTexts : Nat → Read Unit
  | 0 => return
  | fuel + 1 => do
    let cursor ← get
    match cursor.announced with
    | [] => return
    | doc :: others =>
      let template ← do
        if doc.expands then
          set (startLine { cursor.inside cursor.rest with announced := [], watched := some doc })
          hereText fuel []
        else
          let (text, after) := hereLines doc [] (Text.pieces '\n' cursor.rest)
          let rest := Text.join ['\n'] after
          let lines := cursor.rest.count '\n' - rest.count '\n'
          set { cursor with rest := rest, line := cursor.line + lines }
          pure [.text true text]
      modify fun inner =>
        { inner with
          rest := inner.behind.getD inner.rest
          announced := others
          held := cursor.held
          opened := cursor.opened
          spent := cursor.spent
          busy := cursor.busy
          watched := cursor.watched
          behind := cursor.behind
          texts := (doc.number, template) :: inner.texts }
      takeHereTexts fuel

/-- The next token, if none has been put back. -/
def scan : Nat → Read Token
  | 0 => return .finish
  | fuel + 1 => do
    match ← peek with
    | none => return .finish
    | some c =>
      match c with
      | ' ' | '\t' =>
        advance
        scan fuel
      | '#' =>
        skipComment
        scan fuel
      | '\n' =>
        advance
        return .newline
      | '&' =>
        advance
        return .operator (if ← accept '&' then ['&', '&'] else ['&'])
      | '|' =>
        advance
        return .operator (if ← accept '|' then ['|', '|'] else ['|'])
      | ';' =>
        advance
        return .operator (if ← accept ';' then [';', ';'] else [';'])
      | '(' | ')' =>
        advance
        return .operator [c]
      | _ =>
        let template ← bare false fuel []
        match ← peek, template with
        | some '<', [] | some '>', [] => redirection none
        | some '<', [.text false [d]] | some '>', [.text false [d]] =>
          if d.isDigit then redirection (some (d.toNat - '0'.toNat)) else return .word template
        | _, _ => return .word template

/-- The operator of a redirection, whose descriptor may stand before it. -/
def redirection (descriptor : Option Nat) : Read Token := do
  let first ← take
  let second ← peek
  let found (operator : String) : Token :=
    .redirection (descriptor.getD (if first == some '>' then 1 else 0)) operator.toList
  match first, second with
  | some '>', some '>' =>
    advance
    return found ">>"
  | some '>', some '|' =>
    advance
    return found ">|"
  | some '<', some '<' =>
    advance
    if ← accept '-' then return found "<<-" else return found "<<"
  | some '<', some '>' =>
    advance
    return found "<>"
  | _, some '&' =>
    advance
    return found "&"
  | some '>', _ => return found ">"
  | _, _ => return found "<"

/-- The next token from the text, and whether it can be an alias as it follows one. -/
def fresh : Nat → Read (Token × Bool)
  | 0 => return (.finish, false)
  | fuel + 1 => do
    freeSpent
    let token ← scan fuel
    return (token, ← closeAliases)

/-- Passes over newlines, with the here-documents behind them. -/
def skipNewlines : Nat → Token × Bool → Read (Token × Bool)
  | 0, token => return token
  | fuel + 1, token => do
    match token with
    | (.newline, _) =>
      takeHereTexts fuel
      skipNewlines fuel (← fresh fuel)
    | token => return token

/-- The next token. -/
def next (expecting : Expecting) : Nat → Read Token
  | 0 => return .finish
  | fuel + 1 => do
    let cursor ← get
    let first ← match cursor.held with
      | some token =>
        set { cursor with held := none }
        pure (token, false)
      | none => fresh fuel
    let (token, followsAlias) ← if expecting.newlines then skipNewlines fuel first else pure first
    match token with
    | .word template =>
      match Template.plain? template with
      | none => return token
      | some text =>
        if expecting.keywords && Token.reservedWords.contains text then return .reserved text
        let cursor ← get
        match if expecting.aliases || followsAlias then cursor.alias? text else none with
        | none => return token
        | some value =>
          set (cursor.insertAlias text value)
          next { expecting with aliases := true } fuel
    | _ => return token

/-- Commands up to a token that ends a list. The first one has to be there unless the list can
be empty. -/
def list (canBeEmpty : Bool) : Nat → Read (List Command)
  | 0 => refuse "too long"
  | fuel + 1 => do
    let token ← next .anyCommand fuel
    match token with
    | .finish =>
      takeHereTexts fuel
      hold token
      return []
    | _ =>
      hold token
      if canBeEmpty && token.endsList then return []
      let first ← andOr fuel
      let after ← next .word fuel
      match after with
      | .finish =>
        takeHereTexts fuel
        hold after
        return [first]
      | .newline =>
        hold after
        return first :: (← list true fuel)
      | .operator [';'] => return first :: (← list true fuel)
      | .operator ['&'] => return .background first :: (← list true fuel)
      | _ =>
        hold after
        return [first]

def andOr : Nat → Read Command
  | 0 => refuse "too long"
  | fuel + 1 => do andOrFrom fuel (← pipeline fuel)

def andOrFrom : Nat → Command → Read Command
  | 0, first => return first
  | fuel + 1, first => do
    let token ← next .word fuel
    if token.isOperator "&&" then andOrFrom fuel (.andThen first (← pipeline fuel))
    else if token.isOperator "||" then andOrFrom fuel (.orElse first (← pipeline fuel))
    else
      hold token
      return first

def pipeline : Nat → Read Command
  | 0 => refuse "too long"
  | fuel + 1 => do
    let token ← next .anyCommand fuel
    let isNegated := token.isReserved "!"
    unless isNegated do hold token
    let first ← command false fuel
    let stages ← stagesFrom fuel [first]
    let body := match stages with
      | [single] => single
      | _ => .pipeline stages
    return if isNegated then .negated body else body

/-- The stages of a pipeline, last one first. -/
def stagesFrom : Nat → List Command → Read (List Command)
  | 0, seen => return seen.reverse
  | fuel + 1, seen => do
    let token ← next .word fuel
    if token.isOperator "|" then stagesFrom fuel ((← command true fuel) :: seen)
    else
      hold token
      return seen.reverse

def command (newlines : Bool) : Nat → Read Command
  | 0 => refuse "too long"
  | fuel + 1 => do
    let token ← next (if newlines then .anyCommand else .command) fuel
    let line := (← get).line
    let closeWith (wanted : String) (body : Command) : Read Command := do
      demand fuel wanted
      return redirected line body (← redirects fuel [])
    match token with
    | .word _ | .redirection _ _ =>
      hold token
      simple fuel true { line := line }
    | .operator ['('] => do
      let body ← list false fuel
      demand fuel ")"
      return .subshell line body (← redirects fuel [])
    | .reserved word =>
      match String.ofList word with
      | "\x7b" => do closeWith "\x7d" (braced (← list false fuel))
      | "if" => do closeWith "fi" (← branches fuel)
      | "while" => do
        let test ← list false fuel
        demand fuel "do"
        closeWith "done" (.loop true test (← list false fuel))
      | "until" => do
        let test ← list false fuel
        demand fuel "do"
        closeWith "done" (.loop false test (← list false fuel))
      | "for" => do
        let name ← loopName fuel
        let words ← loopWords fuel
        let token ← next .anyCommand fuel
        unless token.isReserved "do" do unexpected token (some "do")
        closeWith "done" (.each line name words (← list false fuel))
      | "case" => do
        match ← next .word fuel with
        | .word subject =>
          let token ← next .anyCommand fuel
          unless token.isReserved "in" do unexpected token (some "in")
          let arms ← arms fuel
          return redirected line (.choose line subject arms) (← redirects fuel [])
        | token => throw (token.label ++ " unexpected (expecting word)".toList)
      | _ => unexpected token none
    | _ => unexpected token none

/-- Takes a token that has to be there. -/
def demand : Nat → String → Read Unit
  | 0, _ => refuse "too long"
  | fuel + 1, wanted => do
    let token ← next .keyword fuel
    unless token.isReserved wanted || token.isOperator wanted do unexpected token (some wanted)

/-- What follows `if` or `elif`, up to what closes all of it. -/
def branches : Nat → Read Command
  | 0 => refuse "too long"
  | fuel + 1 => do
    let test ← list false fuel
    demand fuel "then"
    let body ← list false fuel
    let token ← next .keyword fuel
    if token.isReserved "elif" then return .cond test body [← branches fuel]
    else if token.isReserved "else" then return .cond test body (← list false fuel)
    else
      hold token
      return .cond test body []

def loopName : Nat → Read Octets
  | 0 => refuse "too long"
  | fuel + 1 => do
    match ← next .word fuel with
    | .word template =>
      match Template.plain? template with
      | some name => if isName name then return name else refuse "Bad for loop variable"
      | none => refuse "Bad for loop variable"
    | _ => refuse "Bad for loop variable"

/-- The words that a loop goes through, if they are written. -/
def loopWords : Nat → Read (Option (List Template))
  | 0 => refuse "too long"
  | fuel + 1 => do
    let token ← next .anyCommand fuel
    if token.isReserved "in" then
      let (words, last) ← wordsFrom fuel []
      match last with
      | .newline | .operator [';'] => return some words
      | other => unexpected other none
    else
      unless token.isOperator ";" do hold token
      return none

/-- Words, and the token behind them. -/
def wordsFrom : Nat → List Template → Read (List Template × Token)
  | 0, seen => return (seen.reverse, .finish)
  | fuel + 1, seen => do
    match ← next .word fuel with
    | .word template => wordsFrom fuel (template :: seen)
    | .newline =>
      takeHereTexts fuel
      return (seen.reverse, .newline)
    | token => return (seen.reverse, token)

def arms : Nat → Read (List (List Template × List Command))
  | 0 => refuse "too long"
  | fuel + 1 => do
    let token ← next .pattern fuel
    if token.isReserved "esac" then return []
    let first ← if token.isOperator "(" then next .word fuel else pure token
    let wanted ← patterns fuel first
    let body ← list true fuel
    let last ← next .pattern fuel
    if last.isReserved "esac" then return [(wanted, body)]
    unless last.isOperator ";;" do unexpected last (some ";;")
    return (wanted, body) :: (← arms fuel)

/-- The patterns of an arm, from its first token on, up to the parenthesis that closes them. -/
def patterns : Nat → Token → Read (List Template)
  | 0, _ => refuse "too long"
  | fuel + 1, token => do
    let pattern : Template := match token with
      | .word template => template
      | .reserved word => [.text false word]
      | _ => []
    let after ← next .word fuel
    if after.isOperator "|" then return pattern :: (← patterns fuel (← next .word fuel))
    unless after.isOperator ")" do unexpected after (some ")")
    return [pattern]

/-- The redirections behind a command. -/
def redirects : Nat → List Redirect → Read (List Redirect)
  | 0, seen => return seen.reverse
  | fuel + 1, seen => do
    match ← next .command fuel with
    | .redirection descriptor operator =>
      redirects fuel ((← redirectTarget fuel (.redirection descriptor operator)) :: seen)
    | token =>
      hold token
      return seen.reverse

/-- The rest of a redirection, once its operator has been taken. -/
def redirectTarget : Nat → Token → Read Redirect
  | 0, _ => refuse "too long"
  | fuel + 1, first => do
    let (descriptor, operator) := match first with
      | .redirection descriptor operator => (descriptor, String.ofList operator)
      | _ => (0, "")
    let isHere := operator == "<<" || operator == "<<-"
    modify fun cursor => { cursor with isLiteral := isHere }
    let token ← next .word fuel
    modify fun cursor => { cursor with isLiteral := false }
    match token with
    | .word target =>
      match operator with
      | "<" => return .file descriptor .read target
      | ">" => return .file descriptor .write target
      | ">|" => return .file descriptor .replace target
      | ">>" => return .file descriptor .append target
      | "<>" => return .file descriptor .readWrite target
      | "&" => return .copy descriptor target
      | _ =>
        let cursor ← get
        let doc : Announced :=
          { number := cursor.next
            delimiter := Template.literal target
            stripsTabs := operator == "<<-"
            expands := !Template.hasQuotes target }
        set { cursor with next := cursor.next + 1, announced := cursor.announced ++ [doc] }
        return .here descriptor doc.number
    | token => unexpected token none

/-- The rest of a simple command. Until a word that is no assignment has been read, `isStart`,
assignments and aliases have their meaning. A name with parentheses behind it starts the
definition of a function. -/
def simple : Nat → Bool → Simple → Read Command
  | 0, _, _ => refuse "too long"
  | fuel + 1, isStart, found => do
    let token ← next (if isStart then .name else .word) fuel
    match token with
    | .word template =>
      match if isStart then Template.assignment? template else none with
      | some assignment =>
        simple fuel true { found with assignments := assignment :: found.assignments }
      | none => simple fuel false { found with words := template :: found.words }
    | .redirection descriptor operator =>
      let redirect ← redirectTarget fuel (.redirection descriptor operator)
      simple fuel isStart { found with redirects := redirect :: found.redirects }
    | .operator ['('] =>
      match found.words, found.assignments, found.redirects with
      | [name], [], [] => definition fuel name
      | _, _, _ =>
        hold token
        return found.command
    | _ =>
      hold token
      return found.command

/-- What follows the first parenthesis behind the name of a function. -/
def definition : Nat → Template → Read Command
  | 0, _ => refuse "too long"
  | fuel + 1, template => do
    let token ← next .word fuel
    unless token.isOperator ")" do unexpected token (some ")")
    match (Template.plain? template).filter fun name =>
        isName name && !Shell.specialNames.contains name with
    | none => refuse "Bad function name"
    | some name =>
      let line := (← get).line
      return .define line name (← command true fuel)

end

/-- The commands that start on the next line that has some, up to the end of the line on which
they end. A shell runs them before it reads on. -/
def line : Nat → List Command → Read (List Command)
  | 0, seen => return seen.reverse
  | fuel + 1, seen => do
    match ← next .command fuel with
    | .newline =>
      takeHereTexts fuel
      return seen.reverse
    | .finish =>
      takeHereTexts fuel
      return seen.reverse
    | token =>
      hold token
      let first ← andOr fuel
      match ← next .word fuel with
      | .finish =>
        takeHereTexts fuel
        return (first :: seen).reverse
      | .newline =>
        hold .newline
        line fuel (first :: seen)
      | .operator [';'] => line fuel (first :: seen)
      | .operator ['&'] => line fuel (.background first :: seen)
      | token => unexpected token none

end BuildRules.Shell.Grammar
