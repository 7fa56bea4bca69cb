import BuildRules.Shell.Regex.Basic

/-! Reading of regular expressions. In the basic form groups, bounds and choices are written with
a backslash, in the extended form without. -/
namespace BuildRules.Shell.Regex

/-- Which expressions are read, and what becomes of those that make no sense. -/
structure Dialect where
  isExtended : Bool := false
  /-- Whether the signs `+` and `?` stand without a backslash though parentheses have one. -/
  hasBareRepeats : Bool := false
  /-- Whether something may be repeated that is repeated already. -/
  nestsRepeats : Bool := false
  /-- Whether a sign of repetition may stand where nothing is in front of it. -/
  allowsLoneRepeats : Bool := false
  /-- Whether bounds that make no sense stand for themselves. -/
  allowsBadBounds : Bool := false
  /-- Whether a closing parenthesis without an opening one stands for itself. -/
  allowsLoneClose : Bool := false
  /-- Whether a line feed separates choices. -/
  splitsLines : Bool := false

/-- What is wrong with an expression. -/
inductive Flaw
  | pattern
  | bracket
  | className
  | collation
  | range
  | parenthesis
  | closing
  | brace
  | bounds
  | repetition
  | escape
  | reference
  | size
deriving DecidableEq, Repr

def Flaw.message : Flaw → Octets
  | pattern => "Invalid regular expression".toList
  | bracket => "Unmatched [, [^, [:, [., or [=".toList
  | className => "Invalid character class name".toList
  | collation => "Invalid collation character".toList
  | range => "Invalid range end".toList
  | parenthesis => "Unmatched ( or \\(".toList
  | closing => "Unmatched ) or \\)".toList
  | brace => "Unmatched \\\x7b".toList
  | bounds => "Invalid content of \\\x7b\\\x7d".toList
  | repetition => "Invalid preceding regular expression".toList
  | escape => "Trailing backslash".toList
  | reference => "Invalid back reference".toList
  | size => "Regular expression too big".toList

/-- The largest bound. -/
def maxBound : Nat := 32767

inductive Token
  | finish
  | letter (c : Char)
  | choice
  | opening
  | closing
  | star
  | plus
  | question
  | openBrace
  | closeBrace
  | bracket
  | atom (regex : Regex)
  | anchor (regex : Regex)
  | reference (number : Nat)
  | backslash

/-- Where the reading of an expression has got to. -/
structure Place where
  token : Token := .finish
  /-- What follows the token. -/
  rest : Octets
  /-- What stands at the token. -/
  here : Octets
  /-- How many groups have been opened. -/
  groups : Nat := 0
  /-- The groups that have been closed and can be referred to. -/
  closed : List Nat := []

abbrev Reader := ExceptT Flaw (StateM Place)

def wordSet (negated : Bool) : Regex := among negated [.named "alnum".toList, .range '_' '_']

def spaceSet (negated : Bool) : Regex := among negated [.named "space".toList]

/-- The token that a backslash and a character make. -/
def escaped (dialect : Dialect) (c : Char) : Token :=
  let basic (token : Token) : Token := if dialect.isExtended then .letter c else token
  let sign (token : Token) : Token := if dialect.hasBareRepeats then .letter c else basic token
  match c with
  | '|' => basic .choice
  | '(' => basic .opening
  | ')' => basic .closing
  | '+' => sign .plus
  | '?' => sign .question
  | '\x7b' => sign .openBrace
  | '\x7d' => sign .closeBrace
  | '<' => .anchor (word .start)
  | '>' => .anchor (word .finish)
  | 'b' => .anchor (word .edge)
  | 'B' => .anchor (word .inside)
  | '\x60' => .anchor textStart
  | '\'' => .anchor textEnd
  | 'w' => .atom (wordSet false)
  | 'W' => .atom (wordSet true)
  | 's' => .atom (spaceSet false)
  | 'S' => .atom (spaceSet true)
  | c => if '1' ≤ c && c ≤ '9' then .reference (c.toNat - 48) else .letter c

/-- The token at the start of a text, and what follows it. A circumflex is an anchor at the start
of an expression or of a part of it. -/
def token (dialect : Dialect) (atStart : Bool) (text : Octets) : Token × Octets :=
  let extended (c : Char) (token : Token) : Token := if dialect.isExtended then token else .letter c
  let sign (c : Char) (token : Token) : Token :=
    if dialect.hasBareRepeats then token else extended c token
  match text with
  | [] => (.finish, [])
  | ['\\'] => (.backslash, [])
  | '\\' :: c :: rest => (escaped dialect c, rest)
  | '\n' :: rest => (if dialect.splitsLines then .choice else .letter '\n', rest)
  | '|' :: rest => (extended '|' .choice, rest)
  | '(' :: rest => (extended '(' .opening, rest)
  | ')' :: rest => (extended ')' .closing, rest)
  | '+' :: rest => (sign '+' .plus, rest)
  | '?' :: rest => (sign '?' .question, rest)
  | '\x7b' :: rest => (extended '\x7b' .openBrace, rest)
  | '\x7d' :: rest => (extended '\x7d' .closeBrace, rest)
  | '*' :: rest => (.star, rest)
  | '[' :: rest => (.bracket, rest)
  | '.' :: rest => (.atom any, rest)
  | '^' :: rest => (if dialect.isExtended || atStart then .anchor lineStart else .letter '^', rest)
  | '$' :: rest =>
    let isLast := match rest with
      | [] => true
      | '\\' :: ')' :: _ | '\\' :: '|' :: _ => true
      | '\n' :: _ => dialect.splitsLines
      | _ => false
    (if dialect.isExtended || isLast then .anchor lineEnd else .letter '$', rest)
  | c :: rest => (.letter c, rest)

/-- Goes on to the next token. -/
def next (dialect : Dialect) (atStart : Bool) : Reader Unit :=
  modify fun place =>
    let (token, rest) := token dialect atStart place.rest
    { place with token := token, here := place.rest, rest := rest }

/-! Sets in brackets. -/

/-- The name between a sign and the same sign with a bracket, and what follows. -/
def named? (sign : Char) : Octets → Octets → Option (Octets × Octets)
  | _, [] | _, [_] => none
  | name, c :: d :: rest =>
    if c == sign && d == ']' then some (name.reverse, rest) else named? sign (c :: name) (d :: rest)

/-- An element of a set: a single character, or a class. Gives what follows, too. -/
def element (text : Octets) : Except Flaw ((Char ⊕ Member) × Octets) :=
  match text with
  | [] => .error .bracket
  | '[' :: ':' :: rest =>
    match named? ':' [] rest with
    | none => .error .bracket
    | some (name, after) =>
      if classNames.contains name then .ok (.inr (.named name), after) else .error .className
  | '[' :: sign :: rest =>
    if sign == '.' || sign == '=' then
      match named? sign [] rest with
      | none => .error .bracket
      | some ([c], after) =>
        if sign == '.' then .ok (.inl c, after) else .ok (.inr (.range c c), after)
      | some _ => .error .collation
    else .ok (.inl '[', sign :: rest)
  | c :: rest => .ok (.inl c, rest)

/-- The members of a set up to the bracket that closes it, and what follows that. A bracket or a
dash in the first place is a member. The number bounds the work. -/
def members (isFirst : Bool) (seen : List Member) : Nat → Octets →
    Except Flaw (List Member × Octets)
  | 0, _ | _, [] => .error .bracket
  | fuel + 1, c :: rest =>
    if c == ']' && !isFirst then .ok (seen.reverse, rest)
    else if c == '-' && !isFirst && rest.head? != some ']' then
      if rest.isEmpty then .error .bracket else .error .range
    else do
      let (low, after) ← element (c :: rest)
      let single : Member := match low with
        | .inl c => .range c c
        | .inr member => member
      match after with
      | '-' :: ']' :: _ => members false (single :: seen) fuel after
      | '-' :: more =>
        if more.isEmpty then .error .bracket
        else do
          let (high, after) ← element more
          match low, high with
          | .inl low, .inl high =>
            if high < low then .error .range
            else members false (.range low high :: seen) fuel after
          | _, _ => .error .range
      | _ => members false (single :: seen) fuel after

/-- The set that starts right behind a bracket, and what follows it. -/
def bracket (text : Octets) : Except Flaw (Regex × Octets) :=
  let (negated, body) := match text with
    | '^' :: rest => (true, rest)
    | _ => (false, text)
  if body.isEmpty then .error .pattern
  else do
    let (members, after) ← members true [] (body.length + 1) body
    return (among negated members, after)

/-! Bounds. -/

/-- What a bound has turned out to be, at the token behind it. -/
inductive Bound
  | absent
  | number (n : Nat)
  | invalid

/-- Reads tokens up to a comma or a closing brace. The number bounds the work. -/
def bound (dialect : Dialect) (seen : Bound) : Nat → Reader Bound
  | 0 => return .invalid
  | fuel + 1 => do
    next dialect false
    match (← get).token, seen with
    | .finish, _ => return .invalid
    | .closeBrace, _ => return seen
    | .letter ',', _ => return seen
    | .letter c, .absent =>
      bound dialect (if c.isDigit then .number (c.toNat - 48) else .invalid) fuel
    | .letter c, .number n =>
      let more := min (maxBound + 1) (10 * n + (c.toNat - 48))
      bound dialect (if c.isDigit then .number more else .invalid) fuel
    | _, _ => bound dialect .invalid fuel

/-- The bounds behind an opening brace, or none if that stands for itself. -/
def bounds? (dialect : Dialect) : Reader (Option (Nat × Option Nat)) := do
  let start ← get
  let fuel := start.rest.length + 1
  let isComma : Reader Bool := do
    match (← get).token with
    | .letter ',' => return true
    | _ => return false
  let first ← bound dialect .absent fuel
  let least ← match first with
    | .absent => do if ← isComma then pure (Bound.number 0) else throw .bounds
    | other => pure other
  let isSingle := !(← isComma)
  let most ← match least with
    | .number n => if isSingle then pure (Bound.number n) else bound dialect .absent fuel
    | _ => pure Bound.invalid
  let here := (← get).token
  match least, most with
  | .number least, .absent =>
    match here with
    | .closeBrace => if maxBound < least then throw .size else return some (least, none)
    | _ => throw .bounds
  | .number least, .number most =>
    match here with
    | .closeBrace =>
      if most < least then throw .bounds
      else if maxBound < most then throw .size
      else return some (least, some most)
    | _ => throw .bounds
  | _, _ =>
    if dialect.allowsBadBounds then
      set { start with token := .letter '\x7b' }
      return none
    else match here with
      | .finish => throw .brace
      | _ => throw .bounds

/-- Whether a token repeats what is in front of it. -/
def Token.repeats : Token → Bool
  | .star | .plus | .question | .openBrace => true
  | _ => false

/-- Reads the signs of repetition behind something. The number bounds the work. -/
def repetitions (dialect : Dialect) (body : Regex) : Nat → Reader Regex
  | 0 => return body
  | fuel + 1 => do
    let done? ← match (← get).token with
      | .star => pure (some (times 0 none body))
      | .plus => pure (some (times 1 none body))
      | .question => pure (some (times 0 (some 1) body))
      | .openBrace => do
        match ← bounds? dialect with
        | some (least, most) => pure (some (times least most body))
        | none => pure none
      | _ => pure none
    match done? with
    | none => return body
    | some done =>
      next dialect false
      if !dialect.isExtended && !dialect.nestsRepeats then
        match (← get).token with
        | .star | .openBrace => throw .repetition
        | _ => pure ()
      repetitions dialect done fuel

mutual

/-- Reads choices up to the end or to the parenthesis that closes them. -/
def choices (dialect : Dialect) (depth : Nat) : Nat → Reader Regex
  | 0 => return .empty
  | fuel + 1 => do
    let known := (← get).closed
    let first ← branch dialect depth fuel
    match (← get).token with
    | .choice =>
      let afterFirst := (← get).closed
      modify fun place => { place with closed := known }
      next dialect true
      let second ← choices dialect depth fuel
      modify fun place => { place with closed := place.closed ++ afterFirst }
      return either first second
    | _ => return first

/-- Reads what stands one after the other. -/
def branch (dialect : Dialect) (depth : Nat) : Nat → Reader Regex
  | 0 => return .empty
  | fuel + 1 => do
    let isDone : Reader Bool := do
      match (← get).token with
      | .finish | .choice => return true
      | .closing => return 0 < depth
      | _ => return false
    if ← isDone then return .empty
    let first ← item dialect depth fuel
    if ← isDone then return first
    return both first (← branch dialect depth fuel)

/-- Reads one thing with its repetitions. -/
def item (dialect : Dialect) (depth : Nat) : Nat → Reader Regex
  | 0 => return .empty
  | fuel + 1 => do
    let place ← get
    let count := place.here.length + 1
    let finishWith (regex : Regex) : Reader Regex := do
      next dialect false
      repetitions dialect regex count
    let literally : Reader Regex := finishWith (one (place.here.headD '\x00'))
    match place.token with
    | .letter c => finishWith (one c)
    | .atom regex => finishWith regex
    | .anchor regex =>
      next dialect true
      if dialect.isExtended && dialect.allowsLoneRepeats then repetitions dialect regex count
      else return regex
    | .reference n =>
      unless place.closed.contains n do throw .reference
      finishWith (again n)
    | .bracket =>
      match bracket place.rest with
      | .error flaw => throw flaw
      | .ok (regex, after) =>
        modify fun place => { place with rest := after }
        finishWith regex
    | .opening =>
      let number := place.groups + 1
      modify fun place => { place with groups := number }
      next dialect true
      let body ← match (← get).token with
        | .closing => pure .empty
        | _ => choices dialect (depth + 1) fuel
      match (← get).token with
      | .closing =>
        modify fun place => { place with closed := number :: place.closed }
        finishWith (group number body)
      | _ => throw .parenthesis
    | .closing => if dialect.allowsLoneClose then literally else throw .closing
    | .closeBrace => literally
    | .star | .plus | .question | .openBrace =>
      if dialect.isExtended then
        if dialect.allowsLoneRepeats then repetitions dialect .empty count else throw .repetition
      else match place.token with
        | .openBrace => if dialect.nestsRepeats then literally else throw .repetition
        | .star => finishWith (one '*')
        | .plus => finishWith (one '+')
        | _ => finishWith (one '?')
    | .backslash => throw .escape
    | .choice | .finish => return .empty

end

/-- Reads an expression. Gives it with the number of its groups. -/
def read (dialect : Dialect) (text : Octets) : Except Flaw (Regex × Nat) :=
  let start : Place := { rest := text, here := text }
  let body : Reader Regex := do
    next dialect true
    choices dialect 0 (2 * text.length + 4)
  match body.run.run start with
  | (.ok regex, place) => .ok (regex, place.groups)
  | (.error flaw, _) => .error flaw

end BuildRules.Shell.Regex
