import BuildRules.Shell.Integer
import BuildRules.Shell.Syntax

/-! Arithmetic of the shell: integers of 64 bits, the operators of C, and variables, which can
be assigned. An expression is evaluated while it is read, from left to right; what is not needed
is read without being evaluated. -/
namespace BuildRules.Shell.Arithmetic

inductive Lexeme
  | number (n : Int)
  | name (text : Octets)
  | symbol (text : Octets)
  /-- A character that means nothing. -/
  | stray
deriving DecidableEq, Repr

def symbols : List Octets :=
  ["<<=", ">>=", "&&", "||", "==", "!=", "<=", ">=", "<<", ">>", "+=", "-=", "*=", "/=", "%=",
    "&=", "|=", "^=", "+", "-", "*", "/", "%", "<", ">", "=", "!", "~", "&", "|", "^", "?", ":",
    "(", ")"].map String.toList

/-- The lexemes of a text. The number bounds the work; the length of the text is enough. -/
def lexemes : Nat → Octets → List Lexeme
  | 0, _ => []
  | _, [] => []
  | fuel + 1, c :: rest =>
    if c == ' ' || c == '\t' || c == '\n' then lexemes fuel rest
    else if c.isDigit then
      let reading := Integer.read none (c :: rest)
      .number reading.value :: lexemes fuel reading.rest
    else if isNameStart c then
      let name := c :: rest.takeWhile isNameChar
      .name name :: lexemes fuel (rest.drop (name.length - 1))
    else
      match symbols.find? fun symbol => symbol.isPrefixOf (c :: rest) with
      | none => .stray :: lexemes fuel rest
      | some symbol => .symbol symbol :: lexemes fuel ((c :: rest).drop symbol.length)

/-- Why an expression has no value. -/
inductive Trouble
  | expecting (what : String)
  | divisionByZero
  /-- A variable holds something that is no number. -/
  | noNumber (value : Octets)
deriving DecidableEq, Repr

/-- What is said of the trouble with an expression. -/
def Trouble.message (expression : Octets) : Trouble → Octets
  | expecting what => about ("expecting " ++ what)
  | divisionByZero => about "division by zero"
  | noNumber value => "Illegal number: ".toList ++ value
where
  about (what : String) : Octets :=
    "arithmetic expression: ".toList ++ what.toList ++ ": \"".toList ++ expression ++ ['"']

/-- Lexemes that are left, and the assignments made, latest first. -/
structure Progress where
  rest : List Lexeme
  made : List (Octets × Int) := []

abbrev Eval := StateT Progress (Except Trouble)

def truth (b : Bool) : Int := if b then 1 else 0

/-- How many bits are shifted; words have 64. -/
def shiftCount (n : Int) : Nat := (n % 64).toNat

def apply (op : Octets) (a b : Int) : Except Trouble Int :=
  match op with
  | ['+'] => .ok (Integer.wrap (a + b))
  | ['-'] => .ok (Integer.wrap (a - b))
  | ['*'] => .ok (Integer.wrap (a * b))
  | ['/'] => if b = 0 then .error .divisionByZero else .ok (Integer.wrap (a.tdiv b))
  | ['%'] => if b = 0 then .error .divisionByZero else .ok (Integer.wrap (a.tmod b))
  | ['<', '<'] => .ok (Integer.wrap (a.shiftLeft (shiftCount b)))
  | ['>', '>'] => .ok (a.shiftRight (shiftCount b))
  | ['<'] => .ok (truth (a < b))
  | ['>'] => .ok (truth (a > b))
  | ['<', '='] => .ok (truth (a ≤ b))
  | ['>', '='] => .ok (truth (a ≥ b))
  | ['=', '='] => .ok (truth (a == b))
  | ['!', '='] => .ok (truth (a != b))
  | ['&'] => .ok ((Int64.ofInt a &&& Int64.ofInt b).toInt)
  | ['|'] => .ok ((Int64.ofInt a ||| Int64.ofInt b).toInt)
  | _ => .ok ((Int64.ofInt a ^^^ Int64.ofInt b).toInt)

/-- How loosely an operator binds its operands. -/
def looseness? (lexeme : Option Lexeme) : Option (Octets × Nat) :=
  match lexeme with
  | some (.symbol op) =>
    let levels := [["*", "/", "%"], ["+", "-"], ["<<", ">>"], ["<", "<=", ">", ">="], ["==", "!="],
      ["&"], ["^"], ["|"]]
    (levels.findIdx? fun level => level.any fun name => name.toList == op).map fun n => (op, n)
  | _ => none

/-- The operator of an assignment symbol such as `+=`; the bare sign has none. -/
def assignOperator? (symbol : Octets) : Option Octets :=
  if symbol == ['='] then some []
  else if ["<<=", ">>=", "+=", "-=", "*=", "/=", "%=", "&=", "|=", "^="].any fun name =>
      name.toList == symbol then some symbol.dropLast
  else none

def peek : Eval (Option Lexeme) := do return (← get).rest.head?

def advance : Eval Unit := modify fun progress => { progress with rest := progress.rest.drop 1 }

/-- Takes a symbol if it comes next. -/
def accept (symbol : String) : Eval Bool := do
  if (← peek) == some (.symbol symbol.toList) then
    advance
    return true
  else return false

/-- The number that a variable holds after the assignments made. An empty one holds zero. -/
def held (lookup : Octets → Octets) (name : Octets) : Eval Int := do
  match (← get).made.lookup name with
  | some n => return n
  | none =>
    let value := lookup name
    match Integer.ofText? none value with
    | some n => return n
    | none => throw (.noNumber value)

mutual

/-- A number, a variable or a group with the signs before it. Nothing is looked up if the value
is `unused`. -/
def primary (lookup : Octets → Octets) (unused : Bool) : Nat → Eval Int
  | 0 => throw (.expecting "primary")
  | fuel + 1 => do
    let next ← peek
    advance
    match next with
    | some (.number n) => return n
    | some (.name name) => if unused then return 0 else held lookup name
    | some (.symbol ['(']) =>
      let value ← assignment lookup unused fuel
      if ← accept ")" then return value else throw (.expecting "')'")
    | some (.symbol ['+']) => primary lookup unused fuel
    | some (.symbol ['-']) => return Integer.wrap (-(← primary lookup unused fuel))
    | some (.symbol ['!']) => return truth ((← primary lookup unused fuel) == 0)
    | some (.symbol ['~']) => return -(← primary lookup unused fuel) - 1
    | _ => throw (.expecting "primary")

/-- Goes on behind a left operand with the operators that bind less loosely than the limit. -/
def operators (lookup : Octets → Octets) (unused : Bool) : Nat → Nat → Int → Eval Int
  | 0, _, _ => throw (.expecting "primary")
  | fuel + 1, limit, left => do
    match looseness? (← peek) with
    | none => return left
    | some (op, level) =>
      if limit ≤ level then return left
      else
        advance
        let first ← primary lookup unused fuel
        let right ← operators lookup unused fuel level first
        let value ← if unused then pure right else liftM (apply op left right)
        operators lookup unused fuel limit value

def conjunction (lookup : Octets → Octets) (unused : Bool) : Nat → Eval Int
  | 0 => throw (.expecting "primary")
  | fuel + 1 => do
    let first ← primary lookup unused fuel
    let left ← operators lookup unused fuel 8 first
    if ← accept "&&" then
      let right ← conjunction lookup (unused || left == 0) fuel
      return truth (left != 0 && right != 0)
    else return left

def disjunction (lookup : Octets → Octets) (unused : Bool) : Nat → Eval Int
  | 0 => throw (.expecting "primary")
  | fuel + 1 => do
    let left ← conjunction lookup unused fuel
    if ← accept "||" then
      let right ← disjunction lookup (unused || left != 0) fuel
      return truth (left != 0 || right != 0)
    else return left

def choice (lookup : Octets → Octets) (unused : Bool) : Nat → Eval Int
  | 0 => throw (.expecting "primary")
  | fuel + 1 => do
    let test ← disjunction lookup unused fuel
    if ← accept "?" then
      let yes ← assignment lookup (unused || test == 0) fuel
      unless ← accept ":" do throw (.expecting "':'")
      let no ← choice lookup (unused || test != 0) fuel
      return if test != 0 then yes else no
    else return test

def assignment (lookup : Octets → Octets) (unused : Bool) : Nat → Eval Int
  | 0 => throw (.expecting "primary")
  | fuel + 1 => do
    match (← get).rest with
    | .name name :: .symbol symbol :: _ =>
      match assignOperator? symbol with
      | none => choice lookup unused fuel
      | some op =>
        advance
        advance
        let new ← assignment lookup unused fuel
        if unused then return new
        let value ← if op.isEmpty then pure new else liftM (apply op (← held lookup name) new)
        modify fun progress => { progress with made := (name, value) :: progress.made }
        return value
    | _ => choice lookup unused fuel

end

/-- The value of the text of an expression, and the assignments it makes, first one first. -/
def run (lookup : Octets → Octets) (text : Octets) :
    Except Trouble (Int × List (Octets × Int)) := do
  let input := lexemes text.length text
  let (value, progress) ← (assignment lookup false (16 * (input.length + 1))).run { rest := input }
  unless progress.rest.isEmpty do throw (.expecting "EOF")
  return (value, progress.made.reverse)

end BuildRules.Shell.Arithmetic
