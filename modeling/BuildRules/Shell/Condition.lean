import BuildRules.FileTree
import BuildRules.Shell.Integer

/-! The conditions of `test` and `[`: comparisons of texts and numbers, and questions about
files. -/
namespace BuildRules.Shell.Condition

/-- The files, and the directory from which paths are taken. -/
structure Site where
  files : FileTree
  base : Location

abbrev Result := Except Octets Bool

/-- Whether a file can be run by somebody who may do everything else. -/
def isRunnable (entry : Entry) : Bool := entry.node.isDirectory || entry.mode &&& 0o111 != 0

/-- The questions that can be asked about one operand, by their letter. -/
def unary? (site : Site) (operator operand : Octets) : Option Bool :=
  let entry := (site.files.find site.base operand).toOption
  let own := (site.files.findEntry site.base false operand).toOption
  let node := entry.map Entry.node
  match operator with
  | ['-', letter] =>
    match letter with
    | 'n' => some !operand.isEmpty
    | 'z' => some operand.isEmpty
    | 'e' | 'r' | 'w' | 'O' | 'G' => some entry.isSome
    | 'f' => some (node.any Node.isFile)
    | 'd' => some (node.any Node.isDirectory)
    | 's' => some (node.any fun node => node.isDirectory || 0 < node.size)
    | 'x' => some (entry.any isRunnable)
    | 'h' | 'L' => some ((own.map Entry.node).any Node.isLink)
    | 'c' => some (node.any fun node => match node with
      | .device (.descriptor _) => false
      | .device _ => true
      | _ => false)
    | 'k' => some (entry.any fun entry => entry.mode &&& 0o1000 != 0)
    | 'g' => some (entry.any fun entry => entry.mode &&& 0o2000 != 0)
    | 'u' => some (entry.any fun entry => entry.mode &&& 0o4000 != 0)
    | 'b' | 'p' | 'S' | 't' => some false
    | _ => none
  | _ => none

/-- The comparisons of texts. -/
def texts? (operator : Octets) : Option (Octets → Octets → Bool) :=
  match String.ofList operator with
  | "=" => some (· == ·)
  | "!=" => some (· != ·)
  | "<" => some (· < ·)
  | ">" => some (· > ·)
  | _ => none

/-- The comparisons of numbers. -/
def numbers? (operator : Octets) : Option (Int → Int → Bool) :=
  match String.ofList operator with
  | "-eq" => some (· == ·)
  | "-ne" => some (· != ·)
  | "-lt" => some (· < ·)
  | "-le" => some (· ≤ ·)
  | "-gt" => some (· > ·)
  | "-ge" => some (· ≥ ·)
  | _ => none

/-- The comparisons of files: of their dates, and whether they are one file. -/
def files? (site : Site) (operator : Octets) : Option (Octets → Octets → Bool) :=
  let date (path : Octets) : Option Time := (site.files.find site.base path).toOption.map Entry.modified
  let number (path : Octets) : Option Nat :=
    (site.files.resolve site.base true path).toOption.bind fun place =>
      site.files.number? place.location
  let compare (holds : Time → Time → Bool) (a b : Octets) : Bool :=
    match date a, date b with
    | some s, some t => holds s t
    | _, _ => false
  match String.ofList operator with
  | "-nt" => some (compare (· > ·))
  | "-ot" => some (compare (· < ·))
  | "-ef" => some fun a b => (number a).isSome && number a == number b
  | _ => none

def number (text : Octets) : Except Octets Int :=
  match Integer.ofText? (some 10) text with
  | some n => .ok n
  | none => .error ("Illegal number: ".toList ++ text)

/-- The result of an operator between two operands. -/
def binary? (site : Site) (operator : Octets) : Option (Octets → Octets → Result) :=
  match texts? operator, numbers? operator, files? site operator with
  | some compare, _, _ => some fun a b => .ok (compare a b)
  | _, some compare, _ => some fun a b => do return compare (← number a) (← number b)
  | _, _, some compare => some fun a b => .ok (compare a b)
  | _, _, _ => none

def isUnary (operator : Octets) : Bool :=
  match operator with
  | ['-', letter] => "nzerwOGfdsxhLckgubpSt".toList.contains letter
  | _ => false

def isBinary (operator : Octets) : Bool :=
  (texts? operator).isSome || (numbers? operator).isSome ||
    ["-nt", "-ot", "-ef"].any fun name => name.toList == operator

/-- What an argument is in its place. -/
inductive Role
  | finish
  | open
  | close
  | not
  | and
  | or
  | unary
  | binary
  | operand
deriving DecidableEq

/-- The role of the first argument. An operator that asks about one operand is an operand itself
if it is the last argument, or if an operator that compares stands behind it. -/
def role : List Octets → Role
  | [] => .finish
  | first :: rest =>
    if first == ['('] then if rest.isEmpty then .operand else .open
    else if first == [')'] then .close
    else if first == ['!'] then .not
    else if first == ['-', 'a'] then .and
    else if first == ['-', 'o'] then .or
    else if isBinary first then .binary
    else if isUnary first then
      match rest with
      | [] => .operand
      | [_] => .unary
      | next :: _ => if isBinary next then .operand else .unary
    else .operand

abbrev Parse := Except Octets (Bool × List Octets)

mutual

/-- Alternatives, joined by `-o`. The first argument is taken as an operand if `asOperand`. -/
def either (site : Site) (asOperand : Bool) : Nat → List Octets → Parse
  | 0, _ => .error "too many arguments".toList
  | fuel + 1, input => do
    let (first, rest) ← both site asOperand fuel input
    if role rest = .or then
      let (second, rest) ← either site false fuel (rest.drop 1)
      return (first || second, rest)
    else return (first, rest)

/-- Conditions that all have to hold, joined by `-a`. -/
def both (site : Site) (asOperand : Bool) : Nat → List Octets → Parse
  | 0, _ => .error "too many arguments".toList
  | fuel + 1, input => do
    let (first, rest) ← primary site asOperand fuel input
    if role rest = .and then
      let (second, rest) ← both site false fuel (rest.drop 1)
      return (first && second, rest)
    else return (first, rest)

def primary (site : Site) (asOperand : Bool) : Nat → List Octets → Parse
  | 0, _ => .error "too many arguments".toList
  | fuel + 1, input => do
    match if asOperand then .operand else role input, input with
    | _, [] => return (false, [])
    | .not, _ :: rest =>
      let (value, rest) ← primary site false fuel rest
      return (!value, rest)
    | .open, _ :: rest =>
      if role rest = .close then return (false, rest.drop 1)
      else
        let (value, rest) ← either site false fuel rest
        if role rest = .close then return (value, rest.drop 1)
        else .error "closing paren expected".toList
    | .unary, operator :: operand :: rest =>
      if operator == ['-', 't'] then
        let _ ← number operand
      return ((unary? site operator operand).getD false, rest)
    | _, first :: rest =>
      match rest with
      | operator :: others =>
        match if role rest = .binary then binary? site operator else none with
        | some apply =>
          match others with
          | second :: rest => return (← apply first second, rest)
          | [] => .error (operator ++ ": argument expected".toList)
        | none => return (!first.isEmpty, rest)
      | [] => return (!first.isEmpty, [])

end

/-- A condition of which all arguments have to be used. A complaint names the last one used. -/
def whole (site : Site) (asOperand : Bool) (arguments : List Octets) : Result := do
  let (value, rest) ← either site asOperand (4 * arguments.length + 4) arguments
  if rest.isEmpty then return value
  else
    let used := arguments.take (arguments.length - rest.length)
    let last := used.getLast?.getD []
    if last.isEmpty then .error "unexpected operator".toList
    else .error (last ++ ": unexpected operator".toList)

/-- The value of a condition of at most two arguments, or of one whose form is not told by the
count of its arguments. No arguments make a false one. -/
def plain (site : Site) (arguments : List Octets) : Result :=
  if arguments.isEmpty then .ok false else whole site false arguments

/-- The value of a condition of at most three arguments. -/
def three (site : Site) (arguments : List Octets) : Result :=
  match arguments with
  | [a, operator, b] =>
    if isBinary operator then whole site true arguments
    else if a == ['('] && b == [')'] then plain site [operator]
    else if a == ['!'] then do return !(← plain site [operator, b])
    else plain site arguments
  | _ => plain site arguments

/-- The value of a condition. Three and four arguments have a meaning told by their count. -/
def eval (site : Site) (arguments : List Octets) : Result :=
  match arguments with
  | [a, b, c, d] =>
    if a == ['('] && d == [')'] then plain site [b, c]
    else if a == ['!'] then do return !(← three site [b, c, d])
    else plain site arguments
  | _ => three site arguments

end BuildRules.Shell.Condition
