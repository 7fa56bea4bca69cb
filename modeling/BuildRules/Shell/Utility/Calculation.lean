import BuildRules.Shell.Job
import BuildRules.Shell.Regex.Reader

/-!
The utility that works out an expression whose words are its arguments. An expression is worked out
while it is read, so of two things that are wrong the first one is told. What an `&` or a `|` makes
needless is read, but not worked out.
-/
namespace BuildRules.Shell.Calculation

inductive Value
  | number (n : Int)
  | text (content : Octets)

namespace Value

def shown : Value → Octets
  | number n => Text.ofInt n
  | text content => content

/-- The integer that a text is, if it is one, with a minus sign or without. -/
def integer? (content : Octets) : Option Int :=
  match content with
  | '-' :: digits => (Integer.decimal? digits).map fun n => -(n : Int)
  | digits => (Integer.decimal? digits).map fun n => (n : Int)

def integer (value : Value) : Except Octets Int :=
  match value with
  | number n => .ok n
  | text content =>
    match integer? content with
    | some n => .ok n
    | none => .error "non-integer argument".toList

/-- Whether a value stands for nothing: a zero or an empty text. -/
def isNull (value : Value) : Bool := value.shown.isEmpty || integer? value.shown == some 0

end Value

/-- The words still to be read, and the one read last. -/
structure Words where
  last : Octets := []
  rest : List Octets

abbrev Reader := StateT Words (Except Octets)

/-- The next word, which has to be there. -/
def next : Reader Octets := do
  let words ← get
  match words.rest with
  | word :: rest =>
    set ({ last := word, rest := rest } : Words)
    return word
  | [] => throw ("syntax error: missing argument after ".toList ++ Work.cite words.last)

/-- The next word if it is one of some. -/
def oneOf? (signs : List String) : Reader (Option String) := do
  match (← get).rest with
  | word :: rest =>
    match signs.find? fun sign => sign.toList == word with
    | some sign =>
      set ({ last := word, rest := rest } : Words)
      return some sign
    | none => return none
  | [] => return none

/-! Operations. -/

/-- What an expression matches at the start of a text: what its first group holds, or how long the
match is. -/
def matched (left right : Value) : Except Octets Value :=
  match Regex.read {} right.shown with
  | .error flaw => .error flaw.message
  | .ok (regex, groups) =>
    let subject : Regex.Subject := { text := left.shown.toArray }
    match Regex.longestAt? regex subject (fun _ _ => true) 0 with
    | some found => .ok (if groups == 0 then .number found.finish else .text (found.text subject 1))
    | none => .ok (if groups == 0 then .number 0 else .text [])

/-- Compares two values as numbers if both are, and otherwise as texts. -/
def compared (left right : Value) : Ordering :=
  match Value.integer? left.shown, Value.integer? right.shown with
  | some a, some b => compare a b
  | _, _ => compare left.shown right.shown

/-- What an operator makes of two values. -/
def apply (operator : String) (left right : Value) : Except Octets Value := do
  let truth (holds : Bool) : Value := .number (if holds then 1 else 0)
  match operator with
  | ":" => matched left right
  | "<" => return truth (compared left right == .lt)
  | "<=" => return truth (compared left right != .gt)
  | "=" | "==" => return truth (compared left right == .eq)
  | "!=" => return truth (compared left right != .eq)
  | ">=" => return truth (compared left right != .lt)
  | ">" => return truth (compared left right == .gt)
  | _ =>
    let a ← left.integer
    let b ← right.integer
    match operator with
    | "+" => return .number (a + b)
    | "-" => return .number (a - b)
    | "*" => return .number (a * b)
    | _ =>
      if b == 0 then throw "division by zero".toList
      else return .number (if operator == "/" then a.tdiv b else a.tmod b)

/-- The part of a text from a place, counted from one, with so many characters. -/
def part (content : Octets) (place count : Int) : Octets :=
  if place ≤ 0 then [] else (content.drop (place.toNat - 1)).take count.toNat

/-! Reading. -/

/-- Operands with operators of one rank between them, worked out from the left. The number bounds the
work. -/
def chain (operators : List String) (operand : Reader Value) (isUsed : Bool) :
    Nat → Value → Reader Value
  | 0, left => return left
  | fuel + 1, left => do
    match ← oneOf? operators with
    | none => return left
    | some operator =>
      let right ← operand
      if isUsed then chain operators operand isUsed fuel (← apply operator left right)
      else chain operators operand isUsed fuel left

/-- Operands of which the first one that decides is the value. `isDecided` tells whether the value so
far decides, and `choose` which of two values is kept. -/
def firstDecisive (sign : String) (isDecided : Value → Bool) (choose : Value → Value → Value)
    (operand : Bool → Reader Value) (isUsed : Bool) : Nat → Value → Reader Value
  | 0, left => return left
  | fuel + 1, left => do
    match ← oneOf? [sign] with
    | none => return left
    | some _ =>
      let right ← operand (isUsed && !isDecided left)
      firstDecisive sign isDecided choose operand isUsed fuel (choose left right)

/-- A word that stands for itself or names an operation on what follows, or an expression between
parentheses. The number bounds the work. -/
def simple (inner : Bool → Reader Value) (isUsed : Bool) : Nat → Reader Value
  | 0 => throw "syntax error".toList
  | fuel + 1 => do
    let operand := simple inner isUsed fuel
    match ← oneOf? ["+", "length", "match", "index", "substr", "(", ")"] with
    | none => return .text (← next)
    | some "+" => return .text (← next)
    | some "length" => return .number (← operand).shown.length
    | some "match" => do
      let left ← operand
      let right ← operand
      if isUsed then return ← matched left right else return left
    | some "index" => do
      let content := (← operand).shown
      let wanted := (← operand).shown
      return .number (match content.findIdx? wanted.contains with
        | some n => n + 1
        | none => 0)
    | some "substr" => do
      let content := (← operand).shown
      let place := (← operand).integer
      let count := (← operand).integer
      match place, count with
      | .ok place, .ok count => return .text (part content place count)
      | _, _ => return .text []
    | some "(" => do
      let value ← inner isUsed
      match (← get).rest with
      | [] => throw ("syntax error: expecting ')' after ".toList ++ Work.cite (← get).last)
      | word :: _ =>
        if word != [')'] then throw ("syntax error: expecting ')' instead of ".toList ++ Work.cite word)
        let _ ← next
        return value
    | some _ => throw "syntax error: unexpected ')'".toList

/-- A whole expression. The number bounds how deep parentheses stand in each other. -/
def expression : Nat → Bool → Reader Value
  | 0, _ => throw "syntax error".toList
  | fuel + 1, isUsed => do
    let size := (← get).rest.length + 1
    let ranked (operators : List String) (operand : Bool → Reader Value) (isUsed : Bool) :
        Reader Value := do
      chain operators (operand isUsed) isUsed size (← operand isUsed)
    let matching := ranked [":"] fun isUsed => simple (expression fuel) isUsed size
    let product := ranked ["*", "/", "%"] matching
    let sum := ranked ["+", "-"] product
    let comparison := ranked ["<", "<=", "=", "==", "!=", ">=", ">"] sum
    let both (isUsed : Bool) : Reader Value := do
      firstDecisive "&" Value.isNull
        (fun left right => if left.isNull || right.isNull then .number 0 else left)
        comparison isUsed size (← comparison isUsed)
    firstDecisive "|" (fun left => !left.isNull)
      (fun left right => if !left.isNull then left else if right.isNull then .number 0 else right)
      both isUsed size (← both isUsed)

/-- The value of all words. -/
def value (words : List Octets) : Except Octets Value := do
  let (value, words) ← (expression (words.length + 1) true).run { rest := words }
  match words.rest with
  | [] => return value
  | word :: _ => throw ("syntax error: unexpected argument ".toList ++ Work.cite word)

end BuildRules.Shell.Calculation

namespace BuildRules.Shell.Utility
open Work

def calculate : Utility := fun arguments => do
  let words := if arguments.head? == some ['-', '-'] then arguments.drop 1 else arguments
  if words.isEmpty then misuse "missing operand".toList 2
  else match Calculation.value words with
  | .error message => complain message 2
  | .ok value =>
    printLine value.shown
    if value.isNull then fail 1

end BuildRules.Shell.Utility
