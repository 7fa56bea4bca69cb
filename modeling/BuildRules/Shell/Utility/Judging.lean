import BuildRules.Shell.Condition
import BuildRules.Shell.Job

/-! The programs that judge a condition. Their conditions are those of the command of the shell that
has their name, with a few more operators, but they find out in another way what an argument is,
and complain in other words. -/
namespace BuildRules.Shell.Utility
open Work

/-- The arguments of a judgement, and what it is about. -/
structure Case where
  site : Condition.Site
  arguments : List Octets
  /-- Whether a bracket stands behind the arguments. -/
  isBracketed : Bool

/-- A part of a judgement: it begins at the argument that has a number, or ends with a complaint. -/
abbrev Judging := ReaderT Case (StateT Nat (Except Octets))

namespace Judging

def argument? (number : Nat) : Judging (Option Octets) := do return (← read).arguments[number]?

/-- The first argument that is left, or the one that has a number among those left. -/
def ahead (number : Nat) : Judging Octets := do return (← argument? ((← get) + number)).getD []

/-- How many arguments are left. -/
def left : Judging Nat := do return (← read).arguments.length - (← get)

/-- Complains that there are too few arguments. -/
def beyond {α : Type} : Judging α := do
  throw ("missing argument after ".toList ++ cite ((← read).arguments.getLast?.getD []))

/-- Goes on to the next argument. -/
def advance : Judging Unit := modify (· + 1)

/-- Goes on to the next argument, which there has to be. -/
def advanceWithin : Judging Unit := do
  advance
  if (← left) == 0 then beyond

/-- The signs and letters of comparisons of texts. -/
def textOperators : List Octets := ["=", "==", "!="].map String.toList

def isComparing (operator : Octets) : Bool :=
  textOperators.contains operator || (Condition.numbers? operator).isSome ||
    ["-nt", "-ot", "-ef"].any fun name => name.toList == operator

def number (text : Octets) : Judging Int := do
  let reading := Integer.readExact (some 10) text
  if reading.found && reading.rest.all Integer.isSpace then return reading.value
  else throw ("invalid integer ".toList ++ cite text)

/-- A date that counts as older than any other if there is no file. -/
def isNewer (site : Condition.Site) (first second : Octets) : Bool :=
  let date (path : Octets) : Option Time :=
    (site.files.find site.base path).toOption.map Entry.modified
  match date first, date second with
  | some first, some second => second < first
  | some _, none => true
  | none, _ => false

/-- A comparison of the first and the third argument that are left. A length that is asked for by
`-l` stands before the word that it is of. -/
def comparison (isLeftLength : Bool) : Judging Bool := do
  if isLeftLength then advance
  let operator ← ahead 1
  let isRightLength := 4 ≤ (← left) && (← ahead 2) == ['-', 'l']
  let first ← ahead 0
  let second ← ahead (if isRightLength then 3 else 2)
  modify (· + if isRightLength then 4 else 3)
  let value (isLength : Bool) (text : Octets) : Judging Int := do
    if isLength then return (text.length : Int) else number text
  match Condition.numbers? operator with
  | some compare => return compare (← value isLeftLength first) (← value isRightLength second)
  | none =>
    let site := (← read).site
    let files (judged : Bool) : Judging Bool := do
      if isLeftLength || isRightLength then throw (operator ++ " does not accept -l".toList)
      return judged
    match String.ofList operator with
    | "!=" => return first != second
    | "-nt" => files (isNewer site first second)
    | "-ot" => files (isNewer site second first)
    | "-ef" => files ((((Condition.files? site operator).map fun same => same first second)).getD false)
    | _ => return first == second

/-- A question about one operand. -/
def question : Judging Bool := do
  let operator ← ahead 0
  let site := (← read).site
  match operator with
  | ['-', letter] =>
    if !"enrwxNOGfdsScbpLhugktz".toList.contains letter then
      throw (cite operator ++ ": unary operator expected".toList)
    advanceWithin
    let operand ← ahead 0
    advance
    if letter == 't' then
      let _ ← number operand
      return false
    else if letter == 'N' then return false
    else return (Condition.unary? site operator operand).getD false
  | _ => throw (cite operator ++ ": unary operator expected".toList)

def isQuestion (argument : Octets) : Bool := argument.length == 2 && argument.head? == some '-'

/-- Whether a word is not empty. -/
def word : Judging Bool := do
  let text ← ahead 0
  advance
  return !text.isEmpty

def two : Judging Bool := do
  let first ← ahead 0
  if first == ['!'] then
    advance
    return !(← word)
  else if isQuestion first then question
  else beyond

/-- The judgement of three arguments. All arguments are judged in the general way if they are
joined by `-a` or `-o`. -/
def three (general : Judging Bool) : Judging Bool := do
  let first ← ahead 0
  let second ← ahead 1
  if isComparing second then comparison false
  else if first == ['!'] then
    advanceWithin
    return !(← two)
  else if first == ['('] && (← ahead 2) == [')'] then
    advance
    let value ← word
    advance
    return value
  else if second == ['-', 'a'] || second == ['-', 'o'] then general
  else throw (cite second ++ ": binary operator expected".toList)

mutual

/-- The judgement of a number of arguments, as far as it is told by the number. -/
def counted : Nat → Nat → Judging Bool
  | 0, _ => throw "too many arguments".toList
  | fuel + 1, count => do
    let first ← ahead 0
    if count == 1 then word
    else if count == 2 then two
    else if count == 3 then three (either fuel)
    else if count == 4 && first == ['!'] then
      advanceWithin
      return !(← three (either fuel))
    else if count == 4 && first == ['('] && (← ahead 3) == [')'] then
      advance
      let value ← two
      advance
      return value
    else either fuel

/-- Alternatives, joined by `-o`. -/
def either : Nat → Judging Bool
  | 0 => throw "too many arguments".toList
  | fuel + 1 => do
    if (← left) == 0 then beyond
    let first ← both fuel
    if (← left) != 0 && (← ahead 0) == ['-', 'o'] then
      advance
      let second ← either fuel
      return first || second
    else return first

/-- Conditions that all have to hold, joined by `-a`. -/
def both : Nat → Judging Bool
  | 0 => throw "too many arguments".toList
  | fuel + 1 => do
    let first ← term fuel
    if (← left) != 0 && (← ahead 0) == ['-', 'a'] then
      advance
      let second ← both fuel
      return first && second
    else return first

def term : Nat → Judging Bool
  | 0 => throw "too many arguments".toList
  | fuel + 1 => do
    if (← left) == 0 then beyond
    let first ← ahead 0
    if first == ['!'] then
      advanceWithin
      return !(← term fuel)
    else if first == ['('] then
      advanceWithin
      let all ← left
      let rest := (← read).arguments.drop (← get)
      let more := (rest.drop 1).takeWhile (· != [')'])
      let count := if 4 ≤ more.length then all else more.length + 1
      let value ← counted fuel count
      match ← argument? (← get) with
      | some [')'] => advance
      | some other =>
        throw (cite [')'] ++ " expected, found ".toList ++ cite other)
      | none =>
        if (← read).isBracketed then throw (cite [')'] ++ " expected, found ".toList ++ cite [']'])
        else throw (cite [')'] ++ " expected".toList)
      return value
    else
      let all ← left
      if 4 ≤ all && first == ['-', 'l'] && isComparing (← ahead 2) then comparison true
      else if 3 ≤ all && isComparing (← ahead 1) then comparison false
      else if isQuestion first then question
      else word

end

/-- The judgement of all arguments, of which none may be left over. No arguments make a false
one. -/
def all : Judging Bool := do
  let count ← left
  if count == 0 then return false
  let value ← counted (4 * count + 4) count
  match ← argument? (← get) with
  | some extra => throw ("extra argument ".toList ++ cite extra)
  | none => return value

end Judging

def judge (isBracketed : Bool) (arguments : List Octets) : Work Unit := do
  let site ← look fun files base => (⟨files, base⟩ : Condition.Site)
  match ((Judging.all.run ⟨site, arguments, isBracketed⟩).run 0) with
  | .ok (true, _) => pure ()
  | .ok (false, _) => fail 1
  | .error message => complain message 2

/-- Whether a condition holds. -/
def condition : Utility := judge false

def bracket : Utility := fun arguments => do
  if arguments.getLast? == some [']'] then judge true arguments.dropLast
  else complain "missing ']'".toList 2

end BuildRules.Shell.Utility
