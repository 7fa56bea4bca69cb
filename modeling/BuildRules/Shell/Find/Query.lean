import BuildRules.FileTree
import BuildRules.Shell.Format
import BuildRules.Shell.Regex.Basic

/-! What files are looked for and what is done with them: tests and actions, put together by
operators. -/
namespace BuildRules.Shell.Find

/-- A number, with the order in which another one has to stand to it. -/
structure Amount where
  order : Ordering
  value : Nat
deriving DecidableEq, Repr

def Amount.holds (amount : Amount) (n : Nat) : Bool := compare n amount.value == amount.order

/-- The amount that a text stands for: a sign asks for more or for less. -/
def Amount.read? (text : Octets) : Option Amount :=
  let (order, digits) : Ordering × Octets := match text with
    | '+' :: rest => (.gt, rest)
    | '-' :: rest => (.lt, rest)
    | _ => (.eq, text)
  if digits.isEmpty || !digits.all Char.isDigit then none
  else some ⟨order, digits.foldl (fun n c => n * 10 + (c.toNat - '0'.toNat)) 0⟩

/-- How permissions compare with given ones. -/
inductive Comparison
  | equal
  | allOf
  | someOf
deriving DecidableEq, Repr

/-- A text that a pattern is compared with. -/
inductive Subject
  | name
  | path
  | target
deriving DecidableEq, Repr

inductive Test
  | constant (outcome : Bool)
  | pattern (subject : Subject) (ignoresCase : Bool) (pattern : Octets)
  | expression (ignoresCase : Bool) (regex : Regex)
  /-- The letter of the kind of file; links may be followed for once. -/
  | kind (other : Bool) (letters : Octets)
  | isEmpty
  /-- How many units the size takes. -/
  | size (unit : Nat) (amount : Amount)
  | newerThan (time : Time)
  /-- How many units ago it was changed; units that have begun count if they are rounded up. -/
  | age (unit : Nat) (roundsUp : Bool) (amount : Amount)
  | links (amount : Amount)
  | number (amount : Amount)
  | owner (amount : Amount)
  /-- Permissions, as they are asked for of files and of directories. -/
  | mode (comparison : Comparison) (ofFile ofDirectory : Nat)
  | isRunnable
  | same (number : Nat)

/-- A part of a format. -/
inductive Piece
  | text (text : Octets)
  | fact (directive : Format.Directive) (letter : Char) (detail : Char)

inductive Action
  /-- Writes the path, to a file if one is given. -/
  | print (target : Option Octets) (finish : Char)
  | format (target : Option Octets) (pieces : List Piece)
  | delete
  | prune
  | quit
  /-- Runs a command, perhaps where the file is, and perhaps only if somebody agrees. -/
  | run (isLocal asks : Bool) (words : List Octets)
  /-- Runs a command once for many files. Actions of this kind are numbered. -/
  | gather (number : Nat) (isLocal : Bool) (words : List Octets)

inductive Query
  | test (test : Test)
  | act (action : Action)
  | negation (query : Query)
  | both (first second : Query)
  | either (first second : Query)
  | sequence (first second : Query)

/-- Which links are followed. -/
inductive Follow
  | none
  | given
  | all
deriving DecidableEq, Repr

structure Settings where
  follow : Follow := .none
  least : Nat := 0
  most : Option Nat := none
  /-- Whether directories come after what is in them. -/
  isDeep : Bool := false
  hasDepthOption : Bool := false

/-- A whole search: where it starts, and what is looked for. -/
structure Quest where
  starts : List Octets
  settings : Settings
  query : Query
  /-- Files that are made before the search starts. -/
  made : List Octets
  warnings : List Octets

example : Amount.read? "+12".toList = some ⟨.gt, 12⟩ := by decide

end BuildRules.Shell.Find
