import BuildRules.Shell.Integer
import BuildRules.Shell.Regex.Doubts

/-! Scripts of the line editor: which lines a command is for, and what it does with them. -/
namespace BuildRules.Shell.Editor

/-- A regular expression with the way in which it is searched. -/
structure Pattern where
  regex : Regex
  groups : Nat
  ignoresCase : Bool := false
  hasLines : Bool := false

/-- Which lines are meant. -/
inductive Address
  | line (number : Nat)
  /-- A line and every so many behind it. -/
  | every (first step : Nat)
  | last
  /-- Lines with a match; without a pattern the last one used counts. -/
  | matching (pattern : Option Pattern)

/-- Where a range of lines ends. -/
inductive Limit
  | address (address : Address)
  /-- So many lines behind the first. -/
  | count (lines : Nat)
  /-- At the next line whose number is a multiple. -/
  | multiple (factor : Nat)

/-- How letters are changed in what is put in. -/
inductive Casing
  | unchanged
  | upper
  | lower
  /-- Only the next letter. -/
  | nextUpper
  | nextLower
deriving DecidableEq

/-- A part of what is put in for a match. -/
inductive Piece
  | text (text : Octets)
  /-- What a group holds; the match itself has no number. -/
  | group (number : Nat)
  | casing (casing : Casing)

structure Substitution where
  pattern : Option Pattern
  pieces : List Piece
  /-- Whether all matches are replaced, from the first that counts on. -/
  isGlobal : Bool
  /-- Which match is the first that counts. -/
  first : Nat
  prints : Bool
  /-- Where else the line is written to. -/
  target : Option Octets

/-- When a branch is taken. -/
inductive Condition
  | always
  | replaced
  | notReplaced
deriving DecidableEq

inductive Action
  | nothing
  /-- Commands up to a place are for the same lines only. -/
  | block (finish : Nat)
  | print
  | printFirst
  | delete
  | deleteFirst
  | next
  | append
  | get
  | getAppended
  | hold
  | holdAppended
  | exchange
  | clear
  | number
  | name
  | list (width : Option Nat)
  | insertText (text : Octets)
  | appendText (text : Octets)
  | changeText (text : Octets)
  /-- The label that is empty is the end. -/
  | branch (condition : Condition) (label : Octets)
  | quit (silently : Bool) (status : Nat)
  | readFile (path : Octets)
  | readLine (path : Octets)
  | write (firstOnly : Bool) (path : Octets)
  | substitute (substitution : Substitution)
  | map (pairs : List (Char × Char))

structure Instruction where
  first : Option Address := none
  limit : Option Limit := none
  isNegated : Bool := false
  action : Action

structure Script where
  instructions : Array Instruction := #[]
  /-- Where the labels stand. -/
  labels : List (Octets × Nat) := []
  /-- Files that are written to. -/
  targets : List Octets := []
  /-- Whether lines are only shown where the script says so. -/
  isQuiet : Bool := false

/-! Characters that are written by their name or their number. -/

/-- The digits of a number in a base at the start of a text, at most so many, and what follows. -/
def digitsOf (base most : Nat) (text : Octets) : Octets × Octets :=
  let digits := (text.take most).takeWhile fun c => Integer.digitValue c < base
  (digits, text.drop digits.length)

/-- The character that is named behind a backslash, and what follows the name. -/
def named? (text : Octets) : Option (Char × Octets) :=
  let numbered (base most : Nat) (rest : Octets) : Option (Char × Octets) :=
    let (digits, after) := digitsOf base most rest
    if digits.isEmpty then none
    else some (Char.ofNat (Integer.ofDigits base digits % 256), after)
  match text with
  | 'a' :: rest => some ('\x07', rest)
  | 'f' :: rest => some ('\x0c', rest)
  | 'n' :: rest => some ('\n', rest)
  | 'r' :: rest => some ('\r', rest)
  | 't' :: rest => some ('\t', rest)
  | 'v' :: rest => some ('\x0b', rest)
  | 'c' :: c :: rest => some (Char.ofNat (c.toUpper.toNat ^^^ 64), rest)
  | 'd' :: rest => numbered 10 3 rest
  | 'o' :: rest => numbered 8 3 rest
  | 'x' :: rest => numbered 16 2 rest
  | _ => none

/-- A text without its backslashes. The number bounds the work. -/
def plainText : Nat → Octets → Octets
  | 0, text => text
  | _, [] => []
  | fuel + 1, '\\' :: rest =>
    match named? rest with
    | some (c, after) => c :: plainText fuel after
    | none =>
      match rest with
      | [] => []
      | c :: rest => c :: plainText fuel rest
  | fuel + 1, c :: rest => c :: plainText fuel rest

/-- A regular expression with named characters put in. The number bounds the work. -/
def regexText : Nat → Octets → Octets
  | 0, text => text
  | _, [] => []
  | fuel + 1, '\\' :: rest =>
    match named? rest with
    | some (c, after) => c :: regexText fuel after
    | none =>
      match rest with
      | [] => ['\\']
      | c :: rest => '\\' :: c :: regexText fuel rest
  | fuel + 1, c :: rest => c :: regexText fuel rest

/-- The parts of what is put in for a match. The number bounds the work. -/
def piecesOf (seen : Octets) : Nat → Octets → List Piece
  | 0, _ | _, [] => [.text seen.reverse]
  | fuel + 1, '&' :: rest => .text seen.reverse :: .group 0 :: piecesOf [] fuel rest
  | fuel + 1, '\\' :: rest =>
    let change (casing : Casing) (rest : Octets) : List Piece :=
      .text seen.reverse :: .casing casing :: piecesOf [] fuel rest
    match rest with
    | [] => [.text ('\\' :: seen).reverse]
    | 'U' :: rest => change .upper rest
    | 'L' :: rest => change .lower rest
    | 'E' :: rest => change .unchanged rest
    | 'u' :: rest => change .nextUpper rest
    | 'l' :: rest => change .nextLower rest
    | c :: after =>
      if c.isDigit then .text seen.reverse :: .group (c.toNat - 48) :: piecesOf [] fuel after
      else match named? rest with
        | some (d, after) => piecesOf (d :: seen) fuel after
        | none => piecesOf (c :: seen) fuel after
  | fuel + 1, c :: rest => piecesOf (c :: seen) fuel rest

/-- The greatest group that is put in. -/
def greatestGroup (pieces : List Piece) : Nat :=
  pieces.foldl (fun n piece => match piece with
    | .group m => max n m
    | _ => n) 0

end BuildRules.Shell.Editor
