import BuildRules.Shell.Amount
import BuildRules.Shell.Utility.Lines

/-! The utility that tells where two files first differ, or everywhere that they do. -/
namespace BuildRules.Shell.Utility
open Work

/-- A complaint about the arguments; the hint stands under the name of the utility, too. -/
def namedMisuse (message : Octets) : Work Unit := do
  complain message 2
  let name := (← get).name
  complain ("Try '".toList ++ name ++ " --help' for more information.".toList) 2

/-- A byte as it is shown to people: signs for what cannot be printed. -/
def visibleByte (c : Char) : Octets :=
  let n := c.toNat
  let low := n % 128
  (if n < 128 then [] else "M-".toList) ++
    if low < 32 then ['^', Char.ofNat (low + 64)] else if low == 127 then ['^', '?'] else [Char.ofNat low]

/-- A byte in octal digits that are no fewer than three places wide. -/
def octalColumn (c : Char) : Octets := padLeft 3 (Nat.toDigits 8 c.toNat)

/-- A place at which two texts differ: how many bytes and how many ends of lines stand before it, and
the bytes there. -/
structure Difference where
  place : Nat
  lines : Nat
  left : Char
  right : Char

/-- The places at which two texts differ, and what has been counted where the shorter one ends. -/
def differences (left right : Octets) : List Difference × Nat × Nat :=
  let step := fun ((found, place, lines) : List Difference × Nat × Nat) (pair : Char × Char) =>
    let found := if pair.1 == pair.2 then found else ⟨place, lines, pair.1, pair.2⟩ :: found
    (found, place + 1, if pair.1 == '\n' then lines + 1 else lines)
  let (found, place, lines) := (left.zip right).foldl step ([], 0, 0)
  (found.reverse, place, lines)

/-- What is shown of files that are compared. -/
structure Comparison where
  isSilent : Bool
  isFull : Bool
  showsBytes : Bool

namespace Comparison

/-- What is shown of one byte in both files. -/
def bytes (comparison : Comparison) (c : Char) : Octets :=
  octalColumn c ++ if comparison.showsBytes then ' ' :: visibleByte c else []

/-- Shows where two files differ. Names stand for the files, and widths are taken from their sizes. -/
def report (comparison : Comparison) (names : Octets × Octets) (texts : Octets × Octets) : Work Unit := do
  let (found, place, lines) := differences texts.1 texts.2
  let differs := texts.1 != texts.2
  if differs then fail 1
  if comparison.isSilent then return
  if comparison.isFull then
    let width := (Text.ofNat place).length
    for difference in found do
      let left := if comparison.showsBytes then padRight 8 (comparison.bytes difference.left)
        else comparison.bytes difference.left
      printLine (padLeft width (Text.ofNat (difference.place + 1)) ++ ' ' :: left ++ ' ' ::
        comparison.bytes difference.right)
  match found.head?, texts.1.length == texts.2.length with
  | some first, _ =>
    if comparison.isFull then tellEnd names texts place lines
    else
      let unit := if comparison.showsBytes then "byte" else "char"
      let detail : Octets := if !comparison.showsBytes then []
        else " is ".toList ++ comparison.bytes first.left ++ ' ' :: comparison.bytes first.right
      printLine (names.1 ++ ' ' :: names.2 ++ " differ: ".toList ++ unit.toList ++ ' ' ::
        Text.ofNat (first.place + 1) ++ ", line ".toList ++ Text.ofNat (first.lines + 1) ++ detail)
  | none, true => pure ()
  | none, false => tellEnd names texts place lines
where
  tellEnd (names texts : Octets × Octets) (place lines : Nat) : Work Unit := do
    if texts.1.length != texts.2.length then
      let isLeft := texts.1.length < texts.2.length
      let name := if isLeft then names.1 else names.2
      let short := if isLeft then texts.1 else texts.2
      let after : Octets := if place == 0 then " which is empty".toList
        else " after byte ".toList ++ Text.ofNat place ++
          if comparison.isFull then []
          else if short.getLast? == some '\n' then ", line ".toList ++ Text.ofNat lines
          else ", in line ".toList ++ Text.ofNat (lines + 1)
      note ((← get).name ++ ": EOF on ".toList ++ name ++ after ++ ['\n'])

end Comparison

/-- The letters behind sizes that are skipped or compared. -/
def skipLetters : Octets := "kKMGTPEZY".toList

/-- How many bytes are skipped at the start of two files. -/
def skips? (text : Octets) : Option (Nat × Nat) :=
  let parts := (Text.pieces ':' text).map fun part =>
    (Amount.read skipLetters 0x7FFFFFFFFFFFFFFF part).toOption
  match parts with
  | [some n] => some (n, n)
  | [some n, some m] => some (n, m)
  | _ => none

def compareBytes : Utility := fun arguments => do
  let rules : List OptionRule :=
    [⟨'b', "print-bytes", .none⟩, ⟨'c', "print-chars", .none⟩, ⟨'i', "ignore-initial", .one⟩,
      ⟨'l', "verbose", .none⟩, ⟨'n', "bytes", .one⟩, ⟨'s', "quiet", .none⟩, ⟨'s', "silent", .none⟩]
  match Arguments.read rules true (arguments.length + 1) arguments with
  | .error message => namedMisuse message
  | .ok found =>
    let badSkip := (found.values 'i').find? fun text => (skips? text).isNone
    let limit := (found.value? 'n').map fun text =>
      (text, (Amount.read skipLetters 0xFFFFFFFFFFFFFFFF text).toOption)
    match badSkip, limit, found.operands with
    | some text, _, _ => namedMisuse ("invalid --ignore-initial value '".toList ++ text ++ ['\''])
    | none, some (text, none), _ => namedMisuse ("invalid --bytes value '".toList ++ text ++ ['\''])
    | none, _, [] =>
      namedMisuse ("missing operand after '".toList ++ (arguments.getLast?.getD (← get).name) ++ ['\''])
    | none, _, _ :: _ :: _ :: _ :: extra :: _ =>
      namedMisuse ("extra operand '".toList ++ extra ++ ['\''])
    | none, limit, first :: rest =>
      if found.has 's' && found.has 'l' then
        namedMisuse "options -l and -s are incompatible".toList
        return
      let given := rest.drop 1
      match given.find? fun text => (skips? text).isNone with
      | some text => namedMisuse ("invalid --ignore-initial value '".toList ++ text ++ ['\''])
      | none =>
        let second := rest.headD ['-']
        let fromOption := ((found.value? 'i').bind skips?).getD (0, 0)
        let skip (n : Nat) (usual : Nat) : Nat :=
          match (given[n]?).bind skips? with
          | some skipped => skipped.1
          | none => usual
        let comparison : Comparison :=
          ⟨found.has 's', found.has 'l', found.has 'b' || found.has 'c'⟩
        let told (path : Octets) (fault : Fault) : Work Unit := do
          if comparison.isSilent then fail 2
          else complain (path ++ ": ".toList ++ fault.reason) 2
        let sameFile ← if first == ['-'] || second == ['-'] then pure (first == second)
          else do
            let a ← number? true first
            pure (a.isSome && a == (← number? true second))
        let access (path : Octets) : Work (Option Fault) := do
          if path == ['-'] then return none
          match ← entry true path with
          | .ok _ => return none
          | .error fault => return some fault
        match ← access first, ← access second with
        | some fault, _ => told first fault
        | none, some fault => told second fault
        | none, none =>
          if sameFile && skip 0 fromOption.1 == skip 1 fromOption.2 then return
          match ← source first with
          | .error fault => told first fault
          | .ok left =>
            match ← source second with
            | .error fault => told second fault
            | .ok right =>
              let cut (text : Octets) (skipped : Nat) : Octets :=
                let rest := text.drop skipped
                match limit.bind Prod.snd with
                | some n => rest.take n
                | none => rest
              comparison.report (first, second)
                (cut left (skip 0 fromOption.1), cut right (skip 1 fromOption.2))

end BuildRules.Shell.Utility
