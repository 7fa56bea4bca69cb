import BuildRules.Shell.Diff.Change
import BuildRules.Shell.Pattern

/-! How changes are written down: line by line, in pieces with lines around them, or as commands of an
editor. -/
namespace BuildRules.Shell.Diff

/-- A way of writing changes down. Some show a number of lines around changes. -/
inductive Layout
  | normal
  | unified (context : Nat)
  | contextual (context : Nat)
  | commands
  | counted
deriving DecidableEq

def Layout.context : Layout → Nat
  | normal | commands | counted => 0
  | unified context | contextual context => context

/-- Two texts with the changes between them. Lines end with line feeds, except for a last line that
has none. -/
structure Comparison where
  left : Array Octets
  right : Array Octets
  changes : List Change

namespace Comparison

/-- A line behind a mark. A line without an end is followed by a remark. -/
def marked (mark : String) (line : Octets) : Octets :=
  mark.toList ++ line ++
    if line.getLast? == some '\n' then [] else "\n\\ No newline at end of file\n".toList

/-- Lines of a text behind a mark. -/
def lines (mark : String) (text : Array Octets) (start count : Nat) : Octets :=
  ((text.extract start (start + count)).toList.map (marked mark)).flatten

/-- A range of lines as numbers. An empty range is the number of the line before it. -/
def range (start count : Nat) : Octets :=
  if count ≤ 1 then Text.ofNat (start + count)
  else Text.ofNat (start + 1) ++ ',' :: Text.ofNat (start + count)

/-- A change in the normal form. -/
def normalChange (comparison : Comparison) (change : Change) : Octets :=
  let letter := if change.inserted == 0 then 'd' else if change.deleted == 0 then 'a' else 'c'
  range change.left change.deleted ++ letter :: range change.right change.inserted ++ '\n' ::
    lines "< " comparison.left change.left change.deleted ++
    (if letter == 'c' then "---\n".toList else []) ++
    lines "> " comparison.right change.right change.inserted

/-- Puts changes together that have few lines between them. -/
def groups (context : Nat) (changes : List Change) : List (List Change) :=
  changes.foldr (fun change groups => match groups with
    | (next :: more) :: rest =>
      if next.left - (change.left + change.deleted) ≤ 2 * context then
        (change :: next :: more) :: rest
      else [change] :: groups
    | _ => [change] :: groups) []

/-- A piece of two texts: changes with lines around them. -/
structure Piece where
  changes : List Change
  left : Nat
  leftCount : Nat
  right : Nat
  rightCount : Nat

def piece (comparison : Comparison) (context : Nat) (changes : List Change) : Piece :=
  let first := changes.headD ⟨0, 0, 0, 0⟩
  let last := changes.getLastD first
  let left := first.left - context
  let right := first.right - context
  ⟨changes, left, min comparison.left.size (last.left + last.deleted + context) - left,
    right, min comparison.right.size (last.right + last.inserted + context) - right⟩

def unifiedRange (start count : Nat) : Octets :=
  if count == 0 then Text.ofNat start ++ ",0".toList
  else if count == 1 then Text.ofNat (start + 1)
  else Text.ofNat (start + 1) ++ ',' :: Text.ofNat count

def unifiedPiece (comparison : Comparison) (piece : Piece) : Octets :=
  let (body, place) := piece.changes.foldl (fun ((body, place) : List Octets × Nat) change =>
    (lines "+" comparison.right change.right change.inserted ::
      lines "-" comparison.left change.left change.deleted ::
      lines " " comparison.left place (change.left - place) :: body,
      change.left + change.deleted)) ([], piece.left)
  "@@ -".toList ++ unifiedRange piece.left piece.leftCount ++ " +".toList ++
    unifiedRange piece.right piece.rightCount ++ " @@\n".toList ++ body.reverse.flatten ++
    lines " " comparison.left place (piece.left + piece.leftCount - place)

/-- One side of a piece. Lines of changes that take away and add are marked alike on both sides. -/
def side (text : Array Octets) (start count : Nat) (changes : List (Nat × Nat × String)) : Octets :=
  let (body, place) := changes.foldl (fun ((body, place) : List Octets × Nat) (first, size, mark) =>
    (lines mark text first size :: lines "  " text place (first - place) :: body, first + size))
    ([], start)
  body.reverse.flatten ++ lines "  " text place (start + count - place)

def contextualPiece (comparison : Comparison) (piece : Piece) : Octets :=
  let mark (change : Change) (alone : String) : String :=
    if change.deleted != 0 && change.inserted != 0 then "! " else alone
  let old := piece.changes.map fun change => (change.left, change.deleted, mark change "- ")
  let new := piece.changes.map fun change => (change.right, change.inserted, mark change "+ ")
  let range (start count : Nat) : Octets :=
    if count ≤ 1 then Text.ofNat (start + count)
    else Text.ofNat (start + 1) ++ ',' :: Text.ofNat (start + count)
  "***************\n*** ".toList ++ range piece.left piece.leftCount ++ " ****\n".toList ++
    (if piece.changes.any fun change => change.deleted != 0 then
      side comparison.left piece.left piece.leftCount old else []) ++
    "--- ".toList ++ range piece.right piece.rightCount ++ " ----\n".toList ++
    (if piece.changes.any fun change => change.inserted != 0 then
      side comparison.right piece.right piece.rightCount new else [])

/-- A change as a command of an editor. -/
def command (comparison : Comparison) (change : Change) : Octets :=
  let letter := if change.inserted == 0 then 'd' else if change.deleted == 0 then 'a' else 'c'
  range change.left change.deleted ++ letter :: '\n' ::
    if letter == 'd' then []
    else (comparison.right.extract change.right (change.right + change.inserted)).toList.flatten ++
      ".\n".toList

/-- A change as commands that say how many lines are meant. -/
def countedCommands (comparison : Comparison) (change : Change) : Octets :=
  (if change.deleted == 0 then []
    else 'd' :: Text.ofNat (change.left + 1) ++ ' ' :: Text.ofNat change.deleted ++ ['\n']) ++
  if change.inserted == 0 then []
  else 'a' :: Text.ofNat (change.left + change.deleted) ++ ' ' :: Text.ofNat change.inserted ++ '\n' ::
    (comparison.right.extract change.right (change.right + change.inserted)).toList.flatten

/-- All changes, written down. The names and dates of the texts stand at the top where the layout has
a place for them. -/
def render (layout : Layout) (names : Octets × Octets) (comparison : Comparison) : Octets :=
  let pieces (context : Nat) : List Piece :=
    (groups context comparison.changes).map (comparison.piece context)
  match layout with
  | .normal => comparison.changes.flatMap comparison.normalChange
  | .commands => comparison.changes.reverse.flatMap comparison.command
  | .counted => comparison.changes.flatMap comparison.countedCommands
  | .unified context =>
    if comparison.changes.isEmpty then []
    else "--- ".toList ++ names.1 ++ "\n+++ ".toList ++ names.2 ++ '\n' ::
      (pieces context).flatMap comparison.unifiedPiece
  | .contextual context =>
    if comparison.changes.isEmpty then []
    else "*** ".toList ++ names.1 ++ "\n--- ".toList ++ names.2 ++ '\n' ::
      (pieces context).flatMap comparison.contextualPiece

end Comparison

end BuildRules.Shell.Diff
