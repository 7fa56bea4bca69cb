import BuildRules.Text.Octets

/-!
What has to be changed to make one list of lines from another. A shortest way is looked for from both
ends at once, along diagonals: the place in the first list minus the place in the second one. Then each
run of changed lines is moved as far down as it goes. `Change.between` gives the changes in order.
-/
namespace BuildRules.Shell.Diff

/-- Lines that give way to others. Lines are counted from nought. -/
structure Change where
  left : Nat
  deleted : Nat
  right : Nat
  inserted : Nat
deriving DecidableEq, Repr

/-- A part of each of two lists. -/
structure Box where
  left : Nat
  leftEnd : Nat
  right : Nat
  rightEnd : Nat

/-- How far the diagonals have been followed that lie between two others. -/
structure Frontier where
  reached : Array Int
  /-- What is added to the number of a diagonal for its place. -/
  shift : Nat
  low : Int
  high : Int

namespace Frontier

def place (frontier : Frontier) (diagonal : Int) : Int :=
  frontier.reached.getD (diagonal + frontier.shift).toNat 0

def put (frontier : Frontier) (diagonal place : Int) : Frontier :=
  let reached := frontier.reached.setIfInBounds (diagonal + frontier.shift).toNat place
  { frontier with reached := reached }

/-- Takes in a diagonal more on each side, up to the outermost ones. A diagonal that has not been
followed is as far away as the edge says. -/
def widen (frontier : Frontier) (least greatest edge : Int) : Frontier :=
  let lower := if least < frontier.low then
      { frontier.put (frontier.low - 2) edge with low := frontier.low - 1 }
    else { frontier with low := frontier.low + 1 }
  if lower.high < greatest then { lower.put (lower.high + 2) edge with high := lower.high + 1 }
  else { lower with high := lower.high - 1 }

/-- The diagonals that are followed, every other one, from the highest down. -/
def diagonals (frontier : Frontier) : List Int :=
  (List.range ((frontier.high - frontier.low) / 2 + 1).toNat).map fun (n : Nat) =>
    frontier.high - 2 * Int.ofNat n

def holds (frontier : Frontier) (diagonal : Int) : Bool :=
  frontier.low ≤ diagonal && diagonal ≤ frontier.high

end Frontier

section Search

variable (left right : Array Octets)

def isSame (x y : Int) : Bool := left[x.toNat]? == right[y.toNat]?

/-- Goes down a diagonal as long as the lines are equal. -/
def goDown (box : Box) (diagonal : Int) : Nat → Int → Int
  | 0, x => x
  | fuel + 1, x =>
    if x < box.leftEnd && x - diagonal < box.rightEnd && isSame left right x (x - diagonal) then
      goDown box diagonal fuel (x + 1)
    else x

def goUp (box : Box) (diagonal : Int) : Nat → Int → Int
  | 0, x => x
  | fuel + 1, x =>
    if (box.left : Int) < x && (box.right : Int) < x - diagonal &&
        isSame left right (x - 1) (x - diagonal - 1) then
      goUp box diagonal fuel (x - 1)
    else x

/-- Follows the diagonals one step further in turns from both ends until the ways meet, and gives the
place where they do. The number bounds the turns. -/
def middle (box : Box) : Nat → Frontier → Frontier → Nat × Nat
  | 0, _, _ => (box.left, box.right)
  | fuel + 1, down, up =>
    let least : Int := (box.left : Int) - box.rightEnd
    let greatest : Int := (box.leftEnd : Int) - box.right
    let size := left.size + right.size
    let isOdd := ((box.left : Int) - box.right - (box.leftEnd - box.rightEnd)) % 2 != 0
    let stepDown (down : Frontier) (d : Int) : Except (Int × Int) Frontier :=
      let below := down.place (d - 1)
      let above := down.place (d + 1)
      let x := goDown left right box d size (if below < above then above else below + 1)
      if isOdd && up.holds d && up.place d ≤ x then .error (x, x - d) else .ok (down.put d x)
    let stepUp (down : Frontier) (up : Frontier) (d : Int) : Except (Int × Int) Frontier :=
      let below := up.place (d - 1)
      let above := up.place (d + 1)
      let x := goUp left right box d size (if below < above then below else above - 1)
      if !isOdd && down.holds d && x ≤ down.place d then .error (x, x - d) else .ok (up.put d x)
    let round : Except (Int × Int) (Frontier × Frontier) := do
      let down := down.widen least greatest (-1)
      let down ← down.diagonals.foldlM stepDown down
      let up := up.widen least greatest (size + 1)
      let up ← up.diagonals.foldlM (stepUp down) up
      return (down, up)
    match round with
    | .error (x, y) => (x.toNat, y.toNat)
    | .ok (down, up) => middle box fuel down up

/-- A box without the lines at its start and at its end that are equal. -/
def trim : Nat → Box → Box
  | 0, box => box
  | fuel + 1, box =>
    if box.left < box.leftEnd && box.right < box.rightEnd then
      if left[box.left]? == right[box.right]? then
        trim fuel { box with left := box.left + 1, right := box.right + 1 }
      else if left[box.leftEnd - 1]? == right[box.rightEnd - 1]? then
        trim fuel { box with leftEnd := box.leftEnd - 1, rightEnd := box.rightEnd - 1 }
      else box
    else box

/-- Which lines of the lists change. -/
structure Marks where
  left : Array Bool
  right : Array Bool

def markAll (marks : Array Bool) (start finish : Nat) : Array Bool :=
  (List.range (finish - start)).foldl (fun marks n => marks.setIfInBounds (start + n) true) marks

/-- Marks the lines of a box that change. The number bounds how often the box is divided. -/
def mark : Nat → Box → Marks → Marks
  | 0, _, marks => marks
  | fuel + 1, box, marks =>
    let size := left.size + right.size
    let box := trim left right (size + 1) box
    if box.left == box.leftEnd then
      { marks with right := markAll marks.right box.right box.rightEnd }
    else if box.right == box.rightEnd then
      { marks with left := markAll marks.left box.left box.leftEnd }
    else
      let shift := right.size + 2
      let start (x y : Nat) : Frontier :=
        let diagonal : Int := (x : Int) - y
        let empty : Frontier :=
          { reached := Array.replicate (size + 5) 0, shift := shift, low := diagonal, high := diagonal }
        empty.put diagonal x
      let (x, y) := middle left right box (size + 1) (start box.left box.right)
        (start box.leftEnd box.rightEnd)
      let first := mark fuel { box with leftEnd := x, rightEnd := y } marks
      mark fuel { box with left := x, right := y } first

end Search

/-! Moving runs of changed lines. -/

/-- The first line from a place on that is not marked. -/
def afterMarked (marks : Array Bool) : Nat → Nat → Nat
  | 0, n => n
  | fuel + 1, n => if marks.getD n false then afterMarked marks fuel (n + 1) else n

/-- The place where the marked lines in front of a place start. -/
def startOfMarked (marks : Array Bool) : Nat → Nat
  | 0 => 0
  | n + 1 => if marks.getD n false then startOfMarked marks n else n + 1

/-- The last line before a place that is not marked. -/
def beforeMarked (marks : Array Bool) : Nat → Nat
  | 0 => 0
  | n + 1 => if marks.getD n false then beforeMarked marks n else n

/-- A run of changed lines in one list, and the place in the other list that belongs to its end. -/
structure Slide where
  marks : Array Bool
  start : Nat
  finish : Nat
  place : Nat
  /-- The last end of the run at which there are changed lines in the other list, too. -/
  meeting : Option Nat := none

namespace Slide

def moveUp (other : Array Bool) (slide : Slide) : Slide :=
  let marks := (slide.marks.setIfInBounds (slide.start - 1) true).setIfInBounds (slide.finish - 1) false
  { slide with
    marks := marks
    start := slide.start - 1
    finish := slide.finish - 1
    place := beforeMarked other slide.place }

/-- Moves a run up as long as the line in front of it equals its last one. -/
def up (lines : Array Octets) (other : Array Bool) : Nat → Slide → Slide
  | 0, slide => slide
  | fuel + 1, slide =>
    if 0 < slide.start && lines[slide.start - 1]? == lines[slide.finish - 1]? then
      let moved := slide.moveUp other
      up lines other fuel { moved with start := startOfMarked moved.marks moved.start }
    else slide

/-- Moves a run down as long as the line behind it equals its first one. -/
def down (lines : Array Octets) (other : Array Bool) : Nat → Slide → Slide
  | 0, slide => slide
  | fuel + 1, slide =>
    if slide.finish < lines.size && lines[slide.start]? == lines[slide.finish]? then
      let marks := (slide.marks.setIfInBounds slide.start false).setIfInBounds slide.finish true
      let finish := afterMarked marks lines.size (slide.finish + 1)
      let place := afterMarked other other.size (slide.place + 1)
      let meeting := if place == slide.place + 1 then slide.meeting else some finish
      down lines other fuel ⟨marks, slide.start + 1, finish, place, meeting⟩
    else slide

/-- Moves a run up and then down until it meets no more runs. -/
def settle (lines : Array Octets) (other : Array Bool) : Nat → Slide → Slide
  | 0, slide => slide
  | fuel + 1, slide =>
    let length := slide.finish - slide.start
    let raised := slide.up lines other (lines.size + 1)
    let isMet := 0 < raised.place && other.getD (raised.place - 1) false
    let lowered := { raised with meeting := if isMet then some raised.finish else none }.down lines other
      (lines.size + 1)
    if lowered.finish - lowered.start == length then lowered else settle lines other fuel lowered

/-- Moves a run back up to where it meets changed lines in the other list. -/
def backTo (other : Array Bool) (meeting : Nat) : Nat → Slide → Slide
  | 0, slide => slide
  | fuel + 1, slide =>
    if meeting < slide.finish then backTo other meeting fuel (slide.moveUp other) else slide

end Slide

/-- The marks of a list with each run moved, from a line on and the place in the other list that
belongs to it. The number bounds the work. -/
def settled (lines : Array Octets) (other : Array Bool) : Nat → Nat → Nat → Array Bool → Array Bool
  | 0, _, _, marks => marks
  | fuel + 1, line, place, marks =>
    if lines.size ≤ line then marks
    else if !marks.getD line false then
      settled lines other fuel (line + 1) (afterMarked other other.size place + 1) marks
    else
      let run : Slide :=
        { marks := marks, start := line, finish := afterMarked marks lines.size line,
          place := afterMarked other other.size place }
      let low := run.settle lines other (lines.size + 1)
      let done := match low.meeting with
        | some meeting => low.backTo other meeting (lines.size + 1)
        | none => low
      settled lines other fuel done.finish done.place done.marks

/-- The changes that marks stand for, from two places on. The number bounds the work. -/
def changesOf (marks : Marks) : Nat → Nat → Nat → List Change
  | 0, _, _ => []
  | fuel + 1, x, y =>
    let afterX := afterMarked marks.left marks.left.size x
    let afterY := afterMarked marks.right marks.right.size y
    let rest := if marks.left.size ≤ afterX && marks.right.size ≤ afterY then []
      else changesOf marks fuel (afterX + 1) (afterY + 1)
    if afterX == x && afterY == y then rest
    else ⟨x, afterX - x, y, afterY - y⟩ :: rest

/-- The changes between two parts of lists that are looked at. Lines that the other part does not
have change in any case, and are left aside in the search. -/
def changesWithin (left right : Array Octets) : List Change :=
  let kept (lines others : Array Octets) : Array Nat :=
    (Array.range lines.size).filter fun n => (lines[n]?).any others.contains
  let keptLeft := kept left right
  let keptRight := kept right left
  let pick (lines : Array Octets) (places : Array Nat) : Array Octets :=
    places.map fun n => (lines[n]?).getD []
  let searchLeft := pick left keptLeft
  let searchRight := pick right keptRight
  let size := searchLeft.size + searchRight.size
  let found := mark searchLeft searchRight (size + 1) ⟨0, searchLeft.size, 0, searchRight.size⟩
    ⟨Array.replicate searchLeft.size false, Array.replicate searchRight.size false⟩
  let spread (count : Nat) (places : Array Nat) (marks : Array Bool) : Array Bool :=
    (places.zip marks).foldl (fun all (n, isMarked) => all.setIfInBounds n isMarked)
      (Array.replicate count true)
  let markedLeft := spread left.size keptLeft found.left
  let markedRight := spread right.size keptRight found.right
  let fuel := left.size + right.size + 1
  let movedLeft := settled left markedRight fuel 0 0 markedLeft
  let movedRight := settled right movedLeft fuel 0 0 markedRight
  changesOf ⟨movedLeft, movedRight⟩ fuel 0 0

/-- How many elements two lists share at their start. -/
def sharedStart : List Octets → List Octets → Nat
  | x :: left, y :: right => if x == y then sharedStart left right + 1 else 0
  | _, _ => 0

/-- The changes that make one list of lines from another. Lines count as equal if they have the same
key. At the start and at the end only so many lines that are the very same are looked at as will be
shown around changes. -/
def Change.between (context : Nat) (searchesEnd : Bool) (key : Octets → Octets)
    (left right : List Octets) : List Change :=
  let start := sharedStart left right - context
  let leftRest := left.drop start
  let rightRest := right.drop start
  let shared := if searchesEnd then sharedStart leftRest.reverse rightRest.reverse else 0
  let finish := shared - context
  let cut (lines : List Octets) : Array Octets :=
    ((lines.take (lines.length - finish)).map key).toArray
  (changesWithin (cut leftRest) (cut rightRest)).map fun change =>
    { change with left := change.left + start, right := change.right + start }

example : Change.between 0 true id ["a".toList, "b".toList] ["a".toList, "c".toList, "b".toList] =
    [⟨1, 0, 1, 1⟩] := by decide +kernel

end BuildRules.Shell.Diff
