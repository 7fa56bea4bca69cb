import BuildRules.Shell.Pattern
import Std.Data.HashSet

/-! Regular expressions and the places in a text where they match. Of the matches that start first
the longest counts; what the groups hold in it is found by trying the first of several ways first
and by repeating as often as possible. -/
namespace BuildRules.Shell

/-- Where a place in a text lies with regard to words. -/
inductive WordPlace
  | start
  | finish
  | edge
  | inside
deriving DecidableEq, Repr

inductive Regex
  | empty
  | one (c : Char)
  | any
  /-- A character that is a member, or that is none. -/
  | among (negated : Bool) (members : List Member)
  | lineStart
  | lineEnd
  | textStart
  | textEnd
  | word (place : WordPlace)
  | both (first second : Regex)
  | either (first second : Regex)
  | group (number : Nat) (body : Regex)
  /-- At least so often, and at most so often if there is a bound. -/
  | times (least : Nat) (most : Option Nat) (body : Regex)
  /-- What a group holds. -/
  | again (number : Nat)
deriving Repr

namespace Regex

/-- Whether what a group holds is asked for. -/
def refersBack : Regex → Bool
  | again _ => true
  | both a b | either a b => a.refersBack || b.refersBack
  | group _ a | times _ _ a => a.refersBack
  | _ => false

/-- A text that is searched, and how. -/
structure Subject where
  text : Array Char
  ignoresCase : Bool := false
  /-- Whether lines within the text have starts and ends of their own. -/
  hasLines : Bool := false

/-- A place that has been reached, and what the groups hold, the latest first. -/
structure Spot where
  position : Nat
  groups : List (Nat × Nat × Nat) := []

namespace Subject

def isWordCharacter (c : Char) : Bool := c.isAlphanum || c == '_'

def isWordAt (subject : Subject) (position : Nat) : Bool :=
  subject.text[position]?.any isWordCharacter

def isWordBefore (subject : Subject) (position : Nat) : Bool :=
  0 < position && subject.isWordAt (position - 1)

def isPlace (subject : Subject) (position : Nat) : WordPlace → Bool
  | .start => !subject.isWordBefore position && subject.isWordAt position
  | .finish => subject.isWordBefore position && !subject.isWordAt position
  | .edge => subject.isWordBefore position != subject.isWordAt position
  | .inside => subject.isWordBefore position == subject.isWordAt position

def same (subject : Subject) (c d : Char) : Bool :=
  c == d || (subject.ignoresCase && c.toLower == d.toLower)

def isMember (subject : Subject) (members : List Member) (c : Char) : Bool :=
  members.any (Member.holds c) ||
    (subject.ignoresCase &&
      (members.any (Member.holds c.toLower) || members.any (Member.holds c.toUpper)))

/-- Whether the text between two places stands at a third, too. -/
def repeats (subject : Subject) (start finish position : Nat) : Bool :=
  position + (finish - start) ≤ subject.text.size &&
    (List.range (finish - start)).all fun n =>
      match subject.text[start + n]?, subject.text[position + n]? with
      | some c, some d => subject.same c d
      | _, _ => false

end Subject

/-- The spots without those that are reached a second time. What the groups hold makes a
difference only if that is asked for. -/
def distinct (refers : Bool) (spots : List Spot) : List Spot :=
  match spots with
  | [] | [_] => spots
  | _ =>
    let key (spot : Spot) : List Nat :=
      if refers then spot.position :: spot.groups.flatMap fun (n, start, finish) => [n, start, finish]
      else [spot.position]
    (spots.foldl (fun (seen, kept) spot =>
      let k := key spot
      if seen.contains k then (seen, kept) else (seen.insert k, spot :: kept))
      ((∅ : Std.HashSet (List Nat)), [])).2.reverse

/-- Moves all spots over one character. -/
def advance (subject : Subject) (holds : Char → Bool) (spots : List Spot) : List Spot :=
  spots.filterMap fun spot =>
    match subject.text[spot.position]? with
    | some c => if holds c then some { spot with position := spot.position + 1 } else none
    | none => none

/-- What has been seen while something is repeated. -/
structure Repeated where
  seen : Std.HashSet (Nat × Nat)
  /-- Spots reached, the latest first. -/
  reached : List Spot

/-- Repeats a step as long as it gets on. Spots reached by more steps come first. A place is gone
on from only once for each count of steps that are left, unless groups matter. -/
def iterate (refers : Bool) (step : Spot → List Spot) :
    Nat → Option Nat → Repeated → Spot → Repeated
  | 0, _, state, spot => { state with reached := spot :: state.reached }
  | fuel + 1, left, state, spot =>
    let key := (spot.position, left.getD 0)
    if !refers && state.seen.contains key then state
    else
      let state := { state with seen := state.seen.insert key }
      let state :=
        if left == some 0 then state
        else
          ((step spot).filter fun next => spot.position < next.position).foldl
            (iterate refers step fuel (left.map (· - 1))) state
      { state with reached := spot :: state.reached }

/-- Repeats a step at most so often. Only if it has not been done at all before may it do without
getting on the first time. -/
def repeatUpTo (refers isFirst : Bool) (step : Spot → List Spot) (size : Nat) (most : Option Nat)
    (spots : List Spot) : List Spot :=
  if most == some 0 then spots
  else
    distinct refers <| spots.flatMap fun spot =>
      let firsts := (step spot).filter fun next => isFirst || spot.position < next.position
      let state := firsts.foldl
        (fun state next => iterate refers step (size + 1) (most.map (· - 1)) state next) ⟨∅, []⟩
      state.reached.reverse ++ [spot]

/-- The step repeated exactly so often. -/
def repeatExactly (step : Spot → List Spot) (refers : Bool) : Nat → List Spot → List Spot
  | 0, spots => spots
  | n + 1, spots => repeatExactly step refers n (distinct refers (spots.flatMap step))

/-- All spots that are reached from some others, those first that are to be preferred. -/
def run (refers : Bool) (subject : Subject) : Regex → List Spot → List Spot
  | empty, spots => spots
  | one c, spots => advance subject (subject.same c) spots
  | any, spots => advance subject (fun _ => true) spots
  | among negated members, spots =>
    advance subject (fun c => subject.isMember members c != negated) spots
  | lineStart, spots =>
    spots.filter fun spot => spot.position == 0 ||
      (subject.hasLines && subject.text[spot.position - 1]? == some '\n')
  | lineEnd, spots =>
    spots.filter fun spot => spot.position == subject.text.size ||
      (subject.hasLines && subject.text[spot.position]? == some '\n')
  | textStart, spots => spots.filter fun spot => spot.position == 0
  | textEnd, spots => spots.filter fun spot => spot.position == subject.text.size
  | word place, spots => spots.filter fun spot => subject.isPlace spot.position place
  | both a b, spots => b.run refers subject (a.run refers subject spots)
  | either a b, spots =>
    distinct refers <| spots.flatMap fun spot =>
      a.run refers subject [spot] ++ b.run refers subject [spot]
  | group n a, spots =>
    distinct refers <| spots.flatMap fun spot =>
      (a.run refers subject [spot]).map fun done =>
        { done with
          groups := (n, spot.position, done.position) ::
            done.groups.filter fun item => item.1 != n }
  | times least most a, spots =>
    let step (spot : Spot) : List Spot := a.run refers subject [spot]
    repeatUpTo refers (least == 0) step subject.text.size (most.map (· - least))
      (repeatExactly step refers least spots)
  | again n, spots =>
    spots.filterMap fun spot =>
      match spot.groups.lookup n with
      | some (start, finish) =>
        if subject.repeats start finish spot.position then
          some { spot with position := spot.position + (finish - start) }
        else none
      | none => none

/-- A match: where it starts, where it ends, and where its groups start and end. -/
structure Found where
  start : Nat
  finish : Nat
  groups : List (Nat × Nat × Nat)

/-- The longest match at a place of those that are wanted. -/
def longestAt? (regex : Regex) (subject : Subject) (wanted : Nat → Nat → Bool) (start : Nat) :
    Option Found :=
  let spots := (regex.run regex.refersBack subject [{ position := start }]).filter fun spot =>
    wanted start spot.position
  match spots with
  | [] => none
  | spot :: rest =>
    let best := rest.foldl (fun best spot => if best.position < spot.position then spot else best) spot
    some ⟨start, best.position, best.groups⟩

/-- The first match at or behind a place, of those that are wanted. The number bounds how many
places are tried. -/
def searchFrom? (regex : Regex) (subject : Subject) (wanted : Nat → Nat → Bool) :
    Nat → Nat → Option Found
  | 0, _ => none
  | fuel + 1, start =>
    match regex.longestAt? subject wanted start with
    | some found => some found
    | none => searchFrom? regex subject wanted fuel (start + 1)

/-- The first match at or behind a place. -/
def search? (regex : Regex) (subject : Subject) (start : Nat) : Option Found :=
  regex.searchFrom? subject (fun _ _ => true) (subject.text.size + 1 - start) start

/-- What a group holds in a match; the match itself is the group without a number. -/
def Found.text (found : Found) (subject : Subject) (number : Nat) : Octets :=
  let part (start finish : Nat) : Octets := (subject.text.extract start finish).toList
  if number == 0 then part found.start found.finish
  else match found.groups.lookup number with
    | some (start, finish) => part start finish
    | none => []

end Regex

end BuildRules.Shell
