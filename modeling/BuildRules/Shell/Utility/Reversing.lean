import BuildRules.Shell.Regex.Reader
import BuildRules.Shell.Utility.Lines

/-! Utilities that show what they read from its end: the parts of a text, and the characters of a
line. -/
namespace BuildRules.Shell.Utility
open Work

/-- What sets the parts of a text apart. -/
inductive Divider
  | word (text : Octets)
  | expression (regex : Regex)

namespace Divider

/-- The last divider that ends at or before a place: where it starts and where it ends. The number
bounds how many places are tried. -/
def last? (divider : Divider) (text : Array Char) (limit : Nat) : Option (Nat × Nat) :=
  match divider with
  | .word signs =>
    let isHere (start : Nat) : Bool :=
      signs.zipIdx.all fun (c, n) => start + n < limit && text[start + n]? == some c
    (starting isHere limit).map fun start => (start, start + signs.length)
  | .expression regex =>
    let subject : Regex.Subject := { text := text.take limit }
    let found (start : Nat) : Option Regex.Found :=
      Regex.longestAt? regex subject (fun _ _ => true) start
    (starting (fun start => (found start).isSome) limit).bind fun start =>
      (found start).map fun place => (place.start, place.finish)
where
  starting (isHere : Nat → Bool) : Nat → Option Nat
    | 0 => none
    | n + 1 => if isHere n then some n else starting isHere n

/-- The parts of a text from the last to the first, with their dividers in front or behind. The text
is looked through up to one place, and what is shown next ends at another. -/
def partsBack (divider : Divider) (inFront : Bool) (text : Array Char) (isFirst : Bool) :
    Nat → Nat → Nat → List Octets
  | 0, _, _ => []
  | fuel + 1, limit, finish =>
    let slice (start : Nat) : Octets := (text.extract start finish).toList
    match divider.last? text limit with
    | none => [slice 0]
    | some (start, stop) =>
      if inFront then slice start :: partsBack divider inFront text false fuel start start
      else
        (if isFirst && stop == finish then [] else [slice stop]) ++
          partsBack divider inFront text false fuel start stop

end Divider

/-- What is said of a file whose lines cannot be shown backwards. -/
def backwardsComplaint (path : Octets) (fault : Fault) : Octets :=
  let name := if path == ['-'] then "standard input".toList else path
  if fault == .isDirectory then quoteIfNeeded name ++ ": read error: ".toList ++ fault.reason
  else "failed to open ".toList ++ quote name ++ " for reading: ".toList ++ fault.reason

def reverseLines : Utility := fun arguments =>
  let rules : List OptionRule :=
    [⟨'b', "before", .none⟩, ⟨'r', "regex", .none⟩, ⟨'s', "separator", .one⟩]
  withArguments rules arguments fun found => do
    let separator := (found.value? 's').getD ['\n']
    let divider : Except Octets Divider :=
      if !found.has 'r' then .ok (.word (if separator.isEmpty then ['\x00'] else separator))
      else if separator.isEmpty then .error "separator cannot be empty".toList
      else match Regex.read { hasBareRepeats := true } separator with
        | .ok (regex, _) => .ok (.expression regex)
        | .error flaw => .error flaw.message
    match divider with
    | .error message => complain message
    | .ok divider =>
      for (_, text) in ← contents found.operands backwardsComplaint do
        let whole := text.toArray
        print (if separator == ['\n'] && !found.has 'b' then (fullLines text).reverse.flatten
          else (divider.partsBack (found.has 'b') whole true (whole.size + 1) whole.size
            whole.size).flatten)

def reverseEach : Utility := fun arguments =>
  withArguments [⟨'0', "zero", .none⟩] arguments fun found => do
    let complaint (path : Octets) (fault : Fault) : Octets :=
      "cannot open ".toList ++ path ++ ": ".toList ++ fault.reason
    let separator := if found.has '0' then '\x00' else '\n'
    for (_, text) in ← contents found.operands complaint do
      print (Text.join [separator] ((Text.pieces separator text).map List.reverse))

end BuildRules.Shell.Utility
