import BuildRules.Shell.Find.Query
import BuildRules.Shell.Utility.Listing

/-! What is told of a file that has been found, in a form that a format asks for. -/
namespace BuildRules.Shell.Find

/-- A file that has been found. -/
structure Visit where
  path : Octets
  /-- The path from which the search has come to it, and how many steps ago. -/
  start : Octets
  depth : Nat
  location : Location
  entry : Entry
  /-- What is found if links are treated the other way. -/
  other : Except Fault Entry
  number : Nat
  links : Nat

namespace Visit

/-- The last component of the path, with the slashes behind it. -/
def name (visit : Visit) : Octets :=
  let slashes := visit.path.reverse.takeWhile (· == '/')
  if slashes.length == visit.path.length then visit.path.take 1
  else baseName visit.path ++ slashes

/-- The path up to its last slash. -/
def parent (visit : Visit) : Octets :=
  if visit.path.contains '/' then
    ((visit.path.reverse.dropWhile (· != '/')).drop 1).reverse
  else ['.']

/-- The path from the start. -/
def below (visit : Visit) : Octets :=
  match visit.path.drop visit.start.length with
  | '/' :: rest => rest
  | rest => rest

end Visit

def letterOf (entry : Entry) : Char :=
  match entry.node with
  | .directory => 'd'
  | .link _ => 'l'
  | .device _ => 'c'
  | _ => 'f'

namespace Piece

/-- The letters that ask for a fact. -/
def letters : Octets := "abcdDfFgGhHiklmMnpPsStuUyYZ".toList

/-- The letters that ask for a time and have a second letter behind them. -/
def timeLetters : Octets := "ABCT".toList

/-- Reads a format. Gives what there is to warn of, or what is wrong. The number bounds the work. -/
def read : Nat → Octets → Except Octets (List Piece × List Octets)
  | 0, _ => .ok ([], [])
  | _, [] => .ok ([], [])
  | fuel + 1, '\\' :: rest =>
    match rest with
    | [] => .ok ([.text ['\\']], ["warning: escape \x60\\' followed by nothing at all".toList])
    | 'c' :: _ => .ok ([], [])
    | c :: after =>
      if Format.isOctal c then do
        let digits := (rest.take 3).takeWhile Format.isOctal
        let (pieces, warnings) ← read fuel (rest.drop digits.length)
        return (.text [Format.octalByte digits] :: pieces, warnings)
      else match if c == 'e' then none else Format.control? c with
        | some d => do
          let (pieces, warnings) ← read fuel after
          return (.text [d] :: pieces, warnings)
        | none => do
          let (pieces, warnings) ← read fuel after
          return (.text ['\\', c] :: pieces,
            ("warning: unrecognized escape \x60\\".toList ++ [c, '\'']) :: warnings)
  | fuel + 1, '%' :: rest =>
    let flags := rest.takeWhile fun c => "-+ #0".toList.contains c
    let sized := rest.drop flags.length
    let width := sized.takeWhile Char.isDigit
    let (precision, tail) : Option Nat × Octets := match sized.drop width.length with
      | '.' :: more =>
        let digits := more.takeWhile Char.isDigit
        (some (Integer.ofDigits 10 digits), more.drop digits.length)
      | more => (none, more)
    let directive : Format.Directive :=
      { left := flags.contains '-'
        plus := flags.contains '+'
        space := flags.contains ' '
        alternate := flags.contains '#'
        zero := flags.contains '0'
        width := Integer.ofDigits 10 width
        precision := precision }
    let written (count : Nat) : Octets := '%' :: rest.take (rest.length - tail.length + count)
    match tail with
    | [] => .error "error: % at end of format string".toList
    | '%' :: after => do
      let (pieces, warnings) ← read fuel after
      return (.text ['%'] :: pieces, warnings)
    | c :: after =>
      if timeLetters.contains c then
        match after with
        | [] =>
          .ok ([.text (written 1)],
            ["warning: format directive \x60".toList ++ written 1 ++
              "' should be followed by another character".toList])
        | d :: after => do
          let (pieces, warnings) ← read fuel after
          return (.fact directive c d :: pieces, warnings)
      else do
        let (pieces, warnings) ← read fuel after
        if letters.contains c then return (.fact directive c ' ' :: pieces, warnings)
        else return (.text (written 1) :: pieces,
          ("warning: unrecognized format directive \x60".toList ++ written 1 ++ ['\'']) :: warnings)
  | fuel + 1, c :: rest => do
    let (pieces, warnings) ← read fuel rest
    return (.text [c] :: pieces, warnings)

/-- A time as a letter asks for it. Times of day have a fraction. -/
def time (modified : Time) (letter : Char) : Octets :=
  let shown (format : String) : Octets := Utility.DateFormat.text modified format.toList
  let fraction := ".0000000000"
  match letter with
  | '@' => shown ("%s" ++ fraction)
  | 'S' => shown ("%S" ++ fraction)
  | 'T' | 'X' => shown ("%T" ++ fraction)
  | '+' => shown ("%F+%T" ++ fraction)
  | 'c' => shown "%a %b %e %T %Y"
  | 'q' => "%q".toList
  | other => Utility.DateFormat.text modified ['%', other]

/-- What a letter asks for. -/
def factOf (visit : Visit) (directive : Format.Directive) (letter detail : Char) : Octets :=
  let entry := visit.entry
  let cut (text : Octets) : Octets :=
    Format.pad directive (match directive.precision with
      | some n => text.take n
      | none => text)
  let number (digits : Octets) : Octets := Format.padNumber directive true [] digits
  let blocks : Nat := match entry.node with
    | .file content => (content.length + 4095) / 4096 * 8
    | .directory => 8
    | _ => 0
  match letter with
  | 'p' => cut visit.path
  | 'f' => cut visit.name
  | 'h' => cut visit.parent
  | 'P' => cut visit.below
  | 'H' => cut visit.start
  | 'd' => number (Text.ofNat visit.depth)
  | 's' => cut (Text.ofNat entry.node.size)
  | 'y' => cut [letterOf entry]
  | 'Y' =>
    let chosen : Except Fault Entry := if entry.node.isLink then visit.other else .ok entry
    cut (match chosen with
      | .ok found => [letterOf found]
      | .error .linkLoop => ['L']
      | .error _ => ['N'])
  | 'm' =>
    let digits := Nat.toDigits 8 entry.mode
    number (if directive.alternate && entry.mode != 0 then '0' :: digits else digits)
  | 'M' => cut (Utility.Row.kind entry :: Mode.text entry.mode)
  | 'n' => cut (Text.ofNat visit.links)
  | 'u' | 'g' => cut "root".toList
  | 'U' | 'G' => cut ['0']
  | 'i' => cut (Text.ofNat visit.number)
  | 'k' => cut (Text.ofNat (blocks / 2))
  | 'b' => cut (Text.ofNat blocks)
  | 'l' => match entry.node with
    | .link target => cut target
    | _ => cut []
  | 'a' | 'c' | 't' =>
    cut (Utility.DateFormat.text entry.modified "%a %b %e %T.0000000000 %Y".toList)
  | 'A' | 'B' | 'C' | 'T' => cut (time entry.modified detail)
  | _ => cut []

/-- What a format makes of a file. -/
def render (visit : Visit) (pieces : List Piece) : Octets :=
  pieces.flatMap fun piece => match piece with
    | .text plain => plain
    | .fact directive letter detail => factOf visit directive letter detail

end Piece

end BuildRules.Shell.Find
