import BuildRules.Shell.Pattern

/-! Integers of 64 bits, as the shell reads and keeps them. -/
namespace BuildRules.Shell.Integer

/-- How many values 64 bits have. -/
def wordCount : Nat := 0x10000000000000000

def greatest : Int := 0x7FFFFFFFFFFFFFFF

def least : Int := -0x8000000000000000

/-- Keeps a number within 64 bits. -/
def wrap (n : Int) : Int := n.bmod wordCount

def isSpace (c : Char) : Bool := isInClass "space".toList c

def digitValue (c : Char) : Nat :=
  if c.isDigit then c.toNat - '0'.toNat
  else if 'a' ≤ c && c ≤ 'z' then c.toNat - 'a'.toNat + 10
  else if 'A' ≤ c && c ≤ 'Z' then c.toNat - 'A'.toNat + 10
  else 99

/-- The number that digits stand for in a base. -/
def ofDigits (base : Nat) (digits : Octets) : Nat :=
  digits.foldl (fun n c => n * base + digitValue c) 0

/-- The decimal number that a text is, if it is nothing else. -/
def decimal? (text : Octets) : Option Nat :=
  if text.isEmpty || !text.all Char.isDigit then none else some (ofDigits 10 text)

/-- The base that a constant is written in, and its digits with what follows them: hexadecimal
after `0x`, binary after `0b`, octal after `0`, otherwise decimal. -/
def constantBase (text : Octets) : Nat × Octets :=
  match text with
  | '0' :: x :: d :: rest =>
    if (x == 'x' || x == 'X') && digitValue d < 16 then (16, d :: rest)
    else if (x == 'b' || x == 'B') && digitValue d < 2 then (2, d :: rest)
    else (8, text)
  | '0' :: _ => (8, text)
  | _ => (10, text)

/-- A number at the start of a text. -/
structure Reading where
  value : Int
  /-- What follows the number. -/
  rest : Octets
  /-- Whether there was a number at all. -/
  found : Bool

/-- Reads a number of any size with blanks and a sign before it. The base is told by how the
number is written if none is given. -/
def readExact (base : Option Nat) (text : Octets) : Reading :=
  let start := text.dropWhile isSpace
  let (isNegative, body) := match start with
    | '-' :: rest => (true, rest)
    | '+' :: rest => (false, rest)
    | _ => (false, start)
  let (base, digits) := match base with
    | some base => (base, body)
    | none => constantBase body
  let taken := digits.takeWhile fun c => digitValue c < base
  if taken.isEmpty then ⟨0, text, false⟩
  else
    let n := ofDigits base taken
    ⟨if isNegative then -(n : Int) else n, digits.drop taken.length, true⟩

/-- The number within 64 bits that is nearest. -/
def clamp (n : Int) : Int := max least (min greatest n)

/-- Reads a number; one that does not fit becomes the nearest one that does. -/
def read (base : Option Nat) (text : Octets) : Reading :=
  let reading := readExact base text
  { reading with value := clamp reading.value }

/-- The integer that a text is, with blanks around it. -/
def ofText? (base : Option Nat) (text : Octets) : Option Int :=
  let reading := readExact base text
  if clamp reading.value != reading.value || (!reading.found && base.isSome) ||
      !reading.rest.all isSpace then none
  else some reading.value

end BuildRules.Shell.Integer
