import BuildRules.Text

/-! Byte strings and the UTF-8 form of a text. Reading bytes as text either refuses what is
not UTF-8 or puts one replacement character for each maximal part that is no character. -/
namespace BuildRules

/-- A byte string. Each byte is kept as the character with its number, so that ASCII reads
as itself. -/
abbrev Octets := List Char

namespace Octets

/-- The UTF-8 form of one character, of one to four bytes. -/
def ofChar (c : Char) : Octets :=
  let n := c.toNat
  if n < 0x80 then [c]
  else if n < 0x800 then [Char.ofNat (0xC0 + n / 64), Char.ofNat (0x80 + n % 64)]
  else if n < 0x10000 then
    [Char.ofNat (0xE0 + n / 4096), Char.ofNat (0x80 + n / 64 % 64), Char.ofNat (0x80 + n % 64)]
  else
    [Char.ofNat (0xF0 + n / 262144), Char.ofNat (0x80 + n / 4096 % 64),
      Char.ofNat (0x80 + n / 64 % 64), Char.ofNat (0x80 + n % 64)]

def ofText (text : Text) : Octets := text.flatMap ofChar

/-- A character whose first bytes have been read. The next byte has to lie between `low` and
`high`; these bounds leave out overlong forms, surrogates and numbers past U+10FFFF. -/
structure Partial where
  value : Nat
  missing : Nat
  low : Nat
  high : Nat

/-- What a byte means at the start of a character. -/
inductive Lead
  | whole
  | first (rest : Partial)
  | invalid

def lead (byte : Nat) : Lead :=
  if byte < 0x80 then .whole
  else if byte < 0xC2 then .invalid
  else if byte < 0xE0 then .first ⟨byte - 0xC0, 1, 0x80, 0xBF⟩
  else if byte < 0xF0 then
    .first ⟨byte - 0xE0, 2, if byte = 0xE0 then 0xA0 else 0x80, if byte = 0xED then 0x9F else 0xBF⟩
  else if byte < 0xF5 then
    .first ⟨byte - 0xF0, 3, if byte = 0xF0 then 0x90 else 0x80, if byte = 0xF4 then 0x8F else 0xBF⟩
  else .invalid

/-- Reads one byte at the start of a character. A finished character, or `none` for a byte
that starts none, goes in front of `seen`. -/
def start (seen : List (Option Char)) (byte : Char) : List (Option Char) × Option Partial :=
  match lead byte.toNat with
  | .whole => (some byte :: seen, none)
  | .first rest => (seen, some rest)
  | .invalid => (none :: seen, none)

/-- Reads one byte after the bytes of `pending`. A byte that cannot follow them ends a bad
part and is read again as the start of a character. -/
def step (seen : List (Option Char)) (pending : Option Partial) (byte : Char) :
    List (Option Char) × Option Partial :=
  match pending with
  | none => start seen byte
  | some p =>
    let n := byte.toNat
    if p.low ≤ n && n ≤ p.high then
      let value := p.value * 64 + (n - 0x80)
      if p.missing ≤ 1 then (some (Char.ofNat value) :: seen, none)
      else (seen, some ⟨value, p.missing - 1, 0x80, 0xBF⟩)
    else start (none :: seen) byte

/-- The characters of a byte string in order, `none` for each maximal invalid part. -/
def characters (bytes : Octets) : List (Option Char) :=
  let last := bytes.foldl (fun state byte => step state.1 state.2 byte) ([], none)
  (if last.2.isSome then none :: last.1 else last.1).reverse

/-- Reads UTF-8 and puts U+FFFD for each maximal invalid part. -/
def toTextLossy (bytes : Octets) : Text :=
  (characters bytes).map fun c => c.getD '\uFFFD'

/-- Reads UTF-8 and refuses anything else. -/
def toText? (bytes : Octets) : Option Text :=
  let read := characters bytes
  if read.all Option.isSome then some (read.map fun c => c.getD '\uFFFD') else none

example : toTextLossy (ofText "é日🎉".toList) = "é日🎉".toList := by decide
example : toTextLossy ['a', '\xFF', 'b'] = ['a', '\uFFFD', 'b'] := by decide
example : toText? ['\xC3'] = none := by decide

end Octets

end BuildRules
