import BuildRules.Shell.Amount
import BuildRules.Shell.Utility.Lines

/-! The utility that shows bytes as numbers or as names of characters, in blocks with their places. -/
namespace BuildRules.Shell.Utility
open Work

/-- In what form items of some bytes are shown. -/
inductive DumpForm
  | names
  | characters
  | octal
  | hexadecimal
  | decimal
  | unsigned
deriving DecidableEq

structure DumpType where
  form : DumpForm
  /-- How many bytes make an item. -/
  size : Nat
  /-- Whether the characters stand at the end of the line, too. -/
  showsText : Bool := false

namespace DumpType

/-- How many places the widest item takes. -/
def width (type : DumpType) : Nat :=
  match type.form with
  | .names | .characters => 3
  | .hexadecimal => 2 * type.size
  | .octal => (8 * type.size + 2) / 3
  | .unsigned => (([(1, 3), (2, 5), (4, 10)] : List (Nat × Nat)).lookup type.size).getD 20
  | .decimal => (([(1, 4), (2, 6), (4, 11)] : List (Nat × Nat)).lookup type.size).getD 20

/-- The names of the characters that are not shown as they are. -/
def characterNames : List String :=
  ["nul", "soh", "stx", "etx", "eot", "enq", "ack", "bel", "bs", "ht", "nl", "vt", "ff", "cr", "so", "si",
    "dle", "dc1", "dc2", "dc3", "dc4", "nak", "syn", "etb", "can", "em", "sub", "esc", "fs", "gs", "rs",
    "us", "sp"]

/-- A character by its name; the highest bit does not count. -/
def nameOf (byte : Nat) : Octets :=
  let low := byte % 128
  if low == 127 then "del".toList
  else match characterNames[low]? with
    | some name => name.toList
    | none => [Char.ofNat low]

/-- A character as it is or as an escape, or else as a number. -/
def escapeOf (byte : Nat) : Octets :=
  match byte with
  | 0 => ['\\', '0']
  | 7 => ['\\', 'a']
  | 8 => ['\\', 'b']
  | 9 => ['\\', 't']
  | 10 => ['\\', 'n']
  | 11 => ['\\', 'v']
  | 12 => ['\\', 'f']
  | 13 => ['\\', 'r']
  | _ =>
    if isPrintable (Char.ofNat byte) then [Char.ofNat byte]
    else [byte / 64 % 8, byte / 8 % 8, byte % 8].map Nat.digitChar

/-- The digits of a number with noughts in front of them. -/
def filledDigits (base width n : Nat) : Octets :=
  let digits := Nat.toDigits base n
  List.replicate (width - digits.length) '0' ++ digits

/-- An item. The last byte weighs most unless the order is turned. -/
def item (type : DumpType) (bigEndian : Bool) (bytes : List Nat) : Octets :=
  let ordered := if bigEndian then bytes else bytes.reverse
  let n := ordered.foldl (fun n byte => n * 256 + byte) 0
  match type.form with
  | .names => nameOf n
  | .characters => escapeOf n
  | .octal => filledDigits 8 type.width n
  | .hexadecimal => filledDigits 16 type.width n
  | .unsigned => Text.ofNat n
  | .decimal =>
    let count := Nat.pow 256 type.size
    Text.ofInt (if count / 2 ≤ n then (n : Int) - count else n)

/-- The bytes of a block by items, of which those that the block lacks are noughts. -/
def itemsOf (size : Nat) (bytes : List Nat) : List (List Nat) :=
  (List.range ((bytes.length + size - 1) / size)).map fun n =>
    let part := (bytes.drop (n * size)).take size
    part ++ List.replicate (size - part.length) 0

/-- A line that shows a block of so many bytes, if each line of items takes so many places. -/
def line (type : DumpType) (bigEndian : Bool) (blockSize lineWidth : Nat) (bytes : List Nat) : Octets :=
  let count := blockSize / type.size
  let extra := lineWidth - type.width * count
  let items := itemsOf type.size bytes
  -- what is left over of the width is spread evenly, more of it at the end
  let shown := items.zipIdx.flatMap fun (bytes, n) =>
    let before := extra * (count - n) / count
    let after := extra * (count - n - 1) / count
    padLeft (type.width + before - after) (type.item bigEndian bytes)
  let blanks := (blockSize - bytes.length) / type.size
  let text := bytes.map fun byte => if isPrintable (Char.ofNat byte) then Char.ofNat byte else '.'
  shown ++ if !type.showsText then []
    else List.replicate (blanks * type.width + extra * blanks / count) ' ' ++ "  >".toList ++ text ++ ['<']

/-! Reading types. -/

/-- What a text says about types, one after the other. The number bounds the work. -/
def read (whole : Octets) : Nat → Octets → Except Octets (List DumpType)
  | 0, _ => .ok []
  | _, [] => .ok []
  | fuel + 1, c :: rest => do
    let finish (form : DumpForm) (size : Nat) (rest : Octets) : Except Octets (List DumpType) := do
      let showsText := rest.head? == some 'z'
      let others ← read whole fuel (if showsText then rest.drop 1 else rest)
      return ⟨form, size, showsText⟩ :: others
    let form? : Option DumpForm := match c with
      | 'd' => some .decimal
      | 'o' => some .octal
      | 'u' => some .unsigned
      | 'x' => some .hexadecimal
      | _ => none
    match c, form? with
    | 'a', _ => finish .names 1 rest
    | 'c', _ => finish .characters 1 rest
    | _, some form =>
      let letters : List (Char × Nat) := [('C', 1), ('S', 2), ('I', 4), ('L', 8)]
      match rest.head?.bind fun letter => letters.lookup letter with
      | some size => finish form size (rest.drop 1)
      | none =>
        let digits := rest.takeWhile Char.isDigit
        let size := if digits.isEmpty then 4 else Integer.ofDigits 10 digits
        if !([1, 2, 4, 8].contains size) then
          throw ("invalid type string ".toList ++ cite whole ++ ";\nthis system doesn't provide a ".toList ++
            Text.ofNat size ++ "-byte integral type".toList)
        else finish form size (rest.drop digits.length)
    | _, none =>
      throw ("invalid character '".toList ++ c :: "' in type string ".toList ++ cite whole)

/-- The types that single letters stand for. -/
def ofLetter? (letter : Char) : Option DumpType :=
  match letter with
  | 'a' => some ⟨.names, 1, false⟩
  | 'b' => some ⟨.octal, 1, false⟩
  | 'c' => some ⟨.characters, 1, false⟩
  | 'd' => some ⟨.unsigned, 2, false⟩
  | 'i' => some ⟨.decimal, 4, false⟩
  | 's' => some ⟨.decimal, 2, false⟩
  | 'l' | 'I' | 'L' => some ⟨.decimal, 8, false⟩
  | 'o' | 'B' => some ⟨.octal, 2, false⟩
  | 'O' => some ⟨.octal, 4, false⟩
  | 'x' | 'h' => some ⟨.hexadecimal, 2, false⟩
  | 'X' | 'H' => some ⟨.hexadecimal, 4, false⟩
  | 'D' => some ⟨.unsigned, 4, false⟩
  | _ => none

/-- The types that options ask for, in order. -/
def ofOptions : List (Char × Octets) → Except Octets (List DumpType)
  | [] => .ok []
  | (letter, value) :: rest => do
    let here ← if letter == 't' then read value (value.length + 1) value
      else pure (ofLetter? letter).toList
    return here ++ (← ofOptions rest)

end DumpType

/-- A place as it stands at the start of a line. -/
def dumpAddress (radix : Char) (place : Nat) : Octets :=
  match radix with
  | 'n' => []
  | 'd' => DumpType.filledDigits 10 7 place
  | 'x' => DumpType.filledDigits 16 6 place
  | _ => DumpType.filledDigits 8 7 place

/-- The lines that show bytes from a place on. A block that equals the one before it is left out, and an
asterisk stands for all such blocks in a row. -/
def dumpLines (types : List DumpType) (radix : Char) (bigEndian showsAll : Bool) (blockSize : Nat) :
    Nat → Option (List Nat) → Bool → Nat → List Nat → List Octets
  | 0, _, _, _, _ => []
  | _, _, _, place, [] => let last := dumpAddress radix place; if last.isEmpty then [] else [last]
  | fuel + 1, before, isLeftOut, place, bytes =>
    let block := bytes.take blockSize
    let rest := bytes.drop blockSize
    let go := dumpLines types radix bigEndian showsAll blockSize fuel (some block)
    if !showsAll && before == some block then
      (if isLeftOut then [] else [['*']]) ++ go true (place + block.length) rest
    else
      let lineWidth := types.foldl (fun most type =>
        max most ((type.width + 1) * (blockSize / type.size))) 0
      let address := dumpAddress radix place
      let lines := types.zipIdx.map fun (type, n) =>
        (if n == 0 then address else List.replicate address.length ' ') ++
          type.line bigEndian blockSize lineWidth block
      lines ++ go false (place + block.length) rest

def dump : Utility := fun arguments => do
  let rules : List OptionRule :=
    Arguments.letters "abcdislILoBOxhXHD" ++
    [⟨'A', "address-radix", .one⟩, ⟨'j', "skip-bytes", .one⟩, ⟨'N', "read-bytes", .one⟩,
      ⟨'t', "format", .one⟩, ⟨'v', "output-duplicates", .none⟩, ⟨'w', "width", .optional⟩,
      ⟨'ε', "endian", .one⟩]
  withArguments rules arguments fun found => do
    let amount (letter : Char) : Except Octets (Option Nat) :=
      match found.value? letter with
      | none => .ok none
      | some text =>
        match Amount.read "bEGKkMmPQRTYZ".toList 0xFFFFFFFFFFFFFFFF text with
        | .ok n => .ok (some n)
        | .error defect =>
          .error ("invalid -".toList ++ letter :: " argument '".toList ++ text ++ '\'' :: defect.note)
    let radix := (found.value? 'A').map fun text => (text, text.head?.filter "doxn".toList.contains)
    let width := (found.value? 'w').map fun text =>
      if text.isEmpty then (text, some 32) else (text, Integer.decimal? text)
    match radix, amount 'j', amount 'N', DumpType.ofOptions found.options, width with
    | some (text, none), _, _, _, _ =>
      complain ("invalid output address radix '".toList ++ text.take 1 ++
        "'; it must be one character from [doxn]".toList)
    | _, .error message, _, _, _ | _, _, .error message, _, _ | _, _, _, .error message, _ =>
      complain message
    | _, _, _, _, some (text, none) => complain ("invalid -w argument '".toList ++ text ++ ['\''])
    | radix, .ok skipped, .ok limit, .ok given, width =>
      let types := if given.isEmpty then [⟨.octal, 2, false⟩] else given
      let unit := types.foldl (fun n type => max n type.size) 1
      let asked := (width.bind Prod.snd).getD (16 / unit * unit)
      let blockSize := if asked % unit == 0 && asked != 0 then asked else unit
      if blockSize != asked then
        note ((← get).name ++ ": warning: invalid width ".toList ++ Text.ofNat asked ++ "; using ".toList ++
          Text.ofNat blockSize ++ " instead\n".toList)
      let texts ← contents found.operands
      unless texts.isEmpty do
        let whole := (texts.flatMap Prod.snd).map Char.toNat
        let start := skipped.getD 0
        if whole.length < start then complain "cannot skip past end of combined input".toList
        else
          let rest := whole.drop start
          let bytes := match limit with
            | some n => rest.take n
            | none => rest
          let radix := (radix.bind Prod.snd).getD 'o'
          let bigEndian := (found.value? 'ε').any fun word => word.head? == some 'b'
          let lines := dumpLines types radix bigEndian (found.has 'v') blockSize (bytes.length + 1) none
            false start bytes
          print (unlines lines)

end BuildRules.Shell.Utility
