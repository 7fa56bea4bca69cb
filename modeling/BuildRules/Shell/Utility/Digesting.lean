import BuildRules.Shell.Digest
import BuildRules.Shell.Utility.Lines

/-! Utilities that show digests of files, or check files against digests noted before, and utilities
that write bytes with letters. -/
namespace BuildRules.Shell.Utility
open Work

/-- A digest with the name under which it is noted and the count of its digits. -/
structure DigestKind where
  tag : String
  length : Nat
  digest : Octets → Octets

namespace DigestKind

/-- A name in which backslashes and ends of lines are escaped, and whether there are any. -/
def escaped (name : Octets) : Octets × Bool :=
  let isOdd (c : Char) : Bool := c == '\\' || c == '\n' || c == '\r'
  (name.flatMap fun c => match c with
    | '\\' => ['\\', '\\']
    | '\n' => ['\\', 'n']
    | '\r' => ['\\', 'r']
    | c => [c], name.any isOdd)

/-- A name without the escapes of another one; none for escapes that there are not. -/
def unescaped? : Octets → Option Octets
  | [] => some []
  | '\\' :: c :: rest =>
    match ([('\\', '\\'), ('n', '\n'), ('r', '\r')] : List (Char × Char)).lookup c with
    | some d => (unescaped? rest).map (d :: ·)
    | none => none
  | c :: rest => if c == '\\' then none else (unescaped? rest).map (c :: ·)

/-- The line that notes a digest. -/
def noteLine (kind : DigestKind) (tagged binary zero : Bool) (name text : Octets) : Octets :=
  let (shown, isEscaped) := if zero then (name, false) else escaped name
  let sum := kind.digest text
  (if isEscaped then ['\\'] else []) ++
    (if tagged then kind.tag.toList ++ " (".toList ++ shown ++ ") = ".toList ++ sum
      else sum ++ ' ' :: (if binary then '*' else ' ') :: shown) ++
    [if zero then '\x00' else '\n']

/-- A noted digest and the name that it belongs to. -/
def ofLine? (kind : DigestKind) (line : Octets) : Option (Octets × Octets) :=
  let body := line.dropWhile fun c => c == ' ' || c == '\t'
  let (isEscaped, body) := match body with
    | '\\' :: rest => (true, rest)
    | rest => (false, rest)
  let isSum (text : Octets) : Bool :=
    text.length == kind.length && text.all fun c => Integer.digitValue c < 16
  let front := kind.tag.toList ++ " (".toList
  let found : Option (Octets × Octets) :=
    if front.isPrefixOf body then
      let sum := body.drop (body.length - kind.length)
      let middle := (body.drop front.length).take (body.length - front.length - kind.length)
      if isSum sum && ") = ".toList.isSuffixOf middle then some (sum, middle.take (middle.length - 4))
      else none
    else
      let sum := body.take kind.length
      match body.drop kind.length with
      | ' ' :: mark :: name =>
        if isSum sum && (mark == ' ' || mark == '*') then some (sum, name)
        else if isSum sum then some (sum, mark :: name) else none
      | _ => none
  match found with
  | some (sum, name) =>
    if name.isEmpty then none
    else if isEscaped then (unescaped? name).map fun name => (sum, name) else some (sum, name)
  | none => none

/-- What a check has found. -/
structure Tally where
  good : Nat := 0
  misread : Nat := 0
  unread : Nat := 0
  wrong : Nat := 0

/-- Checks files against the digests that are noted in a text. -/
def check (kind : DigestKind) (found : Arguments) (source text : Octets) : Work Unit := do
  let isSilent := found.has 'σ'
  let showsGood := !isSilent && !found.has 'θ'
  let mut tally : Tally := {}
  for (line, n) in (linesOf text).zipIdx do
    if line.head? != some '#' then
      match kind.ofLine? line with
      | none =>
        tally := { tally with misread := tally.misread + 1 }
        if found.has 'w' then
          complain (quoteIfNeeded source ++ ": ".toList ++ Text.ofNat (n + 1) ++ ": improperly formatted ".toList ++
            kind.tag.toList ++ " checksum line".toList) 0
      | some (sum, name) =>
        let (shown, isEscaped) := escaped name
        let shown := if isEscaped then '\\' :: shown else shown
        match ← Work.source name with
        | .error fault =>
          if !(found.has 'ι' && fault == Fault.notFound) then
            complain (plainly name fault)
            tally := { tally with unread := tally.unread + 1 }
            unless isSilent do printLine (shown ++ ": FAILED open or read".toList)
        | .ok content =>
          if kind.digest content == sum.map Char.toLower then
            tally := { tally with good := tally.good + 1 }
            if showsGood then printLine (shown ++ ": OK".toList)
          else
            tally := { tally with wrong := tally.wrong + 1 }
            unless isSilent do printLine (shown ++ ": FAILED".toList)
  let warn (n : Nat) (one many : String) : Work Unit := do
    if n != 0 && !isSilent then
      complain ("WARNING: ".toList ++ Text.ofNat n ++ (if n == 1 then one else many).toList) 0
  if tally.good + tally.unread + tally.wrong == 0 && !(found.has 'ι') then
    complain (source ++ ": no properly formatted checksum lines found".toList)
  else
    warn tally.misread " line is improperly formatted" " lines are improperly formatted"
    warn tally.unread " listed file could not be read" " listed files could not be read"
    warn tally.wrong " computed checksum did NOT match" " computed checksums did NOT match"
    if found.has 'ι' && tally.good == 0 then complain (source ++ ": no file was verified".toList)
    if tally.unread + tally.wrong != 0 || (found.has 'ς' && tally.misread != 0) then fail 1

def rules : List OptionRule :=
  [⟨'b', "binary", .none⟩, ⟨'c', "check", .none⟩, ⟨'t', "text", .none⟩, ⟨'τ', "tag", .none⟩,
    ⟨'w', "warn", .none⟩, ⟨'z', "zero", .none⟩, ⟨'θ', "quiet", .none⟩, ⟨'σ', "status", .none⟩,
    ⟨'ς', "strict", .none⟩, ⟨'ι', "ignore-missing", .none⟩]

/-- The utility that shows or checks digests of a kind. -/
def utility (kind : DigestKind) : Utility := fun arguments => do
  withArguments rules arguments fun found => do
    let paths := if found.operands.isEmpty then [['-']] else found.operands
    for path in paths do
      match ← content? path plainly with
      | none => pure ()
      | some text =>
        if found.has 'c' then
          kind.check found (if path == ['-'] then "standard input".toList else path) text
        else
          print (kind.noteLine (found.has 'τ') (found.lastOf "bt" == some 'b') (found.has 'z') path text)

def md5 : DigestKind := ⟨"MD5", 32, Digest.md5⟩

def sha1 : DigestKind := ⟨"SHA1", 40, Digest.sha1⟩

def sha224 : DigestKind := ⟨"SHA224", 56, Digest.sha224⟩

def sha256 : DigestKind := ⟨"SHA256", 64, Digest.sha256⟩

def sha384 : DigestKind := ⟨"SHA384", 96, Digest.sha384⟩

def sha512 : DigestKind := ⟨"SHA512", 128, Digest.sha512⟩

end DigestKind

/-! Check sums. -/

/-- The name of a file behind a sum, if it has been given. -/
def namedBehind (found : Arguments) (path : Octets) : Octets :=
  if found.operands.isEmpty then [] else ' ' :: path

def cyclicSums : Utility := fun arguments => do
  withArguments [] arguments fun found => do
    for (path, text) in ← contents found.operands do
      printLine (Text.ofNat (Digest.cyclic text) ++ ' ' :: Text.ofNat text.length ++
        namedBehind found path)

def blockSums : Utility := fun arguments => do
  withArguments [⟨'r', "", .none⟩, ⟨'s', "sysv", .none⟩] arguments fun found => do
    for (path, text) in ← contents found.operands do
      printLine ((if found.lastOf "rs" == some 's' then
          Text.ofNat (Digest.plainSum text) ++ ' ' :: Text.ofNat ((text.length + 511) / 512)
        else
          let sum := Text.ofNat (Digest.turnedSum text)
          List.replicate (5 - sum.length) '0' ++ sum ++ ' ' ::
            padLeft 5 (Text.ofNat ((text.length + 1023) / 1024))) ++ namedBehind found path)

/-! Bytes as letters. -/

/-- Letters that stand for numbers of some bits, in groups that are filled up with a sign. -/
structure LetterCode where
  letters : String
  bits : Nat
  /-- How many letters make a group. -/
  group : Nat

namespace LetterCode

def sixBits : LetterCode :=
  ⟨"ABCDEFGHIJKLMNOPQRSTUVWXYZabcdefghijklmnopqrstuvwxyz0123456789+/", 6, 4⟩

def fiveBits : LetterCode := ⟨"ABCDEFGHIJKLMNOPQRSTUVWXYZ234567", 5, 8⟩

/-- How many bytes make a group. -/
def bytes (code : LetterCode) : Nat := code.bits * code.group / 8

/-- The letters for a group of bytes, filled up if there are too few. -/
def encodeGroup (code : LetterCode) (part : List Char) : Octets :=
  let n := Digest.ofBytes (part ++ List.replicate (code.bytes - part.length) '\x00')
  let used := (part.length * 8 + code.bits - 1) / code.bits
  (List.range code.group).map fun place =>
    if used ≤ place then '='
    else (code.letters.toList)[n / Nat.pow 2 (code.bits * (code.group - 1 - place)) %
      Nat.pow 2 code.bits]?.getD '='

def encode (code : LetterCode) (text : Octets) : Octets :=
  (Digest.parts code.bytes (text.length + 1) text).flatMap code.encodeGroup

/-- The bytes that a group of letters stands for, unless it makes no sense. A last group that is not
full gives what it can. -/
def decodeGroup (code : LetterCode) (part : Octets) : Octets × Bool :=
  let values := (part.takeWhile (· != '=')).map fun c => code.letters.toList.idxOf c
  let n := values.foldl (fun n value => n * Nat.pow 2 code.bits + value) 0
  let count := values.length * code.bits / 8
  let spare := values.length * code.bits - count * 8
  let isFull := part.length == code.group
  let isFit := spare < code.bits &&
    (part.drop values.length).all (· == '=')
  (Digest.bytesOf count (n / Nat.pow 2 spare), isFull && isFit && !values.isEmpty)

/-- Reads groups of letters until one makes no sense. -/
def decodeGroups (code : LetterCode) : List Octets → Octets × Bool
  | [] => ([], true)
  | part :: rest =>
    let (text, isGood) := code.decodeGroup part
    if !isGood then (text, false)
    else
      let (more, isGood) := decodeGroups code rest
      (text ++ more, isGood)

/-- The bytes that letters stand for, and whether all of them made sense. Ends of lines do not
count, and other signs only if they are not to be ignored. -/
def decode (code : LetterCode) (ignoresOthers : Bool) (text : Octets) : Octets × Bool :=
  let isKnown (c : Char) : Bool := code.letters.toList.contains c || c == '='
  let letters := text.filter fun c => c != '\n' && (isKnown c || !ignoresOthers)
  let good := letters.takeWhile isKnown
  let parts := Digest.parts code.group (good.length + 1) good
  let (bytes, isGood) := code.decodeGroups parts
  (bytes, isGood && good.length == letters.length)

/-- A text in lines of a width. -/
def wrapped (width : Nat) (text : Octets) : Octets :=
  if width == 0 then text else unlines (Digest.parts width (text.length + 1) text)

def utility (code : LetterCode) : Utility := fun arguments => do
  let rules : List OptionRule :=
    [⟨'d', "decode", .none⟩, ⟨'i', "ignore-garbage", .none⟩, ⟨'w', "wrap", .one⟩]
  withArguments rules arguments fun found => do
    let width := (found.value? 'w').map fun text => (text, Integer.decimal? text)
    match width, found.operands with
    | some (text, none), _ => complain ("invalid wrap size: ".toList ++ cite text)
    | _, _ :: extra :: _ => misuse ("extra operand ".toList ++ cite extra)
    | width, operands =>
      match ← content? (operands.headD ['-']) plainly with
      | none => pure ()
      | some text =>
        if found.has 'd' then
          let (bytes, isGood) := code.decode (found.has 'i') text
          print bytes
          unless isGood do complain "invalid input".toList
        else print (wrapped ((width.bind Prod.snd).getD 76) (code.encode text))

end LetterCode

/-- The utilities of this kind by name. -/
def digesting : List (String × Utility) :=
  [("base32", LetterCode.fiveBits.utility), ("base64", LetterCode.sixBits.utility),
    ("cksum", cyclicSums), ("md5sum", DigestKind.md5.utility), ("sha1sum", DigestKind.sha1.utility),
    ("sha224sum", DigestKind.sha224.utility), ("sha256sum", DigestKind.sha256.utility),
    ("sha384sum", DigestKind.sha384.utility), ("sha512sum", DigestKind.sha512.utility),
    ("sum", blockSums)]

end BuildRules.Shell.Utility
