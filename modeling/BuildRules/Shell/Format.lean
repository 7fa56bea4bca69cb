import BuildRules.Shell.Binary64

/-! Formatted output: the escapes of `echo`, and the directives of `printf`. -/
namespace BuildRules.Shell.Format

def isOctal (c : Char) : Bool := '0' ≤ c && c ≤ '7'

/-- The byte that octal digits give; higher bits are dropped. -/
def octalByte (digits : Octets) : Char := Char.ofNat (Integer.ofDigits 8 digits % 256)

/-- The letters that name a control character after a backslash. -/
def control? (c : Char) : Option Char :=
  match c with
  | 'a' => some '\x07'
  | 'b' => some '\x08'
  | 'e' => some '\x1b'
  | 'f' => some '\x0c'
  | 'n' => some '\n'
  | 'r' => some '\r'
  | 't' => some '\t'
  | 'v' => some '\x0b'
  | '\\' => some '\\'
  | _ => none

/-- The byte of the escape that starts right before the text, and how many characters it
takes. In an argument a zero before octal digits does not count as one of them. -/
def escape? (inArgument : Bool) (text : Octets) : Option (Char × Nat) :=
  match text with
  | [] => none
  | c :: rest =>
    if inArgument && c == '0' && rest.head?.any isOctal then
      let digits := (rest.take 3).takeWhile isOctal
      some (octalByte digits, digits.length + 1)
    else if isOctal c then
      let digits := ((c :: rest).take 3).takeWhile isOctal
      some (octalByte digits, digits.length)
    else (control? c).map fun byte => (byte, 1)

/-- Replaces the escapes of an argument, and says whether `\c` has ended all output. The first
`skip` characters belong to an escape already replaced. -/
def unescape (skip : Nat) (seen : Octets) : Octets → Octets × Bool
  | [] => (seen.reverse, false)
  | c :: rest =>
    match skip with
    | skip + 1 => unescape skip seen rest
    | 0 =>
      if c == '\\' then
        if rest.head? == some 'c' then (seen.reverse, true)
        else match escape? true rest with
          | some (byte, length) => unescape length (byte :: seen) rest
          | none => unescape 0 (c :: seen) rest
      else unescape 0 (c :: seen) rest

/-- What `echo` writes. -/
def echo (arguments : List Octets) : Octets :=
  let (newline, words) := match arguments with
    | ['-', 'n'] :: rest => (false, rest)
    | all => (true, all)
  let (text, stopped) := unescape 0 [] (Text.join [' '] words)
  if newline && !stopped then text ++ ['\n'] else text

structure Directive where
  left : Bool := false
  plus : Bool := false
  space : Bool := false
  alternate : Bool := false
  zero : Bool := false
  width : Nat := 0
  precision : Option Nat := none
  conversion : Option Char := none
  /-- How the directive is written. -/
  text : Octets := []

/-- What a run of `printf` has produced, and the arguments that are left. -/
structure Progress where
  arguments : List Octets
  /-- Last byte first. -/
  output : Octets := []
  complaints : List Octets := []
  stopped : Bool := false
  /-- Whether a directive was not understood. -/
  isRefused : Bool := false

namespace Progress

def put (progress : Progress) (text : Octets) : Progress :=
  { progress with output := text.reverse ++ progress.output }

def complain (progress : Progress) (text : Octets) : Progress :=
  { progress with complaints := progress.complaints ++ [text] }

def refuse (progress : Progress) (text : Octets) : Progress :=
  { progress.complain text with stopped := true, isRefused := true }

/-- The next argument; there is no end of empty ones. -/
def take (progress : Progress) : Octets × Progress :=
  (progress.arguments.headD [], { progress with arguments := progress.arguments.drop 1 })

/-- Complains of a number that has not been read as it was written. -/
def check (progress : Progress) (text rest : Octets) (found isOutOfRange : Bool) : Progress :=
  if !rest.isEmpty then
    progress.complain (text ++
      (if found then ": not completely converted" else ": expected numeric value").toList)
  else if isOutOfRange then progress.complain (text ++ ": Numerical result out of range".toList)
  else progress

/-- The integer that an argument stands for. A quote makes it the number of a character. -/
def takeInteger (signed : Bool) (progress : Progress) : Int × Progress :=
  let (text, progress) := progress.take
  match text with
  | '\'' :: rest | '"' :: rest => ((rest.headD '\x00').toNat, progress)
  | _ =>
    let reading := Integer.readExact none text
    let limit : Int := if signed then Integer.greatest else Integer.wordCount - 1
    let least : Int := if signed then Integer.least else -limit
    let value := if signed then max least (min limit reading.value)
      else if limit < reading.value || reading.value < least then limit else reading.value
    (value, progress.check text reading.rest reading.found (value != reading.value))

/-- The number with a point that an argument stands for. -/
def takeReal (progress : Progress) : Binary64 × Progress :=
  let (text, progress) := progress.take
  match text with
  | '\'' :: rest | '"' :: rest => (.ofInt (rest.headD '\x00').toNat, progress)
  | _ =>
    let reading := Binary64.read text
    (reading.value, progress.check text reading.rest reading.found reading.isOutOfRange)

end Progress

/-- Fills a text up to the width of its field. -/
def pad (directive : Directive) (text : Octets) : Octets :=
  let fill := List.replicate (directive.width - text.length) ' '
  if directive.left then text ++ fill else fill ++ text

/-- Puts a sign or prefix before digits, with zeros between them if they fill the field. -/
def padNumber (directive : Directive) (filled : Bool) (sign digits : Octets) : Octets :=
  let fill := if filled && directive.zero && !directive.left then
      List.replicate (directive.width - sign.length - digits.length) '0'
    else []
  pad directive (sign ++ fill ++ digits)

def signOf (directive : Directive) (isNegative : Bool) : Octets :=
  if isNegative then ['-'] else if directive.plus then ['+'] else if directive.space then [' ']
  else []

def formatInteger (directive : Directive) (n : Int) : Octets :=
  let conversion := directive.conversion.getD 'd'
  let isSigned := conversion == 'd' || conversion == 'i'
  let magnitude : Nat :=
    if isSigned then n.natAbs else (n % (Integer.wordCount : Int)).toNat
  let base := match conversion with
    | 'o' => 8
    | 'x' | 'X' => 16
    | _ => 10
  let raw := Nat.toDigits base magnitude
  let cased := if conversion == 'X' then raw.map Char.toUpper else raw
  let bare := if directive.precision == some 0 && magnitude == 0 then [] else cased
  let digits := List.replicate (directive.precision.getD 0 - bare.length) '0' ++ bare
  let digits := if conversion == 'o' && directive.alternate && digits.head? != some '0' then
      '0' :: digits
    else digits
  let sign :=
    if isSigned then signOf directive (n < 0)
    else if directive.alternate && magnitude != 0 && base == 16 then ['0', conversion]
    else []
  padNumber directive directive.precision.isNone sign digits

/-- A number with a point. A capital letter asks for capitals. -/
def formatReal (width : Binary64.Width) (directive : Directive) (value : Binary64) : Octets :=
  let conversion := directive.conversion.getD 'f'
  let cased (text : Octets) : Octets :=
    if conversion.isUpper then text.map Char.toUpper else text
  let sign := signOf directive value.isNegative
  match value with
  | .infinite _ => padNumber directive false sign (cased "inf".toList)
  | .undefined _ => padNumber directive false sign (cased "nan".toList)
  | .finite _ mantissa exponent =>
    let places := directive.precision.getD 6
    match conversion.toLower with
    | 'e' =>
      padNumber directive true sign (cased (Binary64.scientific directive.alternate places mantissa exponent))
    | 'g' =>
      padNumber directive true sign (cased (Binary64.general directive.alternate places mantissa exponent))
    | 'a' =>
      let text := cased (Binary64.hexadecimal width directive.alternate directive.precision mantissa exponent)
      padNumber directive true (sign ++ text.take 2) (text.drop 2)
    | _ => padNumber directive true sign (Binary64.fixed directive.alternate places mantissa exponent)

/-- Reads the flags, width, precision and conversion behind a percent sign. The width and the
precision can be arguments. -/
def readDirective (text : Octets) (progress : Progress) : Directive × Octets × Progress :=
  let flags := text.takeWhile fun c => "-+ #0".toList.contains c
  let readNumber (rest : Octets) (progress : Progress) : Int × Octets × Progress :=
    match rest with
    | '*' :: rest =>
      let (n, progress) := progress.takeInteger true
      (n.bmod 0x100000000, rest, progress)
    | _ =>
      let digits := rest.takeWhile Char.isDigit
      ((Integer.ofDigits 10 digits : Nat), rest.drop digits.length, progress)
  let (width, rest, progress) := readNumber (text.drop flags.length) progress
  let (precision, rest, progress) : Option Nat × Octets × Progress := match rest with
    | '.' :: rest =>
      let (n, rest, progress) := readNumber rest progress
      (if n < 0 then none else some n.toNat, rest, progress)
    | _ => (none, rest, progress)
  ({ left := flags.contains '-' || width < 0
     plus := flags.contains '+'
     space := flags.contains ' '
     alternate := flags.contains '#'
     zero := flags.contains '0'
     width := width.natAbs
     precision := precision
     conversion := rest.head?
     text := '%' :: text.take (text.length - rest.length + 1) }, rest.drop 1, progress)

/-- How wide a field can be, and how many places can be asked for. -/
def maxWidth : Nat := 0x7FFFFFFF

/-- Carries out a directive. -/
def convert (directive : Directive) (progress : Progress) : Progress :=
  let cut (text : Octets) : Octets := match directive.precision with
    | some n => text.take n
    | none => text
  let isKnown := directive.conversion.any "sbcdiouxXeEfFgGaA".toList.contains
  if isKnown && (maxWidth < directive.width || directive.precision.any (maxWidth < ·)) then
    progress.refuse "xvsnprintf failed".toList
  else match directive.conversion with
  | none => progress.refuse "missing format character".toList
  | some 's' =>
    let (text, progress) := progress.take
    progress.put (pad directive (cut text))
  | some 'b' =>
    let (text, progress) := progress.take
    let (text, stopped) := unescape 0 [] text
    { progress.put (pad directive (cut text)) with stopped := stopped }
  | some 'c' =>
    let (text, progress) := progress.take
    progress.put (pad directive [text.headD '\x00'])
  | some c =>
    if "diouxX".toList.contains c then
      let (n, progress) := progress.takeInteger (c == 'd' || c == 'i')
      progress.put (formatInteger directive n)
    else if "eEfFgGaA".toList.contains c then
      let (value, progress) := progress.takeReal
      progress.put (formatReal .double directive value)
    else progress.refuse (directive.text ++ ": invalid directive".toList)

/-- Goes through the format once. The number bounds the work; the length of the format is
enough. -/
def once : Nat → Octets → Progress → Progress
  | 0, _, progress => progress
  | _, [], progress => progress
  | fuel + 1, c :: rest, progress =>
    if progress.stopped then progress
    else match c, rest with
    | '\\', _ =>
      match escape? false rest with
      | some (byte, length) => once fuel (rest.drop length) (progress.put [byte])
      | none => once fuel rest (progress.put ['\\'])
    | '%', '%' :: after => once fuel after (progress.put ['%'])
    | '%', _ =>
      let (directive, rest, progress) := readDirective rest progress
      once fuel rest (convert directive progress)
    | _, _ => once fuel rest (progress.put [c])

/-- Goes through the format as long as arguments are left and it takes some. -/
def repeatedly (format : Octets) : Nat → Progress → Progress
  | 0, progress => progress
  | fuel + 1, progress =>
    let before := progress.arguments.length
    let progress := once format.length format progress
    let after := progress.arguments.length
    if progress.stopped || after == 0 || after == before then progress
    else repeatedly format fuel progress

def printf (format : Octets) (arguments : List Octets) : Progress :=
  repeatedly format (arguments.length + 1) { arguments := arguments }

example : (printf "%05d|%-3s|%x\\n".toList ["7".toList, "a".toList, "255".toList]).output.reverse =
    "00007|a  |ff\n".toList := by decide
example : echo ["a\\tb".toList] = "a\tb\n".toList := by decide

end BuildRules.Shell.Format
