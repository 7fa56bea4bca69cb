import BuildRules.Shell.Format
import BuildRules.Shell.Job

/-! The program that fills a format with arguments. It knows more escapes and directives than the
command of the shell that has its name, and complains in other words. -/
namespace BuildRules.Shell.Utility
open Work

/-- A part of the program: what it writes, the arguments that are left, and whether it has ended
before its time. -/
abbrev Filling := StateT (List Octets) (ExceptT Unit Work)

namespace Filling

/-- Complains and ends the program. -/
def abort {α : Type} (message : Octets) : Filling α := do
  complain message
  throw ()

/-- Ends the program as if nothing had been wrong. -/
def finish {α : Type} : Filling α := do
  modifyThe Job fun job => { job with status := 0 }
  throw ()

/-- The next argument, if one is left. -/
def next? : Filling (Option Octets) := fun arguments => pure (arguments.head?, arguments.drop 1)

def isHexadecimal (c : Char) : Bool := Integer.digitValue c < 16

/-- How a character that is not one of the locale is written. -/
def numbered (number : Nat) : Octets :=
  let digits := (Nat.toDigits 16 number).map Char.toUpper
  let (letter, count) := if number < 0x10000 then ('u', 4) else ('U', 8)
  '\\' :: letter :: List.replicate (count - digits.length) '0' ++ digits

/-- Writes what an escape stands for, and gives the text behind it. The text begins behind the
backslash. In an argument a zero before octal digits does not count as one of them. -/
def escape (inArgument : Bool) (text : Octets) : Filling Octets := do
  let missing := "missing hexadecimal number in escape".toList
  match text with
  | [] =>
    print ['\\']
    return []
  | 'c' :: _ => finish
  | 'x' :: rest =>
    let digits := (rest.take 2).takeWhile isHexadecimal
    if digits.isEmpty then abort missing
    print [Char.ofNat (Integer.ofDigits 16 digits)]
    return rest.drop digits.length
  | c :: rest =>
    if Format.isOctal c then
      let start := if inArgument && c == '0' then rest else c :: rest
      let digits := (start.take 3).takeWhile Format.isOctal
      print [Format.octalByte digits]
      return start.drop digits.length
    else if c == 'u' || c == 'U' then
      let count := if c == 'u' then 4 else 8
      let digits := (rest.take count).takeWhile isHexadecimal
      let number := Integer.ofDigits 16 digits
      if digits.length < count then abort missing
      if 0xD800 ≤ number && number < 0xE000 then
        abort ("invalid universal character name \\".toList ++ c :: digits.map Char.toLower)
      print (if number < 128 then [Char.ofNat number] else numbered number)
      return rest.drop count
    else
      print (match Format.control? c with
        | some byte => [byte]
        | none => if c == '"' then [c] else ['\\', c])
      return rest

/-- Writes an argument with its escapes replaced. The number bounds the work; the length of the
text is enough. -/
def unescaped : Nat → Octets → Filling Unit
  | fuel + 1, '\\' :: rest => do unescaped fuel (← escape true rest)
  | fuel + 1, c :: rest => do
    print [c]
    unescaped fuel rest
  | _, _ => pure ()

/-- Complains of a number that has not been read as it was written. -/
def check (text rest : Octets) (found isOutOfRange : Bool) : Filling Unit := do
  if isOutOfRange then complain (cite text ++ ": Numerical result out of range".toList)
  else unless rest.isEmpty do
    complain (cite text ++
      (if found then ": value not completely converted" else ": expected a numeric value").toList)

/-- The number of a character that is given behind a quote. -/
def character? (text : Octets) : Filling (Option Nat) := do
  match text with
  | mark :: c :: rest =>
    if mark != '\'' && mark != '"' then return none
    unless rest.isEmpty || ((← getThe Job).environment.lookup "POSIXLY_CORRECT".toList).isSome do
      note ((← getThe Job).name ++ ": warning: ".toList ++ rest ++
        ": character(s) following character constant have been ignored\n".toList)
    return some c.toNat
  | _ => return none

def integer (isSigned : Bool) (text : Octets) : Filling Int := do
  match ← character? text with
  | some number => return number
  | none =>
    let reading := Integer.readExact none text
    let limit : Int := if isSigned then Integer.greatest else Integer.wordCount - 1
    let least : Int := if isSigned then Integer.least else -limit
    let value := if isSigned then max least (min limit reading.value)
      else if limit < reading.value || reading.value < least then limit else reading.value
    check text reading.rest reading.found (value != reading.value)
    return value

def real (text : Octets) : Filling Binary64 := do
  match ← character? text with
  | some number => return .ofRatio .extended false number 1
  | none =>
    let reading := Binary64.readAs .extended text
    check text reading.rest reading.found (reading.found && reading.isOutOfRange)
    return reading.value

/-- A width or a precision, which can be an argument, and what follows it. -/
def amount (text : Octets) : Filling (Int × Octets) := do
  match text with
  | '*' :: rest =>
    match ← next? with
    | none => return (0, rest)
    | some argument => return (← integer true argument, rest)
  | _ =>
    let digits := text.takeWhile Char.isDigit
    return ((Integer.ofDigits 10 digits : Nat), text.drop digits.length)

/-- The conversions that a directive can have. -/
def conversions (flags : Octets) (hasPrecision : Bool) : Octets :=
  let refused (flag : Char) : Octets := match flag with
    | '\'' | 'I' => "aAceEosxX".toList
    | '#' => "cdisu".toList
    | '0' => "cs".toList
    | _ => []
  let left := "aAcdeEfFgGiosuxX".toList.filter fun c => flags.all fun flag => !(refused flag).contains c
  if hasPrecision then left.erase 'c' else left

/-- Carries out a directive that has been read. -/
def convert (directive : Format.Directive) : Filling Unit := do
  let conversion := directive.conversion.getD 'd'
  let text := (← next?).getD []
  if Format.maxWidth < directive.width || directive.precision.any (Format.maxWidth < ·) then
    abort "write error".toList
  else if conversion == 'c' then print (Format.pad directive [text.headD '\x00'])
  else if conversion == 's' then
    print (Format.pad directive (text.take (directive.precision.getD text.length)))
  else if "diouxX".toList.contains conversion then
    let n ← integer (conversion == 'd' || conversion == 'i') text
    print (Format.formatInteger directive n)
  else print (Format.formatReal .extended directive (← real text))

/-- Reads the directive behind a percent sign and carries it out. Gives the text behind it. -/
def directive (text : Octets) : Filling Octets := do
  let flags := text.takeWhile fun c => "I'-+ #0".toList.contains c
  let start := text.drop flags.length
  let given := (← get).headD []
  let (width, rest) ← amount start
  if start.head? == some '*' && !(-Format.maxWidth - 1 ≤ width && width ≤ Format.maxWidth) then
    abort ("invalid field width: ".toList ++ cite given)
  let given := (← get).headD []
  let hasPrecision := rest.head? == some '.'
  let after := rest.drop 1
  let (precision, rest) ← if hasPrecision then amount after else pure (0, rest)
  if hasPrecision && after.head? == some '*' && Format.maxWidth < precision then
    abort ("invalid precision: ".toList ++ cite given)
  let rest := rest.dropWhile fun c => "lLhjtz".toList.contains c
  match rest with
  | c :: behind =>
    if !(conversions flags hasPrecision).contains c then
      let shown := text.take (text.length - behind.length)
      abort ('%' :: shown ++ ": invalid conversion specification".toList)
    convert
      { left := flags.contains '-' || width < 0
        plus := flags.contains '+'
        space := flags.contains ' '
        alternate := flags.contains '#'
        zero := flags.contains '0'
        width := width.natAbs
        precision := if hasPrecision && 0 ≤ precision then some precision.toNat else none
        conversion := some c }
    return behind
  | [] => abort ('%' :: text ++ ": invalid conversion specification".toList)

/-- Goes through the format once. The number bounds the work; the length of the format is
enough. -/
def once : Nat → Octets → Filling Unit
  | fuel + 1, '\\' :: rest => do once fuel (← escape false rest)
  | fuel + 1, '%' :: '%' :: rest => do
    print ['%']
    once fuel rest
  | fuel + 1, '%' :: 'b' :: rest => do
    let text := (← next?).getD []
    unescaped text.length text
    once fuel rest
  | fuel + 1, '%' :: 'q' :: rest => do
    if let some text ← next? then print (quoteIfNeeded text)
    once fuel rest
  | fuel + 1, '%' :: rest => do once fuel (← directive rest)
  | fuel + 1, c :: rest => do
    print [c]
    once fuel rest
  | _, _ => pure ()

/-- Goes through the format as long as arguments are left and it takes some. -/
def repeatedly (format : Octets) : Nat → Filling Unit
  | 0 => pure ()
  | fuel + 1 => do
    let before := (← get).length
    once format.length format
    let left := (← get).length
    if 0 < left && left < before then repeatedly format fuel

end Filling

def printf : Utility := fun arguments => do
  let rest := if arguments.head? == some ['-', '-'] then arguments.drop 1 else arguments
  match rest with
  | [] => misuse "missing operand".toList
  | format :: values =>
    match ← ((Filling.repeatedly format (values.length + 1)).run values).run with
    | .ok ((), extra :: _) =>
      note ((← get).name ++ ": warning: ignoring excess arguments, starting with ".toList ++
        cite extra ++ ['\n'])
    | _ => pure ()

end BuildRules.Shell.Utility
