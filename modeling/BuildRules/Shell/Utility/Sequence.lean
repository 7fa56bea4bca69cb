import BuildRules.Shell.Format
import BuildRules.Shell.Job

/-! Sequences of numbers. Integers are counted exactly, however large they are; other numbers have
80 bits, and each is found from its place in the sequence, so that errors do not add up. -/
namespace BuildRules.Shell.Utility
open Work

/-- An end or the step of a sequence. -/
structure Bound where
  value : Binary64
  /-- How many characters it takes without an exponent. -/
  width : Int := 0
  /-- How many places stand behind its point, if that is known. -/
  places : Option Nat := none

namespace Bound

def ofNat (n : Nat) : Bound :=
  { value := .ofRatio .extended false n 1, width := (Text.ofNat n).length, places := some 0 }

def isFinite : Binary64 → Bool
  | .finite .. => true
  | _ => false

/-- The value of a text that is a number and nothing else. -/
def value? (text : Octets) : Option Binary64 :=
  let reading := Binary64.readAs .extended text
  if !reading.found || !reading.rest.isEmpty || (reading.isOutOfRange && !reading.value.isZero) then none
  else some reading.value

/-- The width and the places of a number as it is written. An exponent is not written again, but
moves the point. -/
def measured (value : Binary64) (text : Octets) : Bound :=
  let text := text.dropWhile fun c => Integer.isSpace c || c == '+'
  let whole := text.takeWhile (· != '.')
  let hasPoint := whole.length < text.length
  let places := if hasPoint || text.contains 'p' then none else some 0
  if (text.contains 'x' || text.contains 'X') || !isFinite value then { value, places }
  else
    let isExponent (c : Char) : Bool := c == 'e' || c == 'E'
    let part := ((text.drop (whole.length + 1)).takeWhile (!isExponent ·)).length
    let places := if hasPoint then some part else places
    let pointWidth : Int :=
      if !hasPoint then 0
      else if part == 0 then -1
      else if whole.getLast?.any Char.isDigit then 0
      else 1
    let width : Int := text.length + pointWidth
    let letter := if text.contains 'e' then 'e' else 'E'
    let before := text.takeWhile (· != letter)
    if before.length == text.length then { value, width, places }
    else
      let power := (Integer.read (some 10) (text.drop (before.length + 1))).value
      let size := min power.natAbs 100000
      let moved := places.map fun n => if power < 0 then n + size else n - size
      let width := width - (text.length - before.length : Nat)
      if power < 0 then
        let isUndone := !hasPoint || part == 0
        { value, width := width + (if isUndone then 1 else 0) + size, places := moved }
      else
        let dropped : Int := if hasPoint && moved == some 0 && part != 0 then 1 else 0
        { value, width := width - dropped + (size - part : Nat), places := moved }

end Bound

/-- How the numbers of a sequence are written. -/
structure Layout where
  before : Octets := []
  directive : Format.Directive
  after : Octets := []

namespace Layout

/-- The part of a format up to a percent sign, with double ones made single, and what follows. -/
def literal : Octets → Octets × Octets
  | '%' :: '%' :: rest => let (text, rest) := literal rest; ('%' :: text, rest)
  | '%' :: rest => ([], '%' :: rest)
  | c :: rest => let (text, rest) := literal rest; (c :: text, rest)
  | [] => ([], [])

/-- Reads a format with one directive in it. -/
def read (format : Octets) : Except Octets Layout :=
  let wrong (words : Octets) : Except Octets Layout :=
    .error ("format ".toList ++ Work.cite format ++ ' ' :: words)
  match literal format with
  | (_, []) => wrong "has no % directive".toList
  | (before, _ :: text) =>
    let flags := text.takeWhile fun c => "-+#0 '".toList.contains c
    let rest := text.drop flags.length
    let width := rest.takeWhile Char.isDigit
    let rest := rest.drop width.length
    let (precision, rest) := match rest with
      | '.' :: rest =>
        let digits := rest.takeWhile Char.isDigit
        (some (Integer.ofDigits 10 digits), rest.drop digits.length)
      | _ => (none, rest)
    match if rest.head? == some 'L' then rest.drop 1 else rest with
    | [] => wrong "ends in %".toList
    | c :: rest =>
      if !"efgaEFGA".toList.contains c then
        wrong ("has unknown %".toList ++ c :: " directive".toList)
      else match literal rest with
      | (_, _ :: _) => wrong "has too many % directives".toList
      | (after, []) =>
        .ok
          { before
            directive :=
              { left := flags.contains '-'
                plus := flags.contains '+'
                space := flags.contains ' '
                alternate := flags.contains '#'
                zero := flags.contains '0'
                width := Integer.ofDigits 10 width
                precision
                conversion := some c }
            after }

/-- The layout that suits the bounds. It has the places of the first number and of the step, if
these are known, and numbers of one width have the width of the wider bound. -/
def ofBounds (isEven : Bool) (first step last : Bound) : Layout :=
  match first.places, step.places, last.places with
  | some p, some q, some r =>
    let places := max p q
    let pointed (isPointed : Bool) : Int := if isPointed then 1 else 0
    let width (bound : Bound) (own : Nat) : Int :=
      bound.width + ((places : Int) - own) + pointed (own == 0 && places != 0) -
        pointed (own != 0 && places == 0)
    let common := max (width first p) (width last r)
    { directive :=
        { zero := isEven
          width := if isEven then common.toNat else 0
          precision := some places
          conversion := some 'f' } }
  | _, _, _ => { directive := { conversion := some 'g' } }

/-- A number as it is written in the layout, without what stands around it. -/
def number (layout : Layout) (value : Binary64) : Octets :=
  Format.formatReal .extended layout.directive value

end Layout

/-- How many numbers are written of a sequence that is longer. What reads it need not read all. -/
def longestSequence : Nat := 1000000

/-- Integers from one on, as long as they are not beyond the last one if there is one. -/
def integers (first : Nat) (step : Nat) (last : Option Nat) : List Octets :=
  let count := match last with
    | some last => if last < first then 0 else (last - first) / step + 1
    | none => longestSequence
  (List.range (min count longestSequence)).map fun n => Text.ofNat (first + n * step)

/-- The numbers of a sequence as they are written, from the one that has a number on. One behind the
last is written too if it looks like the last one and unlike the one before. -/
def numbers (layout : Layout) (first step last : Binary64) : Nat → Nat → Binary64 → List Octets
  | 0, _, _ => []
  | fuel + 1, n, x =>
    let shown := layout.number x
    let next := first.plus .extended ((Binary64.ofInt (n + 1)).times .extended step)
    let isBeyond := if step.isNegative then next.isLess last else last.isLess next
    if !isBeyond then shown :: numbers layout first step last fuel (n + 1) next
    else
      let text := layout.number next
      let isLast := match Bound.value? text with
        | some value => !value.isLess last && !last.isLess value && text != shown
        | none => false
      if isLast then [shown, text] else [shown]

/-- Options up to the first argument that is none or that is a negative number. The number bounds
the work; the count of the arguments is enough. -/
def sequenceOptions (rules : List OptionRule) : Nat → List Octets → Except Octets Arguments
  | fuel + 1, argument :: rest =>
    match argument with
    | ['-', '-'] => .ok { operands := rest }
    | '-' :: c :: more => do
      if c.isDigit || c == '.' then return { operands := argument :: rest }
      let (found, rest) ←
        if c == '-' then do
          let (option, rest) ← Arguments.readLong rules more rest
          pure ([option], rest)
        else Arguments.readLetters rules (c :: more) rest
      let others ← sequenceOptions rules fuel rest
      return { others with options := found ++ others.options }
    | _ => .ok { operands := argument :: rest }
  | _, rest => .ok { operands := rest }

/-- The integers of a sequence that has only such, all from zero up, and no special form. -/
def plainSequence? (operands : List Octets) : Option (List Octets) :=
  match operands.map Integer.decimal? with
  | [some last] => some (integers 1 1 (some last))
  | [some first, some last] => some (integers first 1 (some last))
  | [some first, some step, some last] =>
    if 0 < step && step ≤ 200 then some (integers first step (some last)) else none
  | _ => none

/-- The integers of a sequence with bounds written in another way. -/
def wholeSequence? (first step last : Bound) : Option (List Octets) :=
  let integer? (value : Binary64) : Option Nat := match value with
    | .finite false mantissa exponent =>
      let (n, d) := Binary64.ratio mantissa exponent
      if n % d == 0 then some (n / d) else none
    | _ => none
  if [first, step, last].any (·.places != some 0) then none
  else match integer? first.value, integer? step.value, last.value with
  | some first, some step, .infinite false =>
    if 0 < step && step ≤ 200 then some (integers first step none) else none
  | some first, some step, last =>
    if 0 < step && step ≤ 200 then (integer? last).map fun last => integers first step (some last)
    else none
  | _, _, _ => none

/-- Reads a bound and goes on with it. -/
def withBound (text : Octets) (body : Bound → Work Unit) : Work Unit :=
  match Bound.value? text with
  | none => misuse ("invalid floating point argument: ".toList ++ cite text)
  | some (.undefined _) => misuse ("invalid 'not-a-number' argument: ".toList ++ cite text)
  | some value => body (Bound.measured value text)

def writeSequence (found : Arguments) (layout : Option Layout) (first step last : Bound) :
    Work Unit := do
  let separator := (found.value? 's').getD ['\n']
  let isPlain := layout.isNone && !found.has 'w' && separator.length == 1
  match if isPlain then (wholeSequence? first step last).getD [] else [] with
  | text :: texts => print (Text.join separator (text :: texts) ++ ['\n'])
  | [] =>
    let layout := layout.getD (.ofBounds (found.has 'w') first step last)
    let isEmpty := if step.value.isNegative then first.value.isLess last.value
      else last.value.isLess first.value
    if Format.maxWidth < layout.directive.width || layout.directive.precision.any (Format.maxWidth < ·) then
      unless isEmpty do complain "write error: Value too large for defined data type".toList
    else unless isEmpty do
      let texts := numbers layout first.value step.value last.value longestSequence 0 first.value
      let shown := texts.map fun text => layout.before ++ text ++ layout.after
      print (Text.join separator shown ++ ['\n'])

def sequence : Utility := fun arguments => do
  let rules : List OptionRule :=
    [⟨'s', "separator", .one⟩, ⟨'w', "equal-width", .none⟩, ⟨'f', "format", .one⟩]
  match sequenceOptions rules (arguments.length + 1) arguments with
  | .error message => misuse message
  | .ok found =>
    let one := Bound.ofNat 1
    match found.operands with
    | [] => misuse "missing operand".toList
    | _ :: _ :: _ :: extra :: _ => misuse ("extra operand ".toList ++ cite extra)
    | operands =>
      match (found.value? 'f').map Layout.read with
      | some (.error message) => complain message
      | some (.ok layout) =>
        if found.has 'w' then
          misuse "format string may not be specified when printing equal width strings".toList
        else go found (some layout) one operands
      | none =>
        let separator := (found.value? 's').getD ['\n']
        let isPlain := !found.has 'w' && separator.length == 1
        match if isPlain then (plainSequence? operands).getD [] else [] with
        | text :: texts => print (Text.join separator (text :: texts) ++ ['\n'])
        | [] => go found none one operands
where
  go (found : Arguments) (layout : Option Layout) (one : Bound) (operands : List Octets) : Work Unit :=
    match operands with
    | [last] => withBound last fun last => writeSequence found layout one one last
    | [first, last] =>
      withBound first fun first => withBound last fun last => writeSequence found layout first one last
    | [first, step, last] =>
      withBound first fun first => withBound step fun stepBound =>
        if stepBound.value.isZero then
          misuse ("invalid Zero increment value: ".toList ++ cite step)
        else withBound last fun last => writeSequence found layout first stepBound last
    | _ => pure ()

end BuildRules.Shell.Utility
