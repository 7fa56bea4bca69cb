import BuildRules.Shell.Integer

/-! Numbers of binary floating point, kept as exact values: a finite one is an integer times a
power of two. They have 64 bits unless a wider format is asked for. Decimal text is read to the
nearest number, and a number is written as its exact value rounded to the digits asked for; a tie
goes to the even neighbour both times. -/
namespace BuildRules.Shell

inductive Binary64
  /-- The magnitude `mantissa * 2 ^ exponent`. -/
  | finite (isNegative : Bool) (mantissa : Nat) (exponent : Int)
  | infinite (isNegative : Bool)
  | undefined (isNegative : Bool)
deriving DecidableEq, Repr

namespace Binary64

/-- What the numbers of a format have in common. -/
structure Width where
  /-- How many bits a mantissa has. -/
  bits : Nat
  /-- The exponent of the smallest numbers. -/
  least : Int
  /-- The exponent of the largest numbers. -/
  greatest : Int
  /-- How many bits of a mantissa stand before the point in hexadecimal. -/
  leading : Nat

/-- The format of 64 bits. -/
def Width.double : Width := ⟨53, -1074, 971, 1⟩

/-- The format of 80 bits. -/
def Width.extended : Width := ⟨64, -16445, 16320, 4⟩

def zero : Binary64 := finite false 0 0

def isNegative : Binary64 → Bool
  | finite n _ _ | infinite n | undefined n => n

def isZero : Binary64 → Bool
  | finite _ m _ => m == 0
  | _ => false

/-- The power of a base. -/
def power (base : Nat) (n : Nat) : Nat := Nat.pow base n

/-- The quotient rounded to the nearest integer; a tie goes to the even one. -/
def roundDiv (numerator denominator : Nat) : Nat :=
  let q := numerator / denominator
  let twice := 2 * (numerator % denominator)
  if twice < denominator || (twice == denominator && q % 2 == 0) then q else q + 1

/-- The quotient of two numbers times a power of a base, as a quotient. -/
def scaled (base : Nat) (numerator denominator : Nat) (exponent : Int) : Nat × Nat :=
  match exponent with
  | .ofNat n => (numerator * power base n, denominator)
  | .negSucc n => (numerator, denominator * power base (n + 1))

/-- The number nearest to a quotient. -/
def ofRatio (width : Width) (isNegative : Bool) (numerator denominator : Nat) : Binary64 :=
  if numerator == 0 then finite isNegative 0 0
  else
    let estimate : Int := (Nat.log2 numerator : Int) - Nat.log2 denominator - width.bits + 1
    let (n, d) := scaled 2 numerator denominator (-estimate)
    let exponent := if n / d < power 2 (width.bits - 1) then estimate - 1 else estimate
    let exponent := max exponent width.least
    let (n, d) := scaled 2 numerator denominator (-exponent)
    let mantissa := roundDiv n d
    let (mantissa, exponent) :=
      if mantissa == power 2 width.bits then (mantissa / 2, exponent + 1) else (mantissa, exponent)
    if width.greatest < exponent then infinite isNegative else finite isNegative mantissa exponent

/-- The magnitude of a finite number as a quotient. -/
def ratio (mantissa : Nat) (exponent : Int) : Nat × Nat := scaled 2 mantissa 1 exponent

def ofInt (n : Int) : Binary64 := ofRatio .double (n < 0) n.natAbs 1

/-- The finite number that an integer times a power of two is nearest to. A sum of nothing but
negative zeros is one. -/
def ofScaled (width : Width) (isNegativeZero : Bool) (n : Int) (exponent : Int) : Binary64 :=
  if n == 0 then finite isNegativeZero 0 0
  else
    let (numerator, denominator) := ratio n.natAbs exponent
    ofRatio width (n < 0) numerator denominator

/-- A mantissa with its sign. -/
def signed (isNegative : Bool) (mantissa : Nat) : Int := if isNegative then -(mantissa : Int) else mantissa

def plus (width : Width) (a b : Binary64) : Binary64 :=
  match a, b with
  | finite n m e, finite n' m' e' =>
    let low := min e e'
    let aligned (isNegative : Bool) (mantissa : Nat) (exponent : Int) : Int :=
      signed isNegative (mantissa * power 2 (exponent - low).toNat)
    ofScaled width (n && n') (aligned n m e + aligned n' m' e') low
  | finite .., other | other, finite .. => other
  | infinite n, infinite n' => if n == n' then infinite n else undefined true
  | undefined n, _ | _, undefined n => undefined n

def times (width : Width) (a b : Binary64) : Binary64 :=
  let isNegative := a.isNegative != b.isNegative
  match a, b with
  | finite _ m e, finite _ m' e' =>
    ofScaled width isNegative (signed isNegative (m * m')) (e + e')
  | undefined n, _ | _, undefined n => undefined n
  | _, _ => if a.isZero || b.isZero then undefined true else infinite isNegative

/-- Whether a number is less than another one. What is undefined is not. -/
def isLess (a b : Binary64) : Bool :=
  match a, b with
  | undefined _, _ | _, undefined _ => false
  | infinite n, infinite n' => n && !n'
  | infinite n, finite .. => n
  | finite .., infinite n => !n
  | finite n m e, finite n' m' e' =>
    let low := min e e'
    signed n (m * power 2 (e - low).toNat) < signed n' (m' * power 2 (e' - low).toNat)

/-- A number at the start of a text, with what follows it. -/
structure Reading where
  value : Binary64
  rest : Octets
  found : Bool
  /-- Whether the value written lies outside what can be told apart. -/
  isOutOfRange : Bool

/-- Whether a word stands at the start of a text, in whatever case. -/
def startsWith (word : String) (text : Octets) : Bool :=
  (text.take word.length).map Char.toLower == word.toList

/-- An exponent behind its letter, with what follows it. -/
def readExponent (letter : Char) (text : Octets) : Int × Octets :=
  match text with
  | c :: rest =>
    if c.toLower != letter then (0, text)
    else
      let (isNegative, digits) := match rest with
        | '-' :: digits => (true, digits)
        | '+' :: digits => (false, digits)
        | _ => (false, rest)
      let taken := digits.takeWhile Char.isDigit
      if taken.isEmpty then (0, text)
      else
        let n : Int := min (Integer.ofDigits 10 taken) 100000
        (if isNegative then -n else n, digits.drop taken.length)
  | [] => (0, [])

/-- Digits with a point among them, in a base: the integer that they make, how many stand behind
the point, and what follows. -/
def readDigits? (base : Nat) (text : Octets) : Option (Nat × Nat × Octets) :=
  let isDigit (c : Char) : Bool := Integer.digitValue c < base
  let whole := text.takeWhile isDigit
  let rest := text.drop whole.length
  let (part, after) := match rest with
    | '.' :: more =>
      let part := more.takeWhile isDigit
      if whole.isEmpty && part.isEmpty then ([], rest) else (part, more.drop part.length)
    | _ => ([], rest)
  if whole.isEmpty && part.isEmpty then none
  else some (Integer.ofDigits base (whole ++ part), part.length, after)

/-- Reads a number of a format with blanks and a sign before it. -/
def readAs (width : Width) (text : Octets) : Reading :=
  let start := text.dropWhile Integer.isSpace
  let (isNegative, body) := match start with
    | '-' :: rest => (true, rest)
    | '+' :: rest => (false, rest)
    | _ => (false, start)
  let made (numerator denominator : Nat) (rest : Octets) : Reading :=
    let value := ofRatio width isNegative numerator denominator
    let isLost := match value with
      | finite _ m _ => numerator != 0 && m < power 2 (width.bits - 1)
      | _ => true
    ⟨value, rest, true, isLost⟩
  let hexadecimal : Option Reading :=
    if startsWith "0x" body then
      (readDigits? 16 (body.drop 2)).map fun (n, places, rest) =>
        let (exponent, rest) := readExponent 'p' rest
        let (n, d) := scaled 2 n 1 (exponent - 4 * places)
        made n d rest
    else none
  match hexadecimal with
  | some reading => reading
  | none =>
    if startsWith "infinity" body then ⟨infinite isNegative, body.drop 8, true, false⟩
    else if startsWith "inf" body then ⟨infinite isNegative, body.drop 3, true, false⟩
    else if startsWith "nan" body then ⟨undefined isNegative, body.drop 3, true, false⟩
    else match readDigits? 10 body with
    | none => ⟨zero, text, false, false⟩
    | some (n, places, rest) =>
      let (exponent, rest) := readExponent 'e' rest
      let (n, d) := if n == 0 then (0, 1) else scaled 10 n 1 (exponent - places)
      made n d rest

/-- Reads a number of 64 bits. -/
def read (text : Octets) : Reading := readAs .double text

/-- The magnitude times a power of ten, rounded to an integer. -/
def roundedTimes (mantissa : Nat) (exponent : Int) (tens : Int) : Nat :=
  let (n, d) := ratio mantissa exponent
  let (n, d) := scaled 10 n d tens
  roundDiv n d

/-- The exponent of the greatest power of ten that is no greater than the magnitude. -/
def decimalExponent (mantissa : Nat) (exponent : Int) : Int :=
  let (n, d) := ratio mantissa exponent
  let estimate : Int := ((Nat.toDigits 10 n).length : Int) - (Nat.toDigits 10 d).length
  let (p, q) := scaled 10 1 1 estimate
  if p * d ≤ n * q then estimate else estimate - 1

/-- The digits of a number, filled with zeros before them up to a width. -/
def digits (width n : Nat) : Octets :=
  let text := Nat.toDigits 10 n
  List.replicate (width - text.length) '0' ++ text

/-- A point is written where digits follow it, or where it is asked for. -/
def withPoint (pointed : Bool) (whole part : Octets) : Octets :=
  if part.isEmpty && !pointed then whole else whole ++ '.' :: part

/-- The magnitude with a number of places behind the point. -/
def fixed (pointed : Bool) (places : Nat) (mantissa : Nat) (exponent : Int) : Octets :=
  let text := digits (places + 1) (roundedTimes mantissa exponent places)
  let whole := text.take (text.length - places)
  withPoint pointed whole (text.drop whole.length)

/-- The digits of the magnitude with one before the point and a number of places behind it, and
the power of ten that goes with them. -/
def significant (places : Nat) (mantissa : Nat) (exponent : Int) : Octets × Int :=
  if mantissa == 0 then (digits (places + 1) 0, 0)
  else
    let power := decimalExponent mantissa exponent
    let text := digits (places + 1) (roundedTimes mantissa exponent (places - power))
    if text.length == places + 1 then (text, power) else (text.dropLast, power + 1)

/-- A sign and at least two digits. -/
def exponentText (letter : Char) (power : Int) : Octets :=
  letter :: (if power < 0 then '-' else '+') :: digits 2 power.natAbs

def scientific (pointed : Bool) (places : Nat) (mantissa : Nat) (exponent : Int) : Octets :=
  let (text, power) := significant places mantissa exponent
  withPoint pointed (text.take 1) (text.drop 1) ++ exponentText 'e' power

def trimZeros (text : Octets) : Octets := (text.reverse.dropWhile (· == '0')).reverse

/-- The shorter of the two forms for a number of significant digits, without the zeros at the end
unless they are asked for. -/
def general (kept : Bool) (count : Nat) (mantissa : Nat) (exponent : Int) : Octets :=
  let count := max count 1
  let (text, power) := significant (count - 1) mantissa exponent
  let trim (part : Octets) : Octets := if kept then part else trimZeros part
  if power < -4 || (count : Int) ≤ power then
    withPoint kept (text.take 1) (trim (text.drop 1)) ++ exponentText 'e' power
  else if power < 0 then
    withPoint kept ['0'] (trim (List.replicate (power.natAbs - 1) '0' ++ text))
  else
    let whole := power.toNat + 1
    withPoint kept (text.take whole) (trim (text.drop whole))

/-- The magnitude in hexadecimal, with the power of two that goes with it. Digits without a limit
are as many as the mantissa of the format has. -/
def hexadecimal (width : Width) (pointed : Bool) (places : Option Nat) (mantissa : Nat)
    (exponent : Int) : Octets :=
  let isNormal := power 2 (width.bits - 1) ≤ mantissa
  let bits := width.bits - width.leading
  let power2 : Int := if mantissa == 0 then 0 else if isNormal then exponent + bits
    else width.least + bits
  let rounded (n : Nat) : Nat := roundDiv (mantissa * power 16 n) (power 2 bits)
  let hex (n value : Nat) : Octets × Octets :=
    let text := Nat.toDigits 16 value
    let text := List.replicate (n + 1 - text.length) '0' ++ text
    (text.take (text.length - n), text.drop (text.length - n))
  let all := bits / 4
  let (whole, part) := match places with
    | some n => hex n (rounded n)
    | none => let (whole, part) := hex all (rounded all); (whole, trimZeros part)
  let (whole, part, power2) :=
    if whole.length == 1 then (whole, part, power2)
    else (whole.take 1, (whole.drop 1 ++ part).take part.length, power2 + 4)
  "0x".toList ++ withPoint pointed whole part ++ 'p' ::
    (if power2 < 0 then '-' else '+') :: Nat.toDigits 10 power2.natAbs

example : fixed false 1 9 (-2) = "2.2".toList := by decide
example : (read "1e3x".toList).rest = ['x'] := by decide

end Binary64

end BuildRules.Shell
