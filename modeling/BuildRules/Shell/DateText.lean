import BuildRules.Shell.Calendar
import BuildRules.Shell.Integer

/-! Dates as people write them: days, times of day and time zones in several forms, and how far
away from now. The parts can stand in any order. -/
namespace BuildRules.Shell

/-- What has been read of a date. -/
structure DateText where
  civil : Civil
  dates : Nat := 0
  times : Nat := 0
  /-- Whether the year is still to come. -/
  lacksYear : Bool := false
  weekDays : Nat := 0
  weekDay : Int := 0
  ordinal : Int := 0
  zones : Nat := 0
  /-- Seconds to the east. -/
  offset : Int := 0
  distances : Nat := 0
  /-- What is added: months, days and seconds. -/
  months : Int := 0
  days : Int := 0
  seconds : Int := 0

namespace DateText

/-- A piece of the text. A number keeps its sign and the count of its digits. -/
inductive Piece
  | number (sign : Option Char) (value : Int) (digits : Nat)
  | word (text : Octets)
  | mark (c : Char)
deriving DecidableEq

/-- The pieces of a text. The mark says whether a blank stands before the piece. -/
def pieces (spaced : Bool) : Nat → Octets → List (Bool × Piece)
  | 0, _ => []
  | _, [] => []
  | fuel + 1, c :: rest =>
    let number (sign : Option Char) (text : Octets) : List (Bool × Piece) :=
      let digits := text.takeWhile Char.isDigit
      let value : Int := Integer.ofDigits 10 digits
      (spaced, .number sign (if sign == some '-' then -value else value) digits.length) ::
        pieces false fuel (text.drop digits.length)
    if c == ' ' || c == '\t' || c == '\n' then pieces true fuel rest
    else if c.isDigit then number none (c :: rest)
    else if (c == '+' || c == '-') && (rest.dropWhile (· == ' ')).head?.any Char.isDigit then
      number (some c) (rest.dropWhile (· == ' '))
    else if c.isAlpha then
      let word := (c :: rest).takeWhile fun d => d.isAlpha || d == '.'
      (spaced, .word ((word.filter (· != '.')).map Char.toLower)) ::
        pieces false fuel ((c :: rest).drop word.length)
    else (spaced, .mark c) :: pieces false fuel rest

/-- The place of a word in a list; its first three letters are enough. -/
def placeIn (names : List String) (word : Octets) : Option Nat :=
  names.findIdx? fun name => name.toList == word || (name.toList.take 3 == word)

def month? (word : Octets) : Option Int :=
  (placeIn ["january", "february", "march", "april", "may", "june", "july", "august", "september",
    "october", "november", "december"] (if word == "sept".toList then "sep".toList else word)).map
    fun n => (n : Int) + 1

def weekDay? (word : Octets) : Option Int :=
  (placeIn ["sunday", "monday", "tuesday", "wednesday", "thursday", "friday", "saturday"] word).map
    fun n => (n : Int)

/-- What a unit of time adds, as months, days and seconds. -/
def unit? (word : Octets) : Option (Int × Int × Int) :=
  let single := if word.getLast? == some 's' && word.length > 2 then word.dropLast else word
  match String.ofList single with
  | "year" => some (12, 0, 0)
  | "month" => some (1, 0, 0)
  | "fortnight" => some (0, 14, 0)
  | "week" => some (0, 7, 0)
  | "day" => some (0, 1, 0)
  | "hour" => some (0, 0, 3600)
  | "minute" | "min" => some (0, 0, 60)
  | "second" | "sec" => some (0, 0, 1)
  | _ => none

/-- Seconds to the east of a zone with a name. -/
def zone? (word : Octets) : Option Int :=
  match String.ofList word with
  | "utc" | "gmt" | "z" | "ut" | "wet" => some 0
  | "bst" | "west" | "cet" | "met" => some 3600
  | "cest" | "eet" => some 7200
  | "eest" | "msk" => some 10800
  | "jst" => some 32400
  | "edt" => some (-14400)
  | "est" | "cdt" => some (-18000)
  | "cst" | "mdt" => some (-21600)
  | "mst" | "pdt" => some (-25200)
  | "pst" => some (-28800)
  | _ => match word with
    | [c] =>
      if 'a' ≤ c && c ≤ 'i' then some (((c.toNat - 'a'.toNat + 1 : Nat) : Int) * 3600)
      else if 'k' ≤ c && c ≤ 'm' then some (((c.toNat - 'a'.toNat : Nat) : Int) * 3600)
      else if c == 'j' then some 0
      else if 'n' ≤ c && c ≤ 'y' then some (-((c.toNat - 'm'.toNat : Nat) : Int) * 3600)
      else none
    | _ => none

/-- Adds a distance so many times. -/
def add (read : DateText) (count : Int) (unit : Int × Int × Int) : DateText :=
  { read with
    distances := read.distances + 1
    months := read.months + count * unit.1
    days := read.days + count * unit.2.1
    seconds := read.seconds + count * unit.2.2 }

/-- The year that a number stands for. Two digits stand for a year near 2000. -/
def fullYear (value : Int) (digits : Nat) : Int :=
  if digits ≤ 2 then (if value < 69 then value + 2000 else value + 1900) else value

def setDay (read : DateText) (year month day : Int) (lacksYear : Bool) : DateText :=
  { read with
    civil := { read.civil with year := year, month := month, day := day }
    dates := read.dates + 1
    lacksYear := lacksYear }

def setTime (read : DateText) (hour minute second : Int) : DateText :=
  { read with
    civil := { read.civil with hour := hour, minute := minute, second := second }
    times := read.times + 1 }

def setZone (read : DateText) (offset : Int) : DateText :=
  { read with zones := read.zones + 1, offset := offset }

/-- The hour on a clock of twelve hours. -/
def hour? (hour : Int) (word : Octets) : Option Int :=
  if hour < 1 || 12 < hour then none
  else if word == "am".toList then some (if hour == 12 then 0 else hour)
  else if word == "pm".toList then some (if hour == 12 then 12 else hour + 12)
  else none

/-- The seconds to the east that a number with a sign stands for, with minutes or without. -/
def offsetOf (sign : Char) (value : Int) (digits : Nat) (minutes : Option Int) : Int :=
  let size : Int := value.natAbs
  let total := match minutes with
    | some m => size * 60 + m
    | none => if digits ≤ 2 then size * 60 else size / 100 * 60 + size % 100
  (if sign == '-' then -total else total) * 60

/-- Reads what can follow a time of day: a half of the day, and a zone. -/
def afterTime (read : DateText) (hour minute second : Int) :
    List (Bool × Piece) → Option (DateText × List (Bool × Piece))
  | (_, .word word) :: rest =>
    match hour? hour word with
    | some hour => some (read.setTime hour minute second, rest)
    | none => some (read.setTime hour minute second, (true, .word word) :: rest)
  | (_, .number (some sign) value digits) :: (false, .mark ':') :: (false, .number none m 2) :: rest =>
    some ((read.setTime hour minute second).setZone (offsetOf sign value digits (some m)), rest)
  | (spaced, .number (some sign) value digits) :: rest =>
    match rest with
    | (_, .word word) :: _ =>
      if (unit? word).isSome then
        some (read.setTime hour minute second, (spaced, .number (some sign) value digits) :: rest)
      else some ((read.setTime hour minute second).setZone (offsetOf sign value digits none), rest)
    | _ => some ((read.setTime hour minute second).setZone (offsetOf sign value digits none), rest)
  | rest => some (read.setTime hour minute second, rest)

/-- Reads one part of a date. -/
def part (read : DateText) : List (Bool × Piece) → Option (DateText × List (Bool × Piece))
  | (_, .number none y n) :: (false, .number (some '-') m _) :: (false, .number (some '-') d _) ::
      rest =>
    let done := read.setDay (fullYear y n) (-m) (-d) false
    match rest with
    | (false, .word ['t']) :: after => some (done, after)
    | _ => some (done, rest)
  | (_, .number none a n) :: (false, .mark '/') :: (false, .number none b _) :: (false, .mark '/') ::
      (false, .number none c k) :: rest =>
    if n ≥ 4 then some (read.setDay a b c false, rest)
    else some (read.setDay (fullYear c k) a b false, rest)
  | (_, .number none a _) :: (false, .mark '/') :: (false, .number none b _) :: rest =>
    some (read.setDay read.civil.year a b true, rest)
  | (_, .number none h _) :: (false, .mark ':') :: (false, .number none m _) :: (false, .mark ':') ::
      (false, .number none s _) :: (false, .mark '.') :: (false, .number none _ _) :: rest =>
    afterTime read h m s rest
  | (_, .number none h _) :: (false, .mark ':') :: (false, .number none m _) :: (false, .mark ':') ::
      (false, .number none s _) :: rest => afterTime read h m s rest
  | (_, .number none h _) :: (false, .mark ':') :: (false, .number none m _) :: rest =>
    afterTime read h m 0 rest
  | (_, .number none d n) :: (spaced, .word word) :: rest =>
    match month? word, hour? d word, unit? word with
    | some m, _, _ =>
      match rest with
      | (_, .number none y k) :: after =>
        match after with
        | (false, .mark ':') :: _ => some (read.setDay read.civil.year m d true, rest)
        | _ => some (read.setDay (fullYear y k) m d false, after)
      | _ => some (read.setDay read.civil.year m d true, rest)
    | _, some h, _ => some (read.setTime h 0 0, rest)
    | _, _, some unit => some (read.add d unit, rest)
    | _, _, none => plainNumber read d n ((spaced, .word word) :: rest)
  | (_, .number none value digits) :: rest => plainNumber read value digits rest
  | (_, .number (some _) count _) :: (_, .word word) :: rest =>
    (unit? word).map fun unit => (read.add count unit, rest)
  | (_, .word word) :: rest =>
    match month? word, rest with
    | some m, (_, .number none d _) :: (_, .mark ',') :: (_, .number none y k) :: after =>
      some (read.setDay (fullYear y k) m d false, after)
    | some m, (_, .number none d _) :: after => some (read.setDay read.civil.year m d true, after)
    | _, _ => ofWord read word rest
  | (_, .mark ',') :: rest => some (read, rest)
  | _ => none
where
  /-- A number by itself is a year if a day has been read, a whole date if it is long, or else a
  time of day. -/
  plainNumber (read : DateText) (value : Int) (digits : Nat) (rest : List (Bool × Piece)) :
      Option (DateText × List (Bool × Piece)) :=
    if read.lacksYear && read.distances == 0 && (read.times != 0 || 2 < digits) then
      some ({ read with civil := { read.civil with year := value }, lacksYear := false }, rest)
    else if 4 < digits then
      some (read.setDay (fullYear (value / 10000) (digits - 4)) (value / 100 % 100) (value % 100) false,
        rest)
    else if digits ≤ 2 then some (read.setTime value 0 0, rest)
    else some (read.setTime (value / 100) (value % 100) 0, rest)
  ofWord (read : DateText) (word : Octets) (rest : List (Bool × Piece)) :
      Option (DateText × List (Bool × Piece)) :=
    let turned (count : Int) : Option (DateText × List (Bool × Piece)) :=
      match rest with
      | (_, .word next) :: after =>
        match unit? next, weekDay? next with
        | some unit, _ => some (read.add count unit, after)
        | _, some day =>
          some ({ read with weekDays := read.weekDays + 1, weekDay := day, ordinal := count }, after)
        | none, none => none
      | _ => none
    match String.ofList word with
    | "now" | "today" => some (read.add 0 (0, 1, 0), rest)
    | "tomorrow" => some (read.add 1 (0, 1, 0), rest)
    | "yesterday" => some (read.add (-1) (0, 1, 0), rest)
    | "next" => turned 1
    | "last" => turned (-1)
    | "this" => turned 0
    | "ago" =>
      some ({ read with months := -read.months, days := -read.days, seconds := -read.seconds }, rest)
    | _ =>
      match weekDay? word, unit? word, zone? word with
      | some day, _, _ =>
        some ({ read with weekDays := read.weekDays + 1, weekDay := day, ordinal := 0 }, rest)
      | _, some unit, _ => some (read.add 1 unit, rest)
      | _, _, some offset => some (read.setZone offset, rest)
      | none, none, none => none

/-- Reads all parts. The number bounds the work. -/
def parts (read : DateText) : Nat → List (Bool × Piece) → Option DateText
  | _, [] => some read
  | 0, _ => none
  | fuel + 1, pieces => do
    let (read, rest) ← part read pieces
    parts read fuel rest

/-- The time that has been read. Without a time of day the day begins, unless only a distance has
been read. -/
def time? (read : DateText) : Option Time :=
  if 1 < read.dates || 1 < read.times || 1 < read.weekDays || 1 < read.zones then none
  else
    let keepsTime := read.times != 0 || (read.distances != 0 && read.dates == 0 && read.weekDays == 0)
    let civil := if keepsTime then read.civil else
      { read.civil with hour := 0, minute := 0, second := 0 }
    if !civil.isValid then none
    else
      let moved := { civil with month := civil.month + read.months, day := civil.day + read.days }
      let today := moved.weekDay
      let turn := if read.weekDays == 0 || read.dates != 0 then 0
        else (read.weekDay - today + 7) % 7 +
          7 * (read.ordinal - (if 0 < read.ordinal && today != read.weekDay then 1 else 0))
      some (moved.seconds + turn * 86400 + read.seconds - read.offset)

/-- The time that a text stands for, seen from now. A count of seconds stands behind an at sign. -/
def read? (now : Time) (text : Octets) : Option Time :=
  match text.dropWhile (· == ' ') with
  | '@' :: rest =>
    let (isNegative, digits) := match rest with
      | '-' :: digits => (true, digits)
      | '+' :: digits => (false, digits)
      | _ => (false, rest)
    let whole := digits.takeWhile Char.isDigit
    let after := digits.drop whole.length
    let part := match after with
      | '.' :: part => part
      | _ => after
    if whole.isEmpty || !part.all Char.isDigit then none
    else
      let value : Int := Integer.ofDigits 10 whole
      some (if !isNegative then value
        else if part.any fun c => c != '0' then -value - 1 else -value)
  | body =>
    let found := pieces false body.length body
    (parts { civil := Civil.ofSeconds now } (found.length + 1) found).bind time?

example : read? 0 "2010-01-01 00:00:00 UTC".toList = some 1262304000 := by decide
example : read? 100 "1 hour ago".toList = some (-3500) := by decide

end DateText

end BuildRules.Shell
