import BuildRules.Shell.DateText
import BuildRules.Shell.Job

/-! The utility that writes the date, in a form that a format asks for. -/
namespace BuildRules.Shell.Utility
open Work

namespace DateFormat

def monthNames : List String :=
  ["January", "February", "March", "April", "May", "June", "July", "August", "September", "October",
    "November", "December"]

def dayNames : List String :=
  ["Sunday", "Monday", "Tuesday", "Wednesday", "Thursday", "Friday", "Saturday"]

def nameIn (names : List String) (n : Int) : Octets := (names.getD n.toNat "").toList

/-- The year and the week of the year by the rule that a week belongs to the year of its Thursday. -/
def isoWeek (date : Civil) : Int × Int :=
  let weekDay := (date.weekDay + 6) % 7
  let thursday := Civil.ofDays (date.days - weekDay + 3)
  (thursday.year, thursday.dayOfYear / 7 + 1)

/-- A number, filled up to a width. -/
def filled (fill : Option Char) (width : Nat) (n : Int) : Octets :=
  let digits := Text.ofNat n.natAbs
  let sign : Octets := if n < 0 then ['-'] else []
  match fill with
  | none => sign ++ digits
  | some c => sign ++ List.replicate (width - sign.length - digits.length) c ++ digits

/-- What a letter of a format gives. `fill` is what fills up numbers, if the format says so. -/
def field? (time : Time) (fill : Option (Option Char)) (letter : Char) : Option Octets :=
  let date := Civil.ofSeconds time
  let zero (width : Nat) (n : Int) : Octets := filled (fill.getD (some '0')) width n
  let blank (width : Nat) (n : Int) : Octets := filled (fill.getD (some ' ')) width n
  let twelve := if date.hour % 12 == 0 then 12 else date.hour % 12
  let month := nameIn monthNames (date.month - 1)
  let day := nameIn dayNames date.weekDay
  let colon (parts : List Octets) : Octets := Text.join [':'] parts
  let clock := colon [zero 2 date.hour, zero 2 date.minute, zero 2 date.second]
  match letter with
  | '%' => some ['%']
  | 'n' => some ['\n']
  | 't' => some ['\t']
  | 'a' => some (day.take 3)
  | 'A' => some day
  | 'b' | 'h' => some (month.take 3)
  | 'B' => some month
  | 'c' =>
    some (day.take 3 ++ ' ' :: month.take 3 ++ ' ' :: blank 2 date.day ++ ' ' :: clock ++
      ' ' :: zero 1 date.year)
  | 'C' => some (zero 2 (date.year.fdiv 100))
  | 'd' => some (zero 2 date.day)
  | 'D' | 'x' => some (Text.join ['/'] [zero 2 date.month, zero 2 date.day, zero 2 (date.year % 100)])
  | 'e' => some (blank 2 date.day)
  | 'F' => some (Text.join ['-'] [zero 4 date.year, zero 2 date.month, zero 2 date.day])
  | 'g' => some (zero 2 ((isoWeek date).1 % 100))
  | 'G' => some (zero 4 (isoWeek date).1)
  | 'H' => some (zero 2 date.hour)
  | 'I' => some (zero 2 twelve)
  | 'j' => some (zero 3 (date.dayOfYear + 1))
  | 'k' => some (blank 2 date.hour)
  | 'l' => some (blank 2 twelve)
  | 'm' => some (zero 2 date.month)
  | 'M' => some (zero 2 date.minute)
  | 'N' => some "000000000".toList
  | 'p' => some (if date.hour < 12 then "AM" else "PM").toList
  | 'P' => some (if date.hour < 12 then "am" else "pm").toList
  | 'q' => some (zero 1 ((date.month + 2) / 3))
  | 'r' =>
    some (colon [zero 2 twelve, zero 2 date.minute, zero 2 date.second] ++
      (if date.hour < 12 then " AM" else " PM").toList)
  | 'R' => some (colon [zero 2 date.hour, zero 2 date.minute])
  | 's' => some (zero 1 time)
  | 'S' => some (zero 2 date.second)
  | 'T' | 'X' => some clock
  | 'u' => some (zero 1 (if date.weekDay == 0 then 7 else date.weekDay))
  | 'U' => some (zero 2 ((date.dayOfYear + 7 - date.weekDay) / 7))
  | 'V' => some (zero 2 (isoWeek date).2)
  | 'w' => some (zero 1 date.weekDay)
  | 'W' => some (zero 2 ((date.dayOfYear + 7 - (date.weekDay + 6) % 7) / 7))
  | 'y' => some (zero 2 (date.year % 100))
  | 'Y' => some (zero 4 date.year)
  | 'z' => some "+0000".toList
  | 'Z' => some "UTC".toList
  | _ => none

/-- A time in the form that a format asks for. The number bounds the work. -/
def render (time : Time) : Nat → Octets → Octets
  | 0, _ => []
  | _, [] => []
  | fuel + 1, '%' :: rest =>
    let flags := rest.takeWhile fun c => "-_0^#".toList.contains c
    let after := rest.drop flags.length
    let digits := after.takeWhile Char.isDigit
    let tail := after.drop digits.length
    let fill : Option (Option Char) := match flags.getLast? with
      | some '-' => some none
      | some '_' => some (some ' ')
      | some '0' => some (some '0')
      | _ => none
    match tail with
    | ':' :: 'z' :: more => "+00:00".toList ++ render time fuel more
    | letter :: more =>
      match field? time fill letter with
      | some text =>
        let cased := if flags.contains '^' then text.map Char.toUpper else text
        let width := Integer.ofDigits 10 digits
        let pad := if letter.isDigit || "aAbBhpPcZ".toList.contains letter then ' ' else '0'
        List.replicate (width - cased.length) ((fill.bind id).getD pad) ++ cased ++
          render time fuel more
      | none => '%' :: flags ++ digits ++ [letter] ++ render time fuel more
    | [] => '%' :: flags ++ digits
  | fuel + 1, c :: rest => c :: render time fuel rest

def text (time : Time) (format : Octets) : Octets := render time (format.length + 1) format

example : text 0 "%a %b %e %H:%M:%S %Z %Y".toList = "Thu Jan  1 00:00:00 UTC 1970".toList := by decide

end DateFormat

def date : Utility := fun arguments =>
  let rules : List OptionRule :=
    [⟨'d', "date", .one⟩, ⟨'u', "utc", .none⟩, ⟨'u', "universal", .none⟩, ⟨'R', "rfc-email", .none⟩,
      ⟨'R', "rfc-2822", .none⟩, ⟨'I', "iso-8601", .optional⟩, ⟨'r', "reference", .one⟩,
      ⟨'f', "file", .one⟩, ⟨'s', "set", .one⟩, ⟨'ρ', "rfc-3339", .one⟩]
  withArguments rules arguments fun found => do
    let now ← look fun files _ => files.now
    let iso (zone : String) (precision : Octets) : Option String :=
      match String.ofList precision with
      | "" | "date" => some "%F"
      | "hours" => some ("%FT%H" ++ zone)
      | "minutes" => some ("%FT%R" ++ zone)
      | "seconds" | "s" => some ("%FT%T" ++ zone)
      | "ns" => some ("%FT%T,%N" ++ zone)
      | _ => none
    let usual : Octets := match found.has 'R', found.value? 'I', found.value? 'ρ' with
      | true, _, _ => "%a, %d %b %Y %T %z".toList
      | _, some precision, _ => ((iso "%:z" precision).getD "%F").toList
      | _, _, some precision =>
        if precision == "date".toList then "%F".toList
        else if precision == "ns".toList then "%F %T.%N%:z".toList
        else "%F %T%:z".toList
      | _, _, _ => "%a %b %e %H:%M:%S %Z %Y".toList
    match found.operands with
    | _ :: extra :: _ => misuse ("extra operand ".toList ++ cite extra)
    | operands =>
      let format := match operands with
        | ('+' :: format) :: _ => some format
        | [] => some usual
        | _ => none
      match format with
      | none => complain ("invalid date ".toList ++ cite (operands.headD []))
      | some format =>
        match found.value? 'd', found.value? 'r' with
        | some text, _ =>
          match DateText.read? now text with
          | some time => printLine (DateFormat.text time format)
          | none => complain ("invalid date ".toList ++ cite text)
        | none, some path =>
          match ← entry true path with
          | .ok entry => printLine (DateFormat.text entry.modified format)
          | .error fault => complain (quoteIfNeeded path ++ ": ".toList ++ fault.reason)
        | none, none => printLine (DateFormat.text now format)

end BuildRules.Shell.Utility
