import BuildRules.Shell.Amount
import BuildRules.Shell.Regex.Reader
import BuildRules.Shell.Utility.Lines

/-! The utility that numbers lines. Lines of delimiters alone part a text into heads, bodies and feet,
which are numbered each in a style of its own. -/
namespace BuildRules.Shell.Utility
open Work

/-- Which lines are numbered. -/
inductive NumberStyle
  | all
  | filled
  | none
  | matching (regex : Regex)

inductive PagePart
  | head
  | body
  | foot
deriving DecidableEq

/-- How lines are numbered. -/
structure Numbering where
  style : PagePart → NumberStyle
  /-- How many empty lines in a row count as one. -/
  blanks : Nat
  start : Int
  step : Int
  restarts : Bool
  width : Nat
  separator : Octets
  /-- Where numbers stand in their column: `ln`, `rn` or `rz`. -/
  form : Octets
  delimiter : Octets

namespace Numbering

/-- What has been counted up to a line. -/
structure Progress where
  part : PagePart := .body
  number : Int
  blanks : Nat := 0

/-- The part of a page that starts with a line of delimiters. -/
def partAt? (numbering : Numbering) (line : Octets) : Option PagePart :=
  let mark := numbering.delimiter
  if mark.isEmpty then Option.none
  else if line == mark ++ mark ++ mark then some .head
  else if line == mark ++ mark then some .body
  else if line == mark then some .foot
  else Option.none

def shownNumber (numbering : Numbering) (n : Int) : Octets :=
  let digits := Text.ofInt n
  match String.ofList numbering.form with
  | "ln" => padRight numbering.width digits
  | "rz" =>
    let sign := digits.takeWhile (· == '-')
    sign ++ List.replicate (numbering.width - digits.length) '0' ++ digits.drop sign.length
  | _ => padLeft numbering.width digits

/-- Whether a line is numbered, and how many empty lines have been passed over then. -/
def isNumbered (numbering : Numbering) (progress : Progress) (line : Octets) : Bool × Nat :=
  match numbering.style progress.part with
  | .all =>
    if numbering.blanks ≤ 1 || !line.isEmpty || progress.blanks + 1 == numbering.blanks then (true, 0)
    else (false, progress.blanks + 1)
  | .filled => (!line.isEmpty, progress.blanks)
  | .none => (false, progress.blanks)
  | .matching regex =>
    ((Regex.search? regex { text := line.toArray } 0).isSome, progress.blanks)

/-- What is shown for a line. -/
def line (numbering : Numbering) (progress : Progress) (line : Octets) : Octets × Progress :=
  match numbering.partAt? line with
  | some part =>
    let number := if numbering.restarts then numbering.start else progress.number
    (['\n'], { progress with part := part, number := number })
  | Option.none =>
    let (isNumbered, blanks) := numbering.isNumbered progress line
    if isNumbered then
      (numbering.shownNumber progress.number ++ numbering.separator ++ line ++ ['\n'],
        { progress with number := progress.number + numbering.step, blanks := blanks })
    else
      (List.replicate (numbering.width + numbering.separator.length) ' ' ++ line ++ ['\n'],
        { progress with blanks := blanks })

/-- All lines of a text. -/
def lines (numbering : Numbering) (text : List Octets) : Octets :=
  let (shown, _) := text.foldl (fun ((shown, progress) : List Octets × Progress) line =>
    let (here, progress) := numbering.line progress line
    (here :: shown, progress)) ([], { number := numbering.start })
  shown.reverse.flatten

/-! Options. -/

/-- The style that a text names. -/
def styleNamed (name text : Octets) : Except Complaint NumberStyle :=
  match text with
  | 'a' :: _ => .ok .all
  | 't' :: _ => .ok .filled
  | 'n' :: _ => .ok .none
  | 'p' :: pattern =>
    match Regex.read {} pattern with
    | .ok (regex, _) => .ok (.matching regex)
    | .error flaw => .error (.plain flaw.message)
  | _ =>
    .error (.misuse ("invalid ".toList ++ name ++ " numbering style: ".toList ++ cite text))

/-- An integer that an option gives, if it is no less than a bound. -/
def integer (found : Arguments) (letter : Char) (usual least : Int) (name : String) :
    Except Complaint Int :=
  match found.value? letter with
  | Option.none => .ok usual
  | some text =>
    let refused (note : Octets) : Except Complaint Int :=
      .error (.plain ("invalid ".toList ++ name.toList ++ ": ".toList ++ cite text ++ note))
    let reading := Integer.readExact (some 10) text
    if !reading.found || !reading.rest.isEmpty then refused []
    else if Integer.clamp reading.value != reading.value then
      refused Amount.Defect.tooLarge.note
    else if reading.value < least then refused ": Numerical result out of range".toList
    else .ok reading.value

def ofArguments (found : Arguments) : Except Complaint Numbering := do
  let part (letter : Char) (usual : String) (name : String) : Except Complaint NumberStyle :=
    styleNamed name.toList ((found.value? letter).getD usual.toList)
  let start ← integer found 'v' 1 Integer.least "starting line number"
  let step ← integer found 'i' 1 Integer.least "line number increment"
  let blanks ← integer found 'l' 1 1 "line number of blank lines"
  let width ← integer found 'w' 6 1 "line number field width"
  let head ← part 'h' "n" "header"
  let body ← part 'b' "t" "body"
  let foot ← part 'f' "n" "footer"
  let form := (found.value? 'n').getD "rn".toList
  if !(["ln", "rn", "rz"].any fun word => word.toList == form) then
    throw (.misuse ("invalid line numbering format: ".toList ++ cite form))
  let delimiter := match found.value? 'd' with
    | Option.none => "\\:".toList
    | some [c] => [c, ':']
    | some text => text
  let style (part : PagePart) : NumberStyle := match part with
    | .head => head
    | .body => body
    | .foot => foot
  return { style, blanks := blanks.toNat, start, step, restarts := !found.has 'p', width := width.toNat
           separator := (found.value? 's').getD ['\t'], form, delimiter }

end Numbering

def numberLines : Utility := fun arguments =>
  let rules : List OptionRule :=
    [⟨'b', "body-numbering", .one⟩, ⟨'h', "header-numbering", .one⟩, ⟨'f', "footer-numbering", .one⟩,
      ⟨'v', "starting-line-number", .one⟩, ⟨'i', "line-increment", .one⟩, ⟨'l', "join-blank-lines", .one⟩,
      ⟨'n', "number-format", .one⟩, ⟨'p', "no-renumber", .none⟩, ⟨'s', "number-separator", .one⟩,
      ⟨'w', "number-width", .one⟩, ⟨'d', "section-delimiter", .one⟩]
  withArguments rules arguments fun found => do
    match Numbering.ofArguments found with
    | .error complaint => complaint.tell
    | .ok numbering =>
      let texts ← contents found.operands
      print (numbering.lines (texts.flatMap fun (_, text) => linesOf text))

end BuildRules.Shell.Utility
