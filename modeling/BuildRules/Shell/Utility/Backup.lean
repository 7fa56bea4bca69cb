import BuildRules.Shell.Job

/-! How a file is kept that gives way to another one: under its name with something behind it. -/
namespace BuildRules.Shell.Utility
open Work

inductive Backup
  | none
  | simple (ending : Octets)
  | numbered
  /-- With a number if one with a number is there already. -/
  | existing (ending : Octets)
deriving DecidableEq, Repr

namespace Backup

/-- The options that ask for it. -/
def rules : List OptionRule :=
  [⟨'b', "", .none⟩, ⟨'β', "backup", .optional⟩, ⟨'S', "suffix", .one⟩]

/-- The words for the ways to keep a file. -/
def words : List (List String) :=
  [["none", "off"], ["simple", "never"], ["existing", "nil"], ["numbered", "t"]]

/-- The number of the line of words that a word belongs to, which can be cut short. -/
def lineOf (word : Octets) : Except Octets Nat :=
  let matching (fits : Octets → Bool) : List Nat :=
    (List.range words.length).filter fun n => (words.getD n []).any fun known => fits known.toList
  match matching (· == word), matching fun known => word.isPrefixOf known with
  | n :: _, _ => .ok n
  | [], [n] => .ok n
  | [], [] => .error "invalid".toList
  | [], _ => .error "ambiguous".toList

/-- What options ask for. -/
def ofArguments (found : Arguments) : Except Octets Backup :=
  let ending := (found.value? 'S').getD ['~']
  match found.value? 'β' with
  | some (c :: word) =>
    match lineOf (c :: word) with
    | .ok 0 => .ok .none
    | .ok 1 => .ok (.simple ending)
    | .ok 2 => .ok (.existing ending)
    | .ok _ => .ok .numbered
    | .error trouble =>
      .error (trouble ++ " argument ".toList ++ cite (c :: word) ++ " for 'backup type'\n".toList ++
        "Valid arguments are:".toList ++ words.flatMap fun line =>
          "\n  - ".toList ++ Text.join ", ".toList (line.map fun word => cite word.toList))
  | some [] => .ok (.existing ending)
  | Option.none =>
    .ok (if found.has 'b' || found.has 'S' then .existing ending else .none)

/-- Reads what options ask for and goes on with it, or complains. -/
def reading (found : Arguments) (body : Backup → Work Unit) : Work Unit :=
  match ofArguments found with
  | .ok backup => body backup
  | .error message => misuse message

/-- The number of a name that is another one with a number. -/
def number? (name other : Octets) : Option Nat :=
  let start := name ++ ".~".toList
  if start.isPrefixOf other && other.getLast? == some '~' then
    let digits := (other.drop start.length).dropLast
    if digits.isEmpty || !digits.all Char.isDigit || digits.head? == some '0' then Option.none
    else some (Integer.ofDigits 10 digits)
  else Option.none

/-- The name that a file gets instead of its own, among the names in its directory. -/
def nameFor (backup : Backup) (name : Octets) (names : List Octets) : Option Octets :=
  let greatest := (names.filterMap (number? name)).foldl max 0
  let next := name ++ ".~".toList ++ Text.ofNat (greatest + 1) ++ ['~']
  match backup with
  | .none => Option.none
  | .simple ending => some (name ++ ending)
  | .numbered => some next
  | .existing ending => some (if greatest == 0 then name ++ ending else next)

/-- Gives what is at a location the name under which it is kept, if it is to be kept. -/
def keep (backup : Backup) (location : Location) : Work (Option Octets) := do
  let name := location.getLast?.getD []
  let names ← look fun files _ => files.children location.dropLast
  match backup.nameFor name names with
  | some other =>
    changeFiles fun files => files.rename location (location.dropLast ++ [other])
    return some other
  | Option.none => return Option.none

/-- The path of what is kept, beside another path. -/
def beside (path name : Octets) : Octets :=
  if path.contains '/' then under (dirName path) name else name

/-- How it is told that a file has been kept. -/
def told (path : Octets) (name : Option Octets) : Octets :=
  match name with
  | some name => " (backup: ".toList ++ quote (beside path name) ++ [')']
  | Option.none => []

example : nameFor (.existing ['~']) "a".toList ["a~".toList] = some "a~".toList := by decide
example : nameFor (.existing ['~']) "a".toList ["a.~2~".toList] = some "a.~3~".toList := by decide

end Backup

end BuildRules.Shell.Utility
