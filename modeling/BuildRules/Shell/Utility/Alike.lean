import BuildRules.Shell.Utility.Lines

/-! The utility that finds lines next to each other that are alike. -/
namespace BuildRules.Shell.Utility
open Work

/-- Runs of lines that are equal under a key. -/
def runsBy (key : Octets → Octets) (lines : List Octets) : List (List Octets) :=
  lines.foldr (fun line runs => match runs with
    | (next :: more) :: rest =>
      if key next == key line then (line :: next :: more) :: rest else [line] :: runs
    | _ => [line] :: runs) []

/-- A line without its first fields, which are blanks and what follows them. -/
def skipFields : Nat → Octets → Octets
  | 0, line => line
  | n + 1, line =>
    let isBlank (c : Char) : Bool := c == ' ' || c == '\t'
    skipFields n ((line.dropWhile isBlank).dropWhile fun c => !isBlank c)

/-- Where empty lines stand that set runs apart. -/
inductive Delimiting
  | none
  | before
  | between
  | after
  | around
deriving DecidableEq

namespace Delimiting

/-- The lines of runs with the lines that set them apart. -/
def layOut (delimiting : Delimiting) (runs : List (List Octets)) : List Octets :=
  match delimiting with
  | none => runs.flatten
  | before => runs.flatMap fun run => [] :: run
  | between => [[]].intercalate runs
  | after => runs.flatMap fun run => run ++ [[]]
  | around => if runs.isEmpty then [] else [] :: runs.flatMap fun run => run ++ [[]]

/-- The words for some of the ways, in the order in which they are told. -/
def read (option : String) (known : List (String × Delimiting)) (word : Octets) :
    Except Octets Delimiting :=
  match known.find? fun item => item.1.toList == word with
  | some (_, delimiting) => .ok delimiting
  | Option.none =>
    match known.filter fun item => word.isPrefixOf item.1.toList with
    | [(_, delimiting)] => .ok delimiting
    | candidates =>
      .error ((if candidates.isEmpty then "invalid" else "ambiguous").toList ++ " argument ".toList ++
        cite word ++ " for '--".toList ++ option.toList ++ "'\nValid arguments are:".toList ++
        known.flatMap fun item => "\n  - ".toList ++ cite item.1.toList)

end Delimiting

/-- What is shown of runs of lines that are alike. -/
inductive RunsShown
  | chosen (counts once repeated : Bool)
  | allRepeated (delimiting : Delimiting)
  | groups (delimiting : Delimiting)

namespace RunsShown

/-- What the options of a command ask to be shown. -/
def ofArguments (found : Arguments) : Except Octets RunsShown := do
  let repeatedWords : List (String × Delimiting) :=
    [("none", .none), ("prepend", .before), ("separate", .between)]
  let groupWords : List (String × Delimiting) :=
    [("prepend", .before), ("append", .after), ("separate", .between), ("both", .around)]
  let repeated ← match found.value? 'α' with
    | some (c :: word) => Delimiting.read "all-repeated" repeatedWords (c :: word)
    | _ => pure .none
  let grouped ← match found.value? 'γ' with
    | some (c :: word) => Delimiting.read "group" groupWords (c :: word)
    | _ => pure .between
  let showsAll := found.has 'D' || found.has 'α'
  if found.has 'γ' then
    if showsAll || ['c', 'd', 'u'].any found.has then
      throw "--group is mutually exclusive with -c/-d/-D/-u".toList
    return .groups grouped
  else if showsAll then
    if found.has 'c' then
      throw "printing all duplicated lines and repeat counts is meaningless".toList
    return .allRepeated repeated
  else return .chosen (found.has 'c') (!found.has 'd') (!found.has 'u')

/-- The lines that are shown of runs. -/
def lines (showing : RunsShown) (runs : List (List Octets)) : List Octets :=
  match showing with
  | .groups delimiting => delimiting.layOut runs
  | .allRepeated delimiting => delimiting.layOut (runs.filter fun run => 1 < run.length)
  | .chosen counts once repeated =>
    (runs.filter fun run => if run.length == 1 then once else repeated).map fun run =>
      let line := run.headD []
      if counts then padLeft 7 (Text.ofNat run.length) ++ ' ' :: line else line

end RunsShown

/-- Arguments in which old forms of numbers stand for options, where no option takes them. -/
def withOldSkips : List Octets → List Octets
  | [] => []
  | argument :: rest =>
    if ["-f", "-s", "-w"].any fun option => option.toList == argument then
      match rest with
      | value :: rest => argument :: value :: withOldSkips rest
      | [] => [argument]
    else match argument with
      | '-' :: c :: more =>
        (if c.isDigit then "-f".toList ++ c :: more else argument) :: withOldSkips rest
      | '+' :: c :: more =>
        (if c.isDigit then "-s".toList ++ c :: more else argument) :: withOldSkips rest
      | _ => argument :: withOldSkips rest

def unique : Utility := fun arguments =>
  let rules : List OptionRule :=
    [⟨'c', "count", .none⟩, ⟨'d', "repeated", .none⟩, ⟨'D', "", .none⟩, ⟨'u', "unique", .none⟩,
      ⟨'i', "ignore-case", .none⟩, ⟨'f', "skip-fields", .one⟩, ⟨'s', "skip-chars", .one⟩,
      ⟨'w', "check-chars", .one⟩, ⟨'z', "zero-terminated", .none⟩, ⟨'α', "all-repeated", .optional⟩,
      ⟨'γ', "group", .optional⟩]
  withArguments rules (withOldSkips arguments) fun found => do
    let wrong := [('f', "fields to skip"), ('s', "bytes to skip"), ('w', "bytes to compare")].find?
      fun (letter, _) => (found.value? letter).any fun text => (Integer.decimal? text).isNone
    let number (letter : Char) : Option Nat := (found.value? letter).bind Integer.decimal?
    match wrong, found.operands, RunsShown.ofArguments found with
    | some (letter, what), _, _ =>
      complain (((found.value? letter).getD []) ++ ": invalid number of ".toList ++ what.toList)
    | none, _ :: _ :: extra :: _, _ => misuse ("extra operand ".toList ++ cite extra)
    | none, _, .error message => misuse message
    | none, operands, .ok showing =>
      let key (line : Octets) : Octets :=
        let rest := (skipFields (min line.length ((number 'f').getD 0)) line).drop ((number 's').getD 0)
        let cut := match number 'w' with
          | some n => rest.take n
          | none => rest
        if found.has 'i' then cut.map Char.toLower else cut
      let separator := if found.has 'z' then '\x00' else '\n'
      let complaint (path : Octets) (fault : Fault) : Octets :=
        if fault == .isDirectory then "error reading ".toList ++ quote path ++ ": ".toList ++ fault.reason
        else plainly path fault
      match ← content? (operands.headD ['-']) complaint with
      | none => pure ()
      | some text =>
        let parts := Text.pieces separator text
        let lines := if parts.getLast? == some [] then parts.dropLast else parts
        let output := (showing.lines (runsBy key lines)).flatMap fun line => line ++ [separator]
        match operands[1]? with
        | some path =>
          if path == ['-'] then print output
          else match ← store path fun _ => output with
            | none => pure ()
            | some fault => complain (plainly path fault)
        | none => print output

end BuildRules.Shell.Utility
