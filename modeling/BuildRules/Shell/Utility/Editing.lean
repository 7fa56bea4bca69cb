import BuildRules.Shell.Editor.Reader
import BuildRules.Shell.Editor.Run

/-! The utility that edits lines as a script says. -/
namespace BuildRules.Shell.Utility
open Work Editor

def editRules : List OptionRule :=
  [⟨'n', "quiet", .none⟩, ⟨'n', "silent", .none⟩, ⟨'e', "expression", .one⟩, ⟨'f', "file", .one⟩,
    ⟨'E', "regexp-extended", .none⟩, ⟨'r', "regexp-extended", .none⟩, ⟨'s', "separate", .none⟩,
    ⟨'i', "in-place", .optional⟩, ⟨'l', "line-length", .one⟩, ⟨'u', "unbuffered", .none⟩,
    ⟨'z', "null-data", .none⟩, ⟨'z', "zero-terminated", .none⟩, ⟨'b', "binary", .none⟩,
    ⟨'π', "posix", .none⟩, ⟨'σ', "sandbox", .none⟩, ⟨'φ', "follow-symlinks", .none⟩]

/-- The passages of a script that options give. An option for extended expressions counts for what
follows it. -/
def passages (isExtended : Bool) (count : Nat) : List (Char × Octets) → Work (Except Octets (List Passage))
  | [] => return .ok []
  | (letter, value) :: rest => do
    match letter with
    | 'E' | 'r' => passages true count rest
    | 'e' =>
      let passage : Passage := ⟨.argument count, value, isExtended⟩
      return (← passages isExtended (count + 1) rest).map (passage :: ·)
    | 'f' =>
      match ← source value with
      | .ok text =>
        let passage : Passage := ⟨.file value, text, isExtended⟩
        return (← passages isExtended count rest).map (passage :: ·)
      | .error fault =>
        return .error ("couldn't open file ".toList ++ value ++ ": ".toList ++ fault.reason)
    | _ => passages isExtended count rest

/-- Complains in the way of the utility, which shows its use. -/
def editMisuse (message : Octets) : Work Unit := do
  unless message.isEmpty do complain message
  note ("Usage: ".toList ++ (← get).name ++
    " [OPTION]... \x7bscript-only-if-no-other-script\x7d [input-file]...\n".toList)
  fail 1

def editLines : Utility := fun arguments => do
  match Arguments.read editRules true (arguments.length + 1) arguments with
  | .error message => editMisuse message
  | .ok found =>
    let isGiven := found.has 'e' || found.has 'f'
    let isExtended := found.has 'E' || found.has 'r'
    match isGiven, found.operands with
    | false, [] => editMisuse []
    | _, operands =>
      let given ← if isGiven then passages false 1 found.options
        else pure (.ok [⟨.argument 1, operands.headD [], isExtended⟩])
      let paths := if isGiven then operands else operands.drop 1
      match given with
      | .error message => complain message 4
      | .ok passages =>
        match Script.ofPassages passages with
        | .error message => complain message (if message == Regex.bareClass then 4 else 1)
        | .ok script =>
          match script.missingLabel? with
          | some label => complain ("can't find label for jump to \x60".toList ++ label ++ ['\'']) 4
          | none =>
            let manner : Manner :=
              { isQuiet := found.has 'n'
                isSeparate := found.has 's' || found.has 'i'
                inPlace := found.value? 'i'
                separator := if found.has 'z' then '\x00' else '\n'
                width := ((found.value? 'l').bind Integer.decimal?).getD 70 }
            if manner.inPlace.isSome && paths.isEmpty then complain "no input files".toList 4
            else
              Editor.run manner script (if paths.isEmpty then [['-']] else paths)
              unless (← get).hasOutput do
                complain "couldn't close stdout: Bad file descriptor".toList 4
                modify fun job => { job with status := 4 }

end BuildRules.Shell.Utility
