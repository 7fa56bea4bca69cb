import BuildRules.Text.Blank

/-! Lines of a build file. A source falls into physical lines at line feeds. A physical line
that ends in a single backslash is continued by the next one, and a run of continued lines
makes one logical line, which carries the number of its first physical line. -/
namespace BuildRules

/-- A logical line and the number of its first physical line, counted from one. -/
structure Line where
  number : Nat
  text : Text
deriving DecidableEq, Repr

namespace Line

/-- A carriage return right before a line feed belongs to the terminator. -/
def dropReturn (line : Text) : Text :=
  if line.getLast? = some '\r' then line.dropLast else line

/-- The parts as lines: all but the last had a terminator, and an empty last part is no line. -/
def ofPieces : List Text → List Text
  | [] => []
  | [last] => if last.isEmpty then [] else [last]
  | part :: rest => dropReturn part :: ofPieces rest

/-- The physical lines of a source. -/
def physical (source : Text) : List Text := ofPieces (Text.pieces '\n' source)

/-- A line goes on when it ends in a backslash that no other backslash precedes. -/
def isContinued (line : Text) : Bool :=
  match line.reverse with
  | ['\\'] => true
  | '\\' :: c :: _ => c != '\\'
  | _ => false

/-- A continued line without its final backslashes and the blanks before them. -/
def cut (line : Text) : Text :=
  Text.trimEnd ((line.reverse.dropWhile (· == '\\')).reverse)

/-- The line so far with the next physical line joined to it by one space. -/
def extend (pending : Option Line) (number : Nat) (next : Text) : Line :=
  match pending with
  | none => ⟨number, next⟩
  | some line => ⟨line.number, line.text ++ ' ' :: Text.trim next⟩

/-- Joins physical lines, of which the first has the given number. `pending` is the line
that they continue, already cut; it stands as it is when no line is left. -/
def gather (pending : Option Line) (number : Nat) : List Text → List Line
  | [] => pending.toList
  | next :: rest =>
    let line := extend pending number next
    if isContinued line.text then
      gather (some ⟨line.number, cut line.text⟩) (number + 1) rest
    else line :: gather none (number + 1) rest

/-- The logical lines of a source. -/
def logical (source : Text) : List Line := gather none 1 (physical source)

@[simp] theorem gather_nil (pending : Option Line) (number : Nat) :
    gather pending number [] = pending.toList := rfl

theorem gather_cons (pending : Option Line) (number : Nat) (next : Text) (rest : List Text) :
    gather pending number (next :: rest) =
      let line := extend pending number next
      if isContinued line.text then
        gather (some ⟨line.number, cut line.text⟩) (number + 1) rest
      else line :: gather none (number + 1) rest := rfl

example : physical "a\r\n\r\r\n\nb\r".toList =
    [['a'], ['\r'], [], ['b', '\r']] := by decide
example : logical "x = a \\\n  b\\\nall:\n".toList = [⟨1, "x = a b all:".toList⟩] := by decide
example : logical "a\\\\\nb \\".toList = [⟨1, "a\\\\".toList⟩, ⟨2, ['b']⟩] := by decide

end Line

end BuildRules
