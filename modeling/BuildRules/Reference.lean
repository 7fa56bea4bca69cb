import BuildRules.Text

/-! References in a line. A reference is `$` with a run of ASCII letters, digits and
underscores, or `$` with a non-empty body in balanced parentheses. Any other `$` stands for
itself. A line falls into its references, from left to right, and the text between them. -/
namespace BuildRules

/-- What stands after the `$` of a reference. -/
inductive Reference
  | word (name : Text)
  | group (body : Text)
deriving DecidableEq, Repr

namespace Reference

/-- The text that the reference is resolved by. -/
def body : Reference → Text
  | word name => name
  | group body => body

/-- How the reference is written. -/
def text : Reference → Text
  | word name => '$' :: name
  | group body => '$' :: '(' :: body ++ [')']

/-- The characters of a name that needs no parentheses. -/
def isWordChar (c : Char) : Bool :=
  c.isAlphanum || c == '_'

/-- Where the parenthesis stands that closes the body, counted from its start, where `depth`
inner ones are open and `length` characters have been passed. -/
def closing (depth length : Nat) : Text → Option Nat
  | [] => none
  | c :: rest =>
    if c = '(' then closing (depth + 1) (length + 1) rest
    else if c = ')' then
      match depth with
      | 0 => some length
      | depth + 1 => closing depth (length + 1) rest
    else closing depth (length + 1) rest

/-- The reference whose `$` stands right before the text. -/
def after? : Text → Option Reference
  | '(' :: rest =>
    match closing 0 0 rest with
    | none | some 0 => none
    | some length => some (group (rest.take length))
  | text =>
    let name := text.takeWhile isWordChar
    if name.isEmpty then none else some (word name)

/-- How many characters the reference has after its `$`. -/
def width : Reference → Nat
  | word name => name.length
  | group body => body.length + 2

end Reference

/-- A line as references, each with the text before it, and the text after the last one. -/
structure Segments where
  parts : List (Text × Reference)
  tail : Text
deriving DecidableEq, Repr

namespace Segments

/-- How the line is written. -/
def text (segments : Segments) : Text :=
  (segments.parts.flatMap fun part => part.1 ++ part.2.text) ++ segments.tail

def cons (part : Text × Reference) (segments : Segments) : Segments :=
  { segments with parts := part :: segments.parts }

/-- Walks through a line. The first `skip` characters belong to a reference already found;
`plain` is the text since that reference, last character first. -/
def scan (skip : Nat) (plain : Text) : Text → Segments
  | [] => ⟨[], plain.reverse⟩
  | c :: rest =>
    match skip with
    | skip + 1 => scan skip plain rest
    | 0 =>
      if c = '$' then
        match Reference.after? rest with
        | some reference => (scan reference.width [] rest).cons (plain.reverse, reference)
        | none => scan 0 (c :: plain) rest
      else scan 0 (c :: plain) rest

def ofText (line : Text) : Segments := scan 0 [] line

/-- A line without references is left alone by substitution. -/
def isPlain (segments : Segments) : Bool := segments.parts.isEmpty

@[simp] theorem text_cons (part : Text × Reference) (segments : Segments) :
    (segments.cons part).text = part.1 ++ part.2.text ++ segments.text := by
  simp [cons, text]

/-- The characters of a reference are passed over. -/
theorem scan_skip (skip : Nat) (plain rest : Text) :
    scan skip plain rest = scan 0 plain (rest.drop skip) := by
  induction rest generalizing skip with
  | nil => simp [scan]
  | cons c rest ih =>
    cases skip with
    | zero => rfl
    | succ skip => simpa [scan] using ih skip

example : ofText "a $(b $(c)) $$x $() $(".toList =
    ⟨[("a ".toList, .group "b $(c)".toList), (" $".toList, .word "x".toList)],
      " $() $(".toList⟩ := by decide

end Segments

end BuildRules
