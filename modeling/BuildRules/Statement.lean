import BuildRules.Word

/-! What the words of a line say: an assignment, a declaration of phony names, or the header
of a rule. -/
namespace BuildRules

structure Assignment where
  name : Text
  value : Text
deriving DecidableEq, Repr

inductive Header
  | phony (names : List Text)
  | rule (targets prerequisites : List Text)
deriving DecidableEq, Repr

/-- A name, `=` or `:=`, and the words of the value, which are joined by single spaces. -/
def Assignment.ofWords? : List Text → Option Assignment
  | name :: ['='] :: value => some ⟨name, Text.join [' '] value⟩
  | name :: [':'] :: ['='] :: value => some ⟨name, Text.join [' '] value⟩
  | _ => none

namespace Header

/-- The name whose prerequisites are declared phony. -/
def phonyName : Text := ".PHONY".toList

/-- At least one word, a colon, and the prerequisites. -/
def ofWords? (words : List Text) : Option Header :=
  let targets := words.takeWhile (· != [':'])
  match words.drop targets.length with
  | [] => none
  | _ :: prerequisites =>
    if targets.isEmpty then none
    else if targets == [phonyName] then some (phony prerequisites)
    else some (rule targets prerequisites)

example : ofWords? [['a'], [':'], ['b'], [':']] = some (rule [['a']] [['b'], [':']]) := by decide
example : ofWords? [[':'], ['b']] = none := by decide
example : ofWords? [phonyName, [':']] = some (phony []) := by decide

end Header

end BuildRules
