import BuildRules.Shell.Integer

/-!
Amounts that arguments give: a number and a letter for what it is counted in. `Amount.read` takes the
letters that are known and the greatest amount that is taken.
-/
namespace BuildRules.Shell.Amount

/-- Why a text gives no amount. -/
inductive Defect
  | malformed
  | tooLarge
deriving DecidableEq

/-- What stands behind a complaint about a text. -/
def Defect.note : Defect → Octets
  | malformed => []
  | tooLarge => ": Value too large for defined data type".toList

/-- The powers that a letter counts in, if there are powers for it. -/
def exponent? (letter : Char) : Option Nat :=
  ([('K', 1), ('k', 1), ('M', 2), ('m', 2), ('G', 3), ('g', 3), ('T', 4), ('t', 4), ('P', 5), ('E', 6),
    ('Z', 7), ('Y', 8), ('R', 9), ('Q', 10)] : List (Char × Nat)).lookup letter

/-- What the letters behind a number count in: a power of 1024, or of 1000 if a B stands behind its
letter. -/
def unit? (letters : Octets) (text : Octets) : Option Nat :=
  match text with
  | [] => some 1
  | letter :: rest =>
    if !letters.contains letter then none
    else match exponent? letter with
      | some n =>
        if rest.isEmpty || rest == ['i', 'B'] then some (Nat.pow 1024 n)
        else if rest == ['B'] || rest == ['D'] then some (Nat.pow 1000 n)
        else none
      | none =>
        if !rest.isEmpty then none
        else ([('b', 512), ('B', 1024), ('c', 1), ('w', 2)] : List (Char × Nat)).lookup letter

/-- The amount that a text gives. A letter without a number counts one of what it stands for. -/
def read (letters : Octets) (limit : Nat) (text : Octets) : Except Defect Nat :=
  let start := text.dropWhile Integer.isSpace
  let body := if start.head? == some '+' then start.drop 1 else start
  let digits := body.takeWhile Char.isDigit
  let letterAlone := digits.isEmpty && (text.head?.any letters.contains)
  if digits.isEmpty && !letterAlone then .error .malformed
  else match unit? letters (body.drop digits.length) with
    | none => .error .malformed
    | some unit =>
      let amount := (if letterAlone then 1 else Integer.ofDigits 10 digits) * unit
      if limit < amount then .error .tooLarge else .ok amount

end BuildRules.Shell.Amount
