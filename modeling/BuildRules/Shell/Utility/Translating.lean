import BuildRules.Shell.Utility.Lines

/-! The utility that replaces characters by others, deletes them, or leaves out repetitions. -/
namespace BuildRules.Shell.Utility
open Work

/-- A part of a list of characters. -/
inductive Batch
  | one (c : Char)
  | range (low high : Char)
  | named (name : Octets)
  | same (c : Char)
  /-- A character so often, or as often as it takes. -/
  | times (c : Char) (count : Option Nat)
deriving DecidableEq

namespace Batch

/-- A character of a list, and whether it has been written with a backslash. -/
abbrev Mark := Char × Bool

/-- Reads the backslashes of a list. Says whether there is one at the very end. -/
def marks : Nat → Octets → List Mark × Bool
  | 0, _ | _, [] => ([], false)
  | _, ['\\'] => ([('\\', false)], true)
  | fuel + 1, '\\' :: c :: rest =>
    let isOctal (d : Char) : Bool := '0' ≤ d && d ≤ '7'
    let (found, after) : Char × Octets :=
      if isOctal c then
        let three := ((c :: rest).take 3).takeWhile isOctal
        let digits := if 256 ≤ Integer.ofDigits 8 three then three.take 2 else three
        (Char.ofNat (Integer.ofDigits 8 digits), (c :: rest).drop digits.length)
      else
        let named := match c with
          | 'a' => '\x07'
          | 'b' => '\x08'
          | 'f' => '\x0c'
          | 'n' => '\n'
          | 'r' => '\r'
          | 't' => '\t'
          | 'v' => '\x0b'
          | c => c
        (named, rest)
    let (others, isOpen) := marks fuel after
    ((found, true) :: others, isOpen)
  | fuel + 1, c :: rest =>
    let (others, isOpen) := marks fuel rest
    ((c, false) :: others, isOpen)

/-- What stands before a sign and a closing bracket, and what follows these. -/
def upTo? (sign : Char) (seen : Octets) : List Mark → Option (Octets × List Mark)
  | first :: second :: rest =>
    if first == (sign, false) && second == (']', false) then some (seen.reverse, rest)
    else upTo? sign (first.1 :: seen) (second :: rest)
  | _ => none

/-- A repetition in brackets, and what follows it. -/
def times? (c : Char) (body : List Mark) : Option (Except Octets Batch × List Mark) :=
  let digits := body.takeWhile (· != (']', false))
  match body.drop digits.length with
  | [] => none
  | _ :: rest =>
    let text := digits.map Prod.fst
    if text.isEmpty then some (.ok (.times c none), rest)
    else
      let base := if text.head? == some '0' then 8 else 10
      if text.all fun d => Integer.digitValue d < base then
        let n := Integer.ofDigits base text
        some (.ok (.times c (if n == 0 then none else some n)), rest)
      else
        some (.error ("invalid repeat count ".toList ++ cite text ++ " in [c*n] construct".toList), rest)

/-- Reads a list. The number bounds the work. -/
def read : Nat → List Mark → Except Octets (List Batch)
  | 0, _ | _, [] => .ok []
  | fuel + 1, mark :: rest =>
    let goOn (batch : Batch) (after : List Mark) : Except Octets (List Batch) := do
      return batch :: (← read fuel after)
    let special : Option (Except Octets Batch × List Mark) :=
      match mark, rest with
      | ('[', false), (':', false) :: body =>
        (upTo? ':' [] body).map fun (name, after) =>
          if name.isEmpty then (.error ("missing character class name '[::]'".toList), after)
          else if classNames.contains name then (.ok (.named name), after)
          else (.error ("invalid character class ".toList ++ cite name), after)
      | ('[', false), ('=', false) :: body =>
        (upTo? '=' [] body).map fun (name, after) => match name with
          | [] => (.error ("missing equivalence class character '[==]'".toList), after)
          | [c] => (.ok (.same c), after)
          | _ =>
            (.error (name ++ ": equivalence class operand must be a single character".toList), after)
      | _, _ => none
    let repeated : Option (Except Octets Batch × List Mark) :=
      match special, mark, rest with
      | none, ('[', false), (c, _) :: ('*', false) :: body => times? c body
      | found, _, _ => found
    match repeated with
    | some (.error message, _) => .error message
    | some (.ok batch, after) => goOn batch after
    | none =>
      match rest with
      | ('-', false) :: (high, _) :: after =>
        if high < mark.1 then
          .error ("range-endpoints of '".toList ++ mark.1 :: '-' :: high ::
            "' are in reverse collating sequence order".toList)
        else goOn (.range mark.1 high) after
      | _ => goOn (.one mark.1) rest

/-- The characters that a number from zero to 255 stands for. -/
def allCharacters : Octets := (List.range 256).map Char.ofNat

/-- The characters of a part; where one is to be repeated as often as it takes, so many of it. -/
def characters (filling : Nat) : Batch → Octets
  | one c | same c => [c]
  | range low high => allCharacters.filter fun c => low ≤ c && c ≤ high
  | named name => allCharacters.filter (isInClass name)
  | times c count => List.replicate (count.getD filling) c

def isClass : Batch → Bool
  | named _ => true
  | _ => false

/-- Whether a part is a class of letters of one case. -/
def isCase : Batch → Bool
  | named name => name == "upper".toList || name == "lower".toList
  | _ => false

/-- The places at which the classes of letters of one case stand. -/
def casePlaces : Nat → List Batch → List Nat
  | _, [] => []
  | place, batch :: rest =>
    (if batch.isCase then [place] else []) ++ casePlaces (place + (batch.characters 0).length) rest

end Batch

/-- The characters of a list, made as long as another one if it says so. -/
def charactersOf (length : Nat) (batches : List Batch) : Octets :=
  let fixed := (batches.flatMap (Batch.characters 0)).length
  batches.flatMap (Batch.characters (length - fixed))

/-- Leaves out characters that repeat the one before them. -/
def squeeze (repeats : Char → Bool) (text : Octets) : Octets :=
  (text.foldl (fun (kept : Octets) c =>
    if kept.head? == some c && repeats c then kept else c :: kept) []).reverse

/-- What characters are replaced by, or what keeps that from being told. -/
def replacements (isComplement truncates : Bool) (first second : List Batch) :
    Except Octets (List (Char × Char)) :=
  let plain := charactersOf 0 first
  let source := if isComplement then Batch.allCharacters.filter fun c => !plain.contains c else plain
  let target := charactersOf source.length second
  let fillings := second.filter fun batch => match batch with
    | .times _ none => true
    | _ => false
  let isMisaligned := !isComplement &&
    (Batch.casePlaces 0 second).any fun place => !(Batch.casePlaces 0 first).contains place
  if fillings.length > 1 then
    .error "only one [c*] repeat construct may appear in string2".toList
  else if second.any fun batch => batch.isClass && !batch.isCase then
    .error ("when translating, the only character classes that may appear in\n".toList ++
      "string2 are 'upper' and 'lower'".toList)
  else if isMisaligned || (isComplement && second.any Batch.isClass) then
    .error "misaligned [:upper:] and/or [:lower:] construct".toList
  else if target.isEmpty && !truncates && !source.isEmpty then
    .error "when not truncating set1, string2 must be non-empty".toList
  else if isComplement && first.any Batch.isClass && (target.any fun c => some c != target.head?) then
    .error ("when translating with complemented character classes,\n".toList ++
      "string2 must map all characters in the domain to one".toList)
  else if !truncates && target.length < source.length && (second.getLast?.any Batch.isClass) then
    .error ("when translating with string1 longer than string2,\n".toList ++
      "the latter string must not end with a character class".toList)
  else
    let padded := if truncates then target
      else target ++ List.replicate (source.length - target.length) (target.getLastD 'x')
    .ok (source.zip padded).reverse

def translate : Utility := fun arguments =>
  let rules : List OptionRule :=
    [⟨'c', "complement", .none⟩, ⟨'C', "", .none⟩, ⟨'d', "delete", .none⟩,
      ⟨'s', "squeeze-repeats", .none⟩, ⟨'t', "truncate-set1", .none⟩]
  readingArguments false 1 rules arguments fun found => do
    let deletes := found.has 'd'
    let squeezes := found.has 's'
    let most := if deletes && !squeezes then 1 else 2
    let least := if deletes == squeezes then 2 else 1
    match found.operands with
    | [] => misuse "missing operand".toList
    | operands@(first :: _) =>
      if operands.length < least then
        misuse ("missing operand after ".toList ++ cite first ++ '\n' ::
          (if deletes then "Two strings must be given when both deleting and squeezing repeats."
            else "Two strings must be given when translating.").toList)
      else if most < operands.length then
        misuse ("extra operand ".toList ++ cite ((operands[most]?).getD []) ++
          if most == 1 then
            "\nOnly one string may be given when deleting without squeezing repeats.".toList
          else [])
      else
        let lists := operands.map fun text => Batch.marks (text.length + 1) text
        for (_, isOpen) in lists do
          if isOpen then
            note ((← get).name ++
              ": warning: an unescaped backslash at end of string is not portable\n".toList)
        match lists.mapM fun (marks, _) => Batch.read (marks.length + 1) marks with
        | .error message => complain message
        | .ok batches =>
          let first := (batches[0]?).getD []
          let second := batches[1]?
          let isComplement := found.has 'c' || found.has 'C'
          let plain := charactersOf 0 first
          let isFirst (c : Char) : Bool := plain.contains c != isComplement
          let hasFilling := first.any fun batch => match batch with
            | .times _ none => true
            | _ => false
          if hasFilling then complain "the [c*] repeat construct may not appear in string1".toList
          else
            let made : Except Octets (Octets → Octets) := match deletes, second with
              | true, some second =>
                let kept := charactersOf 0 second
                .ok fun text => squeeze kept.contains (text.filter fun c => !isFirst c)
              | true, none => .ok fun text => text.filter fun c => !isFirst c
              | false, none => .ok (squeeze isFirst)
              | false, some second => do
                let pairs ← replacements isComplement (found.has 't') first second
                let table := (List.range 256).map fun n =>
                  let c := Char.ofNat n
                  (pairs.lookup c).getD c
                let table := table.toArray
                let targets := pairs.map Prod.snd
                return fun text =>
                  let changed := text.map fun c => (table[c.toNat]?).getD c
                  if squeezes then squeeze targets.contains changed else changed
            match made with
            | .error message => complain message
            | .ok change =>
              match ← takeInput with
              | .ok text => print (change text)
              | .error fault => complain ("read error: ".toList ++ fault.reason)

end BuildRules.Shell.Utility
