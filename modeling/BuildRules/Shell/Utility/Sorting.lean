import BuildRules.Shell.Binary64
import BuildRules.Shell.Utility.Lines

/-! The utility that puts lines in order. Lines are compared by keys, parts of them that are read as
numbers or as text; lines whose keys are equal are compared as a whole. -/
namespace BuildRules.Shell.Utility
open Work

/-- The order of texts by their bytes. -/
def compareText (a b : Octets) : Ordering := compareOfLessAndEq a b

/-- How a key is read and compared. -/
structure KeyOrder where
  skipsBlanks : Bool := false
  isDictionary : Bool := false
  folds : Bool := false
  isPrinting : Bool := false
  /-- The letter of the kind of number, if the key is one. -/
  kind : Option Char := none
  isReversed : Bool := false
deriving DecidableEq

def KeyOrder.add (order : KeyOrder) (letter : Char) : Option KeyOrder :=
  match letter with
  | 'b' => some { order with skipsBlanks := true }
  | 'd' => some { order with isDictionary := true }
  | 'f' => some { order with folds := true }
  | 'i' => some { order with isPrinting := true }
  | 'r' => some { order with isReversed := true }
  | c => if "ghnMRV".toList.contains c then some { order with kind := some c } else none

/-- A key: from a place in a field to a place in another. Fields and characters are counted from
zero; without a character the end is that of the field. -/
structure SortKey where
  field : Nat := 0
  character : Nat := 0
  finish : Option (Nat × Nat) := none
  order : KeyOrder := {}
  /-- Whether blanks are skipped before the characters of the end are counted. -/
  skipsEndBlanks : Bool := false

def isBlankCharacter (c : Char) : Bool := c == ' ' || c == '\t' || c == '\n'

/-- A text behind so many fields. -/
def dropFields (separator : Option Char) (keepsLast : Bool) : Nat → Octets → Octets
  | 0, text => text
  | n + 1, text =>
    match separator with
    | some c =>
      let rest := text.dropWhile (· != c)
      let rest := if keepsLast && n == 0 then rest else rest.drop 1
      dropFields separator keepsLast n rest
    | none => dropFields separator keepsLast n ((text.dropWhile isBlankCharacter).dropWhile fun c => !isBlankCharacter c)

/-- The part of a line that is a key. -/
def SortKey.cut (key : SortKey) (separator : Option Char) (line : Octets) : Octets :=
  let behind := dropFields separator false key.field line
  let start := (if key.order.skipsBlanks then behind.dropWhile isBlankCharacter else behind).drop key.character
  match key.finish with
  | none => start
  | some (field, character) =>
    let rest :=
      if character == 0 then dropFields separator true (field + 1) line
      else
        let behind := dropFields separator false field line
        (if key.skipsEndBlanks then behind.dropWhile isBlankCharacter else behind).drop character
    start.take (start.length - min start.length rest.length)

/-! Numbers. -/

/-- A decimal number at the start of a text, as a count of parts of which a power of ten make one;
and what follows it. -/
def leadingNumber (text : Octets) : (Int × Nat) × Octets :=
  let start := text.dropWhile isBlankCharacter
  let (isNegative, body) := match start with
    | '-' :: rest => (true, rest)
    | _ => (false, start)
  let whole := body.takeWhile Char.isDigit
  let (part, rest) := match body.drop whole.length with
    | '.' :: more =>
      let part := more.takeWhile Char.isDigit
      (part, more.drop part.length)
    | rest => ([], rest)
  let units : Int := Integer.ofDigits 10 (whole ++ part)
  ((if isNegative then -units else units, part.length), rest)

def compareNumbers (a b : Int × Nat) : Ordering :=
  compare (a.1 * (Nat.pow 10 b.2 : Nat)) (b.1 * (Nat.pow 10 a.2 : Nat))

/-- The rank of the unit behind a number, with its sign. -/
def unitRank (text : Octets) : Int :=
  let ((units, _), rest) := leadingNumber text
  let rank : Nat := match rest with
    | 'k' :: _ => 1
    | c :: _ => ("KMGTPEZYRQ".toList.findIdx? (· == c)).map (· + 1) |>.getD 0
    | [] => 0
  if units == 0 then 0 else if units < 0 then -(rank : Int) else rank

/-- A real number as it is compared: what is no number first, then what is undefined. -/
def realRank (text : Octets) : Nat × Int × Nat :=
  let reading := Binary64.readAs .extended text
  if !reading.found then (0, 0, 1)
  else match reading.value with
    | .undefined _ => (1, 0, 1)
    | .infinite true => (2, 0, 1)
    | .infinite false => (4, 0, 1)
    | .finite isNegative mantissa exponent =>
      let (n, d) := Binary64.ratio mantissa exponent
      (3, if isNegative then -(n : Int) else n, d)

def compareReals (a b : Nat × Int × Nat) : Ordering :=
  (compare a.1 b.1).then (compare (a.2.1 * b.2.2) (b.2.1 * a.2.2))

/-- The number of the month whose name a text starts with, or zero. -/
def monthOf (text : Octets) : Nat :=
  let name := (((text.dropWhile isBlankCharacter).take 3).map Char.toUpper)
  let names := ["JAN", "FEB", "MAR", "APR", "MAY", "JUN", "JUL", "AUG", "SEP", "OCT", "NOV", "DEC"]
  ((names.findIdx? fun month => month.toList == name).map (· + 1)).getD 0

/-! Versions. Digits are compared as numbers, and letters come before other characters. -/

/-- The rank of a character that is no digit; a tilde comes even before the end. -/
def versionRank : Option Char → Int
  | none => -1
  | some '~' => -2
  | some c => if c.isDigit then 0 else if c.isAlpha then c.toNat else c.toNat + 256

/-- Compares texts part by part. The number bounds the work. -/
def compareParts : Nat → Octets → Octets → Ordering
  | 0, _, _ => .eq
  | fuel + 1, a, b =>
    if a.isEmpty && b.isEmpty then .eq
    else
      let isOdd (text : Octets) : Bool := text.head?.any fun c => !c.isDigit
      if isOdd a || isOdd b then
        let rank (text : Octets) : Int := match text with
          | [] => versionRank none
          | c :: _ => versionRank (some c)
        match compare (rank a) (rank b) with
        | .eq => compareParts fuel (a.drop 1) (b.drop 1)
        | other => other
      else
        let first := a.takeWhile Char.isDigit
        let second := b.takeWhile Char.isDigit
        match compare (Integer.ofDigits 10 first) (Integer.ofDigits 10 second) with
        | .eq => compareParts fuel (a.drop first.length) (b.drop second.length)
        | other => other

/-- A name without what tells the kind of the file. The number bounds the work. -/
def withoutSuffix : Nat → Octets → Octets
  | 0, name => name
  | fuel + 1, name =>
    let reversed := name.reverse
    let isPart (c : Char) : Bool := c.isAlphanum || c == '~'
    let part := reversed.takeWhile isPart
    match reversed.drop part.length with
    | '.' :: rest =>
      if (part.getLast?.any fun c => c.isAlpha || c == '~') && !rest.isEmpty then
        withoutSuffix fuel rest.reverse
      else name
    | _ => name

def compareVersions (a b : Octets) : Ordering :=
  let rank (name : Octets) : Nat :=
    if name.isEmpty then 0
    else if name == ['.'] then 1
    else if name == ['.', '.'] then 2
    else if name.head? == some '.' then 3 else 4
  let short (name : Octets) : Octets := withoutSuffix name.length name
  let parts (a b : Octets) : Ordering := compareParts (a.length + b.length + 1) a b
  (compare (rank a) (rank b)).then ((parts (short a) (short b)).then (parts a b))

/-! Comparing lines. -/

/-- A text as it is compared under an order of texts. -/
def KeyOrder.shape (order : KeyOrder) (text : Octets) : Octets :=
  let kept := text.filter fun c =>
    (!order.isDictionary || c.isAlphanum || c == ' ' || c == '\t') &&
      (!order.isPrinting || isPrintable c)
  if order.folds then kept.map Char.toUpper else kept

def KeyOrder.compare (order : KeyOrder) (a b : Octets) : Ordering :=
  let result := match order.kind with
    | some 'n' => compareNumbers (leadingNumber a).1 (leadingNumber b).1
    | some 'h' =>
      (Ord.compare (unitRank a) (unitRank b)).then
        (compareNumbers (leadingNumber a).1 (leadingNumber b).1)
    | some 'g' => compareReals (realRank a) (realRank b)
    | some 'M' => Ord.compare (monthOf a) (monthOf b)
    | some 'V' => compareVersions (order.shape a) (order.shape b)
    | _ => compareText (order.shape a) (order.shape b)
  if order.isReversed then result.swap else result

/-- How lines are put in order. -/
structure Sorting where
  keys : List SortKey
  order : KeyOrder
  separator : Option Char
  isUnique : Bool
  isStable : Bool

namespace Sorting

/-- A line with its keys. -/
structure Keyed where
  line : Octets
  keys : List Octets

def keyed (sorting : Sorting) (line : Octets) : Keyed :=
  ⟨line, sorting.keys.map fun key => key.cut sorting.separator line⟩

def compareKeys (sorting : Sorting) (a b : Keyed) : Ordering :=
  ((sorting.keys.zip (a.keys.zip b.keys)).foldl (fun result (key, x, y) =>
    result.then (key.order.compare x y)) .eq)

def compare (sorting : Sorting) (a b : Keyed) : Ordering :=
  let byKeys := sorting.compareKeys a b
  if sorting.isUnique || sorting.isStable then byKeys
  else
    let whole := compareText a.line b.line
    byKeys.then (if sorting.order.isReversed then whole.swap else whole)

/-- Lines without those that are equal to the one before them. -/
def withoutRepeats (sorting : Sorting) (lines : List Keyed) : List Keyed :=
  (lines.foldl (fun (kept : List Keyed) line => match kept with
    | last :: _ => if sorting.compareKeys last line == .eq then kept else line :: kept
    | [] => [line]) []).reverse

/-- Puts the heads of lists of lines in order. The number bounds the work. -/
def merge (sorting : Sorting) : Nat → List (List Keyed) → List Keyed
  | 0, _ => []
  | fuel + 1, lists =>
    match lists.filter fun list => !list.isEmpty with
    | [] => []
    | (first :: rest) :: others =>
      let (best, left) := others.foldl (fun ((best, passed) : (List Keyed) × List (List Keyed)) list =>
        match best, list with
        | x :: _, y :: _ => if sorting.compare y x == .lt then (list, passed ++ [best]) else (best, passed ++ [list])
        | _, _ => (best, passed ++ [list])) (first :: rest, [])
      match best with
      | x :: after => x :: merge sorting fuel (after :: left)
      | [] => []
    | [] :: others => merge sorting fuel others

end Sorting

/-! Reading of keys. -/

/-- A number at the start of a key. -/
def keyCount (text : Octets) : Option (Nat × Octets) :=
  let digits := text.takeWhile Char.isDigit
  if digits.isEmpty then none else some (Integer.ofDigits 10 digits, text.drop digits.length)

/-- Reads the letters behind a place in a key. -/
def keyLetters (order : KeyOrder) : Octets → KeyOrder × Octets
  | [] => (order, [])
  | c :: rest =>
    match order.add c with
    | some order => keyLetters order rest
    | none => (order, c :: rest)

/-- Reads a key, or says what is wrong with it. -/
def SortKey.read (spec : Octets) : Except Octets SortKey := do
  let bad {α : Type} (message : String) : Except Octets α :=
    .error (message.toList ++ ": invalid field specification ".toList ++ cite spec)
  let count (where_ : String) (text : Octets) : Except Octets (Nat × Octets) :=
    match keyCount text with
    | some found => .ok found
    | none => .error (where_.toList ++ ": invalid count at start of ".toList ++ cite text)
  let (field, rest) ← count "invalid number at field start" spec
  if field == 0 then bad "field number is zero"
  else
    let (character, rest) ← match rest with
      | '.' :: more => do
        let (n, after) ← count "invalid number after '.'" more
        if n == 0 then bad "character offset is zero" else pure (n - 1, after)
      | rest => pure (0, rest)
    let (order, rest) := keyLetters {} rest
    match rest with
    | [] => return { field := field - 1, character := character, order := order }
    | ',' :: more =>
      let (last, rest) ← count "invalid number after ','" more
      if last == 0 then bad "field number is zero"
      else
        let (offset, rest) ← match rest with
          | '.' :: more => count "invalid number after '.'" more
          | rest => pure (0, rest)
        let (second, rest) := keyLetters { order with skipsBlanks := false } rest
        if rest.isEmpty then
          return {
            field := field - 1
            character := character
            finish := some (last - 1, offset)
            order := { second with skipsBlanks := order.skipsBlanks }
            skipsEndBlanks := second.skipsBlanks }
        else bad "stray character in field spec"
    | _ => bad "stray character in field spec"

/-- An old form of a key, from a field on, in the new form. -/
def modernKey (argument : Octets) : Option Octets :=
  match argument with
  | '+' :: rest =>
    match keyCount rest with
    | some (field, []) => some (Text.ofNat (field + 1))
    | _ => none
  | _ => none

def sortRules : List OptionRule :=
  [⟨'b', "ignore-leading-blanks", .none⟩, ⟨'c', "check", .optional⟩, ⟨'C', "", .none⟩,
    ⟨'d', "dictionary-order", .none⟩, ⟨'f', "ignore-case", .none⟩,
    ⟨'g', "general-numeric-sort", .none⟩, ⟨'h', "human-numeric-sort", .none⟩,
    ⟨'i', "ignore-nonprinting", .none⟩, ⟨'k', "key", .one⟩, ⟨'m', "merge", .none⟩,
    ⟨'M', "month-sort", .none⟩, ⟨'n', "numeric-sort", .none⟩, ⟨'o', "output", .one⟩,
    ⟨'r', "reverse", .none⟩, ⟨'R', "random-sort", .none⟩, ⟨'s', "stable", .none⟩,
    ⟨'S', "buffer-size", .one⟩, ⟨'t', "field-separator", .one⟩, ⟨'T', "temporary-directory", .one⟩,
    ⟨'u', "unique", .none⟩, ⟨'V', "version-sort", .none⟩, ⟨'y', "", .optional⟩,
    ⟨'z', "zero-terminated", .none⟩, ⟨'π', "parallel", .one⟩, ⟨'σ', "sort", .one⟩]

/-- The kinds of order that exclude each other. -/
def clash? (letters : Octets) (order : KeyOrder) : Option Octets :=
  let kinds := (letters.filter fun c => "ghnMRV".toList.contains c).eraseDups
  let others := (if order.isDictionary then ['d'] else []) ++ (if order.isPrinting then ['i'] else [])
  let numeric := kinds.filter fun c => "ghnM".toList.contains c
  if kinds.length > 1 || (!numeric.isEmpty && !others.isEmpty) then
    some ((kinds ++ others).mergeSort fun a b => decide (a.toNat ≤ b.toNat))
  else none

/-- The text of all files together, or the complaint of the first that cannot be read. -/
def sortInput : List Octets → Work (Except Octets (List Octets))
  | [] => return .ok []
  | path :: rest => do
    match ← source path with
    | .ok text => return (← sortInput rest).map (text :: ·)
    | .error fault =>
      let words := if fault == Fault.isDirectory then "read failed: " else "cannot read: "
      return .error (words.toList ++ quoteIfNeeded path ++ ": ".toList ++ fault.reason)

/-- Sorts what files hold. -/
def sortWith (found : Arguments) (sorting : Sorting) (paths : List Octets) : Work Unit := do
  let ending := if found.has 'z' then '\x00' else '\n'
  match ← sortInput paths with
  | .error message => complain message 2
  | .ok texts =>
    let linesIn (text : Octets) : List Octets :=
      let parts := Text.pieces ending text
      if parts.getLast? == some [] then parts.dropLast else parts
    let lists := texts.map fun text => (linesIn text).map sorting.keyed
    if found.has 'c' || found.has 'C' then
      let lines := lists.flatten
      let isWrong (pair : Sorting.Keyed × Sorting.Keyed) : Bool :=
        let order := sorting.compare pair.1 pair.2
        order == .gt || (sorting.isUnique && order == .eq)
      match (lines.zip (lines.drop 1)).findIdx? isWrong with
      | none => pure ()
      | some n =>
        let isSilent := found.has 'C' || (found.value? 'c').any fun word =>
          word == "quiet".toList || word == "silent".toList
        unless isSilent do
          let line := ((lines[n + 1]?).map Sorting.Keyed.line).getD []
          complain (paths.headD [] ++ ':' :: Text.ofNat (n + 2) ++ ": disorder: ".toList ++ line)
        fail 1
    else
      let all := lists.flatten
      let sorted := if found.has 'm' then sorting.merge (all.length + 1) lists
        else all.mergeSort fun a b => sorting.compare a b != .gt
      let kept := if sorting.isUnique then sorting.withoutRepeats sorted else sorted
      let output := kept.flatMap fun item => item.line ++ [ending]
      match found.value? 'o' with
      | none => print output
      | some path =>
        match ← store path fun _ => output with
        | none => pure ()
        | some .noSpace =>
          complain ("fflush failed: ".toList ++ path ++ ": ".toList ++ Fault.noSpace.reason) 2
          complain "write error".toList 2
        | some fault => complain ("open failed: ".toList ++ path ++ ": ".toList ++ fault.reason) 2

def sort : Utility := fun arguments =>
  readingArguments true 2 sortRules arguments fun found => do
    let named : List (String × Char) :=
      [("general-numeric", 'g'), ("human-numeric", 'h'), ("month", 'M'), ("numeric", 'n'),
        ("random", 'R'), ("version", 'V')]
    let letters := found.options.filterMap fun (letter, value) =>
      if letter == 'σ' then (named.find? fun item => item.1.toList == value).map Prod.snd
      else some letter
    let order := letters.foldl (fun (order : KeyOrder) letter => (order.add letter).getD order) {}
    let old := found.operands.filterMap modernKey
    let paths := found.operands.filter fun operand => (modernKey operand).isNone
    match (found.values 'k' ++ old).mapM SortKey.read with
    | .error message => complain message 2
    | .ok keys =>
      let inherit (key : SortKey) : SortKey :=
        if key.order == {} && !key.skipsEndBlanks then
          { key with order := order, skipsEndBlanks := order.skipsBlanks }
        else key
      let whole : List SortKey := [{ order := order }]
      let separator : Option (Option Char) := match found.value? 't' with
        | none => some none
        | some [c] => some (some c)
        | some ['\\', '0'] => some (some '\x00')
        | some _ => none
      match separator, clash? letters order with
      | none, _ =>
        let text := (found.value? 't').getD []
        complain (if text.isEmpty then "empty tab".toList
          else "multi-character tab ".toList ++ cite text) 2
      | _, some kinds =>
        complain ("options '-".toList ++ kinds ++ "' are incompatible".toList) 2
      | some separator, none =>
        let sorting : Sorting :=
          { keys := if keys.isEmpty then whole else keys.map inherit
            order := order
            separator := separator
            isUnique := found.has 'u'
            isStable := found.has 's' }
        match found.has 'c' || found.has 'C', paths with
        | true, _ :: extra :: _ =>
          complain ("extra operand ".toList ++ quote extra ++ " not allowed with -c".toList) 2
        | _, _ => sortWith found sorting (if paths.isEmpty then [['-']] else paths)

end BuildRules.Shell.Utility
