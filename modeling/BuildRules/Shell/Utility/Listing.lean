import BuildRules.Shell.Mode
import BuildRules.Shell.Pattern
import BuildRules.Shell.Utility.Dates

/-! Utilities that list files and tell what is known about them. -/
namespace BuildRules.Shell.Utility
open Work

/-! Listings. -/

/-- A row of a listing. -/
structure Row where
  name : Octets
  entry : Entry
  /-- What the row tells of instead of a link. -/
  target : Option Entry
  number : Nat
  links : Nat

namespace Row

/-- The blocks of 1024 bytes that are used. -/
def blocks (row : Row) : Nat :=
  match row.entry.node with
  | .file content => (content.length + 4095) / 4096 * 4
  | .directory => 4
  | _ => 0

/-- The mark that tells the kind of what has a name. -/
def mark (found : Arguments) (entry : Entry) : Octets :=
  if found.has 'F' then
    match entry.node with
    | .directory => ['/']
    | .link _ => ['@']
    | .file _ | .program _ => if entry.mode &&& 0o111 != 0 then ['*'] else []
    | .device _ => []
  else if found.has 'p' && entry.node.isDirectory then ['/'] else []

/-- A size with one letter for a power of 1024. -/
def humanSize (size : Nat) : Octets :=
  if size < 1024 then Text.ofNat size
  else
    let scale := if size < 1048576 then 1024 else if size < 1073741824 then 1048576 else 1073741824
    let letter := if scale == 1024 then 'K' else if scale == 1048576 then 'M' else 'G'
    let tenths := (size * 10 + scale - 1) / scale
    if tenths < 100 then Text.ofNat (tenths / 10) ++ '.' :: Text.ofNat (tenths % 10) ++ [letter]
    else Text.ofNat ((size + scale - 1) / scale) ++ [letter]

def extension (name : Octets) : Octets :=
  if name.contains '.' then '.' :: (name.reverse.takeWhile (· != '.')).reverse else []

/-- Whether a row comes before another one. -/
def isBefore (found : Arguments) (a b : Row) : Bool :=
  let byName (a b : Row) : Bool := compare a.name b.name != .gt
  let size (row : Row) : Nat := row.entry.node.size
  let (a, b) := if found.has 'r' then (b, a) else (a, b)
  let groups := found.has 'γ'
  let isDirectory (row : Row) : Bool := (row.target.getD row.entry).node.isDirectory
  if groups && isDirectory a != isDirectory b then isDirectory a != found.has 'r'
  else match found.lastOf "tSUXf" with
  | some 't' =>
    if a.entry.modified == b.entry.modified then byName a b else a.entry.modified > b.entry.modified
  | some 'S' => if size a == size b then byName a b else size a > size b
  | some 'X' =>
    if extension a.name == extension b.name then byName a b
    else compare (extension a.name) (extension b.name) == .lt
  | _ => byName a b

def kind (entry : Entry) : Char :=
  match entry.node with
  | .directory => 'd'
  | .link _ => 'l'
  | .device _ => 'c'
  | _ => '-'

/-- The cells of a long row before its name. -/
def cells (found : Arguments) (now : Time) (row : Row) : List Octets :=
  let owner : Octets := if found.has 'n' then ['0'] else "root".toList
  let size := row.entry.node.size
  let isRecent := row.entry.modified ≤ now && now - row.entry.modified < 15778476
  let date : Octets := match found.value? 'τ', found.has 'φ' with
    | some ('+' :: format), _ => DateFormat.text row.entry.modified format
    | some ['f', 'u', 'l', 'l', '-', 'i', 's', 'o'], _ | _, true =>
      DateFormat.text row.entry.modified "%F %T.%N %z".toList
    | some ['l', 'o', 'n', 'g', '-', 'i', 's', 'o'], _ =>
      DateFormat.text row.entry.modified "%F %R".toList
    | _, _ =>
      DateFormat.text row.entry.modified (if isRecent then "%b %e %R" else "%b %e  %Y").toList
  [kind row.entry :: Mode.text row.entry.mode, Text.ofNat row.links] ++
    (if found.has 'g' then [] else [owner]) ++
    (if found.has 'o' || found.has 'G' then [] else [owner]) ++
    [if found.has 'h' then humanSize size else Text.ofNat size, date]

end Row

def padLeft (width : Nat) (text : Octets) : Octets := List.replicate (width - text.length) ' ' ++ text

def padRight (width : Nat) (text : Octets) : Octets := text ++ List.replicate (width - text.length) ' '

/-- The greatest number in a list. -/
def greatest (numbers : List Nat) : Nat := numbers.foldl max 0

/-- The widths of so many columns in which names stand, from the top down or from left to right. -/
def columnWidths (acrossFirst : Bool) (names : List Octets) (count : Nat) : List Nat :=
  let lines := (names.length + count - 1) / count
  let lengths := names.zipIdx.map fun (name, n) =>
    (if acrossFirst then n % count else n / lines, name.length)
  (List.range count).map fun column =>
    greatest (lengths.filterMap fun (other, length) => if other == column then some length else none)

/-- Blanks from one place to another. Tabs are taken where they go far enough. -/
def gapBetween (start finish : Nat) : Octets :=
  let rec go (fuel place : Nat) : Octets :=
    match fuel with
    | 0 => []
    | fuel + 1 =>
      if finish ≤ place then []
      else if (place + 1) / 8 < finish / 8 then '\t' :: go fuel (place / 8 * 8 + 8)
      else ' ' :: go fuel (place + 1)
  go (finish - start) start

/-- Names in as many columns as a line has room for. Between two columns are at least two blanks, and
no column counts for less than three. -/
def columns (acrossFirst : Bool) (limit : Nat) (names : List Octets) : List Octets :=
  let count := names.length
  let most := min count (max 1 ((limit + 2) / 3))
  let isRoomy (n : Nat) : Bool :=
    let widths := columnWidths acrossFirst names n
    widths.zipIdx.foldl (fun total (width, column) =>
      total + max 3 (if column + 1 == n then width else width + 2)) 0 < limit
  let chosen := ((List.range most).reverse.find? fun n => isRoomy (n + 1)).getD 0 + 1
  let widths := columnWidths acrossFirst names chosen
  let lines := (count + chosen - 1) / chosen
  let row (line : Nat) : List Octets :=
    (List.range chosen).filterMap fun column =>
      if acrossFirst then names[line * chosen + column]? else names[column * lines + line]?
  (List.range lines).map fun line =>
    let cells := row line
    (cells.zipIdx.foldl (fun (done, start) (name, n) =>
      let finish := start + widths.getD n 0 + 2
      let gap := if n + 1 == cells.length then [] else gapBetween (start + name.length) finish
      (done ++ name ++ gap, finish)) (([] : Octets), 0)).1

/-- Names one after the other with a sign between them, in lines that are no longer than a limit. -/
def runningLines (sign : Octets) (limit : Nat) (names : List Octets) : List Octets :=
  let (done, line) := names.foldl (fun (done, line) name =>
    if line.isEmpty then (done, name)
    else if limit == 0 || line.length + sign.length + 1 + name.length < limit then
      (done, line ++ sign ++ ' ' :: name)
    else ((line ++ sign) :: done, name)) (([] : List Octets), ([] : Octets))
  if names.isEmpty then [] else (line :: done).reverse

/-- The lines that show rows. -/
def shownRows (found : Arguments) (now : Time) (rows : List Row) : List Octets :=
  let sorted := if found.has 'U' || found.has 'f' then rows else rows.mergeSort (Row.isBefore found)
  let isLong := found.has 'l' || found.has 'g' || found.has 'o' || found.has 'n' || found.has 'φ'
  let quoted (name : Octets) : Octets := if found.has 'Q' then '"' :: name ++ ['"'] else name
  let blockWidth := greatest (sorted.map fun row => (Text.ofNat row.blocks).length)
  let numberWidth := greatest (sorted.map fun row => (Text.ofNat row.number).length)
  let before (row : Row) : Octets :=
    (if found.has 'i' then padLeft numberWidth (Text.ofNat row.number) ++ [' '] else []) ++
      (if found.has 's' then padLeft blockWidth (Text.ofNat row.blocks) ++ [' '] else [])
  if isLong then
    let table := sorted.map (Row.cells found now)
    let last := ((table.headD []).length) - 2
    let widths := (List.range (table.headD []).length).map fun n =>
      greatest (table.map fun cells => (cells.getD n []).length)
    (sorted.zip table).map fun (row, cells) =>
      let padded := cells.zipIdx.map fun (cell, n) =>
        if n == 1 || n == last then padLeft (widths.getD n 0) cell else padRight (widths.getD n 0) cell
      let arrow := match row.entry.node, row.target with
        | .link target, other => " -> ".toList ++ quoted target ++ (other.map (Row.mark found)).getD []
        | _, _ => Row.mark found row.entry
      before row ++ Text.join [' '] padded ++ ' ' :: quoted row.name ++ arrow
  else
    let names := sorted.map fun row => before row ++ quoted row.name ++ Row.mark found row.entry
    let limit := ((found.value? 'w').bind Integer.decimal?).getD 80
    match found.lastOf "1Cxm" with
    | some 'C' => if limit == 0 then runningLines [' '] 0 names else columns false limit names
    | some 'x' => if limit == 0 then runningLines [' '] 0 names else columns true limit names
    | some 'm' => runningLines [','] limit names
    | _ => names

/-- The row for what a path leads to. -/
def rowAt? (found : Arguments) (isGiven : Bool) (path name : Octets) : Work (Except Fault Row) := do
  let isLong := found.has 'l' || found.has 'g' || found.has 'o' || found.has 'n' || found.has 'φ'
  let follow := found.has 'L' || (found.has 'H' && isGiven)
  let own ← entry false path
  let target ← entry true path
  let chosen := if follow then target else own
  match chosen with
  | .error fault => return .error fault
  | .ok entry =>
    let number ← number? follow path
    let count ← look fun files _ => files.nameCount (number.getD 0)
    let below ← match ← place follow path with
      | .ok ⟨location, _⟩ => look fun files _ =>
        (files.children location).countP fun child =>
          (files.entry? (location ++ [child])).any fun entry => entry.node.isDirectory
      | .error _ => pure 0
    let links := if entry.node.isDirectory then below + 2 else count
    let other := match entry.node with
      | .link _ => if isLong then target.toOption else none
      | _ => none
    return .ok ⟨name, entry, other, number.getD 0, links⟩

/-- The names in a directory that a listing shows. -/
def shownNames (found : Arguments) (names : List Octets) : List Octets :=
  let all := match found.lastOf "aAf" with
    | some 'A' => names
    | some _ => ['.'] :: ['.', '.'] :: names
    | none => names.filter fun name => name.head? != some '.'
  let hidden := (found.values 'I').map Glob.ofText
  all.filter fun name =>
    !(found.has 'B' && name.getLast? == some '~') && !hidden.any fun glob => Glob.isMatch glob name

/-- Shows what is in a directory, and in those under it if that is asked for. -/
def listDirectory (found : Arguments) (headed : Bool) : Nat → Bool → Octets → Work Unit
  | 0, _, _ => pure ()
  | fuel + 1, isFirst, path => do
    match ← place true path with
    | .error fault => complain ("cannot open directory ".toList ++ quote path ++ ": ".toList ++ fault.reason) 2
    | .ok ⟨location, _⟩ =>
      unless isFirst do printLine []
      if headed then printLine (path ++ [':'])
      let names := shownNames found (← look fun files _ => files.children location)
      let rows ← names.mapM fun name => rowAt? found false (under path name) name
      let rows := rows.filterMap Except.toOption
      let now ← look fun files _ => files.now
      let isLong := found.has 'l' || found.has 'g' || found.has 'o' || found.has 'n' || found.has 'φ'
      if isLong || found.has 's' then
        let total := (rows.map Row.blocks).foldl (· + ·) 0
        printLine ("total ".toList ++ Text.ofNat total)
      for line in shownRows found now rows do printLine line
      if found.has 'R' then
        let sorted := rows.mergeSort (Row.isBefore found)
        for row in sorted do
          if row.entry.node.isDirectory && row.name != ['.'] && row.name != ['.', '.'] then
            listDirectory found true fuel false (under path row.name)

def listFiles : Utility := fun arguments =>
  let rules : List OptionRule :=
    Arguments.letters "1aABCFGHiLlmNnopQqRrSsTtUuvXxZcfkbD" ++
    [⟨'g', "", .none⟩, ⟨'d', "directory", .none⟩, ⟨'h', "human-readable", .none⟩, ⟨'I', "ignore", .one⟩,
      ⟨'w', "width", .one⟩, ⟨'a', "all", .none⟩, ⟨'A', "almost-all", .none⟩, ⟨'r', "reverse", .none⟩,
      ⟨'R', "recursive", .none⟩, ⟨'F', "classify", .optional⟩, ⟨'κ', "color", .optional⟩,
      ⟨'τ', "time-style", .one⟩, ⟨'φ', "full-time", .none⟩, ⟨'σ', "sort", .one⟩, ⟨'ε', "time", .one⟩,
      ⟨'γ', "group-directories-first", .none⟩, ⟨'i', "inode", .none⟩, ⟨'s', "size", .none⟩,
      ⟨'L', "dereference", .none⟩, ⟨'Q', "quote-name", .none⟩, ⟨'B', "ignore-backups", .none⟩,
      ⟨'n', "numeric-uid-gid", .none⟩, ⟨'G', "no-group", .none⟩, ⟨'ξ', "format", .one⟩]
  let renamed (option : Char × Octets) : Char × Octets := match option with
    | ('σ', word) => match String.ofList word with
      | "time" => ('t', [])
      | "size" => ('S', [])
      | "extension" => ('X', [])
      | "none" => ('U', [])
      | _ => ('N', [])
    | ('ξ', word) => match String.ofList word with
      | "long" | "verbose" => ('l', [])
      | "single-column" => ('1', [])
      | "vertical" => ('C', [])
      | "across" | "horizontal" => ('x', [])
      | "commas" => ('m', [])
      | _ => ('N', [])
    | other => other
  readingArguments true 2 rules arguments fun given => do
    let found := { given with options := given.options.map renamed }
    match (found.value? 'w').map fun width => (width, Integer.decimal? width) with
    | some (width, none) =>
      complain ("invalid line width: ".toList ++ cite width) 2
      return
    | _ => pure ()
    let paths := if found.operands.isEmpty then [['.']] else found.operands
    let isLong := found.has 'l' || found.has 'g' || found.has 'o' || found.has 'n' || found.has 'φ'
    let mut directories : List Row := []
    let mut plain : List Row := []
    for path in paths do
      let isTree ← isDirectory path
      let own := match ← entry false path with
        | .ok entry => entry.node.isLink
        | .error _ => false
      let strict := found.has 'L' || found.has 'H'
      let target ← entry true path
      let row ← rowAt? found true path path
      match (if strict then target.map fun _ => () else pure ()), row with
      | .error fault, _ | _, .error fault =>
        complain ("cannot access ".toList ++ quote path ++ ": ".toList ++ fault.reason) 2
      | .ok _, .ok row =>
        let opens := isTree && !found.has 'd' && (!own || strict || !(isLong || found.has 'F'))
        if opens then directories := directories ++ [row] else plain := plain ++ [row]
    let now ← look fun files _ => files.now
    for line in shownRows found now plain do printLine line
    let headed := paths.length > 1 || found.has 'R'
    let mut isFirst := plain.isEmpty
    for row in directories.mergeSort (Row.isBefore found) do
      listDirectory found headed 64 isFirst row.name
      isFirst := false

/-! Facts about single files. -/

/-- What kind of thing an entry is, in words. -/
def kindName (entry : Entry) : Octets :=
  match entry.node with
  | .directory => "directory".toList
  | .link _ => "symbolic link".toList
  | .device _ => "character special file".toList
  | .file [] => "regular empty file".toList
  | _ => "regular file".toList

/-- What a format asks for about a file. The number bounds the work. -/
def factsText (path : Octets) (row : Row) (escapes : Bool) : Nat → Octets → Octets
  | 0, _ => []
  | _, [] => []
  | fuel + 1, '%' :: c :: rest =>
    let entry := row.entry
    let date := DateFormat.text entry.modified "%F %T.%N %z".toList
    let shown : Octets := match c with
      | 'n' => path
      | 'N' => match entry.node with
        | .link target => quote path ++ " -> ".toList ++ quote target
        | _ => quote path
      | 's' => Text.ofNat entry.node.size
      | 'X' | 'Y' | 'Z' => Text.ofInt entry.modified
      | 'W' => ['0']
      | 'x' | 'y' | 'z' => date
      | 'w' => ['-']
      | 'a' => Nat.toDigits 8 entry.mode
      | 'A' => Row.kind entry :: Mode.text entry.mode
      | 'F' => kindName entry
      | 'h' => Text.ofNat row.links
      | 'i' => Text.ofNat row.number
      | 'u' | 'g' => ['0']
      | 'U' | 'G' => "root".toList
      | 'b' => Text.ofNat (row.blocks * 2)
      | 'B' => "512".toList
      | 'o' => "4096".toList
      | 'f' =>
        let kind := match entry.node with
          | .directory => 0o40000
          | .link _ => 0o120000
          | .device _ => 0o20000
          | _ => 0o100000
        Nat.toDigits 16 (kind + entry.mode)
      | 't' | 'T' => ['0']
      | '%' => ['%']
      | _ => ['?']
    shown ++ factsText path row escapes fuel rest
  | fuel + 1, '\\' :: c :: rest =>
    if !escapes then '\\' :: factsText path row escapes fuel (c :: rest)
    else
      let byte := match c with
        | 'n' => '\n'
        | 't' => '\t'
        | '0' => '\x00'
        | other => other
      byte :: factsText path row escapes fuel rest
  | fuel + 1, c :: rest => c :: factsText path row escapes fuel rest

def facts : Utility := fun arguments =>
  let rules : List OptionRule :=
    [⟨'c', "format", .one⟩, ⟨'L', "dereference", .none⟩, ⟨'f', "file-system", .none⟩,
      ⟨'t', "terse", .none⟩, ⟨'π', "printf", .one⟩]
  withArguments rules arguments fun found => do
    if found.operands.isEmpty then misuse "missing operand".toList
    for path in found.operands do
      let flags : Arguments := { options := if found.has 'L' then [('L', [])] else [] }
      match ← rowAt? flags true path path with
      | .error fault => cannotTell path fault
      | .ok row =>
        match found.value? 'c', found.value? 'π' with
        | some format, _ => printLine (factsText path row false (format.length + 1) format)
        | none, some format => print (factsText path row true (format.length + 1) format)
        | none, none =>
          let date := DateFormat.text row.entry.modified "%F %T.%N %z".toList
          let name := match row.entry.node with
            | .link target => path ++ " -> ".toList ++ target
            | _ => path
          printLine ("  File: ".toList ++ name)
          printLine ("  Size: ".toList ++ padRight 10 (Text.ofNat row.entry.node.size) ++
            "\tBlocks: ".toList ++ padRight 10 (Text.ofNat (row.blocks * 2)) ++ " IO Block: 4096   ".toList ++
            kindName row.entry)
          printLine ("Device: 0,0\tInode: ".toList ++ padRight 11 (Text.ofNat row.number) ++
            " Links: ".toList ++ Text.ofNat row.links)
          printLine ("Access: (".toList ++ Mode.octal row.entry.mode ++ '/' ::
            Row.kind row.entry :: Mode.text row.entry.mode ++
            ")  Uid: (    0/    root)   Gid: (    0/    root)".toList)
          for word in ["Access: ", "Modify: ", "Change: "] do printLine (word.toList ++ date)
          printLine " Birth: -".toList
where
  cannotTell (path : Octets) (fault : Fault) : Work Unit :=
    complain ("cannot statx ".toList ++ quote path ++ ": ".toList ++ fault.reason)

/-! Paths. -/

/-- The path of what a path leads to, without links and dots in it. As much of it has to be there
as is asked for: all, all but the last component, or nothing. -/
def canonical? (demand : Char) (path : Octets) : Work (Except Fault Octets) := do
  let shown (location : Location) : Octets := '/' :: Text.join ['/'] location
  match ← place true path with
  | .ok ⟨location, some _⟩ => return .ok (shown location)
  | .ok ⟨location, none⟩ =>
    if demand == 'e' then return .error .notFound
    else if path.getLast? == some '/' && demand == 'f' then return .ok (shown location)
    else return .ok (shown location)
  | .error fault =>
    if demand != 'm' || path.isEmpty then return .error fault
    else
      let parts := (FileTree.components path).filter fun part => !part.isEmpty && part != ['.']
      let base ← if path.head? == some '/' then pure [] else look fun _ base => base
      let location := parts.foldl (fun location part =>
        if part == ['.', '.'] then location.dropLast else location ++ [part]) base
      return .ok (shown location)

def readLink : Utility := fun arguments =>
  let rules : List OptionRule :=
    [⟨'f', "canonicalize", .none⟩, ⟨'e', "canonicalize-existing", .none⟩,
      ⟨'m', "canonicalize-missing", .none⟩, ⟨'n', "no-newline", .none⟩, ⟨'q', "quiet", .none⟩,
      ⟨'s', "silent", .none⟩, ⟨'v', "verbose", .none⟩, ⟨'z', "zero", .none⟩]
  withArguments rules arguments fun found => do
    if found.operands.isEmpty then misuse "missing operand".toList
    let ending : Octets := if found.has 'z' then ['\x00']
      else if found.has 'n' && found.operands.length ≤ 1 then [] else ['\n']
    for path in found.operands do
      let answer ← match found.lastOf "fem" with
        | some demand => canonical? demand path
        | none => do
          match ← entry false path with
          | .ok ⟨.link target, _, _⟩ => pure (.ok target)
          | .ok _ => pure (.error .invalid)
          | .error fault => pure (.error fault)
      match answer with
      | .ok text => print (text ++ ending)
      | .error fault =>
        if found.has 'v' then complain (plainly path fault) else fail 1

/-- The way from one directory to a path. -/
def relativePath (start path : Octets) : Octets :=
  let parts (path : Octets) : List Octets := (Text.pieces '/' path).filter fun part => !part.isEmpty
  let rec go : List Octets → List Octets → Octets
    | a :: s, b :: t =>
      if a == b then go s t
      else Text.join ['/'] (List.replicate (s.length + 1) ['.', '.'] ++ b :: t)
    | [], [] => ['.']
    | s, t => Text.join ['/'] (List.replicate s.length ['.', '.'] ++ t)
  go (parts start) (parts path)

/-- The path from the root that a path stands for; links can be left as they are. -/
def resolved (found : Arguments) (path : Octets) : Work (Except Fault Octets) := do
  if found.has 's' then
    let base ← if path.head? == some '/' then pure [] else look fun _ base => base
    let parts := (FileTree.components path).filter fun part => !part.isEmpty && part != ['.']
    let location := parts.foldl (fun location part =>
      if part == ['.', '.'] then location.dropLast else location ++ [part]) base
    return if path.isEmpty then .error .notFound else .ok ('/' :: Text.join ['/'] location)
  else canonical? ((found.lastOf "em").getD 'f') path

/-- A directory that paths are shown from. It has to be there if all paths have to. -/
def startOf (found : Arguments) (path : Octets) : Work (Except Octets Octets) := do
  match ← resolved found path with
  | .error fault => return .error (plainly path fault)
  | .ok text =>
    let isDirectory := (← entry true path).toOption.any fun entry => entry.node.isDirectory
    if found.lastOf "em" == some 'e' && !isDirectory then
      return .error (plainly path .notDirectory)
    return .ok text

def isWithin (base path : Octets) : Bool :=
  base == ['/'] || base == path || (base ++ ['/']).isPrefixOf path

def realPath : Utility := fun arguments =>
  let rules : List OptionRule :=
    [⟨'e', "canonicalize-existing", .none⟩, ⟨'m', "canonicalize-missing", .none⟩,
      ⟨'L', "logical", .none⟩, ⟨'P', "physical", .none⟩, ⟨'q', "quiet", .none⟩,
      ⟨'s', "no-symlinks", .none⟩, ⟨'s', "strip", .none⟩, ⟨'z', "zero", .none⟩,
      ⟨'ρ', "relative-to", .one⟩, ⟨'β', "relative-base", .one⟩]
  withArguments rules arguments fun found => do
    if found.operands.isEmpty then misuse "missing operand".toList
    else
      let base ← (found.value? 'β').mapM fun path => startOf found path
      let start ← (found.value? 'ρ').mapM fun path => startOf found path
      match start, base with
      | some (.error message), _ | _, some (.error message) => complain message
      | start, base =>
        let base := base.bind Except.toOption
        let start := (start.bind Except.toOption).or base
        let isRelative (text : Octets) : Bool :=
          base.all fun base => isWithin base text && start.all (isWithin base)
        for path in found.operands do
          match ← resolved found path with
          | .ok text =>
            let shown := match start with
              | some start => if isRelative text then relativePath start text else text
              | none => text
            print (shown ++ if found.has 'z' then ['\x00'] else ['\n'])
          | .error fault => if found.has 'q' then fail 1 else complain (plainly path fault)

def baseNames : Utility := fun arguments =>
  let rules : List OptionRule :=
    [⟨'a', "multiple", .none⟩, ⟨'s', "suffix", .one⟩, ⟨'z', "zero", .none⟩]
  readingArguments false 1 rules arguments fun found => do
    let tell (ending path : Octets) : Work Unit := do
      let name := baseName path
      let cut := if ending.isSuffixOf name && ending.length < name.length then
          name.take (name.length - ending.length) else name
      print (cut ++ if found.has 'z' then ['\x00'] else ['\n'])
    let many := found.has 'a' || found.has 's'
    match found.operands with
    | [] => misuse "missing operand".toList
    | path :: rest =>
      if many then
        for path in path :: rest do tell ((found.value? 's').getD []) path
      else match rest with
        | [] => tell [] path
        | [ending] => tell ending path
        | _ :: extra :: _ => misuse ("extra operand ".toList ++ cite extra)

def directoryNames : Utility := fun arguments =>
  withArguments [⟨'z', "zero", .none⟩] arguments fun found => do
    if found.operands.isEmpty then misuse "missing operand".toList
    for path in found.operands do
      print (dirName path ++ if found.has 'z' then ['\x00'] else ['\n'])

end BuildRules.Shell.Utility
