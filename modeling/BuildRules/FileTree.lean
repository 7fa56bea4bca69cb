import BuildRules.Host
import Std.Data.ExtTreeMap

/-! A tree of files kept as a value: directories, files, symbolic links, devices and programs.
Names lead to numbered entries, so that one file can have several names. Paths are resolved the
way the system does it, component by component, so that each refusal has the system's reason. -/
namespace BuildRules

/-- Files that keep nothing. -/
inductive Device
  /-- Swallows what is written and holds nothing to read. -/
  | sink
  /-- Holds no end of zero bytes. -/
  | zeros
  /-- Holds no end of zero bytes, and has no room for anything else. -/
  | full
  /-- Cannot be opened. -/
  | absent
  /-- Leads to what a descriptor of the process is connected to. -/
  | descriptor (n : Nat)
deriving DecidableEq, Repr

inductive Node
  | file (content : Octets)
  | directory
  | link (target : Octets)
  | device (device : Device)
  /-- A program of the system, known by its name. -/
  | program (name : Octets)
deriving DecidableEq, Repr

/-- Why a device does not take what is written, if it does not. -/
def Device.refusal? : Device → Option Fault
  | .full => some .noSpace
  | .absent => some .noDevice
  | _ => none

/-- What can be read from a device before anybody has had enough, unless it cannot be opened. -/
def Device.content : Device → Except Fault Octets
  | .zeros | .full => .ok (List.replicate 65536 '\x00')
  | .absent => .error .noDevice
  | .sink | .descriptor _ => .ok []

namespace Node

def isLink : Node → Bool
  | link _ => true
  | _ => false

def isDirectory : Node → Bool
  | directory => true
  | _ => false

def isFile : Node → Bool
  | file _ | program _ => true
  | _ => false

/-- The permissions of something made without asking for any. -/
def usualMode : Node → Nat
  | file _ => 0o644
  | directory | program _ => 0o755
  | link _ => 0o777
  | device _ => 0o666

/-- How many bytes it holds. -/
def size : Node → Nat
  | file content | link content => content.length
  | directory => 4096
  | device _ | program _ => 0

end Node

structure Entry where
  node : Node
  modified : Time
  /-- The permission bits. -/
  mode : Nat := node.usualMode
deriving DecidableEq, Repr

/-- The names on the way from the root. -/
abbrev Location := List Octets

structure FileTree where
  /-- The number of the entry that a name leads to. -/
  names : Std.ExtTreeMap Location Nat
  entries : Std.ExtTreeMap Nat Entry
  /-- The least number that no entry has had. -/
  next : Nat
  /-- The time at which whatever is done to the tree happens. -/
  now : Time

namespace FileTree

/-- Where a path leads. Its parent is a directory; there may be nothing at the place yet. -/
structure Place where
  location : Location
  entry : Option Entry

def maxLinks : Nat := 40

def maxNameLength : Nat := 255

def maxPathLength : Nat := 4095

/-- The components of a path, empty ones included. -/
def components (path : Octets) : List Octets := Text.pieces '/' path

/-- The number of the entry at a location. -/
def number? (tree : FileTree) (location : Location) : Option Nat := tree.names[location]?

def entry? (tree : FileTree) (location : Location) : Option Entry :=
  (tree.number? location).bind fun n => tree.entries[n]?

/-- Goes on from a directory. A link in the last place is followed if `follow` says so; `links`
is how many may still be followed. -/
def walk (tree : FileTree) (follow : Bool) (links : Nat) (location : Location) :
    List Octets → Except Fault Place
  | [] => .ok ⟨location, tree.entry? location⟩
  | name :: rest =>
    if name.isEmpty || name == ['.'] then walk tree follow links location rest
    else if name == ['.', '.'] then walk tree follow links location.dropLast rest
    else if name.length > maxNameLength then .error .nameTooLong
    else
      let next := location ++ [name]
      match tree.entry? next with
      | none => if rest.all List.isEmpty then .ok ⟨next, none⟩ else .error .notFound
      | some entry =>
        match entry.node with
        | .directory => walk tree follow links next rest
        | .link target =>
          if rest.isEmpty && !follow then .ok ⟨next, some entry⟩
          else match links with
            | 0 => .error .linkLoop
            | links + 1 =>
              walk tree follow links (if target.head? == some '/' then [] else location)
                (components target ++ rest)
        | .file _ | .device _ | .program _ =>
          if rest.isEmpty then .ok ⟨next, some entry⟩ else .error .notDirectory
termination_by parts => (links, parts.length)

/-- Where a path leads that is taken from a directory. -/
def resolve (tree : FileTree) (base : Location) (follow : Bool) (path : Octets) :
    Except Fault Place :=
  if path.isEmpty then .error .notFound
  else if path.length > maxPathLength then .error .nameTooLong
  else walk tree follow maxLinks (if path.head? == some '/' then [] else base) (components path)

/-- The entry at a path, with or without following a link in the last place. -/
def findEntry (tree : FileTree) (base : Location) (follow : Bool) (path : Octets) :
    Except Fault Entry := do
  match (← tree.resolve base follow path).entry with
  | some entry => .ok entry
  | none => .error .notFound

/-- The entry at a path, with links followed. -/
def find (tree : FileTree) (base : Location) (path : Octets) : Except Fault Entry :=
  tree.findEntry base true path

/-- The date of what is at a path. A link has a date of its own. -/
def modified? (tree : FileTree) (base : Location) (path : Octets) : Option Time :=
  ((tree.findEntry base false path).toOption).map Entry.modified

def read (tree : FileTree) (base : Location) (path : Octets) : Except Fault Octets := do
  match (← tree.find base path).node with
  | .file content => .ok content
  | .device _ | .program _ => .ok []
  | .directory => .error .isDirectory
  | .link _ => .error .linkLoop

/-- Makes an entry what a number stands for, under all its names. -/
def setEntry (tree : FileTree) (number : Nat) (entry : Entry) : FileTree :=
  { tree with entries := tree.entries.insert number entry }

/-- Gives an entry one more name, or a name a new meaning. -/
def setName (tree : FileTree) (location : Location) (number : Nat) : FileTree :=
  { tree with names := tree.names.insert location number }

/-- Changes what is at a location, if anything is. -/
def update (tree : FileTree) (location : Location) (change : Entry → Entry) : FileTree :=
  match tree.number? location, tree.entry? location with
  | some number, some entry => tree.setEntry number (change entry)
  | _, _ => tree

/-- Dates what is at a location now. -/
def touch (tree : FileTree) (location : Location) : FileTree :=
  tree.update location fun entry => { entry with modified := tree.now }

/-- Dates a directory whose names have changed. -/
def touchParent (tree : FileTree) (location : Location) : FileTree := tree.touch location.dropLast

/-- Puts an entry at a location whose parent is a directory. What is there already changes under
all its names. -/
def put (tree : FileTree) (location : Location) (entry : Entry) : FileTree :=
  match tree.number? location with
  | some number => tree.setEntry number entry
  | none =>
    let named := { tree.setName location tree.next with next := tree.next + 1 }
    (named.setEntry tree.next entry).touchParent location

/-- Gives the entry with a number a further name. -/
def link (tree : FileTree) (location : Location) (number : Nat) : FileTree :=
  (tree.setName location number).touchParent location

/-- Everything at or under a location loses its names there. -/
def erase (tree : FileTree) (location : Location) : FileTree :=
  let kept := tree.names.filter fun other _ => !location.isPrefixOf other
  touchParent { tree with names := kept } location

/-- What is at a location, with all that is under it, gets its names under another one. -/
def rename (tree : FileTree) (source target : Location) : FileTree :=
  let moved := tree.names.toList.filter fun (other, _) => source.isPrefixOf other
  let cleared := (tree.erase target).erase source
  let named := moved.foldl (fun made (other, number) =>
    made.setName (target ++ other.drop source.length) number) cleared
  named.touchParent target

/-- The permissions of a file that is asked for with some, under a mask. -/
def masked (mask wanted : Nat) : Nat := wanted - (wanted &&& mask)

/-- Writes a file, new or not. `update` makes the new content from the old one. -/
def write (tree : FileTree) (base : Location) (path : Octets) (update : Octets → Octets)
    (mode : Nat := 0o644) : Except Fault FileTree := do
  let place ← tree.resolve base true path
  match place.entry with
  | none =>
    if path.getLast? == some '/' then .error .isDirectory
    else .ok (tree.put place.location ⟨.file (update []), tree.now, mode⟩)
  | some entry =>
    match entry.node with
    | .file content =>
      .ok (tree.put place.location { entry with node := .file (update content), modified := tree.now })
    | .device device => match device.refusal? with
      | some fault => .error fault
      | none => .ok tree
    | .program _ => .ok tree
    | .directory => .error .isDirectory
    | .link _ => .error .linkLoop

def makeDirectory (tree : FileTree) (base : Location) (path : Octets) (mode : Nat := 0o755) :
    Except Fault FileTree := do
  let place ← tree.resolve base false path
  match place.entry with
  | some _ => .error .exists
  | none => .ok (tree.put place.location ⟨.directory, tree.now, mode⟩)

/-- The names in a directory, in order. -/
def children (tree : FileTree) (location : Location) : List Octets :=
  tree.names.keys.filterMap fun other =>
    if other.length == location.length + 1 && location.isPrefixOf other then other.getLast? else none

/-- The entries under a location, each before those under it, by the way to them from there. -/
def under (tree : FileTree) (location : Location) : List (Location × Entry) :=
  tree.names.toList.filterMap fun (other, number) =>
    if location.isPrefixOf other && other != location then
      (tree.entries[number]?).map fun entry => (other.drop location.length, entry)
    else none

/-- How many names the entry with a number has. -/
def nameCount (tree : FileTree) (number : Nat) : Nat :=
  (tree.names.toList.filter fun item => item.2 == number).length

/-- What somebody sees who follows links: the paths under the directory at `start`, a path that
is empty or ends in a slash, and the contents of what is no directory. `depth` bounds how far
directories lie in each other. -/
def seen (tree : FileTree) (base : Location) : Nat → Octets → List (Octets × Option Octets)
  | 0, _ => []
  | depth + 1, start =>
    match tree.resolve base true (if start.isEmpty then ['.'] else start) with
    | .error _ => []
    | .ok place =>
      (tree.children place.location).flatMap fun name =>
        let path := start ++ name
        match (tree.find base path).map Entry.node with
        | .ok .directory =>
          let below := path ++ ['/']
          (below, none) :: tree.seen base depth below
        | .ok (.file content) => [(path, some content)]
        | _ => [(path, some [])]

end FileTree

/-- A file to be made: its path, what is there, and its date. -/
structure FileSpec where
  path : Octets
  node : Node
  modified : Time
deriving DecidableEq, Repr

namespace FileTree

/-- Makes the directories on the way to a path, as far as they are missing. -/
def makeParents (tree : FileTree) (base : Location) (path : Octets) : FileTree :=
  let names := (components path).dropLast
  (List.range names.length).foldl (fun tree n =>
    match tree.resolve base true (Text.join ['/'] (names.take (n + 1))) with
    | .ok ⟨location, none⟩ => tree.put location ⟨.directory, tree.now, 0o755⟩
    | _ => tree) tree

/-- Makes a file with the directories on the way to it. A link is put at the path itself, and
anything else where the path leads. -/
def addFile (tree : FileTree) (base : Location) (spec : FileSpec) : FileTree :=
  let made := tree.makeParents base spec.path
  match made.resolve base (!spec.node.isLink) spec.path with
  | .ok place => made.put place.location ⟨spec.node, spec.modified, spec.node.usualMode⟩
  | .error _ => made

/-- Makes files in order. The directories among them are dated once all files are there. -/
def addFiles (tree : FileTree) (base : Location) (specs : List FileSpec) : FileTree :=
  let made := specs.foldl (fun tree spec => tree.addFile base spec) tree
  specs.foldl (fun tree spec =>
    if spec.node = .directory then tree.addFile base spec else tree) made

/-- Removes what is at a path, if anything is. -/
def removeAny (tree : FileTree) (base : Location) (path : Octets) : FileTree :=
  match tree.resolve base false path with
  | .ok ⟨location, some _⟩ => tree.erase location
  | _ => tree

/-- The directory in which programs start. -/
def home : Location := ["tmp".toList, "work".toList]

/-- Makes directories and what is in them, in a tree that has none of it. -/
def furnish (tree : FileTree) (items : List (Location × Node)) : FileTree :=
  items.foldl (fun tree (location, node) =>
    tree.put location ⟨node, tree.now, node.usualMode⟩) tree

/-- The devices that every process finds. -/
def devices : List (Location × Node) :=
  let directory : Octets := "dev".toList
  let plain := [("null", Device.sink), ("zero", .zeros), ("full", .full), ("random", .zeros),
    ("urandom", .zeros), ("tty", .absent), ("stdin", .descriptor 0), ("stdout", .descriptor 1),
    ("stderr", .descriptor 2)].map fun (name, device) =>
    ([directory, String.toList name], Node.device device)
  let numbered := (List.range 10).map fun n =>
    ([directory, "fd".toList, Text.ofNat n], Node.device (.descriptor n))
  ([directory], .directory) :: plain ++ ([directory, "fd".toList], .directory) :: numbered

/-- A tree with an empty working directory and the devices. -/
def fresh (now : Time) : FileTree :=
  let names : Std.ExtTreeMap Location Nat := .ofList [(([] : Location), 0)]
  let entries : Std.ExtTreeMap Nat Entry := .ofList [(0, (⟨.directory, now, 0o755⟩ : Entry))]
  furnish ⟨names, entries, 1, now⟩
    ((["tmp".toList], .directory) :: (home, .directory) :: devices)

/-- The date of the file with a name, seen from the directory in which programs start. -/
def dateOf (tree : FileTree) (name : Text) : Option Time :=
  if name.contains '\x00' then none else tree.modified? home (Octets.ofText name)

/-- The text of the file at a path, which has to be UTF-8. -/
def textOf (tree : FileTree) (path : Text) : Except Fault Text := do
  if path.contains '\x00' then .error .nulInName
  match Octets.toText? (← tree.read home (Octets.ofText path)) with
  | some text => .ok text
  | none => .error .notUtf8

end FileTree

end BuildRules
