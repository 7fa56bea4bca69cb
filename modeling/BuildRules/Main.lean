import BuildRules.Session
import BuildRules.Shell.Terminal

/-! The program. It takes the files of the working directory into a tree, carries out there what
its arguments ask for, shows what is seen of it, and puts back the files that have changed. -/
namespace BuildRules.Main

def ofBytes (bytes : ByteArray) : Octets := bytes.toList.map fun byte => Char.ofNat byte.toNat

def toBytes (octets : Octets) : ByteArray := ⟨(octets.map fun c => c.toNat.toUInt8).toArray⟩

/-- All that is left of a stream. Nothing is asked of a terminal. -/
partial def readAll (stream : IO.FS.Stream) (seen : List Octets) : IO Octets := do
  let chunk ← if ← stream.isTty then pure .empty else stream.read 65536
  if chunk.isEmpty then return seen.reverse.flatten
  else readAll stream (ofBytes chunk :: seen)

/-- What an entry of a directory names, with all that is under it. Links to directories are not
followed, so that the walk ends. -/
partial def filesAt (directory : Octets) (entry : IO.FS.DirEntry) : IO (List FileSpec) := do
  let path := directory ++ Octets.ofText entry.fileName.toList
  let date := (← entry.path.symlinkMetadata).modified.sec
  match (← entry.path.symlinkMetadata).type with
  | .dir =>
    let below ← (← entry.path.readDir).toList.mapM fun other => filesAt (path ++ ['/']) other
    return ⟨path, .directory, date⟩ :: below.flatten
  | _ =>
    try return [⟨path, .file (ofBytes (← IO.FS.readBinFile entry.path)), date⟩]
    catch _ => return []

/-- The entries of the environment, and the time. -/
def process : IO (List Text × Time) := do
  let own : IO.FS.DirEntry := ⟨"/proc/self", "environ"⟩
  let bytes ← IO.FS.readBinFile own.path
  let entries := (Text.pieces '\x00' (ofBytes bytes)).filter fun entry => !entry.isEmpty
  return (entries.map Octets.toTextLossy, (← own.path.metadata).modified.sec)

/-- The path of a location below the working directory. -/
def pathOf (way : Location) : String :=
  String.ofList (Octets.toTextLossy (Text.join ['/'] way))

/-- Removes the files that are gone, and writes those that are new or have changed. -/
def save (before after : FileTree) : IO Unit := do
  for (way, entry) in (before.under FileTree.home).reverse do
    if (after.entry? (FileTree.home ++ way)).isNone then
      if entry.node = .directory then IO.FS.removeDir (pathOf way)
      else IO.FS.removeFile (pathOf way)
  for (way, entry) in after.under FileTree.home do
    let old := before.entry? (FileTree.home ++ way)
    match entry.node with
    | .directory => if old.isNone then IO.FS.createDir (pathOf way)
    | .file content =>
      if old ≠ some entry then IO.FS.writeBinFile (pathOf way) (toBytes content)
    | _ => pure ()

/-- Carries out a request and gives its exit status. -/
def run (arguments : List String) : IO UInt32 := do
  let (entries, now) ← process
  let here ← (← IO.currentDir).readDir
  let specs ← here.toList.mapM fun entry => filesAt [] entry
  let before := (FileTree.fresh now).addFiles FileTree.home specs.flatten
  let input ← readAll (← IO.getStdin) []
  let (report, after) := Session.perform (Shell.Terminal.host entries)
    (Environment.ofEntries entries) (arguments.map String.toList)
    (Shell.Terminal.start before input)
  save before after.files
  (← IO.getStdout).write (toBytes report.output)
  (← IO.getStderr).write (toBytes report.diagnostics)
  return report.exitStatus.toUInt32

end BuildRules.Main

/-- The program. -/
def main (arguments : List String) : IO UInt32 := BuildRules.Main.run arguments
