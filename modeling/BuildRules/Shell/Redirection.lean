import BuildRules.Shell.State

/-! Redirections connect the descriptors of a command to files, to each other, or to a text. -/
namespace BuildRules.Shell

/-- A redirection whose words have been expanded. A document is expanded only when the redirection is
carried out, so that the plan has its number. -/
inductive Plan
  | file (descriptor : Nat) (opening : Opening) (path : Octets)
  | copy (descriptor source : Nat)
  | close (descriptor : Nat)
  | here (descriptor number : Nat)

namespace Plan
open Sh

def descriptor : Plan → Nat
  | file descriptor _ _ | copy descriptor _ | close descriptor | here descriptor _ => descriptor

/-- What a copy of a descriptor comes to: a single digit names the other one, a dash none. Anything else
is taken for a mistake in what has been read last. -/
def ofCopy (descriptor : Nat) (source : Octets) : Sh Plan := do
  match source with
  | ['-'] => return close descriptor
  | [c] => if c.isDigit then return copy descriptor (c.toNat - '0'.toNat) else wrong
  | _ => wrong
where
  wrong : Sh Plan := do
    modifyProcess fun p => { p with line := p.reached }
    fail "Syntax error: Bad fd number".toList

/-- Gives a descriptor the file with a number, or the fault. -/
def openEntry (descriptor : Nat) (opening : Opening) (number : Nat) : Sh (Option Fault) := do
  let s ← get
  let empties := opening = .write || opening = .replace
  if opening = .write && s.process.options.contains 'C' then return some .exists
  if empties then
    match s.files.entries[number]? with
    | some entry =>
      let empty := { entry with node := .file [], modified := s.files.now }
      set { s with files := s.files.setEntry number empty }
    | none => pure ()
  connect descriptor (.file number 0 opening)
  return none

/-- Gives a descriptor what is at a path, or the fault. A file is made or emptied if the opening
asks for that. -/
def openFile (descriptor : Nat) (opening : Opening) (path : Octets) : Sh (Option Fault) := do
  let s ← get
  let creates := opening != .read
  match s.files.resolve s.process.base true path with
  | .error fault => return some fault
  | .ok ⟨location, none⟩ =>
    if !creates then return some .notFound
    if path.getLast? == some '/' then return some .isDirectory
    let mode := FileTree.masked s.process.mask 0o666
    let files := s.files.put location ⟨.file [], s.files.now, mode⟩
    set { s with files := files }
    connect descriptor (.file ((files.number? location).getD 0) 0 opening)
    return none
  | .ok ⟨location, some entry⟩ =>
    match entry.node with
    | .file _ => openEntry descriptor opening ((s.files.number? location).getD 0)
    | .directory =>
      if creates then return some .isDirectory
      connect descriptor .directory
      return none
    | .device (.descriptor n) =>
      match ← stream? n with
      | some (.file number _ _) => openEntry descriptor opening number
      | _ => if ← Sh.copy descriptor n then return none else return some .notFound
    | .device .absent => return some .noDevice
    | .device device =>
      connect descriptor (.device device)
      return none
    | .program _ =>
      connect descriptor (.text [] false)
      return none
    | .link _ => return some .linkLoop

/-- How the shell names a fault when it opens a file. -/
def openReason (creates : Bool) (fault : Fault) : Octets :=
  match fault with
  | .notFound | .notDirectory =>
    if creates then "Directory nonexistent".toList else "No such file".toList
  | other => other.reason

/-- Carries out a redirection. Complains if it is not possible, and says whether it was. What
`document` gives is the text of the document with a number. -/
def carryOut (document : Nat → Sh Octets) : Plan → Sh Bool
  | file descriptor opening path => do
    match ← openFile descriptor opening path with
    | none => return true
    | some fault =>
      let creates := opening != .read
      let verb := if creates then "cannot create ".toList else "cannot open ".toList
      warn (verb ++ path ++ ": ".toList ++ openReason creates fault)
      return false
  | copy descriptor source => do
    let done ← if descriptor == source then pure true else Sh.copy descriptor source
    unless done do
      warn (Text.ofNat source ++ ": ".toList ++ Fault.badDescriptor.reason)
    return done
  | close descriptor => do
    Sh.close descriptor
    return true
  | here descriptor number => do
    connect descriptor (.text (← document number) true)
    return true

/-- Carries out redirections in order, up to one that is not possible. A document that cannot be
expanded is a redirection that is not possible. A descriptor that is put aside, so that it can be put
back later, is closed even before it is known whether it can become a copy; complaints of that can
get lost. -/
def carryOutAll (document : Nat → Sh Octets) (putsAside : Bool) (aside : List Nat) :
    List Plan → Sh Bool
  | [] => return true
  | plan :: rest => do
    match plan with
    | copy descriptor source =>
      if putsAside && descriptor != source && !aside.contains descriptor then Sh.close descriptor
    | _ => pure ()
    let isDone ← tryCatch (carryOut document plan) fun stop =>
      if stop = .failure then return false else throw stop
    if isDone then carryOutAll document putsAside (plan.descriptor :: aside) rest else return false

/-- Puts the descriptors of redirections back to what they were connected to before. -/
def undo (plans : List Plan) (before : List (Nat × Nat)) : Sh Unit :=
  modifyProcess fun p =>
    { p with descriptors := plans.foldl (fun descriptors plan =>
        let others := descriptors.filter fun item => item.1 != plan.descriptor
        match before.lookup plan.descriptor with
        | some stream => (plan.descriptor, stream) :: others
        | none => others) p.descriptors }

/-- Runs with redirections, which are undone afterwards. A redirection that is not possible is a
failure with the status 2, and nothing is run. -/
def during (document : Nat → Sh Octets) (plans : List Plan) (body refused : Sh Unit) : Sh Unit := do
  let before := (← process).descriptors
  if ← carryOutAll document true [] plans then
    tryCatch body fun stop => do
      undo plans before
      throw stop
    undo plans before
  else
    undo plans before
    setStatus 2
    refused

end Plan

end BuildRules.Shell
