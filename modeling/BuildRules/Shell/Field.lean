import BuildRules.FileTree
import BuildRules.Shell.Pattern

/-! Fields: the words that a command gets, cut from expanded templates and matched against the
names of files. -/
namespace BuildRules.Shell

/-- A piece of an expanded template. -/
inductive Glyph
  /-- A character. It can end a field if it came from a substitution outside quotes. -/
  | char (c : Char) (quoted splits : Bool)
  /-- The place of quotes, which make a field even if they are empty. -/
  | quotes
  /-- The boundary between two arguments. -/
  | boundary (quoted : Bool)
deriving DecidableEq, Repr

namespace Glyph

def ofText (quoted splits : Bool) (text : Octets) : List Glyph :=
  text.map fun c => char c quoted splits

/-- The characters of glyphs, without the marks. Arguments are joined by a separator if there
is one. -/
def text (separator : Option Char) (glyphs : List Glyph) : Octets :=
  glyphs.filterMap fun glyph => match glyph with
    | char c _ _ => some c
    | quotes => none
    | boundary _ => separator

def marks (glyphs : List Glyph) : List Glob.Mark :=
  glyphs.filterMap fun glyph => match glyph with
    | char c quoted _ => some (c, quoted)
    | _ => none

def isBlankSeparator (c : Char) : Bool := c == ' ' || c == '\t' || c == '\n'

/-- How a glyph separates fields: as a blank, which makes no empty field, as a mark, which does,
or not at all. -/
inductive Cut
  | blank
  | mark
  | boundary
deriving DecidableEq

def cut? (separators : Octets) : Glyph → Option Cut
  | char c _ splits =>
    if splits && separators.contains c then
      some (if isBlankSeparator c then .blank else .mark)
    else none
  | boundary quoted => some (if quoted then .boundary else .blank)
  | quotes => none

/-- What is left behind a separator: blanks go with it, and behind a blank one mark with the
blanks around it goes too. -/
def afterCut (separators : Octets) (mayTakeMark : Bool) : List Glyph → List Glyph
  | [] => []
  | glyph :: rest =>
    match cut? separators glyph with
    | some .blank => afterCut separators mayTakeMark rest
    | some .mark => if mayTakeMark then afterCut separators false rest else glyph :: rest
    | some .boundary | none => glyph :: rest

theorem length_afterCut_le (separators : Octets) (mayTakeMark : Bool) (glyphs : List Glyph) :
    (afterCut separators mayTakeMark glyphs).length ≤ glyphs.length := by
  induction glyphs generalizing mayTakeMark with
  | nil => simp [afterCut]
  | cons glyph rest ih =>
    simp only [afterCut]
    split
    · exact Nat.le_succ_of_le (ih _)
    · split
      · exact Nat.le_succ_of_le (ih _)
      · simp
    · simp
    · simp

/-- Cuts glyphs into fields. The glyphs of the field being read stand last one first. -/
def fields (separators : Octets) (field : List Glyph) (glyphs : List Glyph) : List (List Glyph) :=
  match glyphs with
  | [] => if field.isEmpty then [] else [field.reverse]
  | glyph :: rest =>
    match cut? separators glyph with
    | none => fields separators (glyph :: field) rest
    | some .boundary => field.reverse :: fields separators [] rest
    | some .mark => field.reverse :: fields separators [] (afterCut separators false rest)
    | some .blank =>
      if field.isEmpty then fields separators [] rest
      else field.reverse :: fields separators [] (afterCut separators true rest)
termination_by glyphs.length
decreasing_by
  · simp
  · simp
  · exact Nat.lt_succ_of_le (length_afterCut_le ..)
  · simp
  · exact Nat.lt_succ_of_le (length_afterCut_le ..)

end Glyph

namespace Field

/-- The parts of marked text between slashes. -/
def components (marks : List Glob.Mark) : List (List Glob.Mark) :=
  marks.foldr (fun mark parts =>
    if mark.1 = '/' then [] :: parts
    else match parts with
      | [] => [[mark]]
      | part :: rest => (mark :: part) :: rest) [[]]

/-- The names in a directory that match, with those of the directory itself and of the one above
it. A dot at the start has to be matched by itself. -/
def namesIn (files : FileTree) (location : Location) (pattern : List Glob) : List Octets :=
  let names := ['.'] :: ['.', '.'] :: files.children location
  names.filter fun name =>
    (name.head? != some '.' || pattern.head? == some (.one '.')) && Glob.isMatch pattern name

/-- The paths that match the components, where `done` is the path so far. -/
def paths (files : FileTree) (base : Location) (done : Octets) :
    List (List Glob.Mark) → List Octets
  | [] => [done]
  | part :: rest =>
    let pattern := Glob.ofMarks part
    if Glob.isPattern pattern then
      match files.resolve base true (if done.isEmpty then ['.'] else done) with
      | .ok ⟨location, some ⟨.directory, _, _⟩⟩ =>
        (namesIn files location pattern).flatMap fun name =>
          if rest.isEmpty then [done ++ name] else paths files base (done ++ name ++ ['/']) rest
      | _ => []
    else
      let plain := pattern.filterMap fun glob => match glob with
        | .one c => some c
        | _ => none
      if rest.isEmpty then
        let path := done ++ plain
        if (files.modified? base path).isSome then [path] else []
      else paths files base (done ++ plain ++ ['/']) rest

/-- The order of byte strings. -/
def isBefore : Octets → Octets → Bool
  | [], _ => true
  | _ :: _, [] => false
  | c :: s, d :: t => c < d || (c == d && isBefore s t)

/-- The words of a field: the paths that it matches, in order, or itself if it is no pattern or
matches none. -/
def expand (files : FileTree) (base : Location) (glyphs : List Glyph) : List Octets :=
  let marks := Glyph.marks glyphs
  if Glob.isPattern (Glob.ofMarks marks) then
    match paths files base [] (components marks) with
    | [] => [Glyph.text none glyphs]
    | found => found.mergeSort isBefore
  else [Glyph.text none glyphs]

end Field

end BuildRules.Shell
