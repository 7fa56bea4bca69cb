import BuildRules.Text.Octets

/-! Patterns for names and for the values of parameters: `*` stands for any text, `?` for any
character, brackets for one character of a set. -/
namespace BuildRules.Shell

/-- The named classes of ASCII characters. -/
def isInClass (name : Octets) (c : Char) : Bool :=
  let n := c.toNat
  match String.ofList name with
  | "alpha" => c.isAlpha
  | "digit" => c.isDigit
  | "alnum" => c.isAlphanum
  | "upper" => c.isUpper
  | "lower" => c.isLower
  | "space" => n == 32 || (9 ≤ n && n ≤ 13)
  | "blank" => c == ' ' || c == '\t'
  | "cntrl" => n < 32 || n == 127
  | "graph" => 33 ≤ n && n ≤ 126
  | "print" => 32 ≤ n && n ≤ 126
  | "punct" => 33 ≤ n && n ≤ 126 && !c.isAlphanum
  | "xdigit" => c.isDigit || ('a' ≤ c && c ≤ 'f') || ('A' ≤ c && c ≤ 'F')
  | _ => false

def classNames : List Octets :=
  ["alpha", "digit", "alnum", "upper", "lower", "space", "blank", "cntrl", "graph", "print",
    "punct", "xdigit"].map String.toList

/-- A member of a set of characters. -/
inductive Member
  | range (low high : Char)
  | named (name : Octets)
deriving DecidableEq, Repr

def Member.holds (c : Char) : Member → Bool
  | range low high => low ≤ c && c ≤ high
  | named name => isInClass name c

inductive Glob
  | one (c : Char)
  | any
  | many
  /-- A character that is a member, or that is none. -/
  | among (negated : Bool) (members : List Member)
deriving DecidableEq, Repr

namespace Glob

/-- A character of a pattern, and whether it has been quoted. -/
abbrev Mark := Char × Bool

/-- The named class whose opening bracket has been read, and what follows it. -/
def class? (text : List Mark) : Option (Member × List Mark) :=
  match text with
  | (':', false) :: rest =>
    let name := (rest.takeWhile (· != (':', false))).map Prod.fst
    match rest.drop name.length with
    | _ :: (']', false) :: after =>
      if classNames.contains name then some (.named name, after) else none
    | _ => none
  | _ => none

/-- The character that a mark at the start stands for, where a backslash quotes the next. -/
def literal? : List Mark → Option (Char × List Mark)
  | ('\\', false) :: (c, _) :: rest => some (c, rest)
  | (c, _) :: rest => some (c, rest)
  | [] => none

/-- The members of a set up to the bracket that closes it. A bracket in the first place is a
member. The number bounds the work. -/
def members? (isFirst : Bool) (seen : List Member) : Nat → List Mark → Option (List Member × List Mark)
  | 0, _ => none
  | _, [] => none
  | fuel + 1, mark :: rest =>
    if mark == (']', false) && !isFirst then some (seen.reverse, rest)
    else match if mark == ('[', false) then class? rest else none with
    | some (member, after) => members? false (member :: seen) fuel after
    | none =>
      match literal? (mark :: rest) with
      | none => none
      | some (low, after) =>
        match after with
        | ('-', false) :: next :: more =>
          if next == (']', false) then members? false (.range low low :: seen) fuel after
          else match literal? (next :: more) with
            | some (high, after) => members? false (.range low high :: seen) fuel after
            | none => none
        | _ => members? false (.range low low :: seen) fuel after

/-- The set that starts right behind a bracket, and what follows it. -/
def bracket? (text : List Mark) : Option (Glob × List Mark) :=
  let (negated, body) := match text with
    | ('!', false) :: rest => (true, rest)
    | _ => (false, text)
  (members? true [] (body.length + 1) body).map fun (members, after) =>
    (among negated members, after)

/-- Reads a pattern. The number bounds the work; the length of the text is enough. -/
def read : Nat → List Mark → List Glob
  | 0, _ => []
  | _, [] => []
  | fuel + 1, (c, quoted) :: rest =>
    if quoted then one c :: read fuel rest
    else match c, rest with
    | '*', _ => many :: read fuel rest
    | '?', _ => any :: read fuel rest
    | '[', _ =>
      match bracket? rest with
      | some (glob, after) => glob :: read fuel after
      | none => one c :: read fuel rest
    | '\\', (d, _) :: after => one d :: read fuel after
    | _, _ => one c :: read fuel rest

def ofMarks (text : List Mark) : List Glob := read text.length text

/-- A pattern in which nothing is quoted but by backslashes. -/
def ofText (text : Octets) : List Glob := ofMarks (text.map fun c => (c, false))

/-- Whether a pattern stands for more than itself. -/
def isPattern (pattern : List Glob) : Bool :=
  pattern.any fun glob => match glob with
    | one _ => false
    | _ => true

def matchesOne (glob : Glob) (c : Char) : Bool :=
  match glob with
  | one d => c == d
  | any | many => true
  | among negated members => negated != members.any (Member.holds c)

/-- Whether the whole text matches. -/
def isMatch : List Glob → Octets → Bool
  | [], text => text.isEmpty
  | many :: rest, [] => isMatch rest []
  | many :: rest, c :: text => isMatch rest (c :: text) || isMatch (many :: rest) text
  | _ :: _, [] => false
  | glob :: rest, c :: text => matchesOne glob c && isMatch rest text
termination_by pattern text => (pattern.length, text.length)

/-- A text up to its first zero byte. -/
def firstPart (text : Octets) : Octets := text.takeWhile (· != '\x00')

/-- The text without its shortest or longest start that matches. Zero bytes separate parts of it: a
start is compared as far as its first part goes, and the shortest one lies in that part. -/
def removeStart (pattern : List Glob) (longest : Bool) (text : Octets) : Octets :=
  let order := if longest then (List.range (text.length + 1)).reverse
    else List.range ((firstPart text).length + 1)
  match order.find? fun n => isMatch pattern (firstPart (text.take n)) with
  | some n => text.drop n
  | none => text

/-- The text without its shortest or longest end that matches. Of several parts one is compared that
the end starts in, and the longest end starts in the first. -/
def removeEnd (pattern : List Glob) (longest : Bool) (text : Octets) : Octets :=
  let order := if longest then List.range ((firstPart text).length + 1)
    else (List.range (text.length + 1)).reverse
  match order.find? fun n => isMatch pattern (firstPart (text.drop n)) with
  | some n => text.take n
  | none => text

end Glob

end BuildRules.Shell
