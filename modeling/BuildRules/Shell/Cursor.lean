import BuildRules.Shell.Syntax

/-! A place in the text of commands. A backslash before a line feed joins two lines, so most
reading passes over such pairs; the number of the line is kept. -/
namespace BuildRules.Shell

/-- How a here-document is announced in its line. -/
structure Announced where
  number : Nat
  delimiter : Octets
  /-- Whether tabs at the start of its lines are left out. -/
  stripsTabs : Bool
  /-- Whether substitutions in it are carried out. -/
  expands : Bool

inductive Token
  | word (template : Template)
  /-- A word that has a meaning of its own where a command can start. -/
  | reserved (word : Octets)
  | redirection (descriptor : Nat) (operator : Octets)
  | operator (text : Octets)
  | newline
  | finish

/-- The text of an alias that has been put before what follows the alias. -/
structure AliasText where
  /-- The aliases that are in use until the text has been read. -/
  names : List Octets
  /-- How much text follows the alias. -/
  after : Nat
  /-- Whether the word behind the alias can be an alias as well. -/
  goesOn : Bool

structure Cursor where
  rest : Octets
  line : Nat
  /-- A token that has been read and put back. -/
  held : Option Token := none
  /-- The here-documents whose texts are still to come. -/
  announced : List Announced := []
  /-- The texts of here-documents by number, latest first. -/
  texts : List (Nat × Template) := []
  /-- The number of the next here-document. -/
  next : Nat := 0
  /-- Whether a dollar means nothing, as in a delimiter. -/
  isLiteral : Bool := false
  aliases : List (Octets × Octets) := []
  /-- The texts of aliases that are being read, the innermost first. -/
  opened : List AliasText := []
  /-- The aliases whose texts end with the last token; they are in use up to the next one. -/
  spent : List Octets := []
  /-- The aliases in use around a text that is read for itself. -/
  busy : List Octets := []
  /-- The here-document that is being read, as long as its end has not been found. -/
  watched : Option Announced := none
  /-- The text behind the line that has ended the here-document. -/
  behind : Option Octets := none

/-- Reading stops with the reason for which a text makes no sense; where that was stays known. -/
abbrev Read := ExceptT Octets (StateM Cursor)

namespace Cursor

def refuse {α : Type} (reason : String) : Read α := throw reason.toList

/-- The text without the joined line ends at its start, and their number. -/
def unjoin : Octets → Octets × Nat
  | '\\' :: '\n' :: rest => let (text, joins) := unjoin rest; (text, joins + 1)
  | text => (text, 0)

/-- The next character, which stays. -/
def peek : Read (Option Char) := do
  let cursor ← get
  match cursor.rest with
  | '\\' :: '\n' :: _ =>
    let (rest, joins) := unjoin cursor.rest
    set { cursor with rest := rest, line := cursor.line + joins }
    return rest.head?
  | rest => return rest.head?

/-- The place behind the start of a line of a here-document. Tabs that are left out are passed over. If
the line is the one that ends the document, nothing is left to be read here. -/
def startLine (cursor : Cursor) : Cursor :=
  match cursor.watched with
  | none => cursor
  | some doc =>
    let (text, joins) := unjoin cursor.rest
    let text := if doc.stripsTabs then text.dropWhile (· == '\t') else text
    let ended (after : Octets) : Cursor :=
      { cursor with
        rest := []
        line := cursor.line + joins + 1
        watched := none
        behind := some after }
    let found := doc.delimiter.isPrefixOf text
    match found, text.drop doc.delimiter.length with
    | true, [] => ended []
    | true, '\n' :: after => ended after
    | _, _ => { cursor with rest := text, line := cursor.line + joins }

/-- Whether a here-document is being read. -/
def isInDocument (cursor : Cursor) : Bool := cursor.watched.isSome || cursor.behind.isSome

/-- Takes a character, whatever it is. -/
def takeRaw : Read (Option Char) := do
  let cursor ← get
  match cursor.rest with
  | [] => return none
  | '\n' :: rest =>
    set (startLine { cursor with rest := rest, line := cursor.line + 1 })
    return some '\n'
  | c :: rest =>
    set { cursor with rest := rest }
    return some c

def take : Read (Option Char) := do
  let _ ← peek
  takeRaw

/-- Takes the next character for an operator. The end of a line does not count as one then. -/
def takeOperator : Read (Option Char) := do
  let next ← peek
  modify fun cursor => { cursor with rest := cursor.rest.drop 1 }
  return next

/-- Passes over the next character. -/
def advance : Read Unit := do
  let _ ← takeRaw

/-- Takes the next character if it is the given one. -/
def accept (c : Char) : Read Bool := do
  if (← peek) == some c then
    advance
    return true
  else return false

/-- The characters at the start for which a test holds, last one first, with the text after
them and the number of lines joined among them. -/
def span (test : Char → Bool) (seen : Octets) (joins : Nat) : Octets → Octets × Octets × Nat
  | [] => (seen, [], joins)
  | c :: rest =>
    if test c then span test (c :: seen) joins rest
    else if c = '\\' then
      match rest with
      | '\n' :: after => span test seen (joins + 1) after
      | _ => (seen, c :: rest, joins)
    else (seen, c :: rest, joins)

/-- Takes the characters for which a test holds that does not hold for a backslash. In a here-document
there may be more of them on the next line. -/
def takeWhile (test : Char → Bool) : Read Octets := do
  let cursor ← get
  let test' (c : Char) : Bool := test c && !(cursor.watched.isSome && c == '\n')
  let (seen, rest, joins) := span test' [] 0 cursor.rest
  let lines := joins + seen.count '\n'
  set { cursor with rest := rest, line := cursor.line + lines }
  if cursor.watched.isSome && test '\n' && rest.head? == some '\n' then
    advance
    return ('\n' :: seen).reverse
  return seen.reverse

/-- Takes the text up to a closing apostrophe, and the apostrophe. The number bounds the work; the
length of the text is enough. -/
def takeApostrophes : Nat → Octets → Read Octets
  | 0, seen => return seen.reverse
  | fuel + 1, seen => do
    match ← takeRaw with
    | none =>
      if (← get).isInDocument then refuse "Missing '\x7d'" else refuse "Unterminated quoted string"
    | some '\'' => return seen.reverse
    | some c => takeApostrophes fuel (c :: seen)

/-- Passes over a comment, up to the end of its line. -/
def skipComment : Read Unit := modify fun cursor =>
  { cursor with rest := cursor.rest.dropWhile (· != '\n') }

/-- Puts back a token just taken. -/
def hold (token : Token) : Read Unit := modify fun cursor => { cursor with held := some token }

/-- The aliases whose texts have not been read to the end. -/
def inUse (cursor : Cursor) : List Octets :=
  cursor.opened.flatMap AliasText.names ++ cursor.spent ++ cursor.busy

/-- The text that an alias stands for now, unless the alias is in use. -/
def alias? (cursor : Cursor) (name : Octets) : Option Octets :=
  if cursor.inUse.contains name then none else cursor.aliases.lookup name

/-- The place with the text of an alias before what follows. -/
def insertAlias (cursor : Cursor) (name text : Octets) : Cursor :=
  if text.isEmpty then cursor
  else
    let opened : AliasText :=
      { names := name :: cursor.spent
        after := cursor.rest.length
        goesOn := text.getLast? == some ' ' || text.getLast? == some '\t' }
    { cursor with rest := text ++ cursor.rest, opened := opened :: cursor.opened, spent := [] }

/-- A place where another text is read for itself. -/
def inside (cursor : Cursor) (text : Octets) : Cursor :=
  { cursor with rest := text, held := none, opened := [], spent := [], busy := cursor.inUse }

/-- Frees the aliases whose texts ended with the token before. -/
def freeSpent : Read Unit := do
  if !(← get).spent.isEmpty then modify fun cursor => { cursor with spent := [] }

/-- Closes the texts of aliases that the last token has come to the end of. Says whether the token can
be an alias for that reason. -/
def closeAliases : Read Bool := do
  let cursor ← get
  if cursor.opened.isEmpty then return false
  let left := cursor.rest.length
  let closed := cursor.opened.filter fun text => left ≤ text.after
  let spent := closed.filter fun text => text.after == left
  set { cursor with
    opened := cursor.opened.filter fun text => text.after < left
    spent := spent.flatMap AliasText.names }
  return closed.any AliasText.goesOn

end Cursor

/-- What a token is looked at for where it stands: newlines are passed over, reserved words have their
meaning, aliases are replaced. -/
structure Expecting where
  newlines : Bool
  keywords : Bool
  aliases : Bool

namespace Expecting

/-- An argument. -/
def word : Expecting := ⟨false, false, false⟩

/-- The first word of a simple command. -/
def name : Expecting := ⟨false, false, true⟩

/-- A word that goes on with a compound command. -/
def keyword : Expecting := ⟨false, true, false⟩

/-- A command on this line. -/
def command : Expecting := ⟨false, true, true⟩

/-- A command on this line or a later one. -/
def anyCommand : Expecting := ⟨true, true, true⟩

/-- A pattern on this line or a later one. -/
def pattern : Expecting := ⟨true, true, false⟩

end Expecting

namespace Token

def isOperator (text : String) : Token → Bool
  | operator found => found == text.toList
  | _ => false

def isReserved (text : String) : Token → Bool
  | reserved found => found == text.toList
  | _ => false

/-- How a token is named in a complaint. -/
def label : Token → Octets
  | word _ => "word".toList
  | reserved text | operator text => '"' :: text ++ ['"']
  | redirection _ _ => "redirection".toList
  | newline => "newline".toList
  | finish => "end of file".toList

def reservedWords : List Octets :=
  ["!", "case", "do", "done", "elif", "else", "esac", "fi", "for", "if", "in", "then", "until",
    "while", "\x7b", "\x7d"].map String.toList

/-- Whether a list of commands ends before the token. -/
def endsList : Token → Bool
  | finish => true
  | operator text => text == [')'] || text == [';', ';']
  | reserved text =>
    ["do", "done", "elif", "else", "esac", "fi", "then", "\x7d"].any fun w => w.toList == text
  | _ => false

end Token

end BuildRules.Shell
