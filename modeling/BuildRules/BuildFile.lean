import BuildRules.Expansion
import BuildRules.Options
import BuildRules.Registry
import BuildRules.Statement

/-! Reading of a build file, one logical line after the other. Each line is expanded with the
assignments made before it. A header opens a rule, indented lines add recipes to it, and the
rule is registered when any other line, or the end of the file, closes it. -/
namespace BuildRules.BuildFile
variable {σ : Type}

/-- What has been read so far. -/
structure Reader where
  registry : Registry
  scope : Scope
  /-- The rule whose recipes are being read. -/
  block : Option Rule

def start (options : Options) (environment : Environment) : Reader :=
  ⟨.empty, .start environment options.environmentFirst, none⟩

/-- Registers the open rule, if there is one. -/
def close (host : Host σ) (reader : Reader) : Act σ Reader :=
  match reader.block with
  | none => pure reader
  | some rule => do
    let (registry, result) := reader.registry.addRule (← host.dates) rule
    .ofExcept result
    pure { reader with registry := registry, block := none }

def isIndented (line : Text) : Bool := line.head?.any Text.isIndent

/-- Takes up a line that stands outside a rule and is no assignment. -/
def takeHeader (line : Line) (words : List Text) (reader : Reader) : Except Error Reader :=
  if isIndented line.text then .error (.badLine .unexpectedIndentation line.number line.text)
  else
    match Header.ofWords? words with
    | none => .error (.badLine .invalidTarget line.number line.text)
    | some (.phony []) => .error (.badLine .invalidPhony line.number line.text)
    | some (.phony names) =>
      .ok { reader with registry := names.foldl Registry.addPhony reader.registry }
    | some (.rule targets prerequisites) =>
      .ok { reader with block := some ⟨targets, prerequisites, [], line⟩ }

/-- Takes up a line that is no recipe, once no rule is open. -/
def takeStatement (line : Line) (words : List Text) (reader : Reader) : Act σ Reader :=
  match Assignment.ofWords? words with
  | some assignment => do
    .note (.assigned assignment.name assignment.value)
    pure { reader with scope := reader.scope.assign assignment.name assignment.value }
  | none => .ofExcept (takeHeader line words reader)

/-- Takes up an expanded line with its words. -/
def takeLine (host : Host σ) (line : Line) (words : List Text) (reader : Reader) :
    Act σ Reader :=
  if words.isEmpty then close host reader
  else
    match reader.block, isIndented line.text with
    | some rule, true =>
      pure { reader with
        block := some { rule with recipes := rule.recipes ++ [Text.trim line.text] } }
    | _, _ => do takeStatement line words (← close host reader)

/-- Reads one logical line. -/
def readLine (host : Host σ) (reader : Reader) (line : Line) : Act σ Reader := do
  let text ← Expansion.expand host reader.scope line.text
  let words := Word.split text
  .note (.words line.number words)
  takeLine host ⟨line.number, text⟩ words reader

def readLines (host : Host σ) : Reader → List Line → Act σ Reader
  | reader, [] => pure reader
  | reader, line :: rest => do readLines host (← readLine host reader line) rest

/-- Reads the text of a build file. -/
def parse (host : Host σ) (options : Options) (environment : Environment) (source : Text) :
    Act σ Registry := do
  let reader ← readLines host (start options environment) (Line.logical source)
  return (← close host reader).registry

/-- Reads the build file at a path. -/
def load (host : Host σ) (options : Options) (environment : Environment) (path : Text) :
    Act σ Registry := do
  parse host options environment (← host.source path)

end BuildRules.BuildFile
