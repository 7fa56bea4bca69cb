import BuildRules.Shell.Arithmetic
import BuildRules.Shell.Field
import BuildRules.Shell.State

/-! Expansion of templates. What commands in a template write is asked for through a function, so
that nothing here runs commands. -/
namespace BuildRules.Shell.Expand
open Sh

/-- The letters of options, in the order in which the shell lists them. -/
def optionOrder : List Char := "pubaCEVvxsnmiIfe".toList

/-- The value of a parameter that is no list of arguments. -/
def parameterValue? (name : Octets) : Sh (Option Octets) := do
  let p ← process
  match name with
  | ['?'] => return some (Text.ofNat p.status)
  | ['#'] => return some (Text.ofNat p.arguments.length)
  | ['$'] => return some (Text.ofNat p.number)
  | ['!'] => return p.latest.map Text.ofNat
  | ['-'] => return some (optionOrder.filter p.options.contains)
  | ['0'] => return some p.name
  | _ =>
    match Integer.decimal? name with
    | some n => return if n == 0 then some p.name else p.arguments[n - 1]?
    | none => value? name

/-- The characters at which fields are cut. -/
def separators : Sh Octets := do return (← value? "IFS".toList).getD " \t\n".toList

/-- What stands between arguments that are joined. -/
def joint : Sh (Option Char) := do
  match ← value? "IFS".toList with
  | none => return some ' '
  | some cuts => return cuts.head?

/-- The arguments as glyphs. Quoted, each of them counts even if it is empty. -/
def argumentGlyphs (quoted joined : Bool) : Sh (List Glyph) := do
  let arguments := (← process).arguments
  if quoted && joined then
    let between := (← joint).toList
    return Glyph.ofText true false (Text.join between arguments)
  else
    let pieces := arguments.map fun argument =>
      if quoted then .quotes :: Glyph.ofText true false argument
      else Glyph.ofText false true argument
    return [Glyph.boundary quoted].intercalate pieces

/-- Arguments in one text, with zero bytes between them. -/
def partedArguments : Sh Octets := do return Text.join ['\x00'] (← process).arguments

/-- A text whose parts lie between zero bytes and become fields of their own. -/
def partedGlyphs (quoted : Bool) (text : Octets) : List Glyph :=
  [Glyph.boundary quoted].intercalate ((Text.pieces '\x00' text).map fun part =>
    if quoted then .quotes :: Glyph.ofText true false part else Glyph.ofText false true part)

/-- The path that stands for a tilde with a name. -/
def homeOf? (name : Octets) : Sh (Option Octets) := do
  if name.isEmpty then value? "HOME".toList
  else return if name == "root".toList then some "/root".toList else none

/-- Replaces a tilde at the start of a text that ends a word or not. -/
def tildeParts (inAssignment isWhole : Bool) (text : Octets) : Sh Template := do
  match text with
  | '~' :: rest =>
    let name := rest.takeWhile fun c => c != '/' && !(inAssignment && c == ':')
    if name.length == rest.length && !isWhole then return [.text false text]
    else match ← homeOf? name with
      | some home => return [.text true home, .text false (rest.drop name.length)]
      | none => return [.text false text]
  | _ => return [.text false text]

/-- The text cut behind each colon. -/
def colonPieces (text : Octets) : List Octets :=
  let pieces := Text.pieces ':' text
  pieces.dropLast.map (· ++ [':']) ++ [pieces.getLastD []]

/-- Replaces the tildes of a template. In an assignment they can stand behind colons too. -/
def tilde (inAssignment isStart : Bool) : Template → Sh Template
  | [] => return []
  | .text false text :: rest => do
    let isLast := rest.isEmpty
    if !inAssignment then
      return (← if isStart then tildeParts false isLast text else pure [.text false text]) ++ rest
    else
      let pieces := colonPieces text
      let count := pieces.length
      let changed ← pieces.zipIdx.mapM fun (piece, n) =>
        let isWhole := isLast || n + 1 < count
        if n == 0 && !isStart then pure [Part.text false piece]
        else tildeParts true isWhole piece
      let endsInColon := text.getLast? == some ':'
      return changed.flatten ++ (← tilde true endsInColon rest)
  | part :: rest => do
    if inAssignment then return part :: (← tilde true false rest) else return part :: rest

/-- Complains of a parameter without a value and ends the shell. -/
def unsetParameter {α : Type} (name message : Octets) : Sh α :=
  fail (name ++ ": ".toList ++ message)

/-- What a template becomes. `commands` gives what commands write. Where fields are made, arguments
stay apart; literal text can be cut into fields if it is the argument of a parameter. -/
def glyphs (commands : List Command → Sh Octets) (makesFields isArgument : Bool) :
    Nat → Template → Sh (List Glyph)
  | 0, _ => exhausted
  | _, [] | _, .surplus :: _ => return []
  | fuel + 1, part :: rest => do
    let first ← match part with
      | .surplus => pure []
      | .text quoted text => pure (Glyph.ofText quoted (isArgument && !quoted) text)
      | .quotes => pure [Glyph.quotes]
      | .output quoted body => do
        pure (Glyph.ofText quoted (!quoted) (← commands body))
      | .number quoted expression => do
        let text := Glyph.text none (← glyphs commands false false fuel expression)
        let bindings := (← process).bindings
        let lookup (name : Octets) : Octets := ((bindings[name]?).bind Variable.value).getD []
        match Arithmetic.run lookup text with
        | .ok (n, made) =>
          for (name, value) in made do assign name (Text.ofInt value)
          pure (Glyph.ofText quoted (!quoted) (Text.ofInt n))
        | .error trouble => fail (trouble.message text)
      | .parameter quoted name treatment argument =>
        parameter commands makesFields quoted name treatment argument fuel
    return first ++ (← glyphs commands makesFields isArgument fuel rest)
where
  /-- What a parameter becomes. -/
  parameter (commands : List Command → Sh Octets) (makesFields quoted : Bool) (name : Octets)
      (treatment : Treatment) (argument : Template) : Nat → Sh (List Glyph)
    | 0 => exhausted
    | fuel + 1 => do
      if treatment = .unknown then fail "Bad substitution".toList
      let isList := name == ['@'] || name == ['*']
      let given ← if isList then argumentGlyphs quoted (name == ['*'])
        else valueGlyphs quoted (← parameterValue? name)
      let isSet ← if isList then pure true else pure (← parameterValue? name).isSome
      let text := Glyph.text (← joint) given
      let word (makesFields : Bool) : Sh (List Glyph) := do
        let argument ← if quoted then pure argument else tilde false true argument
        glyphs commands makesFields (!quoted) fuel argument
      let isParted ← if !makesFields || !isList then pure false
        else if quoted then pure (name == ['@'])
        else pure (← value? "IFS".toList).isSome
      let isRow := makesFields && isList && 1 < (← process).arguments.length && (isParted || !quoted)
      let isMissing (empty : Bool) : Bool := !isSet || (empty && text.isEmpty && !isRow)
      let demanded : Sh Unit := do
        if !isSet && !isList && (← hasOption 'u') then
          unsetParameter name "parameter not set".toList
      let pattern : Sh (List Glob) := do
        return Glob.ofMarks (Glyph.marks (← glyphs commands false false fuel (← tilde false true argument)))
      match treatment with
      | .value | .unknown =>
        demanded
        return given
      | .length =>
        demanded
        return Glyph.ofText quoted (!quoted) (Text.ofNat text.length)
      | .useDefault empty => if isMissing empty then word makesFields else return given
      | .alternative empty => if !isSet || (empty && text.isEmpty) then return [] else word makesFields
      | .assignDefault empty =>
        if isMissing empty then
          let new := Glyph.text (← joint) (← word false)
          unless isName name do unsetParameter name "bad variable name".toList
          assign name new
          return Glyph.ofText quoted (!quoted) new
        else return given
      | .demand empty =>
        if isMissing empty then
          let message := Glyph.text (← joint) (← word false)
          let usual := if empty then "parameter not set or null" else "parameter not set"
          unsetParameter name (if argument.isEmpty then usual.toList else message)
        else return given
      | .removeEnd longest =>
        demanded
        if !isSet then return given
        if isParted then
          return partedGlyphs quoted (Glob.removeEnd (← pattern) longest (← partedArguments))
        else return Glyph.ofText quoted (!quoted) (Glob.removeEnd (← pattern) longest text)
      | .removeStart longest =>
        demanded
        if !isSet then return given
        if isParted then
          return partedGlyphs quoted (Glob.removeStart (← pattern) longest (← partedArguments))
        else return Glyph.ofText quoted (!quoted) (Glob.removeStart (← pattern) longest text)
  valueGlyphs (quoted : Bool) (value : Option Octets) : Sh (List Glyph) :=
    return Glyph.ofText quoted (!quoted) (value.getD [])

end BuildRules.Shell.Expand
