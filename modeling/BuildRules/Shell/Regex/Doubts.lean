import BuildRules.Shell.Regex.Reader

/-! What is doubtful about regular expressions that can be read. -/
namespace BuildRules.Shell.Regex

/-- Whether a set in brackets at the start of a text is the name of a class that lacks its own
brackets. -/
def isBareClass (text : Octets) : Bool :=
  let body := if text.head? == some '^' then text.drop 1 else text
  match body with
  | ':' :: rest =>
    let inner := rest.takeWhile (· != ']')
    inner.length < rest.length && inner.getLast? == some ':' && inner.any (· != ':') &&
      !inner.contains '[' &&
      !((List.range inner.length).any fun n => inner[n + 1]? == some '-' && n + 2 < inner.length)
  | _ => false

def bareClass : Octets := "character class syntax is [[:space:]], not [:space:]".toList

/-- Doubts about an expression: signs of repetition that stand at the start of an extended one, and
whether there is a class without its brackets. The number bounds the work. -/
def doubts (isExtended : Bool) : Nat → Bool → Octets → List Octets × Bool
  | 0, _, _ => ([], false)
  | _, _, [] => ([], false)
  | fuel + 1, atStart, c :: rest =>
    let lone (sign : String) (after : Octets) : List Octets × Bool :=
      let (others, bad) := doubts isExtended fuel atStart after
      ((sign ++ " at start of expression").toList :: others, bad)
    match c with
    | '\\' =>
      let opens := !isExtended && (rest.head? == some '(' || rest.head? == some '|')
      doubts isExtended fuel opens (rest.drop 1)
    | '[' =>
      let (negation, body) := if rest.head? == some '^' then (['^'], rest.drop 1) else ([], rest)
      if isBareClass (negation ++ body) then ([], true)
      else match bracket (negation ++ body) with
        | .ok (_, after) => doubts isExtended fuel false after
        | .error _ => ([], false)
    | '^' => doubts isExtended fuel atStart rest
    | '(' | '|' => doubts isExtended fuel (isExtended || atStart) rest
    | '*' | '+' | '?' =>
      if isExtended && atStart then lone (String.ofList [c]) rest
      else doubts isExtended fuel false rest
    | '\x7b' =>
      let body := rest.takeWhile (· != '\x7d')
      let isBound := body.any Char.isDigit && body.all fun d => d.isDigit || d == ','
      if isExtended && atStart && isBound && body.length < rest.length then
        lone "\x7b...\x7d" (rest.drop (body.length + 1))
      else doubts isExtended fuel false rest
    | _ => doubts isExtended fuel false rest

end BuildRules.Shell.Regex
