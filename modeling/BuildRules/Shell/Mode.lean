import BuildRules.Text.Octets

/-! Permissions in symbols: who may do what, as in `u=rwx,g-w`. -/
namespace BuildRules.Shell.Mode

/-- The bits that a letter stands for, for everybody. -/
def letterBits (c : Char) : Nat :=
  match c with
  | 'r' => 0o444
  | 'w' => 0o222
  | 'x' | 'X' => 0o111
  | 's' => 0o6000
  | 't' => 0o1000
  | _ => 0

/-- The bits of those whom a letter names. -/
def whoBits (c : Char) : Nat :=
  match c with
  | 'u' => 0o4700
  | 'g' => 0o2070
  | 'o' => 0o1007
  | 'a' => 0o7777
  | _ => 0

/-- The permissions of one party, given to everybody. -/
def copied (c : Char) (mode : Nat) : Nat :=
  let bits := match c with
    | 'u' => mode / 64 % 8
    | 'g' => mode / 8 % 8
    | _ => mode % 8
  bits * 0o111

/-- The bits of one number that are not in another one. -/
def without (a b : Nat) : Nat := a - (a &&& b)

/-- One change: an operator and what it gives or takes. `who` are the bits that may change, and
`spared` those that are left alone because nobody is named. -/
def apply (isDirectory : Bool) (who spared : Nat) (operator : Char) (letters : Octets) (mode : Nat) :
    Nat :=
  let wanted := letters.foldl (fun bits c =>
    if c == 'X' && !(isDirectory || mode &&& 0o111 != 0) then bits
    else if "ugo".toList.contains c then bits ||| copied c mode
    else bits ||| letterBits c) 0
  let chosen := without (wanted &&& who) spared
  match operator with
  | '+' => mode ||| chosen
  | '-' => without mode chosen
  | _ => without mode (if isDirectory then who &&& 0o1777 else who) ||| chosen

/-- Carries out a clause: who, then operators with their letters. -/
def clause? (isDirectory : Bool) (mask : Nat) (text : Octets) (mode : Nat) : Option Nat :=
  let named := text.takeWhile fun c => "ugoa".toList.contains c
  let who := named.foldl (fun bits c => bits ||| whoBits c) 0
  let rec go (fuel : Nat) (rest : Octets) (mode : Nat) : Option Nat :=
    match fuel, rest with
    | _, [] => some mode
    | 0, _ => none
    | fuel + 1, operator :: rest =>
      if !"+-=".toList.contains operator then none
      else
        let letters := rest.takeWhile fun c => !"+-=".toList.contains c
        if !letters.all fun c => "rwxXstugo".toList.contains c then none
        else
          let made := if named.isEmpty then apply isDirectory 0o7777 mask operator letters mode
            else apply isDirectory who 0 operator letters mode
          go fuel (rest.drop letters.length) made
  let rest := text.drop named.length
  if rest.isEmpty then none else go rest.length rest mode

/-- The permissions that come of symbols between commas, or of an octal number. -/
def change? (isDirectory : Bool) (mask : Nat) (text : Octets) (mode : Nat) : Option Nat :=
  if !text.isEmpty && text.all fun c => '0' ≤ c && c ≤ '7' then
    let n := text.foldl (fun n c => n * 8 + (c.toNat - '0'.toNat)) 0
    if n < 0o10000 then
      some (if isDirectory && text.length < 5 then n ||| (mode &&& 0o6000) else n)
    else none
  else
    (Text.pieces ',' text).foldl (fun mode clause =>
      mode.bind (clause? isDirectory mask clause)) (some mode)

/-- Carries out the clauses that the shell takes for what new files grant: `places` has a bit for each
party that has been named, and what is copied comes from the permissions at the start. -/
def granted? (start : Nat) : Nat → Nat → Octets → Nat → Option Nat
  | 0, _, _, _ => none
  | _, _, [], mode => some mode
  | fuel + 1, places, text, mode =>
    let named := text.takeWhile fun c => "augo".toList.contains c
    let places := named.foldl (fun places c => places ||| (whoBits c &&& 0o111)) places
    let places := if places == 0 then 0o111 else places
    match text.drop named.length with
    | [] => none
    | operator :: rest =>
      let letters := rest.takeWhile fun c => "rwxugoXs".toList.contains c
      let wanted := letters.foldl (fun bits c =>
        if c == 'X' then if start &&& 0o111 != 0 then bits ||| 1 else bits
        else if "ugo".toList.contains c then bits ||| (copied c start &&& 7)
        else bits ||| (letterBits c &&& 7)) 0
      let chosen := wanted * places
      let made? := match operator with
        | '+' => some (mode ||| chosen)
        | '-' => some (without mode chosen)
        | '=' => some (without mode (places * 7) ||| chosen)
        | _ => none
      match made?, rest.drop letters.length with
      | some made, ',' :: rest => granted? start fuel 0 rest made
      | some made, rest =>
        if rest.head?.all "=+-".toList.contains then granted? start fuel places rest made else none
      | none, _ => none

/-- The symbols for who may read, write and execute. -/
def symbols (bits : Nat) : Octets :=
  (if bits &&& 4 != 0 then ['r'] else []) ++ (if bits &&& 2 != 0 then ['w'] else []) ++
    (if bits &&& 1 != 0 then ['x'] else [])

/-- Nine letters and dashes that tell all permissions. -/
def text (mode : Nat) : Octets :=
  let party (bits special : Nat) (low high : Char) : Octets :=
    let last := match special != 0, bits &&& 1 != 0 with
      | true, true => low
      | true, false => high
      | false, true => 'x'
      | false, false => '-'
    [if bits &&& 4 != 0 then 'r' else '-', if bits &&& 2 != 0 then 'w' else '-', last]
  party (mode / 64 % 8) (mode &&& 0o4000) 's' 'S' ++ party (mode / 8 % 8) (mode &&& 0o2000) 's' 'S' ++
    party (mode % 8) (mode &&& 0o1000) 't' 'T'

/-- At least four octal digits. -/
def octal (mode : Nat) : Octets :=
  let digits := Nat.toDigits 8 mode
  List.replicate (4 - digits.length) '0' ++ digits

example : change? false 0o022 "u+x,go-r".toList 0o644 = some 0o700 := by decide
example : change? false 0o022 "+x".toList 0o644 = some 0o755 := by decide

end BuildRules.Shell.Mode
