import BuildRules.Text.Quoted

/-! Text that a log can show on a terminal. A terminal acts on some control characters, so that
a name could hide or forge lines of the log; these are written out by number. Line feeds, tabs
and the other control characters stay. -/
namespace BuildRules.Text

/-- The bell, backspace, form feed, escape and delete characters. -/
def isSignal (c : Char) : Bool :=
  c == '\x07' || c == '\x08' || c == '\x0c' || c == '\x1b' || c == '\x7f'

/-- The control characters past ASCII, each of which stands for an escape and a letter. -/
def isLateControl (c : Char) : Bool := 0x80 ≤ c.toNat && c.toNat ≤ 0x9F

/-- A backslash, an `x` and the two hexadecimal digits of a character below 256. -/
def hexPair (c : Char) : Text :=
  ['\\', 'x', Nat.digitChar (c.toNat / 16), Nat.digitChar (c.toNat % 16)]

def disarmChar (c : Char) : Text :=
  if isSignal c then hexPair c else if isLateControl c then codePoint c else [c]

def disarmed (text : Text) : Text := text.flatMap disarmChar

@[simp] theorem disarmed_nil : disarmed [] = [] := rfl

theorem disarmed_append (first second : Text) :
    disarmed (first ++ second) = disarmed first ++ disarmed second := by
  simp [disarmed]

/-- A text without such characters stays as it is. -/
theorem disarmed_eq_self {text : Text}
    (h : ∀ c ∈ text, isSignal c = false ∧ isLateControl c = false) : disarmed text = text := by
  induction text with
  | nil => rfl
  | cons c rest ih =>
    have here := h c (by simp)
    have after := ih fun d hd => h d (by simp [hd])
    simp only [disarmed, List.flatMap_cons, disarmChar, here.1, here.2] at after ⊢
    simpa using after

example : disarmed "a\x1b[7m\n".toList = "a\\x1b[7m\n".toList := by decide
example : disarmed ['\u009b'] = "\\u\x7b9b\x7d".toList := by decide

end BuildRules.Text
