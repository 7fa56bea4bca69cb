import BuildRules.Text.Octets

/-!
Digests of texts: sums of a fixed length that tell texts apart. The constants of the newer ones are bits
of roots of prime numbers.
-/
namespace BuildRules.Shell.Digest

/-! Constants. -/

/-- The greatest number whose power is no greater than a number, if there is one below a bound. The
bound is a power of two, whose exponent is given. -/
def rootBelow (degree n : Nat) : Nat → Nat → Nat
  | 0, found => found
  | bit + 1, found =>
    let next := found + Nat.pow 2 bit
    rootBelow degree n bit (if Nat.pow next degree ≤ n then next else found)

/-- The first 64 bits behind the point of a root of a number. -/
def rootBits (degree n : Nat) : UInt64 :=
  UInt64.ofNat (rootBelow degree (n * Nat.pow 2 (64 * degree)) 72 0)

def isPrime (n : Nat) : Bool := 1 < n && (List.range n).all fun d => d < 2 || n % d != 0

/-- The first 80 prime numbers. -/
def primes : List Nat := (List.range 410).filter isPrime

/-- What is added in each round. -/
def roundBits : Array UInt64 := ((primes.take 80).map (rootBits 3)).toArray

/-- The state at the start, for the long digest and for its short form. -/
def startLong : List UInt64 := (primes.take 8).map (rootBits 2)

def startShort : List UInt64 := ((primes.drop 8).take 8).map (rootBits 2)

/-! Words. -/

/-- The number that bytes stand for, the first of them weighing most. -/
def ofBytes (bytes : List Char) : Nat := bytes.foldl (fun n c => n * 256 + c.toNat) 0

/-- A number as so many bytes, the first of them weighing most. -/
def bytesOf (count n : Nat) : List Char :=
  (List.range count).map fun place => Char.ofNat (n / Nat.pow 256 (count - 1 - place) % 256)

/-- Parts of a list, each so long. The number bounds how many there are. -/
def parts (size : Nat) : Nat → List Char → List (List Char)
  | 0, _ => []
  | _, [] => []
  | fuel + 1, bytes => bytes.take size :: parts size fuel (bytes.drop size)

/-- A text with what makes it fill blocks: a mark, noughts, and how many bits it has. -/
def padded (blockSize lengthSize : Nat) (lastFirst : Bool) (text : Octets) : List (List Char) :=
  let used := (text.length + 1 + lengthSize) % blockSize
  let gap := (blockSize - used) % blockSize
  let length := bytesOf lengthSize (text.length * 8)
  let whole := text ++ '\x80' :: List.replicate gap '\x00' ++
    (if lastFirst then length.reverse else length)
  parts blockSize (whole.length / blockSize + 1) whole

def hex (bytes : List Char) : Octets :=
  bytes.flatMap fun c => [Nat.digitChar (c.toNat / 16), Nat.digitChar (c.toNat % 16)]

def turnLeft (x : UInt32) (n : UInt32) : UInt32 := (x <<< n) ||| (x >>> (32 - n))

def turnRight (x : UInt32) (n : UInt32) : UInt32 := (x >>> n) ||| (x <<< (32 - n))

def turnLong (x : UInt64) (n : UInt64) : UInt64 := (x >>> n) ||| (x <<< (64 - n))

/-! The digest of 128 bits. -/

/-- What is added in each round: bits of sines. -/
def sineBits : Array UInt32 := #[
  0xd76aa478, 0xe8c7b756, 0x242070db, 0xc1bdceee, 0xf57c0faf, 0x4787c62a, 0xa8304613, 0xfd469501,
  0x698098d8, 0x8b44f7af, 0xffff5bb1, 0x895cd7be, 0x6b901122, 0xfd987193, 0xa679438e, 0x49b40821,
  0xf61e2562, 0xc040b340, 0x265e5a51, 0xe9b6c7aa, 0xd62f105d, 0x02441453, 0xd8a1e681, 0xe7d3fbc8,
  0x21e1cde6, 0xc33707d6, 0xf4d50d87, 0x455a14ed, 0xa9e3e905, 0xfcefa3f8, 0x676f02d9, 0x8d2a4c8a,
  0xfffa3942, 0x8771f681, 0x6d9d6122, 0xfde5380c, 0xa4beea44, 0x4bdecfa9, 0xf6bb4b60, 0xbebfbc70,
  0x289b7ec6, 0xeaa127fa, 0xd4ef3085, 0x04881d05, 0xd9d4d039, 0xe6db99e5, 0x1fa27cf8, 0xc4ac5665,
  0xf4292244, 0x432aff97, 0xab9423a7, 0xfc93a039, 0x655b59c3, 0x8f0ccc92, 0xffeff47d, 0x85845dd1,
  0x6fa87e4f, 0xfe2ce6e0, 0xa3014314, 0x4e0811a1, 0xf7537e82, 0xbd3af235, 0x2ad7d2bb, 0xeb86d391]

/-- How far words are turned, by quarters of the rounds. -/
def turns : List (List UInt32) := [[7, 12, 17, 22], [5, 9, 14, 20], [4, 11, 16, 23], [6, 10, 15, 21]]

/-- Four words of a state. -/
structure Quad where
  a : UInt32
  b : UInt32
  c : UInt32
  d : UInt32

def Quad.add (x y : Quad) : Quad := ⟨x.a + y.a, x.b + y.b, x.c + y.c, x.d + y.d⟩

def stepSmall (words : Array UInt32) (state : Quad) (n : Nat) : Quad :=
  let ⟨a, b, c, d⟩ := state
  let (mix, place) : UInt32 × Nat := match n / 16 with
    | 0 => ((b &&& c) ||| (~~~b &&& d), n)
    | 1 => ((d &&& b) ||| (~~~d &&& c), 5 * n + 1)
    | 2 => (b ^^^ c ^^^ d, 3 * n + 5)
    | _ => (c ^^^ (b ||| ~~~d), 7 * n)
  let sum := a + mix + sineBits.getD n 0 + words.getD (place % 16) 0
  let turn := (turns.getD (n / 16) []).getD (n % 4) 0
  ⟨d, b + turnLeft sum turn, b, c⟩

def md5 (text : Octets) : Octets :=
  let final := (padded 64 8 true text).foldl (fun (state : Quad) block =>
    let words := ((parts 4 16 block).map fun part => UInt32.ofNat (ofBytes part.reverse)).toArray
    state.add ((List.range 64).foldl (stepSmall words) state))
    ⟨0x67452301, 0xefcdab89, 0x98badcfe, 0x10325476⟩
  hex ([final.a, final.b, final.c, final.d].flatMap fun word => (bytesOf 4 word.toNat).reverse)

/-! The digest of 160 bits. -/

/-- The words of a block with those that are mixed from them. -/
def schedule (block : List Char) : Array UInt32 :=
  let start := ((parts 4 16 block).map fun part => UInt32.ofNat (ofBytes part)).toArray
  (List.range 64).foldl (fun words n =>
    let before (back : Nat) : UInt32 := words.getD (n + 16 - back) 0
    words.push (turnLeft (before 3 ^^^ before 8 ^^^ before 14 ^^^ before 16) 1)) start

def stepMiddle (words : Array UInt32) (state : Quad × UInt32) (n : Nat) : Quad × UInt32 :=
  let (⟨a, b, c, d⟩, e) := state
  let (mix, constant) : UInt32 × UInt32 := match n / 20 with
    | 0 => ((b &&& c) ||| (~~~b &&& d), 0x5a827999)
    | 1 => (b ^^^ c ^^^ d, 0x6ed9eba1)
    | 2 => ((b &&& c) ||| (b &&& d) ||| (c &&& d), 0x8f1bbcdc)
    | _ => (b ^^^ c ^^^ d, 0xca62c1d6)
  (⟨turnLeft a 5 + mix + e + constant + words.getD n 0, a, turnLeft b 30, c⟩, d)

def sha1 (text : Octets) : Octets :=
  let (final, e) := (padded 64 8 false text).foldl (fun (state : Quad × UInt32) block =>
    let (sum, e) := (List.range 80).foldl (stepMiddle (schedule block)) state
    (state.1.add sum, state.2 + e))
    (⟨0x67452301, 0xefcdab89, 0x98badcfe, 0x10325476⟩, 0xc3d2e1f0)
  hex ([final.a, final.b, final.c, final.d, e].flatMap fun word => bytesOf 4 word.toNat)

/-! Digests of 256 bits and of 512 bits, and their short forms. -/

/-- How words are mixed: how many rounds there are, and how bits of a word are taken together. -/
structure Mixer (Word : Type) where
  size : Nat
  rounds : Nat
  ofNat : Nat → Word
  toNat : Word → Nat
  constant : Nat → Word
  smallFirst : Word → Word
  smallSecond : Word → Word
  largeFirst : Word → Word
  largeSecond : Word → Word
  choose : Word → Word → Word → Word
  most : Word → Word → Word → Word

namespace Mixer

variable {Word : Type} [Add Word] [Inhabited Word]

def schedule (mixer : Mixer Word) (block : List Char) : Array Word :=
  let start := ((parts mixer.size 16 block).map fun part => mixer.ofNat (ofBytes part)).toArray
  (List.range (mixer.rounds - 16)).foldl (fun words n =>
    let back (count : Nat) : Word := words.getD (n + 16 - count) default
    words.push (mixer.smallSecond (back 2) + back 7 + mixer.smallFirst (back 15) + back 16)) start

def step (mixer : Mixer Word) (words : Array Word) (state : List Word) (n : Nat) : List Word :=
  match state with
  | [a, b, c, d, e, f, g, h] =>
    let first := h + mixer.largeSecond e + mixer.choose e f g + mixer.constant n + words.getD n default
    let second := mixer.largeFirst a + mixer.most a b c
    [first + second, a, b, c, d + first, e, f, g]
  | _ => state

/-- The digest of a text from a state at the start, cut to so many bytes. -/
def digest (mixer : Mixer Word) (start : List Word) (length : Nat) (text : Octets) : Octets :=
  let blocks := padded (16 * mixer.size) (2 * mixer.size) false text
  let final := blocks.foldl (fun state block =>
    let words := mixer.schedule block
    (state.zip ((List.range mixer.rounds).foldl (mixer.step words) state)).map fun (x, y) => x + y) start
  hex ((final.flatMap fun word => bytesOf mixer.size (mixer.toNat word)).take length)

end Mixer

def mixer32 : Mixer UInt32 where
  size := 4
  rounds := 64
  ofNat := UInt32.ofNat
  toNat := UInt32.toNat
  constant n := UInt32.ofNat ((roundBits.getD n 0).toNat / Nat.pow 2 32)
  smallFirst x := turnRight x 7 ^^^ turnRight x 18 ^^^ (x >>> 3)
  smallSecond x := turnRight x 17 ^^^ turnRight x 19 ^^^ (x >>> 10)
  largeFirst x := turnRight x 2 ^^^ turnRight x 13 ^^^ turnRight x 22
  largeSecond x := turnRight x 6 ^^^ turnRight x 11 ^^^ turnRight x 25
  choose x y z := (x &&& y) ^^^ (~~~x &&& z)
  most x y z := (x &&& y) ^^^ (x &&& z) ^^^ (y &&& z)

def mixer64 : Mixer UInt64 where
  size := 8
  rounds := 80
  ofNat := UInt64.ofNat
  toNat := UInt64.toNat
  constant n := roundBits.getD n 0
  smallFirst x := turnLong x 1 ^^^ turnLong x 8 ^^^ (x >>> 7)
  smallSecond x := turnLong x 19 ^^^ turnLong x 61 ^^^ (x >>> 6)
  largeFirst x := turnLong x 28 ^^^ turnLong x 34 ^^^ turnLong x 39
  largeSecond x := turnLong x 14 ^^^ turnLong x 18 ^^^ turnLong x 41
  choose x y z := (x &&& y) ^^^ (~~~x &&& z)
  most x y z := (x &&& y) ^^^ (x &&& z) ^^^ (y &&& z)

def sha256 (text : Octets) : Octets :=
  mixer32.digest (startLong.map fun word => UInt32.ofNat (word.toNat / Nat.pow 2 32)) 32 text

def sha224 (text : Octets) : Octets :=
  mixer32.digest (startShort.map fun word => UInt32.ofNat word.toNat) 28 text

def sha512 (text : Octets) : Octets := mixer64.digest startLong 64 text

def sha384 (text : Octets) : Octets := mixer64.digest startShort 48 text

/-! Check sums. -/

/-- A sum after eight more bits of a division without carries. -/
def remainder (sum : UInt32) : Nat → UInt32
  | 0 => sum
  | bits + 1 =>
    remainder (if sum &&& 0x80000000 != 0 then (sum <<< 1) ^^^ 0x04c11db7 else sum <<< 1) bits

/-- The check sum of a text with its length behind it. -/
def cyclic (text : Octets) : Nat :=
  let add (sum : UInt32) (c : Char) : UInt32 := remainder (sum ^^^ (UInt32.ofNat c.toNat <<< 24)) 8
  let rec lengthBytes (fuel n : Nat) : List Char :=
    match fuel with
    | 0 => []
    | fuel + 1 => if n == 0 then [] else Char.ofNat (n % 256) :: lengthBytes fuel (n / 256)
  (~~~(lengthBytes 16 text.length).foldl add (text.foldl add 0)).toNat

/-- The sum of bytes, turned to the right before each of them. -/
def turnedSum (text : Octets) : Nat :=
  text.foldl (fun sum c => (sum / 2 + sum % 2 * 32768 + c.toNat) % 65536) 0

/-- The plain sum of bytes, with its upper parts added to the lowest. -/
def plainSum (text : Octets) : Nat :=
  let sum := text.foldl (fun sum c => sum + c.toNat) 0 % Nat.pow 2 32
  let once := sum % 65536 + sum / 65536
  once % 65536 + once / 65536

example : md5 [] = "d41d8cd98f00b204e9800998ecf8427e".toList := by decide +kernel
example : rootBits 2 2 = 0x6a09e667f3bcc908 := by decide +kernel

end BuildRules.Shell.Digest
