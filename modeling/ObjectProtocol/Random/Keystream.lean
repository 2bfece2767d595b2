/-!
# The ChaCha key stream with twelve rounds

The sixteen words of a block are kept as four rows of four, so that a quarter round acts on all four
columns at once; turning the rows against each other brings the diagonals into the columns.  The
stream is a function of the position: `word64` says what the `n`-th 64-bit output is, with no buffer
to keep.
-/

namespace ObjectProtocol.Random

/-- Four words of a block that stand side by side. -/
structure Row where
  w0 : UInt32
  w1 : UInt32
  w2 : UInt32
  w3 : UInt32
deriving DecidableEq, Repr, Inhabited

namespace Row

@[inline] def zip (f : UInt32 → UInt32 → UInt32) (x y : Row) : Row :=
  ⟨f x.w0 y.w0, f x.w1 y.w1, f x.w2 y.w2, f x.w3 y.w3⟩

/-- Each word rotated left by `n` bits, for `0 < n < 32`. -/
def rotate (n : UInt32) (x : Row) : Row :=
  let turn (w : UInt32) := (w <<< n) ||| (w >>> (32 - n))
  ⟨turn x.w0, turn x.w1, turn x.w2, turn x.w3⟩

def turn (x : Row) : Row := ⟨x.w1, x.w2, x.w3, x.w0⟩

def toList (x : Row) : List UInt32 := [x.w0, x.w1, x.w2, x.w3]

end Row

structure Block where
  a : Row
  b : Row
  c : Row
  d : Row
deriving DecidableEq, Repr, Inhabited

namespace Block

def columns (x : Block) : Block :=
  let a := x.a.zip (· + ·) x.b
  let d := (x.d.zip (· ^^^ ·) a).rotate 16
  let c := x.c.zip (· + ·) d
  let b := (x.b.zip (· ^^^ ·) c).rotate 12
  let a := a.zip (· + ·) b
  let d := (d.zip (· ^^^ ·) a).rotate 8
  let c := c.zip (· + ·) d
  let b := (b.zip (· ^^^ ·) c).rotate 7
  ⟨a, b, c, d⟩

/-- Brings the diagonals into the columns; `straighten` brings them back. -/
def slant (x : Block) : Block := ⟨x.a, x.b.turn, x.c.turn.turn, x.d.turn.turn.turn⟩

def straighten (x : Block) : Block := ⟨x.a, x.b.turn.turn.turn, x.c.turn.turn, x.d.turn⟩

def doubleRound (x : Block) : Block := x.columns.slant.columns.straighten

def twelveRounds (x : Block) : Block :=
  x.doubleRound.doubleRound.doubleRound.doubleRound.doubleRound.doubleRound

def add (x y : Block) : Block :=
  ⟨x.a.zip (· + ·) y.a, x.b.zip (· + ·) y.b, x.c.zip (· + ·) y.c, x.d.zip (· + ·) y.d⟩

def toList (x : Block) : List UInt32 := x.a.toList ++ x.b.toList ++ x.c.toList ++ x.d.toList

end Block

def constants : Row := ⟨0x61707865, 0x3320646e, 0x79622d32, 0x6b206574⟩

structure Key where
  low : Row
  high : Row
deriving DecidableEq, Repr, Inhabited

namespace Key

/-- The block that the rounds start from: `constants`, key, and a 64-bit counter before two zero words. -/
def start (key : Key) (counter : UInt64) : Block :=
  ⟨constants, key.low, key.high, ⟨counter.toUInt32, (counter >>> 32).toUInt32, 0, 0⟩⟩

def block (key : Key) (counter : UInt64) : Block :=
  (key.start counter).twelveRounds.add (key.start counter)

/-- The `n`-th 64-bit output: two successive words of the stream, the low one first. -/
def word64 (key : Key) (n : Nat) : UInt64 :=
  let words := (key.block (UInt64.ofNat (n / 8))).toList
  let low := words.getD (2 * (n % 8)) 0
  let high := words.getD (2 * (n % 8) + 1) 0
  low.toUInt64 ||| (high.toUInt64 <<< 32)

/-- One step of the linear congruence that `ofSeed` spreads a seed with. -/
def spread (s : UInt64) : UInt64 := s * 6364136223846793005 + 11634580027462260723

def wordOf (s : UInt64) : UInt32 :=
  let x := (((s >>> 18) ^^^ s) >>> 27).toUInt32
  let n := (s >>> 59).toUInt32
  (x >>> n) ||| (x <<< (32 - n))

/-- The key of a seed: eight words, each the `wordOf` of the next state. -/
def ofSeed (seed : UInt64) : Key :=
  let s1 := spread seed
  let s2 := spread s1
  let s3 := spread s2
  let s4 := spread s3
  let s5 := spread s4
  let s6 := spread s5
  let s7 := spread s6
  let s8 := spread s7
  ⟨⟨wordOf s1, wordOf s2, wordOf s3, wordOf s4⟩, ⟨wordOf s5, wordOf s6, wordOf s7, wordOf s8⟩⟩

end Key

end ObjectProtocol.Random
