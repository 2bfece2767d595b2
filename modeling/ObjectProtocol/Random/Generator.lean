import ObjectProtocol.Random.Keystream

/-!
# Random draws

A generator is a key together with the number of 64-bit outputs taken from its stream so far.  A draw
compares the next output with a threshold, and takes exactly one; `chance` says which probabilities
draw at all.
-/

namespace ObjectProtocol.Random

/-- A seeded stream and the number of outputs already taken from it. -/
structure Generator where
  key : Key
  drawn : Nat := 0
deriving DecidableEq, Repr, Inhabited

namespace Generator

def ofSeed (seed : UInt64) : Generator := ⟨Key.ofSeed seed, 0⟩

def draw (g : Generator) (threshold : Nat) : Bool × Generator :=
  (decide ((g.key.word64 g.drawn).toNat < threshold), { g with drawn := g.drawn + 1 })

def coin (g : Generator) : Bool × Generator := g.draw 0x8000000000000000

/-- The number of 64-bit outputs that count as a hit: `p * 2 ^ 64`, rounded down, for `p` strictly between
0 and 1. -/
def threshold (p : Float) : Nat := (p * 18446744073709551616.0).toUInt64.toNat

/-- A draw that hits with probability `p`. Only a probability strictly between 0 and 1 takes an output; a
probability that is not a number never hits. -/
def chance (g : Generator) (p : Float) : Bool × Generator :=
  if p.isNaN || p ≤ 0.0 then (false, g)
  else if p ≥ 1.0 then (true, g)
  else g.draw (threshold p)

end Generator

end ObjectProtocol.Random
