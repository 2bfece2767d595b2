import ObjectProtocol.Random.Generator

/-!
# Which chances draw

A draw with a probability takes an output only if the probability lies strictly between 0 and 1.
`Generator.chance` asks otherwise: it first turns away what is not a number or not above 0, and then
what is 1 or more.  That both come to the same rests on the order of floats: of two numbers one is
below, equal to or above the other, and what is not a number compares with nothing.
-/

namespace ObjectProtocol.Random

open Float.Model UnpackedFloat

/-! ## The order of floats -/

theorem compare_flip (x y : UnpackedFloat) : y.compare x = (x.compare y).map Ordering.swap := by
  have hint (a b : Int) : compare b a = (compare a b).swap := Std.OrientedCmp.eq_swap
  have hnat (a b : Nat) : compare b a = (compare a b).swap := Std.OrientedCmp.eq_swap
  cases x with
  | notANumber => cases y <;> rfl
  | infinity s =>
    cases y with
    | infinity t => cases s <;> cases t <;> rfl
    | notANumber | zero | finite => cases s <;> rfl
  | zero s =>
    cases y with
    | infinity t | finite t => cases t <;> rfl
    | notANumber | zero => rfl
  | finite s m e hm =>
    cases y with
    | notANumber => rfl
    | infinity t => cases t <;> rfl
    | zero t => cases s <;> rfl
    | finite t m' e' hm' =>
      -- Of the same sign, exponents are compared first and mantissas next.
      have hsame : (compare e' e).then (compare m' m) =
          ((compare e e').then (compare m m')).swap := by
        rw [Ordering.swap_then, ← hint, ← hnat]
      cases s with
      | positive =>
        cases t with
        | positive => exact congrArg some hsame
        | negative => rfl
      | negative =>
        cases t with
        | positive => rfl
        | negative => exact congrArg (some ·.swap) hsame

theorem exists_compare_eq {x y : UnpackedFloat} (hx : x.isNaN = false) (hy : y.isNaN = false) :
    ∃ o, x.compare y = some o := by
  -- Only a NaN does not compare, and neither float is one.
  cases x with
  | notANumber => contradiction
  | infinity s =>
    cases y with
    | notANumber => contradiction
    | infinity | zero | finite => cases s <;> exact ⟨_, rfl⟩
  | zero s =>
    cases y with
    | notANumber => contradiction
    | infinity t | finite t => cases t <;> exact ⟨_, rfl⟩
    | zero => exact ⟨_, rfl⟩
  | finite s m e hm =>
    cases y with
    | notANumber => contradiction
    | infinity t => cases t <;> exact ⟨_, rfl⟩
    | zero => cases s <;> exact ⟨_, rfl⟩
    | finite t m' e' hm' => cases s <;> cases t <;> exact ⟨_, rfl⟩

theorem lt_iff_compare (x y : Float) :
    x < y ↔ x.toModel.unpack.compare y.toModel.unpack = some .lt := by
  show decide (x.toModel < y.toModel) = true ↔ _
  rw [decide_eq_true_iff]
  show (x.toModel.unpack.compare y.toModel.unpack == some .lt) = true ↔ _
  exact beq_iff_eq

theorem le_iff_compare (x y : Float) :
    x ≤ y ↔ (x.toModel.unpack.compare y.toModel.unpack).any Ordering.isLE = true := by
  show decide (x.toModel ≤ y.toModel) = true ↔ _
  rw [decide_eq_true_iff]
  rfl

theorem isNaN_of_lt {x y : Float} (h : x < y) : y.isNaN = false := by
  rw [lt_iff_compare] at h
  show y.toModel.unpack.isNaN = false
  cases hy : y.toModel.unpack with
  | notANumber =>
    rw [hy] at h
    generalize x.toModel.unpack = u at h
    cases u <;> contradiction
  | infinity | zero | finite => rfl

theorem not_le_iff_lt {x y : Float} (hx : x.isNaN = false) (hy : y.isNaN = false) :
    ¬ y ≤ x ↔ x < y := by
  obtain ⟨o, ho⟩ := exists_compare_eq hx hy
  rw [lt_iff_compare, le_iff_compare, compare_flip x.toModel.unpack, ho]
  cases o <;> decide

/-! ## Draws -/

namespace Generator

/-- The generator `n` outputs later. -/
def skip (g : Generator) (n : Nat) : Generator := { g with drawn := g.drawn + n }

@[simp] theorem skip_zero (g : Generator) : g.skip 0 = g := rfl

theorem skip_skip (g : Generator) (n m : Nat) : (g.skip n).skip m = g.skip (n + m) := by
  unfold skip
  dsimp only
  rw [Nat.add_assoc]

theorem draw_snd (g : Generator) (n : Nat) : (g.draw n).2 = g.skip 1 := rfl

/-- `chance` is a `draw` for a probability strictly between 0 and 1. -/
theorem chance_of_between (g : Generator) {p : Float} (h : 0.0 < p ∧ p < 1.0) :
    g.chance p = g.draw (threshold p) := by
  have hzero : ¬ p ≤ 0.0 := (not_le_iff_lt (by decide +kernel) (isNaN_of_lt h.1)).2 h.1
  have hone : ¬ p ≥ 1.0 := (not_le_iff_lt (isNaN_of_lt h.1) (by decide +kernel)).2 h.2
  unfold chance
  rw [isNaN_of_lt h.1, Bool.false_or, if_neg (by simpa using hzero), if_neg hone]

/-- With any other probability `chance` has one answer and leaves every generator alone. -/
theorem exists_chance_eq {p : Float} (h : ¬ (0.0 < p ∧ p < 1.0)) :
    ∃ hit, ∀ g : Generator, g.chance p = (hit, g) := by
  by_cases hlow : (p.isNaN || p ≤ 0.0) = true
  · exact ⟨false, fun g => by rw [chance, if_pos hlow]⟩
  · -- A number above 0 that does not lie in between is 1 or more.
    obtain ⟨hnumber, hpositive⟩ : p.isNaN = false ∧ ¬ p ≤ 0.0 := by simpa using hlow
    have hone : p ≥ 1.0 := Classical.byContradiction fun hbelow =>
      h ⟨(not_le_iff_lt (by decide +kernel) hnumber).1 hpositive,
        (not_le_iff_lt hnumber (by decide +kernel)).1 hbelow⟩
    exact ⟨true, fun g => by rw [chance, if_neg hlow, if_pos hone]⟩

def outputs (p : Float) : Nat := if 0.0 < p ∧ p < 1.0 then 1 else 0

theorem chance_snd (g : Generator) (p : Float) : (g.chance p).2 = g.skip (outputs p) := by
  unfold outputs
  split
  · rename_i h
    rw [g.chance_of_between h, draw_snd]
  · rename_i h
    obtain ⟨hit, heq⟩ := exists_chance_eq h
    rw [heq g, skip_zero]

end Generator

end ObjectProtocol.Random
