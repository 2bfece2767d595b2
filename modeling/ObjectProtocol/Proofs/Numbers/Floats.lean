import Mathlib
import ObjectProtocol.Integer

/-!
# Whole numbers as floats

An integer of less than 54 bits is a float exactly: its bits fill the mantissa from the top, and nothing is
rounded.  So two such integers are equal as floats only if they are the same integer.  Of larger integers
several round to one float.
-/

namespace ObjectProtocol

open Float.Model UnpackedFloat

/-! ## Rounding -/

theorem log2_mul_two_pow {m k : Nat} (hm : 2 ^ 52 ≤ m) (hm' : m < 2 ^ 53) :
    (m * 2 ^ k).log2 = 52 + k := by
  have hpos : 0 < 2 ^ k := Nat.two_pow_pos k
  rw [Nat.log2_eq_iff (by positivity), Nat.pow_add, Nat.add_right_comm, Nat.pow_add]
  exact ⟨Nat.mul_le_mul_right _ hm, Nat.mul_lt_mul_of_pos_right hm' hpos⟩

theorem shiftRight_mul_two_pow (m k : Nat) :
    (⟨m * 2 ^ k, false, false⟩ : ExtendedMantissa) >>> k = ⟨m, false, false⟩ := by
  induction k generalizing m with
  | zero => rw [Nat.pow_zero, Nat.mul_one]; rfl
  | succ k ih =>
    have hmore : m * 2 ^ (k + 1) = m * 2 * 2 ^ k := by rw [Nat.pow_succ', Nat.mul_assoc]
    rw [hmore]
    show ((⟨m * 2 * 2 ^ k, false, false⟩ : ExtendedMantissa) >>> k).shiftRightOne = _
    rw [ih]
    simp [ExtendedMantissa.shiftRightOne]

theorem shiftToTargetExponent_eq {m k : Nat} {e : Int} (hm : 2 ^ 52 ≤ m) (hm' : m < 2 ^ 53)
    (he : -1074 ≤ e) :
    shiftToTargetExponent Format.binary64 (m * 2 ^ k) (e - k) .exact = (⟨m, false, false⟩, e) := by
  have htarget : Format.binary64.targetExponent (totalExponent (m * 2 ^ k) (e - k)) = e := by
    unfold Format.targetExponent totalExponent
    rw [log2_mul_two_pow hm hm']
    show max (_ - (53 : Int)) (-1074) = e
    omega
  have hamount : (e - (e - k)).toNat = k := by omega
  unfold shiftToTargetExponent
  rw [htarget, shiftToExponent, hamount, ExtendedMantissa.ofMantissaAndAccuracy,
    shiftRight_mul_two_pow, Int.sub_add_cancel]

/-- `roundWithAccuracy` keeps a mantissa of 53 bits. -/
theorem roundWithAccuracy_eq {m k : Nat} {e : Int} (s : Sign) (hm : 2 ^ 52 ≤ m) (hm' : m < 2 ^ 53)
    (he : -1074 ≤ e) :
    roundWithAccuracy Format.binary64 s (m * 2 ^ k) (e - k) .exact =
      .finite s m e (Nat.zero_lt_of_lt hm) := by
  have hfirst := shiftToTargetExponent_eq (k := k) hm hm' he
  have hsecond := shiftToTargetExponent_eq (k := 0) hm hm' he
  rw [Nat.pow_zero, Nat.mul_one, Int.natCast_zero, Int.sub_zero] at hsecond
  unfold roundWithAccuracy
  rw [hfirst]
  dsimp only
  rw [show (⟨m, false, false⟩ : ExtendedMantissa).roundedMantissa = m from rfl, hsecond]
  exact dif_neg (Nat.ne_of_gt (Nat.zero_lt_of_lt hm))

/-! ## Whole numbers -/

/-- The mantissa of a whole number, filled up with zeros until its highest bit is in place. -/
def wholeMantissa (n : Nat) : Nat := n * 2 ^ (52 - n.log2)

theorem wholeMantissa_bounds {n : Nat} (hn : 0 < n) (hlt : n < 2 ^ 53) :
    n.log2 ≤ 52 ∧ 2 ^ 52 ≤ wholeMantissa n ∧ wholeMantissa n < 2 ^ 53 := by
  have hlog : n.log2 ≤ 52 := Nat.le_of_lt_succ ((Nat.log2_lt (Nat.ne_of_gt hn)).2 hlt)
  have hlower := Nat.mul_le_mul_right (2 ^ (52 - n.log2)) (Nat.log2_self_le (Nat.ne_of_gt hn))
  have hupper := Nat.mul_lt_mul_of_pos_right (Nat.lt_log2_self (n := n))
    (Nat.two_pow_pos (52 - n.log2))
  rw [← Nat.pow_add] at hlower hupper
  rw [Nat.add_sub_of_le hlog] at hlower
  rw [Nat.add_right_comm, Nat.add_sub_of_le hlog] at hupper
  exact ⟨hlog, hlower, hupper⟩

/-- The unpacked float is the whole number `n` with the sign `s`. -/
def IsWhole (x : UnpackedFloat) (s : Sign) (n : Nat) : Prop :=
  ∃ h, x = .finite s (wholeMantissa n) (n.log2 - 52) h

theorem isWhole_round {n : Nat} (s : Sign) (hn : 0 < n) (hlt : n < 2 ^ 53) :
    IsWhole (UnpackedFloat.round Format.binary64 s n 0) s n := by
  obtain ⟨hlog, hlower, hupper⟩ := wholeMantissa_bounds hn hlt
  have htarget : Format.binary64.targetExponent (totalExponent n 0) = n.log2 - 52 := by
    unfold Format.targetExponent totalExponent
    show max (_ - (53 : Int)) (-1074) = _
    omega
  have hamount : (0 - ((n.log2 : Int) - 52)).toNat = 52 - n.log2 := by omega
  have hexponent : (0 : Int) - (52 - n.log2 : Nat) = (n.log2 : Int) - 52 := by omega
  have hfits := roundWithAccuracy_eq (k := 0) s hlower hupper (by omega : -1074 ≤ (n.log2 : Int) - 52)
  rw [Nat.pow_zero, Nat.mul_one, Int.natCast_zero, Int.sub_zero] at hfits
  refine ⟨Nat.zero_lt_of_lt hlower, ?_⟩
  simp only [UnpackedFloat.round, htarget, decreaseExponent, hamount, hexponent, Nat.shiftLeft_eq]
  exact hfits

/-! ## Packed and unpacked -/

theorem pack_finite {m b : Nat} {e : Int} (s : Sign) (hlog : m.log2 = 52) (hb : e + 1075 = b)
    (hlt : b < 2047) (hm : 0 < m) :
    UnpackedFloat.pack Format.binary64 (.finite s m e hm) =
      packComponents Format.binary64 s (BitVec.ofNat 11 b) (BitVec.ofNat 52 m) := by
  have hbiased : (e + Format.binary64.exponentBias + Format.binary64.mantissaBitsWithoutImplicit).toNat
      = b := by
    show (e + (1023 : Nat) + (52 : Nat)).toNat = b
    omega
  have hsmall : ¬ 2 ^ Format.binary64.exponentBits ≤ b + 1 := by
    show ¬ 2048 ≤ b + 1
    omega
  unfold UnpackedFloat.pack
  dsimp only
  rw [hbiased, hlog, if_neg hsmall, if_pos (show 52 + 1 = Format.binary64.mantissaBits from rfl)]

theorem unpack_packComponents (s : Sign) {eb : BitVec 11} (mb : BitVec 52) (hfinite : eb ≠ -1#11)
    (hnormal : eb ≠ 0#11) (hpos : 0 < (1#1 ++ mb).toNat) :
    UnpackedFloat.unpack Format.binary64 (packComponents Format.binary64 s eb mb) =
      .finite s (1#1 ++ mb).toNat ((eb.toNat : Int) - 1075) hpos := by
  simp only [UnpackedFloat.unpack, unpackMantissa_packComponents, unpackExponent_packComponents,
    unpackSign_packComponents, Sign.ofBitVec_toBitVec]
  exact (if_neg hfinite).trans (if_neg hnormal)

theorem unpack_pack_finite {m : Nat} {e : Int} (s : Sign) (hm : 2 ^ 52 ≤ m) (hm' : m < 2 ^ 53)
    (he : -1074 ≤ e) (he' : e ≤ 971) (hpos : 0 < m) :
    (Float.Model.pack (.finite s m e hpos)).unpack = .finite s m e hpos := by
  have hlog : m.log2 = 52 := (Nat.log2_eq_iff (Nat.ne_of_gt hpos)).2 ⟨hm, hm'⟩
  -- The bounds on the exponent make it one of the normal ones.
  obtain ⟨b, hb⟩ : ∃ b : Nat, e + 1075 = b := ⟨(e + 1075).toNat, by omega⟩
  have hexponent : (BitVec.ofNat 11 b).toNat = b := by
    rw [BitVec.toNat_ofNat]
    exact Nat.mod_eq_of_lt (by omega)
  have hmantissa : (1#1 ++ BitVec.ofNat 52 m).toNat = m := by
    rw [BitVec.toNat_append, BitVec.toNat_ofNat, BitVec.toNat_ofNat,
      ← Nat.shiftLeft_add_eq_or_of_lt (Nat.mod_lt _ (Nat.two_pow_pos 52)), Nat.shiftLeft_eq]
    omega
  have hfinite : BitVec.ofNat 11 b ≠ -1#11 := by
    intro h
    have hall : b = 2047 := hexponent.symm.trans (congrArg BitVec.toNat h)
    omega
  have hnormal : BitVec.ofNat 11 b ≠ 0#11 := by
    intro h
    have hzero : b = 0 := hexponent.symm.trans (congrArg BitVec.toNat h)
    omega
  have hunpack := unpack_packComponents s _ hfinite hnormal (by rw [hmantissa]; exact hpos)
  show UnpackedFloat.unpack Format.binary64 (UnpackedFloat.pack Format.binary64 _) = _
  rw [pack_finite s hlog hb (by omega), hunpack]
  simp only [hexponent, hmantissa]
  congr 1
  omega

/-- `pack` and `unpack` keep a whole number. -/
theorem IsWhole.unpack_pack {x : UnpackedFloat} {s : Sign} {n : Nat} (h : IsWhole x s n) (hn : 0 < n)
    (hlt : n < 2 ^ 53) : IsWhole (Float.Model.pack x).unpack s n := by
  obtain ⟨hpos, rfl⟩ := h
  obtain ⟨hlog, hlower, hupper⟩ := wholeMantissa_bounds hn hlt
  exact ⟨hpos, unpack_pack_finite s hlower hupper (by omega) (by omega) hpos⟩

/-! ## Conversion -/

section

variable {n : Nat} (hn : 0 < n) (hlt : n < 2 ^ 53)

include hn hlt

theorem isWhole_toFloat : IsWhole n.toUInt64.toFloat.toModel.unpack .positive n := by
  have hvalue : n.toUInt64.toNat = n := by
    rw [Nat.toUInt64, UInt64.toNat_ofNat_of_lt']
    exact Nat.lt_trans hlt (by decide)
  have hcompare : compare (n : Int) 0 = .gt := by
    rw [Int.compare_eq_gt]
    omega
  have hmodel : UnpackedFloat.ofUInt64 Format.binary64 n.toUInt64 =
      UnpackedFloat.round Format.binary64 .positive n 0 := by
    unfold UnpackedFloat.ofUInt64 UnpackedFloat.ofNat UnpackedFloat.ofInt UnpackedFloat.normalize
    rw [hvalue, hcompare]
    rfl
  show IsWhole (Float.Model.pack (UnpackedFloat.ofUInt64 Format.binary64 n.toUInt64)).unpack _ _
  rw [hmodel]
  exact (isWhole_round .positive hn hlt).unpack_pack hn hlt

theorem isWhole_ofNat : IsWhole (Float.ofNat n).toModel.unpack .positive n := by
  obtain ⟨hlog, hlower, hupper⟩ := wholeMantissa_bounds hn hlt
  obtain ⟨hpos, hwhole⟩ := isWhole_toFloat hn hlt
  have hone : (Float.ofBits 0x3FF0000000000000).toModel.unpack =
      .finite .positive (2 ^ 52) (-52) (by decide) := by rfl
  have hnat : Float.ofNat n = n.toUInt64.toFloat * Float.ofBits 0x3FF0000000000000 := by
    show Float.ofScientific n false 0 = _
    unfold Float.ofScientific
    rw [dif_pos ⟨hlt, by decide⟩]
    rfl
  have hproduct : IsWhole (UnpackedFloat.mul Format.binary64 n.toUInt64.toFloat.toModel.unpack
      (Float.ofBits 0x3FF0000000000000).toModel.unpack) .positive n := by
    rw [hwhole, hone]
    exact ⟨hpos, roundWithAccuracy_eq (k := 52) .positive hlower hupper (by omega)⟩
  rw [hnat]
  exact hproduct.unpack_pack hn hlt

end

theorem IsWhole.inj {x : UnpackedFloat} {s t : Sign} {n m : Nat} (h : IsWhole x s n)
    (h' : IsWhole x t m) : s = t ∧ n = m := by
  obtain ⟨_, rfl⟩ := h
  obtain ⟨_, heq⟩ := h'
  obtain ⟨hsign, hmantissa, hexponent⟩ := UnpackedFloat.finite.inj heq
  have hlog : n.log2 = m.log2 := by omega
  unfold wholeMantissa at hmantissa
  rw [hlog] at hmantissa
  exact ⟨hsign, Nat.mul_right_cancel (Nat.two_pow_pos _) hmantissa⟩

def signOf (i : Int) : Sign := if i < 0 then .negative else .positive

theorem isWhole_ofInt {i : Int} (hi : i ≠ 0) (hlt : i.natAbs < 2 ^ 53) :
    IsWhole (Float.ofInt i).toModel.unpack (signOf i) i.natAbs := by
  cases i with
  | ofNat n =>
    have hsign : signOf (Int.ofNat n) = .positive := if_neg (Int.not_lt.2 (Int.natCast_nonneg n))
    rw [hsign]
    exact isWhole_ofNat (Nat.pos_of_ne_zero fun h => hi (congrArg Int.ofNat h)) hlt
  | negSucc n =>
    have hsign : signOf (Int.negSucc n) = .negative := if_pos (Int.negSucc_lt_zero n)
    have hwhole := isWhole_ofNat (Nat.succ_pos n) hlt
    rw [hsign]
    have hneg : IsWhole (Float.ofNat (n + 1)).toModel.unpack.neg .negative (n + 1) := by
      obtain ⟨hpos, heq⟩ := hwhole
      rw [heq]
      exact ⟨hpos, rfl⟩
    exact hneg.unpack_pack (Nat.succ_pos n) hlt

/-- `toFloat` is injective on integers of less than 54 bits. -/
theorem HostInt.eq_of_toFloat_beq {i j : HostInt} (hi : i.val.natAbs < 2 ^ 53)
    (hj : j.val.natAbs < 2 ^ 53) (h : (i.toFloat == j.toFloat) = true) : i = j := by
  have hcompare : (Float.ofInt i.val).toModel.unpack.beq (Float.ofInt j.val).toModel.unpack = true := h
  obtain ⟨-, -, hsame⟩ := (beq_iff_ne_notANumber_and_eq _ _).1 hcompare
  have hzero : (Float.ofInt 0).toModel.unpack = .zero .positive := by rfl
  apply HostInt.ext
  by_cases hizero : i.val = 0
  · by_cases hjzero : j.val = 0
    · rw [hizero, hjzero]
    · -- What is whole is no zero.
      obtain ⟨hpos, hwhole⟩ := isWhole_ofInt hjzero hj
      rw [hizero, hzero, hwhole] at hsame
      simp at hsame
  · obtain ⟨hpos, hwhole⟩ := isWhole_ofInt hizero hi
    by_cases hjzero : j.val = 0
    · rw [hjzero, hzero, hwhole] at hsame
      simp at hsame
    · rcases hsame with heq | ⟨heq, -⟩ | ⟨heq, -⟩
      · obtain ⟨hsign, habs⟩ := (isWhole_ofInt hizero hi).inj (heq ▸ isWhole_ofInt hjzero hj)
        unfold signOf at hsign
        split at hsign <;> split at hsign <;> first | contradiction | omega
      · rw [hwhole] at heq
        cases heq
      · rw [hwhole] at heq
        cases heq

end ObjectProtocol
