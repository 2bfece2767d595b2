import Mathlib.Data.List.Chain
import ObjectProtocol.Text

/-!
# Quoted text

`hiddenBoundaries` increases, so where a character falls among the boundaries decides `isHidden`.
Between the space and the tilde every character is shown, and `quoted` leaves a text of such characters
as it is, unless a quote or a backslash occurs in it.
-/

namespace ObjectProtocol.Text

theorem hiddenBoundaries_increasing : hiddenBoundaries.Pairwise (· < ·) := by
  have hchain : hiddenBoundaries.IsChain (· < ·) := by decide +kernel
  exact hchain.pairwise

/-- `takeWhile` stops right after the last boundary that has been passed. -/
theorem length_takeWhile_le_of_between {bounds : List Nat} (hincreasing : bounds.Pairwise (· < ·))
    {n i : Nat} (hi : i < bounds.length) (hle : bounds[i] ≤ n)
    (hlt : ∀ h : i + 1 < bounds.length, n < bounds[i + 1]) :
    (bounds.takeWhile (· ≤ n)).length = i + 1 := by
  -- Every bound up to the `i`-th is taken, and the next one stops the search.
  induction bounds generalizing i with
  | nil => simp at hi
  | cons b bounds ih =>
    obtain ⟨hb, htail⟩ := List.pairwise_cons.1 hincreasing
    cases i with
    | zero =>
      cases bounds with
      | nil => simp_all
      | cons next rest =>
        have hn : n < next := hlt (by simp)
        simp_all
    | succ i =>
      have hi' : i < bounds.length := by simpa using hi
      have hbn : b ≤ n := (hb _ (List.getElem_mem hi')).le.trans hle
      simpa [hbn] using ih htail hi' hle fun h => hlt (by simpa using h)

variable {c : Char}

/-- A character from the boundary at `i` up to the next one is hidden iff `i` is even. -/
theorem isHidden_iff_of_between {i : Nat} (hi : i < hiddenBoundaries.length)
    (hle : hiddenBoundaries[i] ≤ c.toNat)
    (hlt : ∀ h : i + 1 < hiddenBoundaries.length, c.toNat < hiddenBoundaries[i + 1]) :
    isHidden c = true ↔ i % 2 = 0 := by
  have hpassed := length_takeWhile_le_of_between hiddenBoundaries_increasing hi hle hlt
  rw [isHidden, hpassed, decide_eq_true_iff]
  omega

-- A voicing mark is hidden where it combines, and shown where it takes a place.
example : isHidden '\u3099' = true ∧ isHidden '\uff9e' = false := by decide +kernel

theorem isHidden_eq_false_of_printable (hlow : 0x20 ≤ c.toNat) (hhigh : c.toNat < 0x7f) :
    isHidden c = false := by
  have hshown := isHidden_iff_of_between (c := c) (i := 1) (by decide +kernel) hlow fun _ => hhigh
  simpa using hshown

/-! ## Texts that stand as they are -/

theorem escape_eq_singleton (hlow : 0x20 ≤ c.toNat) (hhigh : c.toNat < 0x7f) (hquote : c ≠ '"')
    (hbackslash : c ≠ '\\') : escape c = [c] := by
  have hshown := isHidden_eq_false_of_printable hlow hhigh
  unfold escape
  split
  · exact absurd rfl hquote
  · exact absurd rfl hbackslash
  -- The other characters with an escape of their own lie below the space.
  · revert hlow; decide
  · revert hlow; decide
  · revert hlow; decide
  · revert hlow; decide
  · rw [if_neg (by simp [hshown])]

/-- `quoted` only adds the quotes around a text from the space to the tilde without quotes and
backslashes. -/
theorem quoted_eq (s : String)
    (h : ∀ c ∈ s.toList, 0x20 ≤ c.toNat ∧ c.toNat < 0x7f ∧ c ≠ '"' ∧ c ≠ '\\') :
    quoted s = "\"" ++ s ++ "\"" := by
  have hescape : s.toList.flatMap escape = s.toList := by
    calc s.toList.flatMap escape = s.toList.flatMap (fun c => [c]) :=
          List.flatMap_congr fun c hc =>
            let ⟨hlow, hhigh, hquote, hbackslash⟩ := h c hc
            escape_eq_singleton hlow hhigh hquote hbackslash
      _ = s.toList := by simp
  rw [← String.toList_inj]
  simp [quoted, hescape]

end ObjectProtocol.Text
