import Mathlib.Data.String.Basic

/-!
# The order of UTF-8 bytes

Texts are compared code point by code point.  UTF-8 gives a greater code point a greater row of bytes:
a longer row starts with a greater byte, and rows of one length hold the digits of the code point from
the most significant on.  So the order of texts is the order of their bytes.
-/

namespace ObjectProtocol

def utf8Row (s : String) : List UInt8 := s.toUTF8.data.toList

/-- The UTF-8 bytes of one text come before those of another, the first difference deciding. -/
def ByteLt (s t : String) : Prop := List.Lex (· < ·) (utf8Row s) (utf8Row t)

theorem utf8Row_eq (s : String) : utf8Row s = s.toList.flatMap String.utf8EncodeChar := by
  rw [utf8Row, String.toUTF8_eq_toByteArray]
  conv_lhs => rw [← s.ofList_toList]
  rw [String.toByteArray_ofList, List.utf8Encode, List.toList_data_toByteArray]

theorem lex_cons_ofNat {a b : Nat} {xs ys : List UInt8} (hle : a ≤ b) (hb : b < 256)
    (h : a = b → List.Lex (· < ·) xs ys) :
    List.Lex (· < ·) (UInt8.ofNat a :: xs) (UInt8.ofNat b :: ys) := by
  rcases Nat.lt_or_eq_of_le hle with hlt | heq
  · refine .rel ?_
    rw [UInt8.lt_iff_toNat_lt, UInt8.toNat_ofNat_of_lt' (hlt.trans hb), UInt8.toNat_ofNat_of_lt' hb]
    exact hlt
  · rw [heq]
    exact .cons (h heq)

theorem lex_utf8EncodeChar {c d : Char} (h : c < d) (xs ys : List UInt8) :
    List.Lex (· < ·) (String.utf8EncodeChar c ++ xs) (String.utf8EncodeChar d ++ ys) := by
  have hlt : c.val.toNat < d.val.toNat := h
  have hmax : d.val.toNat < 0x110000 := by
    rcases d.valid with hd | hd
    · exact hd.trans (by decide)
    · exact hd.2
  unfold String.utf8EncodeChar
  generalize c.val.toNat = v at hlt
  generalize d.val.toNat = w at hlt hmax
  dsimp only
  split_ifs
  -- Rows of one length agree up to the digit in which the code points differ, others not at all.
  all_goals
    repeat' first
      | omega
      | refine lex_cons_ofNat (by omega) (by omega) fun _ => ?_

theorem byteLt_of_lt {s t : String} (h : s < t) : ByteLt s t := by
  have hrows : List.Lex (· < ·) s.toList t.toList := String.lt_iff_toList_lt.1 h
  unfold ByteLt
  rw [utf8Row_eq, utf8Row_eq]
  generalize s.toList = cs at hrows
  generalize t.toList = ds at hrows
  -- The induction is on where the texts differ first: at the end of the one, further on, or here.
  induction hrows with
  | @nil d ds =>
    have hne : (d :: ds).flatMap String.utf8EncodeChar ≠ [] := by
      rw [List.flatMap_cons]
      exact List.append_ne_nil_of_left_ne_nil String.utf8EncodeChar_ne_nil _
    obtain ⟨b, bs, hb⟩ := List.exists_cons_of_ne_nil hne
    rw [List.flatMap_nil, hb]
    exact .nil
  | cons _ ih =>
    rw [List.flatMap_cons, List.flatMap_cons]
    exact List.Lex.append_left _ ih _
  | rel h =>
    rw [List.flatMap_cons, List.flatMap_cons]
    exact lex_utf8EncodeChar h _ _

end ObjectProtocol
