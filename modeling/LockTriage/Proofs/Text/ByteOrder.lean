import LockTriage.Text.Bytes
import Mathlib.Data.List.Lex
import Mathlib.Data.String.Basic

/-!
The order of texts is the order of their bytes. Texts are compared character by character,
and UTF-8 was made so that this comes to the same as comparing byte by byte.
-/

namespace LockTriage.Bytes

/-- The bytes of a text are those of its characters, one after the other. -/
theorem ofText_eq (s : String) : ofText s = s.toList.flatMap String.utf8EncodeChar := by
  rw [ofText, ← String.utf8Encode_toList, List.utf8Encode, List.data_toByteArray]

/-- Of two numbers of two digits the leading digits decide, and the last ones if those are
the same. -/
private theorem digits_lt {m n : Nat} (h : m < n) :
    m / 64 < n / 64 ∨ m / 64 = n / 64 ∧ m % 64 < n % 64 := by
  omega

private theorem toNat_byte {n : Nat} (h : n < 256) : (UInt8.ofNat n).toNat = n :=
  UInt8.toNat_ofNat_of_lt h

/-- The greater one of two characters has the greater bytes, and they differ where both of
them have a byte. -/
theorem utf8EncodeChar_append_lt {c d : Char} (h : c < d) (x y : Bytes) :
    String.utf8EncodeChar c ++ x < String.utf8EncodeChar d ++ y := by
  have hLess : c.val.toNat < d.val.toNat := UInt32.lt_iff_toNat_lt.mp h
  have hBound : d.val.toNat < 0x110000 := by
    rcases d.valid with hLow | ⟨_, hHigh⟩
    · exact Nat.lt_trans hLow (by decide)
    · exact hHigh
  unfold String.utf8EncodeChar
  dsimp only
  generalize c.val.toNat = m at *
  generalize d.val.toNat = n at *
  have hDigits := digits_lt hLess
  have hUpper := @digits_lt (m / 64) (n / 64)
  have hTop := @digits_lt (m / 64 / 64) (n / 64 / 64)
  simp only [Nat.div_div_eq_div_mul, Nat.reduceMul] at hUpper hTop
  have hLead : m / 262144 % 8 = m / 262144 := by omega
  have hLead' : n / 262144 % 8 = n / 262144 := by omega
  -- A character of more bytes has the greater first byte; otherwise the digits decide.
  split_ifs <;> simp (disch := omega) only [List.cons_append, List.nil_append, List.cons_lt_cons_iff,
    UInt8.lt_iff_toNat_lt, ← UInt8.toNat_inj, toNat_byte, hLead, hLead'] <;> omega

theorem flatMap_utf8EncodeChar_lt {cs ds : List Char} (h : cs < ds) :
    cs.flatMap String.utf8EncodeChar < ds.flatMap String.utf8EncodeChar := by
  induction cs generalizing ds with
  | nil =>
      cases ds with
      | nil => exact absurd h (List.lt_irrefl [])
      | cons d ds =>
          obtain ⟨byte, rest, hBytes⟩ := List.exists_cons_of_ne_nil (@String.utf8EncodeChar_ne_nil d)
          rw [List.flatMap_cons, hBytes]
          exact List.nil_lt_cons byte _
  | cons c cs ih =>
      cases ds with
      | nil => exact absurd h (List.not_lt_nil _)
      | cons d ds =>
          rw [List.flatMap_cons, List.flatMap_cons]
          rcases List.cons_lt_cons_iff.mp h with hLess | ⟨rfl, hRest⟩
          · exact utf8EncodeChar_append_lt hLess _ _
          · exact List.append_left_lt (ih hRest)

theorem ofText_lt_iff {s t : String} : ofText s < ofText t ↔ s < t := by
  have hMono : ∀ {s t : String}, s < t → ofText s < ofText t := by
    intro s t hLess
    rw [ofText_eq, ofText_eq]
    exact flatMap_utf8EncodeChar_lt (String.lt_iff_toList_lt.mp hLess)
  refine ⟨fun hLess => ?_, hMono⟩
  by_contra hNot
  rcases (not_lt.mp hNot).lt_or_eq with hMore | rfl
  · exact List.lt_asymm hLess (hMono hMore)
  · exact List.lt_irrefl _ hLess

end LockTriage.Bytes
