import Mathlib.Data.String.Basic
import ServiceHealth.Proofs.Text.Encoding

/-!
# The order of texts and the order of their bytes

Texts are compared character by character, and what is stored of them byte by byte.
`encode_lt_encode_iff` states that this comes to the same.

A character with a greater number has either more bytes, and then the first of them is
greater already, or as many, and then they are the digits of a greater number.  In both cases
the bytes differ before either of them ends, so what follows them has no influence
(`bytesOf_append_lt`).
-/

namespace ServiceHealth.Text.Utf8

/-! ## Characters -/

/-- A character has one to four bytes. -/
theorem bytesOf_cases (n : Nat) :
    (n < 0x80 ∧ bytesOf n = [n]) ∨
      (0x80 ≤ n ∧ n < 0x800 ∧ bytesOf n = [0xC0 + n / 64, 0x80 + n % 64]) ∨
      (0x800 ≤ n ∧ n < 0x10000 ∧
        bytesOf n = [0xE0 + n / 4096, 0x80 + n / 64 % 64, 0x80 + n % 64]) ∨
      (0x10000 ≤ n ∧ bytesOf n =
        [0xF0 + n / 262144, 0x80 + n / 4096 % 64, 0x80 + n / 64 % 64, 0x80 + n % 64]) := by
  rcases Nat.lt_or_ge n 0x80 with hone | hone
  · exact .inl ⟨hone, bytesOf_one hone⟩
  rcases Nat.lt_or_ge n 0x800 with htwo | htwo
  · exact .inr (.inl ⟨hone, htwo, bytesOf_two hone htwo⟩)
  rcases Nat.lt_or_ge n 0x10000 with hthree | hthree
  · exact .inr (.inr (.inl ⟨htwo, hthree, bytesOf_three htwo hthree⟩))
  · exact .inr (.inr (.inr ⟨hthree, bytesOf_four hthree⟩))

/-- Whatever follows them, the bytes of a smaller number come first. -/
theorem bytesOf_append_lt {m n : Nat} (h : m < n) (first second : List Nat) :
    bytesOf m ++ first < bytesOf n ++ second := by
  rcases bytesOf_cases m with
    ⟨hm, hbytes⟩ | ⟨hm, hm', hbytes⟩ | ⟨hm, hm', hbytes⟩ | ⟨hm, hbytes⟩ <;>
  rcases bytesOf_cases n with
    ⟨hn, hother⟩ | ⟨hn, hn', hother⟩ | ⟨hn, hn', hother⟩ | ⟨hn, hother⟩ <;>
  simp only [hbytes, hother, List.cons_append, List.nil_append, List.cons_lt_cons_iff] <;>
  omega

theorem map_toNat_lt_iff {first second : List UInt8} :
    first.map UInt8.toNat < second.map UInt8.toNat ↔ first < second := by
  induction first generalizing second with
  | nil => cases second <;> simp
  | cons byte first ih =>
      cases second with
      | nil => simp
      | cons other second =>
          simp only [List.map_cons, List.cons_lt_cons_iff, ih, UInt8.lt_iff_toNat_lt,
            UInt8.toNat_inj]

theorem utf8EncodeChar_append_lt {c d : Char} (h : c < d) (first second : List UInt8) :
    String.utf8EncodeChar c ++ first < String.utf8EncodeChar d ++ second := by
  have hnumber : c.toNat < d.toNat := h
  rw [← map_toNat_lt_iff, List.map_append, List.map_append, map_toNat_utf8EncodeChar,
    map_toNat_utf8EncodeChar]
  exact bytesOf_append_lt hnumber _ _

/-! ## Texts -/

theorem flatMap_utf8EncodeChar_lt {cs ds : List Char} (h : cs < ds) :
    cs.flatMap String.utf8EncodeChar < ds.flatMap String.utf8EncodeChar := by
  rw [← List.lex_lt] at h
  induction h with
  | @nil d ds =>
      obtain ⟨byte, bytes, hbytes⟩ := List.exists_cons_of_ne_nil String.utf8EncodeChar_ne_nil
      rw [List.flatMap_nil, List.flatMap_cons, hbytes]
      exact List.Lex.nil
  | cons _ ih =>
      rw [List.flatMap_cons, List.flatMap_cons]
      exact List.append_left_lt ih
  | rel hlt =>
      rw [List.flatMap_cons, List.flatMap_cons]
      exact utf8EncodeChar_append_lt hlt _ _

theorem encode_lt_encode {first second : String} (h : first < second) :
    encode first < encode second := by
  rw [encode_eq_flatMap, encode_eq_flatMap]
  exact flatMap_utf8EncodeChar_lt (String.lt_iff_toList_lt.mp h)

/-- Texts are in the order of their bytes. -/
theorem encode_lt_encode_iff {first second : String} :
    encode first < encode second ↔ first < second := by
  have hmono : StrictMono fun text : String => (encode text).map UInt8.toNat := by
    intro text other hlt
    exact map_toNat_lt_iff.mpr (encode_lt_encode hlt)
  rw [← map_toNat_lt_iff]
  exact hmono.lt_iff_lt

end ServiceHealth.Text.Utf8
