import Mathlib.Data.List.Basic
import ServiceHealth.Text.Utf8

/-!
# Texts and their bytes

A character has one to four bytes, which `bytesOf` lists by its number, and the bytes of
a text are those of its characters.  Strict reading is the inverse of this:
`decode?_eq_some_iff` states that bytes are read as a text exactly if they are the bytes
of this text, so that bytes that no text has are refused.
-/

namespace ServiceHealth.Text.Utf8

/-! ## The bytes of a character -/

/-- The bytes of the character with this number. -/
def bytesOf (n : Nat) : List Nat :=
  if n < 0x80 then [n]
  else if n < 0x800 then [0xC0 + n / 64, 0x80 + n % 64]
  else if n < 0x10000 then [0xE0 + n / 4096, 0x80 + n / 64 % 64, 0x80 + n % 64]
  else [0xF0 + n / 262144, 0x80 + n / 4096 % 64, 0x80 + n / 64 % 64, 0x80 + n % 64]

theorem toNat_ofNat_of_isValidChar {n : Nat} (h : n.isValidChar) : (Char.ofNat n).toNat = n := by
  rw [Char.ofNat, dif_pos h]
  rfl

theorem isValidChar_toNat (c : Char) : c.toNat.isValidChar :=
  c.valid

theorem eq_ofNat_of_toNat_eq {c : Char} {n : Nat} (h : c.toNat = n) : c = Char.ofNat n := by
  rw [← h, Char.ofNat_toNat]

theorem eq_ofNat_iff {c : Char} {n : Nat} (h : n.isValidChar) :
    c = Char.ofNat n ↔ c.toNat = n := by
  constructor
  · rintro rfl
    exact toNat_ofNat_of_isValidChar h
  · exact eq_ofNat_of_toNat_eq

theorem map_toNat_utf8EncodeChar (c : Char) :
    (String.utf8EncodeChar c).map UInt8.toNat = bytesOf c.toNat := by
  have hvalid : c.toNat < 0x110000 := by
    rcases isValidChar_toNat c with h | h <;> omega
  have hval : c.val.toNat = c.toNat := rfl
  unfold String.utf8EncodeChar bytesOf
  rw [hval]
  dsimp only
  split_ifs <;> simp <;> omega

/-! ## Reading one character -/

variable {bytes after : List UInt8} {byte : UInt8} {rest : List UInt8} {c : Char}

theorem complete_zero_iff {low high bits : Nat} :
    complete 0 low high bits bytes = (.char c, after) ↔ bytes = after ∧ c = Char.ofNat bits := by
  rw [complete, Prod.mk.injEq, Piece.char.injEq, and_comm, eq_comm (a := c)]

theorem complete_succ_iff {following low high bits : Nat} :
    complete (following + 1) low high bits bytes = (.char c, after) ↔
      ∃ byte rest, bytes = byte :: rest ∧ low ≤ byte.toNat ∧ byte.toNat ≤ high ∧
        complete following 0x80 0xBF (bits * 64 + (byte.toNat - 0x80)) rest = (.char c, after) := by
  cases bytes with
  | nil => simp [complete]
  | cons byte rest =>
      rw [complete]
      by_cases hbyte : low ≤ byte.toNat ∧ byte.toNat ≤ high
      · rw [if_pos hbyte]
        constructor
        · intro h
          exact ⟨byte, rest, rfl, hbyte.1, hbyte.2, h⟩
        · rintro ⟨_, _, hcons, -, -, h⟩
          obtain ⟨rfl, rfl⟩ := List.cons_eq_cons.mp hcons
          exact h
      · rw [if_neg hbyte]
        constructor
        · intro h
          cases h
        · rintro ⟨_, _, hcons, hlow, hhigh, -⟩
          obtain ⟨rfl, rfl⟩ := List.cons_eq_cons.mp hcons
          exact absurd ⟨hlow, hhigh⟩ hbyte

theorem lead?_eq_some_iff {byte : Nat} {lead : Lead} :
    lead? byte = some lead ↔
      (0xC2 ≤ byte ∧ byte < 0xE0 ∧ lead = ⟨1, 0x80, 0xBF, byte - 0xC0⟩) ∨
      (0xE0 ≤ byte ∧ byte < 0xF0 ∧
        lead = ⟨2, if byte = 0xE0 then 0xA0 else 0x80, if byte = 0xED then 0x9F else 0xBF,
          byte - 0xE0⟩) ∨
      (0xF0 ≤ byte ∧ byte < 0xF5 ∧
        lead = ⟨3, if byte = 0xF0 then 0x90 else 0x80, if byte = 0xF4 then 0x8F else 0xBF,
          byte - 0xF0⟩) := by
  unfold lead?
  split_ifs <;> grind

theorem bytesOf_one {n : Nat} (h : n < 0x80) : bytesOf n = [n] :=
  if_pos h

theorem bytesOf_two {n : Nat} (hlow : 0x80 ≤ n) (hhigh : n < 0x800) :
    bytesOf n = [0xC0 + n / 64, 0x80 + n % 64] := by
  rw [bytesOf, if_neg (by omega), if_pos hhigh]

theorem bytesOf_three {n : Nat} (hlow : 0x800 ≤ n) (hhigh : n < 0x10000) :
    bytesOf n = [0xE0 + n / 4096, 0x80 + n / 64 % 64, 0x80 + n % 64] := by
  rw [bytesOf, if_neg (by omega), if_neg (by omega), if_pos hhigh]

theorem bytesOf_four {n : Nat} (hlow : 0x10000 ≤ n) :
    bytesOf n = [0xF0 + n / 262144, 0x80 + n / 4096 % 64, 0x80 + n / 64 % 64, 0x80 + n % 64] := by
  rw [bytesOf, if_neg (by omega), if_neg (by omega), if_neg (by omega)]

/-- These bytes begin with those of this character. -/
def BeginsWith (bytes : List UInt8) (c : Char) (after : List UInt8) : Prop :=
  ∃ own, bytes = own ++ after ∧ own.map UInt8.toNat = bytesOf c.toNat

theorem beginsWith_of_one (hbyte : byte.toNat < 0x80) (hc : c.toNat = byte.toNat) :
    BeginsWith (byte :: after) c after := by
  refine ⟨[byte], rfl, ?_⟩
  rw [hc, bytesOf_one hbyte]
  rfl

theorem beginsWith_of_two (hlow : 0xC2 ≤ byte.toNat) (hhigh : byte.toNat < 0xE0)
    (h : complete 1 0x80 0xBF (byte.toNat - 0xC0) rest = (.char c, after)) :
    BeginsWith (byte :: rest) c after := by
  simp only [complete_succ_iff, complete_zero_iff] at h
  obtain ⟨second, _, rfl, hsecond, hsecond', rfl, hc⟩ := h
  rw [eq_ofNat_iff (Or.inl (by omega))] at hc
  refine ⟨[byte, second], rfl, ?_⟩
  rw [bytesOf_two (by omega) (by omega), hc]
  simp only [List.map_cons, List.map_nil, List.cons.injEq, and_true]
  omega

theorem beginsWith_of_three (hlow : 0xE0 ≤ byte.toNat) (hhigh : byte.toNat < 0xF0)
    (h : complete 2 (if byte.toNat = 0xE0 then 0xA0 else 0x80)
      (if byte.toNat = 0xED then 0x9F else 0xBF) (byte.toNat - 0xE0) rest = (.char c, after)) :
    BeginsWith (byte :: rest) c after := by
  simp only [complete_succ_iff, complete_zero_iff] at h
  obtain ⟨second, _, rfl, hsecond, hsecond', third, _, rfl, hthird, hthird', rfl, hc⟩ := h
  have hbounds : 0x80 ≤ second.toNat ∧ second.toNat ≤ 0xBF ∧
      (byte.toNat = 0xE0 → 0xA0 ≤ second.toNat) ∧ (byte.toNat = 0xED → second.toNat ≤ 0x9F) := by
    split_ifs at hsecond hsecond' <;> omega
  rw [eq_ofNat_iff (by unfold Nat.isValidChar; omega)] at hc
  refine ⟨[byte, second, third], rfl, ?_⟩
  rw [bytesOf_three (by omega) (by omega), hc]
  simp only [List.map_cons, List.map_nil, List.cons.injEq, and_true]
  omega

theorem beginsWith_of_four (hlow : 0xF0 ≤ byte.toNat) (hhigh : byte.toNat < 0xF5)
    (h : complete 3 (if byte.toNat = 0xF0 then 0x90 else 0x80)
      (if byte.toNat = 0xF4 then 0x8F else 0xBF) (byte.toNat - 0xF0) rest = (.char c, after)) :
    BeginsWith (byte :: rest) c after := by
  simp only [complete_succ_iff, complete_zero_iff] at h
  obtain ⟨second, _, rfl, hsecond, hsecond', third, _, rfl, hthird, hthird', fourth, _, rfl,
    hfourth, hfourth', rfl, hc⟩ := h
  have hbounds : 0x80 ≤ second.toNat ∧ second.toNat ≤ 0xBF ∧
      (byte.toNat = 0xF0 → 0x90 ≤ second.toNat) ∧ (byte.toNat = 0xF4 → second.toNat ≤ 0x8F) := by
    split_ifs at hsecond hsecond' <;> omega
  rw [eq_ofNat_iff (by unfold Nat.isValidChar; omega)] at hc
  refine ⟨[byte, second, third, fourth], rfl, ?_⟩
  rw [bytesOf_four (by omega), hc]
  simp only [List.map_cons, List.map_nil, List.cons.injEq, and_true]
  omega

/-- A piece that is a character has the bytes of this character. -/
theorem beginsWith_of_piece (h : piece byte rest = (.char c, after)) :
    BeginsWith (byte :: rest) c after := by
  unfold piece at h
  split at h
  · rename_i hbyte
    obtain ⟨hchar, rfl⟩ := Prod.mk.inj h
    injection hchar with hchar
    exact beginsWith_of_one hbyte ((eq_ofNat_iff (Or.inl (by omega))).mp hchar.symm)
  · split at h
    · cases h
    · rename_i lead hlead
      rcases lead?_eq_some_iff.mp hlead with
        ⟨hlow, hhigh, rfl⟩ | ⟨hlow, hhigh, rfl⟩ | ⟨hlow, hhigh, rfl⟩
      · exact beginsWith_of_two hlow hhigh h
      · exact beginsWith_of_three hlow hhigh h
      · exact beginsWith_of_four hlow hhigh h

theorem piece_of_lead {lead : Lead} (h : lead? byte.toNat = some lead) :
    piece byte rest = complete lead.following lead.low lead.high lead.bits rest := by
  have hlow : ¬ byte.toNat < 0x80 := by
    rcases lead?_eq_some_iff.mp h with ⟨h, -⟩ | ⟨h, -⟩ | ⟨h, -⟩ <;> omega
  rw [piece, if_neg hlow, h]

section Written

variable {own : List UInt8} (h : own.map UInt8.toNat = bytesOf c.toNat)
  (hsplit : byte :: rest = own ++ after)
include h hsplit

theorem piece_of_one (hc : c.toNat < 0x80) : piece byte rest = (.char c, after) := by
  simp only [bytesOf_one hc, List.map_eq_cons_iff, List.map_eq_nil_iff] at h
  obtain ⟨first, _, rfl, hfirst, rfl⟩ := h
  obtain ⟨rfl, rfl⟩ := List.cons_eq_cons.mp hsplit
  rw [piece, if_pos (by omega), hfirst, Char.ofNat_toNat]

theorem piece_of_two (hlow : 0x80 ≤ c.toNat) (hhigh : c.toNat < 0x800) :
    piece byte rest = (.char c, after) := by
  simp only [bytesOf_two hlow hhigh, List.map_eq_cons_iff, List.map_eq_nil_iff] at h
  obtain ⟨first, _, rfl, hfirst, second, _, rfl, hsecond, rfl⟩ := h
  obtain ⟨rfl, rfl⟩ := List.cons_eq_cons.mp hsplit
  rw [piece_of_lead (lead?_eq_some_iff.mpr (.inl ⟨by omega, by omega, rfl⟩))]
  simp only [complete_succ_iff, complete_zero_iff]
  exact ⟨second, _, rfl, by omega, by omega, rfl, eq_ofNat_of_toNat_eq (by omega)⟩

theorem piece_of_three (hlow : 0x800 ≤ c.toNat) (hhigh : c.toNat < 0x10000) :
    piece byte rest = (.char c, after) := by
  have hvalid := isValidChar_toNat c
  unfold Nat.isValidChar at hvalid
  simp only [bytesOf_three hlow hhigh, List.map_eq_cons_iff, List.map_eq_nil_iff] at h
  obtain ⟨first, _, rfl, hfirst, second, _, rfl, hsecond, third, _, rfl, hthird, rfl⟩ := h
  obtain ⟨rfl, rfl⟩ := List.cons_eq_cons.mp hsplit
  rw [piece_of_lead (lead?_eq_some_iff.mpr (.inr (.inl ⟨by omega, by omega, rfl⟩)))]
  simp only [complete_succ_iff, complete_zero_iff]
  exact ⟨second, _, rfl, by split_ifs <;> omega, by split_ifs <;> omega,
    third, _, rfl, by omega, by omega, rfl, eq_ofNat_of_toNat_eq (by omega)⟩

theorem piece_of_four (hlow : 0x10000 ≤ c.toNat) : piece byte rest = (.char c, after) := by
  have hvalid := isValidChar_toNat c
  unfold Nat.isValidChar at hvalid
  simp only [bytesOf_four hlow, List.map_eq_cons_iff, List.map_eq_nil_iff] at h
  obtain ⟨first, _, rfl, hfirst, second, _, rfl, hsecond, third, _, rfl, hthird, fourth, _, rfl,
    hfourth, rfl⟩ := h
  obtain ⟨rfl, rfl⟩ := List.cons_eq_cons.mp hsplit
  rw [piece_of_lead (lead?_eq_some_iff.mpr (.inr (.inr ⟨by omega, by omega, rfl⟩)))]
  simp only [complete_succ_iff, complete_zero_iff]
  exact ⟨second, _, rfl, by split_ifs <;> omega, by split_ifs <;> omega,
    third, _, rfl, by omega, by omega, fourth, _, rfl, by omega, by omega, rfl,
    eq_ofNat_of_toNat_eq (by omega)⟩

end Written

/-- The bytes of a character are read as this character. -/
theorem piece_of_beginsWith (h : BeginsWith (byte :: rest) c after) :
    piece byte rest = (.char c, after) := by
  obtain ⟨own, hsplit, hown⟩ := h
  rcases Nat.lt_or_ge c.toNat 0x80 with hone | hone
  · exact piece_of_one hown hsplit hone
  rcases Nat.lt_or_ge c.toNat 0x800 with htwo | htwo
  · exact piece_of_two hown hsplit hone htwo
  rcases Nat.lt_or_ge c.toNat 0x10000 with hthree | hthree
  · exact piece_of_three hown hsplit htwo hthree
  · exact piece_of_four hown hsplit hthree

theorem piece_eq_char_iff :
    piece byte rest = (.char c, after) ↔ byte :: rest = String.utf8EncodeChar c ++ after := by
  constructor
  · intro h
    obtain ⟨own, hsplit, hown⟩ := beginsWith_of_piece h
    rw [← map_toNat_utf8EncodeChar] at hown
    rw [hsplit, List.map_injective_iff.mpr (fun _ _ => UInt8.toNat_inj.mp) hown]
  · exact fun hsplit => piece_of_beginsWith ⟨_, hsplit, map_toNat_utf8EncodeChar c⟩

/-! ## Reading a text -/

theorem decodeChars?_cons (byte : UInt8) (rest : List UInt8) :
    decodeChars? (byte :: rest) =
      (piece byte rest).1.char?.bind fun c =>
        (decodeChars? (piece byte rest).2).map fun cs => c :: cs := by
  rw [decodeChars?, pieces, List.mapM_cons, decodeChars?]
  simp only [Option.bind_eq_bind, Option.pure_def, Option.map_eq_bind]
  rfl

theorem char?_eq_some_iff {piece : Piece} : piece.char? = some c ↔ piece = .char c := by
  cases piece <;> simp [Piece.char?]

theorem decodeChars?_eq_some_iff {cs : List Char} :
    decodeChars? bytes = some cs ↔ bytes = cs.flatMap String.utf8EncodeChar := by
  induction cs generalizing bytes with
  | nil =>
      cases bytes with
      | nil => simp [decodeChars?, pieces]
      | cons byte rest => simp [decodeChars?_cons, Option.bind_eq_some_iff]
  | cons c cs ih =>
      rw [List.flatMap_cons]
      cases bytes with
      | nil =>
          simp [decodeChars?, pieces]
      | cons byte rest =>
          rw [← piece_eq_char_iff, decodeChars?_cons, Option.bind_eq_some_iff, Prod.ext_iff,
            ← char?_eq_some_iff, ← ih]
          constructor
          · rintro ⟨first, hfirst, hcs⟩
            obtain ⟨others, hothers, hcons⟩ := Option.map_eq_some_iff.mp hcs
            obtain ⟨rfl, rfl⟩ := List.cons_eq_cons.mp hcons
            exact ⟨hfirst, hothers⟩
          · rintro ⟨hfirst, hcs⟩
            exact ⟨c, hfirst, Option.map_eq_some_iff.mpr ⟨cs, hcs, rfl⟩⟩

theorem toList_loop (array : ByteArray) (i : Nat) (front : List UInt8) :
    ByteArray.toList.loop array i front = front.reverse ++ array.data.toList.drop i := by
  have hlength : array.data.toList.length = array.size := Array.length_toList
  induction i, front using ByteArray.toList.loop.induct array with
  | case1 i front hlt ih =>
      have hi : i < array.data.toList.length := hlength.symm ▸ hlt
      have hget : array.get! i = array.data.toList[i] := by
        rw [ByteArray.get!, getElem!_pos array.data i (by simpa using hi), Array.getElem_toList]
      rw [ByteArray.toList.loop, if_pos hlt, ih, List.reverse_cons, List.append_assoc,
        List.singleton_append, hget, ← List.drop_eq_getElem_cons hi]
  | case2 i front hge =>
      rw [ByteArray.toList.loop, if_neg hge, List.drop_of_length_le (by omega), List.append_nil]

/-- The list of the bytes of an array is its data. -/
theorem toList_eq_data (array : ByteArray) : array.toList = array.data.toList :=
  toList_loop array 0 []

theorem encode_eq_flatMap (text : String) :
    encode text = text.toList.flatMap String.utf8EncodeChar := by
  rw [encode, toList_eq_data, String.toUTF8, ← String.utf8Encode_toList, List.utf8Encode,
    List.data_toByteArray]

/-- Bytes are read as a text exactly if they are its bytes. -/
theorem decode?_eq_some_iff {text : String} : decode? bytes = some text ↔ bytes = encode text := by
  rw [decode?, Option.map_eq_some_iff, encode_eq_flatMap]
  constructor
  · rintro ⟨cs, hcs, rfl⟩
    rw [String.toList_ofList]
    exact decodeChars?_eq_some_iff.mp hcs
  · intro h
    exact ⟨text.toList, decodeChars?_eq_some_iff.mpr h, String.ofList_toList⟩

end ServiceHealth.Text.Utf8
