import ServiceHealth.Text.Hexadecimal
import ServiceHealth.Text.Utf8

/-!
# Percent-encoding

In a part of a URL some characters stand for themselves, and the others are
written as their UTF-8 bytes, each as a percent sign and two hexadecimal digits.
-/

namespace ServiceHealth.Http.Percent

/-- A byte as a percent sign and two upper-case hexadecimal digits. -/
def ofByte (byte : UInt8) : List Char :=
  ['%', (Nat.digitChar (byte.toNat / 16)).toUpper, (Nat.digitChar (byte.toNat % 16)).toUpper]

/-- Encodes the characters beyond printable ASCII and the listed ones. -/
def encode (listed : List Char) (cs : List Char) : List Char :=
  cs.flatMap fun c =>
    if c.toNat < 32 || 126 < c.toNat || listed.contains c then
      (Text.Utf8.encode (String.singleton c)).flatMap ofByte
    else [c]

/-- Replaces every percent sign before two hexadecimal digits by the byte that they write. -/
def decodeBytes : List UInt8 → List UInt8
  | [] => []
  | percent :: high :: low :: rest =>
    match Text.hexDigit? (Char.ofNat high.toNat), Text.hexDigit? (Char.ofNat low.toNat) with
    | some h, some l =>
      if percent == 0x25 then UInt8.ofNat (h * 16 + l) :: decodeBytes rest
      else percent :: decodeBytes (high :: low :: rest)
    | _, _ => percent :: decodeBytes (high :: low :: rest)
  | byte :: rest => byte :: decodeBytes rest

/-- The bytes that an encoded text stands for. -/
def decode (cs : List Char) : List UInt8 :=
  decodeBytes (Text.Utf8.encode (String.ofList cs))

end ServiceHealth.Http.Percent
