/-!
Byte strings: the UTF-8 form of text, and hexadecimal digits.
-/

namespace LockTriage

/-- The content of a file, and whatever is hashed or framed. -/
abbrev Bytes := List UInt8

namespace Bytes

def ofText (s : String) : Bytes := s.toByteArray.data.toList

/-- The string with this UTF-8 form, if the bytes are well-formed UTF-8. -/
def text? (b : Bytes) : Option String := String.fromUTF8? ⟨⟨b⟩⟩

/-- Reading back the UTF-8 form of a string gives the string. -/
@[simp] theorem text?_ofText (s : String) : text? (ofText s) = some s := by
  have h : (⟨⟨s.toByteArray.data.toList⟩⟩ : ByteArray) = s.toByteArray := rfl
  simp only [text?, ofText, h, String.fromUTF8?, s.isValidUTF8, dite_true]
  rfl

/-- The lower-case hexadecimal digit of a number below sixteen. -/
def hexDigit (n : Nat) : Char :=
  if n < 10 then Char.ofNat (48 + n) else Char.ofNat (87 + n)

/-- Two lower-case hexadecimal digits a byte. -/
def hex (b : Bytes) : String :=
  String.ofList (b.flatMap fun x => [hexDigit (x.toNat / 16), hexDigit (x.toNat % 16)])

/-- The value of a hexadecimal digit of either case. -/
def hexValue? (c : Char) : Option Nat :=
  if '0' ≤ c ∧ c ≤ '9' then some (c.toNat - 48)
  else if 'a' ≤ c ∧ c ≤ 'f' then some (c.toNat - 87)
  else if 'A' ≤ c ∧ c ≤ 'F' then some (c.toNat - 55)
  else none

/-- The bytes that pairs of hexadecimal digits stand for. -/
def ofHex? : List Char → Option Bytes
  | [] => some []
  | [_] => none
  | hi :: lo :: rest => do
      let h ← hexValue? hi
      let l ← hexValue? lo
      let bytes ← ofHex? rest
      some (UInt8.ofNat (16 * h + l) :: bytes)

end Bytes

end LockTriage
