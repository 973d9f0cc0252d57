import LockTriage.Text.Bytes

/-!
Percent encoding of text in web addresses, and the encoding of form fields.
-/

namespace LockTriage.Percent

/-- An upper-case hexadecimal digit. -/
def hexDigit (n : Nat) : Char := (Bytes.hexDigit n).toUpper

/-- A byte as a percent sign and two digits. -/
def escape (b : UInt8) : List Char := ['%', hexDigit (b.toNat / 16), hexDigit (b.toNat % 16)]

/-- The characters of a text, with each one that is not kept written byte by byte. -/
def encode (keep : Char → Bool) (cs : List Char) : List Char :=
  cs.flatMap fun c =>
    if keep c then [c] else (Bytes.ofText (String.singleton c)).flatMap escape

/-- The bytes of a text in which a percent sign and two digits stand for a byte. -/
def decode : List Char → Bytes
  | [] => []
  | '%' :: a :: b :: rest =>
      match Bytes.hexValue? a, Bytes.hexValue? b with
      | some high, some low => UInt8.ofNat (16 * high + low) :: decode rest
      | _, _ => 0x25 :: decode (a :: b :: rest)
  | c :: rest => Bytes.ofText (String.singleton c) ++ decode rest

/-- A printable ASCII character. -/
def isVisible (c : Char) : Bool := 0x20 < c.toNat && c.toNat < 0x7F

/-- A character that stays as it is in a path. -/
def keptInPath (c : Char) : Bool := isVisible c && !"\"#<>?`\x7b\x7d".toList.contains c

/-- A character that stays as it is in a query. -/
def keptInQuery (c : Char) : Bool := isVisible c && !"\"#<>'".toList.contains c

/-- A character that stays as it is after a number sign. -/
def keptInFragment (c : Char) : Bool := isVisible c && !"\"<>`".toList.contains c

/-- A character that stays as it is in a form field. -/
def keptInForm (c : Char) : Bool := c.isAlphanum || "*-._".toList.contains c

/-- A form field. A space becomes a plus sign. -/
def formField (s : String) : List Char :=
  s.toList.flatMap fun c => if c = ' ' then ['+'] else encode keptInForm [c]

/-- Form fields with their names, joined as in a query. -/
def form (fields : List (String × String)) : List Char :=
  ['&'].intercalate (fields.map fun (name, value) => formField name ++ '=' :: formField value)

end LockTriage.Percent
