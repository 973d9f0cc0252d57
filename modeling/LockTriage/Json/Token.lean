import LockTriage.Json.Number
import LockTriage.Text.Bytes

/-!
The tokens of JSON text. White space between them is dropped. A string is kept
as its characters and escaped code units, because a member that is ignored may
hold units that form no character.
-/

namespace LockTriage.Json

/-- A character of a string, or a code unit written in hexadecimal. -/
inductive StringUnit
  | char (c : Char)
  | unit (code : Nat)
  deriving DecidableEq, Repr

/-- A JSON token. A number out of range is kept as no number. -/
inductive Token
  | openList
  | closeList
  | openObject
  | closeObject
  | comma
  | colon
  | null
  | bool (value : Bool)
  | number (value : Option JsonNumber)
  | string (units : List StringUnit)
  deriving DecidableEq, Repr

/-- The characters of a string. Two units that form a surrogate pair are one
character, and a unit that belongs to no pair makes the string unreadable. -/
def decodeUnits? : List StringUnit → Option (List Char)
  | [] => some []
  | .char c :: rest => (decodeUnits? rest).map (c :: ·)
  | .unit u :: rest =>
      if u < 0xD800 || 0xDFFF < u then (decodeUnits? rest).map (Char.ofNat u :: ·)
      else if 0xDBFF < u then none
      else
        match rest with
        | .unit low :: others =>
            if 0xDC00 ≤ low && low ≤ 0xDFFF then
              let c := Char.ofNat (0x10000 + (u - 0xD800) * 0x400 + (low - 0xDC00))
              (decodeUnits? others).map (c :: ·)
            else none
        | _ => none

/-- The character that a letter stands for after a backslash. -/
def shortEscape? : Char → Option Char
  | '"' => some '"'
  | '\\' => some '\\'
  | '/' => some '/'
  | 'b' => some '\x08'
  | 'f' => some '\x0c'
  | 'n' => some '\n'
  | 'r' => some '\r'
  | 't' => some '\t'
  | _ => none

/-- The number that four hexadecimal digits stand for. -/
def hexUnit? (a b c d : Char) : Option Nat := do
  let a ← Bytes.hexValue? a
  let b ← Bytes.hexValue? b
  let c ← Bytes.hexValue? c
  let d ← Bytes.hexValue? d
  some (((a * 16 + b) * 16 + c) * 16 + d)

/-- The units of a string after its opening quote, and what follows the closing
one. Control characters have to be escaped. -/
def lexString? : List Char → Option (List StringUnit × List Char)
  | [] => none
  | '"' :: rest => some ([], rest)
  | '\\' :: 'u' :: a :: b :: c :: d :: rest =>
      match hexUnit? a b c d, lexString? rest with
      | some u, some (units, tail) => some (.unit u :: units, tail)
      | _, _ => none
  | '\\' :: e :: rest =>
      match shortEscape? e, lexString? rest with
      | some c, some (units, tail) => some (.char c :: units, tail)
      | _, _ => none
  | c :: rest =>
      if c = '\\' || c.toNat < 0x20 then none
      else
        match lexString? rest with
        | some (units, tail) => some (.char c :: units, tail)
        | none => none

/-- The number that decimal digits stand for. -/
def digitsValue (ds : List Char) : Nat :=
  ds.foldl (fun n d => 10 * n + (d.toNat - 48)) 0

def exponentSign : List Char → Bool × List Char
  | '-' :: rest => (true, rest)
  | '+' :: rest => (false, rest)
  | rest => (false, rest)

/-- The exponent of a number, if one is written, and what follows it. A letter
for an exponent has to be followed by one. -/
def lexExponent? : List Char → Option (Option Int × List Char)
  | [] => some (none, [])
  | e :: rest =>
      if e = 'e' || e = 'E' then
        let (negative, body) := exponentSign rest
        match body.takeWhile Char.isDigit with
        | [] => none
        | ds =>
            let n : Int := digitsValue ds
            some (some (if negative then -n else n), body.dropWhile Char.isDigit)
      else some (none, e :: rest)

/-- The whole digits at the start of a number, with no needless zero in front. -/
def wholeDigits : List Char → List Char
  | '0' :: _ => ['0']
  | cs => cs.takeWhile Char.isDigit

/-- The fraction digits that follow the whole digits of a number, none of them
if it has no point, and what follows them. A point has to be followed by one. -/
def lexFraction? : List Char → Option (List Char × List Char)
  | '.' :: rest =>
      match rest.takeWhile Char.isDigit with
      | [] => none
      | ds => some (ds, rest.dropWhile Char.isDigit)
  | rest => some ([], rest)

/-- A number without its sign: whole digits, a fraction, an exponent. -/
def lexMagnitude? (negative : Bool) (cs : List Char) :
    Option (Option JsonNumber × List Char) :=
  match wholeDigits cs with
  | [] => none
  | d :: ds =>
      match lexFraction? (cs.drop (d :: ds).length) with
      | none => none
      | some (fraction, afterFraction) =>
          match lexExponent? afterFraction with
          | none => none
          | some (none, rest) =>
              if fraction.isEmpty then
                some (JsonNumber.ofWhole? negative (digitsValue (d :: ds)), rest)
              else
                some (JsonNumber.ofDecimal? negative (digitsValue (d :: ds ++ fraction))
                  (-fraction.length), rest)
          | some (some e, rest) =>
              some (JsonNumber.ofDecimal? negative (digitsValue (d :: ds ++ fraction))
                (e - fraction.length), rest)

/-- The token at the start of a text that does not start with white space. -/
def leadingToken? : List Char → Option (Token × List Char)
  | [] => none
  | '[' :: rest => some (.openList, rest)
  | ']' :: rest => some (.closeList, rest)
  | '\x7b' :: rest => some (.openObject, rest)
  | '\x7d' :: rest => some (.closeObject, rest)
  | ',' :: rest => some (.comma, rest)
  | ':' :: rest => some (.colon, rest)
  | 'n' :: 'u' :: 'l' :: 'l' :: rest => some (.null, rest)
  | 't' :: 'r' :: 'u' :: 'e' :: rest => some (.bool true, rest)
  | 'f' :: 'a' :: 'l' :: 's' :: 'e' :: rest => some (.bool false, rest)
  | '"' :: rest => (lexString? rest).map fun (units, rest) => (.string units, rest)
  | '-' :: rest => (lexMagnitude? true rest).map fun (n, rest) => (.number n, rest)
  | cs => (lexMagnitude? false cs).map fun (n, rest) => (.number n, rest)

def isSpace (c : Char) : Bool := c = ' ' || c = '\t' || c = '\n' || c = '\r'

/-- A string that is read leaves a shorter text. -/
theorem lexString?_shorter {cs rest : List Char} {units : List StringUnit}
    (h : lexString? cs = some (units, rest)) : rest.length < cs.length := by
  fun_induction lexString? cs generalizing units rest <;> simp_all <;> omega

private theorem dropWhile_length_le (p : Char → Bool) (cs : List Char) :
    (cs.dropWhile p).length ≤ cs.length := (List.dropWhile_sublist p).length_le

private theorem exponentSign_length_le (cs : List Char) :
    (exponentSign cs).2.length ≤ cs.length := by
  unfold exponentSign
  split <;> simp

theorem lexExponent?_length_le {cs rest : List Char} {e : Option Int}
    (h : lexExponent? cs = some (e, rest)) : rest.length ≤ cs.length := by
  cases cs with
  | nil => simp_all [lexExponent?]
  | cons c cs =>
      simp only [lexExponent?] at h
      split at h
      · split at h
        · cases h
        · simp only [Option.some.injEq, Prod.mk.injEq] at h
          obtain ⟨_, rfl⟩ := h
          have hDrop := dropWhile_length_le Char.isDigit (exponentSign cs).2
          have hSign := exponentSign_length_le cs
          simp only [List.length_cons]
          omega
      · simp only [Option.some.injEq, Prod.mk.injEq] at h
        obtain ⟨_, rfl⟩ := h
        exact Nat.le_refl _

theorem lexFraction?_length_le {cs ds rest : List Char}
    (h : lexFraction? cs = some (ds, rest)) : rest.length ≤ cs.length := by
  unfold lexFraction? at h
  split at h
  · rename_i tail
    split at h
    · cases h
    · simp only [Option.some.injEq, Prod.mk.injEq] at h
      obtain ⟨_, rfl⟩ := h
      have hDrop := dropWhile_length_le Char.isDigit tail
      simp only [List.length_cons]
      omega
  · simp_all

/-- A number that is read leaves a shorter text. -/
theorem lexMagnitude?_shorter {negative : Bool} {cs rest : List Char}
    {n : Option JsonNumber} (h : lexMagnitude? negative cs = some (n, rest)) :
    rest.length < cs.length := by
  have hNonempty (d : Char) (ds : List Char) (hWhole : wholeDigits cs = d :: ds) :
      0 < cs.length := by
    cases cs with
    | nil => simp [wholeDigits] at hWhole
    | cons => simp
  unfold lexMagnitude? at h
  split at h
  · cases h
  · rename_i d ds hWhole
    have hPositive := hNonempty d ds hWhole
    split at h
    · cases h
    · rename_i fraction afterFraction hFraction
      have hLe := lexFraction?_length_le hFraction
      simp only [List.length_drop, List.length_cons] at hLe
      split at h
      · cases h
      · rename_i tail hExponent
        have hExp := lexExponent?_length_le hExponent
        split at h <;> simp only [Option.some.injEq, Prod.mk.injEq] at h <;>
          obtain ⟨_, rfl⟩ := h <;> omega
      · rename_i e tail hExponent
        have hExp := lexExponent?_length_le hExponent
        simp only [Option.some.injEq, Prod.mk.injEq] at h
        obtain ⟨_, rfl⟩ := h
        omega

/-- A token that is read leaves a shorter text. -/
theorem leadingToken?_shorter {cs rest : List Char} {token : Token}
    (h : leadingToken? cs = some (token, rest)) : rest.length < cs.length := by
  unfold leadingToken? at h
  split at h
  case h_11 =>
    obtain ⟨⟨units, tail⟩, hString, hPair⟩ := Option.map_eq_some_iff.1 h
    obtain ⟨_, rfl⟩ := Prod.mk.inj hPair
    exact Nat.lt_succ_of_lt (lexString?_shorter hString)
  case h_12 =>
    obtain ⟨⟨n, tail⟩, hNumber, hPair⟩ := Option.map_eq_some_iff.1 h
    obtain ⟨_, rfl⟩ := Prod.mk.inj hPair
    exact Nat.lt_succ_of_lt (lexMagnitude?_shorter hNumber)
  case h_13 =>
    obtain ⟨⟨n, tail⟩, hNumber, hPair⟩ := Option.map_eq_some_iff.1 h
    obtain ⟨_, rfl⟩ := Prod.mk.inj hPair
    exact lexMagnitude?_shorter hNumber
  all_goals grind

/-- The tokens of a text, if all of it is tokens and white space. -/
def tokens? (cs : List Char) : Option (List Token) :=
  match cs with
  | [] => some []
  | c :: rest =>
      if isSpace c then tokens? rest
      else
        match _h : leadingToken? (c :: rest) with
        | none => none
        | some (token, rest) => (tokens? rest).map (token :: ·)
termination_by cs.length
decreasing_by
  · simp
  · exact leadingToken?_shorter ‹_›

end LockTriage.Json
