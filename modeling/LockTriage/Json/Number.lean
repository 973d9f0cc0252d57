import LockTriage.Json.Value

/-!
The text of JSON numbers: which whole numbers fit, when a decimal is too large,
and how either is written.
-/

namespace LockTriage.JsonNumber

def leastWhole : Int := -9223372036854775808

/-- The greatest whole number that is kept exactly. -/
def greatestWhole : Int := 18446744073709551615

/-- Move trailing zeros of the digits into the exponent. -/
def dropZeros (exponent : Int) (digits : Nat) : Nat × Int :=
  if h : digits ≠ 0 ∧ digits % 10 = 0 then dropZeros (exponent + 1) (digits / 10)
  else (digits, exponent)
termination_by digits
decreasing_by exact Nat.div_lt_self (Nat.pos_of_ne_zero h.1) (by decide)

/-- Numbers from here on round to infinity in double precision: half a unit
above the greatest finite one. -/
def overflow : Nat := Nat.pow 2 1024 - Nat.pow 2 970

/-- A decimal with trailing zeros removed. Numbers that round to infinity in
double precision are refused, and those that round to zero are zero. -/
def ofDecimal? (negative : Bool) (digits : Nat) (exponent : Int) : Option JsonNumber :=
  let (d, e) := dropZeros exponent digits
  let zero := JsonNumber.decimal ⟨negative, 0, 0⟩
  let point := (Nat.toDigits 10 d).length + e
  if d = 0 || point < -330 then some zero
  else if 310 < point then none
  else if 0 ≤ e then
    if overflow ≤ d * Nat.pow 10 e.toNat then none else some (.decimal ⟨negative, d, e⟩)
  else if overflow * Nat.pow 10 (-e).toNat ≤ d then none
  else if d * Nat.pow 2 1075 ≤ Nat.pow 10 (-e).toNat then some zero
  else some (.decimal ⟨negative, d, e⟩)

/-- A whole number as it is written: the sign, then the digits. A negative zero
and a number beyond 64 bits are decimals. -/
def ofWhole? (negative : Bool) (digits : Nat) : Option JsonNumber :=
  let value : Int := if negative then -(digits : Int) else digits
  if (negative && digits == 0) || value < leastWhole || greatestWhole < value then
    ofDecimal? negative digits 0
  else some (.whole value)

/-- The digits of a decimal with the point in its place, or with an exponent
when it is very large or very small. -/
def decimalText (d : Decimal) : List Char :=
  let ds := Nat.toDigits 10 d.digits
  let point : Int := ds.length + d.exponent
  let body :=
    if d.digits = 0 then "0.0".toList
    else if 0 < point ∧ point ≤ 16 then
      let whole := (ds ++ List.replicate 16 '0').take point.toNat
      let fraction := ds.drop point.toNat
      whole ++ ['.'] ++ if fraction.isEmpty then ['0'] else fraction
    else if -5 < point ∧ point ≤ 0 then
      "0.".toList ++ List.replicate (-point).toNat '0' ++ ds
    else
      let tail := ds.drop 1
      ds.take 1 ++ (if tail.isEmpty then [] else '.' :: tail) ++ ['e'] ++
        (toString (point - 1)).toList
  if d.negative then '-' :: body else body

def text : JsonNumber → List Char
  | .whole value => (toString value).toList
  | .decimal d => decimalText d

end LockTriage.JsonNumber
