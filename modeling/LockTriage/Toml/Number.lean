import LockTriage.Json.Number
import LockTriage.Toml.Text
import LockTriage.Toml.Value

/-!
TOML numbers, dates and times. Underscores may stand between two digits, whole
numbers have to fit in 64 bits, and dates have to exist.
-/

namespace LockTriage.Toml

/-- Digits after a first one. An underscore has to be followed by a digit. -/
def moreDigits (isDigit : Char → Bool) : Reader (List Char)
  | [] => some ([], [])
  | '_' :: c :: rest => if isDigit c then prepend c (moreDigits isDigit rest) else none
  | '_' :: [] => none
  | c :: rest =>
      if isDigit c then prepend c (moreDigits isDigit rest) else some ([], c :: rest)

/-- One or more digits. -/
def digits (isDigit : Char → Bool) : Reader (List Char)
  | c :: rest => if isDigit c then prepend c (moreDigits isDigit rest) else none
  | [] => none

def digitValue (c : Char) : Nat := (Bytes.hexValue? c).getD 0

def valueOf (base : Nat) (ds : List Char) : Nat :=
  ds.foldl (fun n d => base * n + digitValue d) 0

/-- A sign: whether it is negative. -/
def sign : List Char → Bool × List Char
  | '-' :: rest => (true, rest)
  | '+' :: rest => (false, rest)
  | rest => (false, rest)

/-- Decimal digits without a needless zero in front. -/
def wholeDigits : Reader (List Char)
  | '0' :: rest => some (['0'], rest)
  | cs => digits Char.isDigit cs

/-- A whole number that fits in 64 bits. -/
def fitting? (value : Int) : Option Int :=
  if -9223372036854775808 ≤ value ∧ value ≤ 9223372036854775807 then some value else none

def based (base : Nat) (isDigit : Char → Bool) : Reader Value := fun cs => do
  let (ds, rest) ← digits isDigit cs
  let value ← fitting? (valueOf base ds)
  some (.integer value, rest)

def integer : Reader Value
  | '0' :: 'x' :: rest => based 16 (fun c => (Bytes.hexValue? c).isSome) rest
  | '0' :: 'o' :: rest => based 8 (fun c => '0' ≤ c && c ≤ '7') rest
  | '0' :: 'b' :: rest => based 2 (fun c => c = '0' || c = '1') rest
  | cs => do
      let (negative, unsigned) := sign cs
      let (ds, rest) ← wholeDigits unsigned
      let n : Int := valueOf 10 ds
      let value ← fitting? (if negative then -n else n)
      some (.integer value, rest)

/-- The exponent of a float, or none if no letter for one stands here. -/
def exponent : Reader (Option Int)
  | c :: rest =>
      if c = 'e' || c = 'E' then
        let (negative, unsigned) := sign rest
        (digits Char.isDigit unsigned).map fun (ds, rest) =>
          let n : Int := valueOf 10 ds
          (some (if negative then -n else n), rest)
      else some (none, c :: rest)
  | [] => some (none, [])

/-- A float with a point or an exponent. One that rounds to positive infinity is
refused. -/
def decimalFloat : Reader Value := fun cs => do
  let (negative, unsigned) := sign cs
  let (whole, afterWhole) ← wholeDigits unsigned
  let (fraction, afterFraction) ←
    match afterWhole with
    | '.' :: rest => digits Char.isDigit rest
    | rest => some ([], rest)
  let (e, rest) ← exponent afterFraction
  if fraction.isEmpty && e.isNone then none
  else
    let power := e.getD 0 - fraction.length
    if !negative && (JsonNumber.ofDecimal? false (valueOf 10 (whole ++ fraction)) power).isNone then
      none
    else some (.float (String.ofList (cs.take (cs.length - rest.length))), rest)

/-- Infinity and the value that is no number. -/
def specialFloat : Reader Value := fun cs =>
  match sign cs with
  | (_, 'i' :: 'n' :: 'f' :: rest) => some (.float "inf", rest)
  | (_, 'n' :: 'a' :: 'n' :: rest) => some (.float "nan", rest)
  | _ => none

/-- A number of exactly `count` digits between two bounds. -/
def fixedDigits (count low high : Nat) : Reader Nat := fun cs =>
  let ds := cs.take count
  let n := valueOf 10 ds
  if ds.length = count && ds.all Char.isDigit && low ≤ n && n ≤ high then some (n, cs.drop count)
  else none

/-- A fixed character. -/
def exactly (c : Char) : List Char → Option (List Char)
  | d :: rest => if c = d then some rest else none
  | [] => none

def daysOf (year month : Nat) : Nat :=
  if month = 2 then
    if year % 4 = 0 && (year % 100 ≠ 0 || year % 400 = 0) then 29 else 28
  else if month = 4 || month = 6 || month = 9 || month = 11 then 30
  else 31

def skipDate? (cs : List Char) : Option (List Char) := do
  let (year, cs) ← fixedDigits 4 0 9999 cs
  let cs ← exactly '-' cs
  let (month, cs) ← fixedDigits 2 1 12 cs
  let cs ← exactly '-' cs
  let (_, cs) ← fixedDigits 2 1 (daysOf year month) cs
  some cs

/-- Drop a time of day, with a fraction of a second if one follows. -/
def skipTime? (cs : List Char) : Option (List Char) := do
  let (_, cs) ← fixedDigits 2 0 23 cs
  let cs ← exactly ':' cs
  let (_, cs) ← fixedDigits 2 0 59 cs
  let cs ← exactly ':' cs
  let (_, cs) ← fixedDigits 2 0 60 cs
  match cs with
  | '.' :: rest =>
      match rest.takeWhile Char.isDigit with
      | [] => some cs
      | _ => some (rest.dropWhile Char.isDigit)
  | _ => some cs

/-- Drop the offset of a time, if there is one. -/
def skipOffset? : List Char → Option (List Char)
  | c :: rest =>
      if c = 'Z' || c = 'z' then some rest
      else if c = '+' || c = '-' then do
        let (_, cs) ← fixedDigits 2 0 23 rest
        let cs ← exactly ':' cs
        let (_, cs) ← fixedDigits 2 0 59 cs
        some cs
      else some (c :: rest)
  | [] => some []

/-- Drop the time that follows a date, with its offset, if there is one. -/
def skipTimeOfDate? (cs : List Char) : Option (List Char) :=
  match cs with
  | c :: rest =>
      if c = 'T' || c = 't' || c = ' ' then
        match skipTime? rest with
        | some after => skipOffset? after
        | none => some cs
      else some cs
  | [] => some []

/-- A date, a time of day, or both. -/
def dateTime : Reader Value := fun cs => do
  let rest ←
    match skipDate? cs with
    | some after => skipTimeOfDate? after
    | none => skipTime? cs
  some (.dateTime (String.ofList (cs.take (cs.length - rest.length))), rest)

/-- A number, a date or a time. -/
def numeral : Reader Value := fun cs =>
  (dateTime cs).orElse fun _ =>
    (decimalFloat cs).orElse fun _ => (specialFloat cs).orElse fun _ => integer cs

end LockTriage.Toml
