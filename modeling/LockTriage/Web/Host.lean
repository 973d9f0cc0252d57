import LockTriage.Domain.Name
import LockTriage.Text.Digits
import LockTriage.Web.Percent

/-!
The hosts of web addresses: names, IPv4 addresses with one to four parts, and
IPv6 addresses in brackets. A name in other scripts is taken in its ASCII form.
-/

namespace LockTriage.Host

/-- A part of an IPv4 address: decimal, octal after a zero, or hexadecimal. -/
def part? : List Char → Option Nat
  | [] => none
  | '0' :: 'x' :: digits => Text.number? 16 digits
  | '0' :: 'X' :: digits => Text.number? 16 digits
  | '0' :: digits => Text.number? 8 digits
  | digits => Text.number? 10 digits

/-- The labels of a name. A point at the end is not followed by a label. -/
def labels (name : List Char) : List (List Char) :=
  let found := Text.pieces '.' name
  if found.getLast? = some [] && 1 < found.length then found.dropLast else found

/-- A name whose last label is a number has to be an IPv4 address. -/
def endsInNumber (name : List Char) : Bool :=
  match (labels name).getLast? with
  | none => false
  | some last =>
      (!last.isEmpty && last.all Char.isDigit) ||
        ((Text.startsWith ['0', 'x'] last || Text.startsWith ['0', 'X'] last) &&
          (part? last).isSome)

/-- The number that the parts of an IPv4 address form. The last one of one to four
parts fills the rest. -/
def four? (name : List Char) : Option Nat := do
  let values ← (labels name).mapM part?
  let last ← values.getLast?
  let above := values.dropLast
  let room := Nat.pow 256 (4 - above.length)
  if above.length ≤ 3 && above.all (· < 256) && last < room then
    some (above.foldl (fun n part => 256 * n + part) 0 * room + last)
  else none

/-- An IPv4 address as four decimal parts. -/
def fourText (n : Nat) : String :=
  s!"{n / 16777216}.{n / 65536 % 256}.{n / 256 % 256}.{n % 256}"

/-- Four decimal parts without needless zeros. -/
def isDotted (text : List Char) : Bool :=
  let parts := Text.pieces '.' text
  parts.length = 4 && parts.all fun p =>
    match p with
    | [] => false
    | ['0'] => true
    | '0' :: _ => false
    | digits => (Text.number? 10 digits).any (· < 256)

/-- One to four hexadecimal digits. -/
def isGroup (text : List Char) : Bool :=
  !text.isEmpty && text.length ≤ 4 && text.all fun c => (Bytes.hexValue? c).isSome

/-- The number of groups that a part of an IPv6 address stands for; four decimal
parts at the end count as two groups. -/
def groups? (text : List Char) (mayEndDotted : Bool) : Option Nat :=
  if text.isEmpty then some 0
  else
    let parts := Text.pieces ':' text
    if parts.all isGroup then some parts.length
    else
      match parts.getLast? with
      | some last =>
          if mayEndDotted && parts.dropLast.all isGroup && isDotted last then
            some (parts.length + 1)
          else none
      | none => none

/-- The text before and after the first two colons in a row. -/
def cutGap? : List Char → Option (List Char × List Char)
  | ':' :: ':' :: rest => some ([], rest)
  | c :: rest => (cutGap? rest).map fun (before, after) => (c :: before, after)
  | [] => none

/-- An IPv6 address: eight groups, or fewer around two colons in a row. -/
def isSix (text : List Char) : Bool :=
  match cutGap? text with
  | none => groups? text true == some 8
  | some (before, after) =>
      match groups? before false, groups? after true with
      | some m, some n => m + n < 8
      | _, _ => false

/-- A character that no name may hold. -/
def isForbidden (c : Char) : Bool :=
  c.toNat ≤ 0x20 || c.toNat = 0x7F || "\"#%/:<>?@[\\]^`\x7b|\x7d".toList.contains c

/-- A host, in lower case and in ASCII, if the text is one. -/
def parse? (text : List Char) : Option String :=
  match text with
  | [] => none
  | '[' :: rest =>
      if rest.getLast? = some ']' && isSix rest.dropLast then
        some (String.ofList (text.map Char.toLower))
      else none
  | _ =>
      match (Bytes.text? (Percent.decode text)).bind fun name => Domain.ascii? name.toList with
      | none => none
      | some name =>
          if name.isEmpty || name.any isForbidden then none
          else if endsInNumber name then (four? name).map fourText
          else some (String.ofList name)

end LockTriage.Host
