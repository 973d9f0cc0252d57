/-!
Punycode: text written with the letters, digits and hyphens of ASCII. The ASCII
characters of the text come first, and a hyphen after them. Each other character
is then a number, in the order of code points, that says how far it is from the
one before it, counted over all places of the text. Numbers are written with
thirty-six digits, and which digit ends one depends on how large the last
distances were.
-/

namespace LockTriage.Domain.Punycode

def base : Nat := 36

def digitValue? (c : Char) : Option Nat :=
  if 'a' ≤ c ∧ c ≤ 'z' then some (c.toNat - 97)
  else if 'A' ≤ c ∧ c ≤ 'Z' then some (c.toNat - 65)
  else if '0' ≤ c ∧ c ≤ '9' then some (c.toNat - 22)
  else none

def digit (n : Nat) : Char := if n < 26 then Char.ofNat (97 + n) else Char.ofNat (22 + n)

/-- The least value of a digit that does not end a number. The position counts the
digits before it, each as one base. -/
def threshold (position bias : Nat) : Nat := min 26 (max 1 (position + base - bias))

/-- The steps by which a distance is brought below a bound, each as one base, and
what is left of it. -/
def shrink (steps distance : Nat) : Nat × Nat :=
  if 455 < distance then shrink (steps + base) (distance / 35) else (steps, distance)
termination_by distance
decreasing_by exact Nat.div_lt_self (by omega) (by decide)

/-- What the last distance says about the next one. -/
def adapt (distance characters : Nat) (first : Bool) : Nat :=
  let halved := if first then distance / 700 else distance / 2
  let (steps, left) := shrink 0 (halved + halved / characters)
  steps + base * left / (left + 38)

/-! ## Writing -/

/-- Every number has at least one digit that ends it. -/
theorem threshold_pos (position bias : Nat) : 0 < threshold position bias := by
  unfold threshold
  omega

def number (bias position n : Nat) : List Char :=
  let t := threshold position bias
  if n < t then [digit n]
  else digit (t + (n - t) % (base - t)) :: number bias (position + base) ((n - t) / (base - t))
termination_by n
decreasing_by
  have hPositive := threshold_pos position bias
  have hLe : (n - threshold position bias) / (base - threshold position bias)
      ≤ n - threshold position bias := Nat.div_le_self _ _
  omega

/-- What has been written, the distance since, and how many characters are done. -/
structure Writing where
  digits : List Char
  distance : Nat
  bias : Nat
  done : Nat

/-- Pass a place of the text, where the characters with a code are to be written
and those below it have been. -/
def Writing.pass (w : Writing) (basic code : Nat) (c : Char) : Writing :=
  if c.toNat < code then { w with distance := w.distance + 1 }
  else if c.toNat = code then
    { digits := w.digits ++ number w.bias 0 w.distance
      distance := 0
      bias := adapt w.distance (w.done + 1) (w.done = basic)
      done := w.done + 1 }
  else w

/-- Write the characters with each of some codes, in turn. The first of the codes
not yet passed is given. -/
def Writing.codes (text : List Char) (basic : Nat) (w : Writing) : Nat → List Nat → List Char
  | _, [] => w.digits
  | next, code :: rest =>
      let reached := { w with distance := w.distance + (code - next) * (w.done + 1) }
      let passed := text.foldl (fun w c => w.pass basic code c) reached
      Writing.codes text basic { passed with distance := passed.distance + 1 } (code + 1) rest

/-- Put a code into its place among others, unless it is there. -/
def insertCode (n : Nat) : List Nat → List Nat
  | [] => [n]
  | m :: rest => if n = m then m :: rest else if n < m then n :: m :: rest else m :: insertCode n rest

/-- A character of ASCII. -/
def isBasic (c : Char) : Bool := c.toNat < 0x80

/-- The Punycode form of a text. -/
def encode (text : List Char) : List Char :=
  let basic := text.filter isBasic
  let codes := (text.filter fun c => !isBasic c).foldl (fun codes c => insertCode c.toNat codes) []
  basic ++ (if basic.isEmpty then [] else ['-']) ++
    Writing.codes text basic.length ⟨[], 0, 72, basic.length⟩ 0x80 codes

/-! ## Reading -/

/-- Read a number, which is added to `sum` with the weight of its first digit. What
follows it is returned as well. -/
def readNumber? (bias position weight sum : Nat) : List Char → Option (Nat × List Char)
  | [] => none
  | c :: rest =>
      match digitValue? c with
      | none => none
      | some d =>
          let t := threshold position bias
          if d < t then some (sum + d * weight, rest)
          else readNumber? bias (position + base) (weight * (base - t)) (sum + d * weight) rest

theorem readNumber?_shorter {bias position weight sum n : Nat} {cs rest : List Char}
    (h : readNumber? bias position weight sum cs = some (n, rest)) :
    rest.length < cs.length := by
  induction cs generalizing position weight sum with
  | nil => cases h
  | cons c cs ih =>
      simp only [readNumber?] at h
      split at h
      · cases h
      · split at h
        · simp only [Option.some.injEq, Prod.mk.injEq] at h
          obtain ⟨_, rfl⟩ := h
          exact Nat.lt_succ_self _
        · exact Nat.lt_succ_of_lt (ih h)

/-- A number that is the code point of a character. -/
def isCode (n : Nat) : Bool := n < 0xD800 || (0xDFFF < n && n < 0x110000)

/-- Put the characters that numbers stand for into a text. The code and the place
of the last one are given. -/
def insertAll? (bias code place : Nat) (text : List Char) (cs : List Char) :
    Option (List Char) :=
  match cs with
  | [] => some text
  | c :: more =>
      match _h : readNumber? bias 0 1 place (c :: more) with
      | none => none
      | some (sum, rest) =>
          let characters := text.length + 1
          let code' := code + sum / characters
          let at' := sum % characters
          if isCode code' then
            insertAll? (adapt (sum - place) characters (place = 0)) code' (at' + 1)
              (text.take at' ++ Char.ofNat code' :: text.drop at') rest
          else none
termination_by cs.length
decreasing_by exact readNumber?_shorter ‹_›

/-- The characters before and after the last hyphen. A hyphen that nothing stands
before is no such one. -/
def splitBasic (cs : List Char) : List Char × List Char :=
  let after := (cs.reverse.takeWhile (· ≠ '-')).reverse
  let before := cs.take (cs.length - after.length - 1)
  if before.isEmpty then ([], cs) else (before, after)

/-- The text with a Punycode form, if the text is one. -/
def decode? (cs : List Char) : Option (List Char) :=
  let (basic, numbers) := splitBasic cs
  insertAll? 72 0x80 0 basic numbers

end LockTriage.Domain.Punycode
