import LockTriage.Domain.NormalTable
import LockTriage.Text.CodeSet

/-!
The composed form of text: every letter with its marks is one character where
there is such a character, and the marks on a letter stand in a fixed order. Text
that is shown alike then is alike.
-/

namespace LockTriage.Domain.Normal

/-- Where the characters of a span go among marks. -/
structure MarkClass where
  span : CodeSpan
  value : Nat
  deriving DecidableEq, Repr

/-- Two characters, and the one that they are the same as. -/
structure Composition where
  first : Char
  second : Char
  whole : Char
  deriving DecidableEq, Repr

/-- The classes that the table gives to marks. -/
def classes : List MarkClass :=
  (Table.classes.flatMap (Text.splitAt ' ')).filterMap fun t => do
    let (span, value) ← Text.cutFirst? ':' t.toList
    some ⟨← CodeSpan.parse? '-' span, ← Text.number? 16 value⟩

def compositions : List Composition :=
  (Table.compositions.flatMap (Text.splitAt ' ')).filterMap fun t => do
    let (parts, whole) ← Text.cutFirst? ':' t.toList
    let (first, second) ← Text.cutFirst? '.' parts
    some ⟨Char.ofNat (← Text.number? 16 first), Char.ofNat (← Text.number? 16 second),
      Char.ofNat (← Text.number? 16 whole)⟩

/-- The class of a character; zero if it does not move among marks. -/
def classOf (c : Char) : Nat :=
  match classes.find? fun k => k.span.contains c with
  | some k => k.value
  | none => 0

/-! ## Hangul syllables

A syllable is made of a leading consonant, a vowel and perhaps a trailing
consonant, and its code point is computed from theirs. -/

/-- The first syllable. -/
def firstSyllable : Nat := 0xAC00

/-- The first leading consonant. -/
def firstLeading : Nat := 0x1100

/-- The first vowel. -/
def firstVowel : Nat := 0x1161

/-- The code point before the first trailing consonant, which stands for none. -/
def noTrailing : Nat := 0x11A7

/-- How many leading consonants there are. -/
def leadingCount : Nat := 19

/-- How many vowels there are. -/
def vowelCount : Nat := 21

/-- How many trailing consonants there are, the absent one among them. -/
def trailingCount : Nat := 28

/-- A syllable without a trailing consonant. -/
def isOpenSyllable (n : Nat) : Bool :=
  firstSyllable ≤ n && n < firstSyllable + leadingCount * vowelCount * trailingCount &&
    (n - firstSyllable) % trailingCount = 0

/-- The syllable that two characters form. -/
def syllable? (first second : Char) : Option Char :=
  let a := first.toNat
  let b := second.toNat
  if firstLeading ≤ a && a < firstLeading + leadingCount && firstVowel ≤ b &&
      b < firstVowel + vowelCount then
    some (Char.ofNat (firstSyllable +
      ((a - firstLeading) * vowelCount + (b - firstVowel)) * trailingCount))
  else if isOpenSyllable a && noTrailing < b && b < noTrailing + trailingCount then
    some (Char.ofNat (a + (b - noTrailing)))
  else none

def syllableParts? (c : Char) : Option (List Char) :=
  let n := c.toNat
  if firstSyllable ≤ n && n < firstSyllable + leadingCount * vowelCount * trailingCount then
    let i := n - firstSyllable
    let leading := Char.ofNat (firstLeading + i / (vowelCount * trailingCount))
    let vowel := Char.ofNat (firstVowel + i % (vowelCount * trailingCount) / trailingCount)
    let trailing := i % trailingCount
    some ([leading, vowel] ++
      if trailing = 0 then [] else [Char.ofNat (noTrailing + trailing)])
  else none

/-! ## Taking apart and composing -/

/-- The parts of a character, which are taken apart in turn as often as the depth
says. -/
def parts : Nat → Char → List Char
  | 0, c => [c]
  | depth + 1, c =>
      match syllableParts? c with
      | some found => found
      | none =>
          match compositions.find? fun k => k.whole = c with
          | some k => parts depth k.first ++ [k.second]
          | none => [c]

/-- No character is a composition of a composition of a composition of a
composition. -/
def depth : Nat := 3

/-- Put a mark behind those that precede it in the fixed order. The marks before
it stand last first. -/
def insertMark (c : Char) : List Char → List Char
  | [] => [c]
  | d :: before =>
      if classOf c ≠ 0 && classOf c < classOf d then d :: insertMark c before
      else c :: d :: before

/-- Bring the marks on each letter into the fixed order. -/
def ordered (cs : List Char) : List Char :=
  (cs.foldl (fun before c => insertMark c before) []).reverse

/-- The character that two characters are the same as. -/
def whole? (first second : Char) : Option Char :=
  match syllable? first second with
  | some c => some c
  | none =>
      (compositions.find? fun k => k.first = first && k.second = second).map Composition.whole

/-- Compose a letter with what follows it. The marks that stay apart are held
back, last first, and a mark joins the letter unless one of them is in its way. -/
def composeFrom (letter : Char) (held : List Char) : List Char → List Char
  | [] => letter :: held.reverse
  | c :: rest =>
      let free := held.all fun d => classOf d < classOf c
      match if free then whole? letter c else none with
      | some whole => composeFrom whole held rest
      | none =>
          if classOf c = 0 then letter :: held.reverse ++ composeFrom c [] rest
          else composeFrom letter (c :: held) rest

/-- Compose ordered text. Marks before the first letter stay as they are. -/
def composed : List Char → List Char
  | [] => []
  | c :: rest => if classOf c = 0 then composeFrom c [] rest else c :: composed rest

def form (cs : List Char) : List Char := composed (ordered (cs.flatMap (parts depth)))

end LockTriage.Domain.Normal
