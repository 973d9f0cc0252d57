import LockTriage.Domain.JoiningTable
import LockTriage.Domain.Normal

/-!
Marks and joiners in labels. A mark needs something to stand on. The two joiners
are invisible, and a label may only hold them where they change how their
neighbours are written.
-/

namespace LockTriage.Domain

/-- The joiner that binds letters. -/
def joiner : Char := Char.ofNat 0x200D

/-- The joiner that keeps letters apart. -/
def nonJoiner : Char := Char.ofNat 0x200C

/-- The letters that join the letter after them. -/
def joinsNextSet : CodeSet := CodeSet.ofLines Table.joinsNext

/-- The letters that join the letter before them. -/
def joinsPreviousSet : CodeSet := CodeSet.ofLines Table.joinsPrevious

/-- The characters that letters join across. -/
def transparentSet : CodeSet := CodeSet.ofLines Table.transparent

/-- The marks. -/
def markSet : CodeSet := CodeSet.ofLines Table.marks

/-- The first character that letters do not join across is one of a set. -/
def meets (set : CodeSet) (cs : List Char) : Bool :=
  match cs.dropWhile transparentSet.contains with
  | c :: _ => set.contains c
  | [] => false

/-- The class of the marks that take away the vowel of a letter. -/
def viramaClass : Nat := 9

/-- A joiner may stand between these neighbours. The ones before it stand last
first. -/
def joinerMayStand (c : Char) (before after : List Char) : Bool :=
  (before.head?.any fun d => Normal.classOf d = viramaClass) ||
    (c = nonJoiner && meets joinsNextSet before && meets joinsPreviousSet after)

/-- Every joiner is where it may stand. The characters before stand last first. -/
def joinersFit (before : List Char) : List Char → Bool
  | [] => true
  | c :: after =>
      (if c = joiner || c = nonJoiner then joinerMayStand c before after else true) &&
        joinersFit (c :: before) after

/-- A label starts with a mark. -/
def startsWithMark : List Char → Bool
  | [] => false
  | c :: _ => markSet.contains c

end LockTriage.Domain
