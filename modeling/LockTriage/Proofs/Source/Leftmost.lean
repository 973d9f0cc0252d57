import LockTriage.Source.Lock
import LockTriage.Proofs.Text.Search

/-!
What it means to search a text from left to right: the next match is the first
one that starts at or behind the end of the last, and nothing is searched twice.
A pattern is the set of the texts that it matches.
-/

namespace LockTriage.Leftmost

open Lock (Occurrence)

/-- The pattern matches some beginning of the text. -/
def StartsMatch (pattern : List Char → Prop) (text : List Char) : Prop :=
  ∃ found, found <+: text ∧ pattern found

/-- The matches that a search reports in a text that starts at a byte offset.
Nothing matches inside the skipped text, not even across its end. -/
inductive Matches (pattern : List Char → Prop) :
    Nat → List Char → List Occurrence → Prop where
  | none {offset : Nat} {text : List Char}
      (hNone : ∀ rest, rest <:+ text → ¬ StartsMatch pattern rest) :
      Matches pattern offset text []
  | next {offset : Nat} {skipped found rest : List Char} {later : List Occurrence}
      (hSkipped : ∀ before after, skipped = before ++ after → after ≠ [] →
        ¬ StartsMatch pattern (after ++ (found ++ rest)))
      (hFound : pattern found)
      (hLater : Matches pattern (offset + Text.byteLength skipped + Text.byteLength found)
        rest later) :
      Matches pattern offset (skipped ++ (found ++ rest))
        (⟨offset + Text.byteLength skipped, found⟩ :: later)

variable {pattern : List Char → Prop}

/-- A character at which nothing matches can be skipped. -/
theorem Matches.skip {offset : Nat} {c : Char} {rest : List Char} {found : List Occurrence}
    (hHere : ¬ StartsMatch pattern (c :: rest))
    (hRest : Matches pattern (offset + c.utf8Size) rest found) :
    Matches pattern offset (c :: rest) found := by
  cases hRest with
  | none hNone =>
      refine .none fun suffix hSuffix => ?_
      rcases List.suffix_cons_iff.mp hSuffix with rfl | hSuffix
      · exact hHere
      · exact hNone suffix hSuffix
  | @next _ skipped found tail later hSkipped hFound hLater =>
      have hOffset : offset + c.utf8Size + Text.byteLength skipped =
          offset + Text.byteLength (c :: skipped) := by
        simp only [Text.byteLength]
        omega
      rw [hOffset] at hLater ⊢
      refine @Matches.next _ offset (c :: skipped) found tail later ?_ hFound hLater
      intro before after hCut hAfter
      cases before with
      | nil =>
          simp only [List.nil_append] at hCut
          subst hCut
          exact hHere
      | cons b before =>
          simp only [List.cons_append, List.cons.injEq] at hCut
          exact hSkipped before after hCut.2 hAfter

/-- The text before the first match is the same in any two searches: a longer
one would have skipped a match. -/
private theorem skipped_begins {skipped found rest skipped' found' rest' : List Char}
    (hSkipped : ∀ before after, skipped = before ++ after → after ≠ [] →
      ¬ StartsMatch pattern (after ++ (found ++ rest)))
    (hFound : pattern found')
    (h : skipped ++ (found ++ rest) = skipped' ++ (found' ++ rest')) : skipped <+: skipped' := by
  rcases List.append_eq_append_iff.mp h with ⟨gap, hGap, _⟩ | ⟨gap, hGap, hTail⟩
  · exact ⟨gap, hGap.symm⟩
  · cases gap with
    | nil => exact ⟨[], by simpa using hGap⟩
    | cons c gap =>
        refine absurd ⟨found', ?_, hFound⟩ (hSkipped skipped' (c :: gap) hGap (by simp))
        exact ⟨rest', hTail⟩

/-- A pattern none of whose matches begins another one finds the same matches in
every search. -/
theorem Matches.unique
    (hCode : ∀ first second, pattern first → pattern second → first <+: second → first = second)
    {offset : Nat} {text : List Char} {found found' : List Occurrence}
    (h : Matches pattern offset text found) (h' : Matches pattern offset text found') :
    found = found' := by
  induction h generalizing found' with
  | @none offset text hNone =>
      generalize hText : text = whole at h'
      cases h' with
      | none => rfl
      | @next _ skipped piece rest later _ hPiece _ =>
          exact absurd ⟨piece, List.prefix_append piece rest, hPiece⟩
            (hNone _ ⟨skipped, hText.symm⟩)
  | @next offset skipped piece rest later hSkipped hPiece hLater ih =>
      generalize hText : skipped ++ (piece ++ rest) = whole at h'
      cases h' with
      | none hNone =>
          exact absurd ⟨piece, List.prefix_append piece rest, hPiece⟩
            (hNone _ ⟨skipped, hText⟩)
      | @next _ skipped' piece' rest' later' hSkipped' hPiece' hLater' =>
          -- Neither search skips a match of the other, so both skip the same text.
          have hSame : skipped = skipped' :=
            (skipped_begins hSkipped hPiece' hText).eq_of_length_le
              (skipped_begins hSkipped' hPiece hText.symm).length_le
          subst hSame
          have hTail := List.append_cancel_left hText
          have hPieces : piece = piece' := by
            rcases List.prefix_or_prefix_of_prefix (List.prefix_append piece rest)
                (hTail ▸ List.prefix_append piece' rest') with hShorter | hLonger
            · exact hCode piece piece' hPiece hPiece' hShorter
            · exact (hCode piece' piece hPiece' hPiece hLonger).symm
          subst hPieces
          have hRest := List.append_cancel_left hTail
          subst hRest
          rw [ih hLater']

end LockTriage.Leftmost
