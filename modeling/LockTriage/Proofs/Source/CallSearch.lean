import LockTriage.Proofs.Source.CallSites
import LockTriage.Proofs.Source.Leftmost
import LockTriage.Proofs.Source.Located
import LockTriage.Proofs.Text.Split

/-!
Call sites against a search for their pattern. A search from left to right goes on behind
the end of each match, and a call never starts inside the match of another one, so nothing is
lost. The last character of a match is the parenthesis from which the argument text is read.
-/

namespace LockTriage.RawCall

open Leftmost (StartsMatch Matches)

/-- The pattern of a call: its name, white space, and an opening parenthesis. -/
def Pattern (text : List Char) : Prop :=
  ∃ blanks, (∀ c ∈ blanks, Text.isBlank c = true) ∧ text = marker.toList ++ (blanks ++ ['('])

/-- The byte offset of the last character of a match. -/
def openerOf (m : Lock.Occurrence) : Nat := m.offset + Text.byteLength m.text - 1

/-- The argument text from a byte offset on: the balanced span there, or else the rest of
the source. -/
def argumentAt (source : List Char) (opener : Nat) : List Char :=
  match Balanced.span '(' ')' source opener with
  | .ok found => found
  | .error _ => (Text.fromByte? opener source).getD []

/-- The site of a match of the pattern. -/
def siteOf (source : List Char) (m : Lock.Occurrence) : Site :=
  ⟨m.offset, String.ofList (argumentAt source (openerOf m))⟩

/-! ### The pattern -/

/-- A call is a match of its pattern with the parenthesis at its end. -/
theorem call_iff {source before rest : List Char} :
    Call source before rest ↔
      ∃ matched inner, Pattern matched ∧ rest = '(' :: inner ∧
        source = before ++ (matched ++ inner) := by
  constructor
  · rintro ⟨blanks, hBlanks, hHead, rfl⟩
    obtain ⟨inner, rfl⟩ := List.head?_eq_some_iff.mp hHead
    exact ⟨_, inner, ⟨blanks, hBlanks, rfl⟩, rfl, by simp⟩
  · rintro ⟨_, inner, ⟨blanks, hBlanks, rfl⟩, rfl, rfl⟩
    exact ⟨blanks, hBlanks, rfl, by simp⟩

theorem leading?_eq_none_iff {text : List Char} :
    leading? text = none ↔ ¬ StartsMatch Pattern text := by
  rw [Option.eq_none_iff_forall_ne_some]
  constructor
  · rintro h ⟨matched, ⟨inner, rfl⟩, hMatched⟩
    exact h _ (leading?_eq_some_iff.mpr (call_iff.mpr ⟨matched, inner, hMatched, rfl, rfl⟩))
  · rintro h rest hLeading
    obtain ⟨matched, inner, hMatched, _, hText⟩ := call_iff.mp (leading?_eq_some_iff.mp hLeading)
    exact h ⟨matched, ⟨inner, hText.symm⟩, hMatched⟩

private theorem opener_notMem {blanks : List Char} (h : ∀ c ∈ blanks, Text.isBlank c = true) :
    '(' ∉ marker.toList ++ blanks := by
  rw [List.mem_append, not_or]
  exact ⟨by decide, fun hMem => absurd (h _ hMem) (by decide)⟩

/-- No match of the pattern begins another one. -/
theorem pattern_code (first second : List Char) (hFirst : Pattern first) (hSecond : Pattern second)
    (h : first <+: second) : first = second := by
  obtain ⟨blanks, hBlanks, rfl⟩ := hFirst
  obtain ⟨blanks', hBlanks', rfl⟩ := hSecond
  obtain ⟨rest, hRest⟩ := h
  have hBody : marker.toList ++ blanks ++ '(' :: rest = marker.toList ++ blanks' ++ '(' :: [] := by
    simpa [List.append_assoc] using hRest
  obtain ⟨hSame, _⟩ :=
    Text.eq_of_append_separator (opener_notMem hBlanks) (opener_notMem hBlanks') hBody
  rw [← List.append_assoc, hSame, List.append_assoc]

/-- At the start of a text the pattern matches in one way only. -/
theorem Pattern.unique {matched matched' inner inner' : List Char} (h : Pattern matched)
    (h' : Pattern matched') (hText : matched ++ inner = matched' ++ inner') :
    matched = matched' ∧ inner = inner' := by
  have hSame : matched = matched' := by
    rcases List.prefix_or_prefix_of_prefix (List.prefix_append matched inner)
        (hText ▸ List.prefix_append matched' inner') with hShorter | hLonger
    · exact pattern_code matched matched' h h' hShorter
    · exact (pattern_code matched' matched h' h hLonger).symm
  subst hSame
  exact ⟨rfl, List.append_cancel_left hText⟩

/-- The first character of a match is nowhere else in it. -/
theorem Pattern.eq_cons {matched : List Char} (h : Pattern matched) :
    ∃ tail, matched = 'r' :: tail ∧ 'r' ∉ tail := by
  obtain ⟨blanks, hBlanks, rfl⟩ := h
  refine ⟨"aw_call".toList ++ (blanks ++ ['(']), by simp [marker], fun hMem => ?_⟩
  rcases List.mem_append.mp hMem with hName | hMem
  · exact absurd hName (by decide)
  · rcases List.mem_append.mp hMem with hBlank | hOpener
    · exact absurd (hBlanks _ hBlank) (by decide)
    · exact absurd hOpener (by decide)

/-! ### What is skipped -/

theorem sitesFrom_cons {c : Char} {rest : List Char} (h : leading? (c :: rest) = none)
    (offset : Nat) : sitesFrom offset (c :: rest) = sitesFrom (offset + c.utf8Size) rest := by
  rw [sitesFrom, h]

/-- A text without the first character of a call has no site that starts in it. -/
theorem sitesFrom_append {skipped : List Char} (h : 'r' ∉ skipped) (offset : Nat)
    (rest : List Char) :
    sitesFrom offset (skipped ++ rest) = sitesFrom (offset + Text.byteLength skipped) rest := by
  induction skipped generalizing offset with
  | nil => rfl
  | cons c skipped ih =>
      simp only [List.mem_cons, not_or] at h
      have hNone : leading? (c :: (skipped ++ rest)) = none := by
        rw [leading?_eq_none_iff]
        rintro ⟨matched, hPrefix, hMatched⟩
        obtain ⟨tail, rfl, _⟩ := hMatched.eq_cons
        exact h.1 (List.cons_prefix_cons.mp hPrefix).1
      rw [List.cons_append, sitesFrom_cons hNone, ih h.2, Text.byteLength, Nat.add_assoc]

/-! ### The parenthesis of a match -/

theorem argumentAt_of_opener {source inner : List Char} {opener : Nat}
    (h : Text.fromByte? opener source = some ('(' :: inner)) :
    argumentAt source opener = Balanced.leadingOrRest '(' ')' ('(' :: inner) := by
  rw [argumentAt, Balanced.span_of_opener h, h, Balanced.leadingOrRest]
  cases Balanced.leading '(' ')' ('(' :: inner) <;> rfl

/-- One byte before the end of a match there is its parenthesis. -/
theorem Pattern.cut {matched : List Char} (h : Pattern matched) :
    ∃ name, matched = name ++ ['('] ∧
      ∀ offset, openerOf ⟨offset, matched⟩ = offset + Text.byteLength name := by
  obtain ⟨blanks, _, rfl⟩ := h
  refine ⟨marker.toList ++ blanks, by simp, fun offset => ?_⟩
  have hOpener : Text.byteLength ['('] = 1 := by decide
  rw [openerOf, ← List.append_assoc, Text.byteLength_append _ ['('], hOpener]
  exact Nat.add_sub_cancel (offset + Text.byteLength (marker.toList ++ blanks)) 1

theorem fromByte?_openerOf {matched : List Char} (h : Pattern matched)
    (before inner : List Char) :
    Text.fromByte? (openerOf ⟨Text.byteLength before, matched⟩) (before ++ (matched ++ inner)) =
      some ('(' :: inner) := by
  obtain ⟨name, rfl, hOpener⟩ := h.cut
  rw [hOpener, ← Text.byteLength_append, List.append_assoc, ← List.append_assoc before]
  exact Text.fromByte?_append (before ++ name) ('(' :: inner)

theorem siteOf_match {matched : List Char} (h : Pattern matched) (before inner : List Char) :
    siteOf (before ++ (matched ++ inner)) ⟨Text.byteLength before, matched⟩ =
      ⟨Text.byteLength before,
        String.ofList (Balanced.leadingOrRest '(' ')' ('(' :: inner))⟩ := by
  rw [siteOf, argumentAt_of_opener (fromByte?_openerOf h before inner)]

/-! ### The search -/

/-- A match of the pattern in a source, of which the last character is a parenthesis. -/
def AtOpener (source : List Char) (m : Lock.Occurrence) : Prop :=
  ∃ inner, Text.fromByte? (openerOf m) source = some ('(' :: inner)

/-- The sites behind some of the source are those of the matches that a search finds there. -/
theorem sitesFrom_matches (before text : List Char) :
    ∃ found, Matches Pattern (Text.byteLength before) text found ∧
      (∀ m ∈ found, AtOpener (before ++ text) m) ∧
      sitesFrom (Text.byteLength before) text = found.map (siteOf (before ++ text)) := by
  induction hLength : text.length using Nat.strongRecOn generalizing before text with
  | ind length ih =>
      cases hLeading : leading? text with
      | some rest =>
          obtain ⟨matched, inner, hMatched, rfl, hText⟩ :=
            call_iff.mp (leading?_eq_some_iff.mp hLeading)
          rw [List.nil_append] at hText
          subst hText
          obtain ⟨tail, hTail, hNoStart⟩ := hMatched.eq_cons
          have hShorter : inner.length < length := by
            rw [← hLength, hTail, List.length_append, List.length_cons]
            omega
          obtain ⟨found, hFound, hOpeners, hSites⟩ :=
            ih inner.length hShorter (before ++ matched) inner rfl
          rw [Text.byteLength_append] at hFound hSites
          rw [List.append_assoc] at hOpeners hSites
          refine ⟨⟨Text.byteLength before, matched⟩ :: found, ?_, ?_, ?_⟩
          · refine @Matches.next _ _ [] matched inner found (fun first second hCut hSecond => ?_)
              hMatched hFound
            simp_all
          · rw [List.forall_mem_cons]
            exact ⟨⟨inner, fromByte?_openerOf hMatched before inner⟩, hOpeners⟩
          -- The rest of the match has no site in it, so the sites go on behind it.
          · have hLater : sitesFrom (Text.byteLength before + 'r'.utf8Size) (tail ++ inner) =
                sitesFrom (Text.byteLength before + Text.byteLength matched) inner := by
              rw [sitesFrom_append hNoStart, hTail, Text.byteLength, Nat.add_assoc]
            rw [List.map_cons, siteOf_match hMatched, ← hSites, ← hLater]
            rw [hTail, List.cons_append] at hLeading ⊢
            rw [sitesFrom, hLeading]
      | none =>
          cases text with
          | nil =>
              refine ⟨[], .none fun rest hRest => ?_, by simp, rfl⟩
              rw [List.suffix_nil.mp hRest]
              exact leading?_eq_none_iff.mp hLeading
          | cons c rest =>
              obtain ⟨found, hFound, hOpeners, hSites⟩ :=
                ih rest.length (by simp [← hLength]) (before ++ [c]) rest rfl
              have hNext : Text.byteLength (before ++ [c]) = Text.byteLength before + c.utf8Size := by
                simp [Text.byteLength]
              rw [hNext] at hFound hSites
              rw [List.append_assoc, List.singleton_append] at hOpeners hSites
              exact ⟨found, hFound.skip (leading?_eq_none_iff.mp hLeading), hOpeners,
                (sitesFrom_cons hLeading _).trans hSites⟩

/-! ### The order of the sites -/

theorem le_of_mem_sitesFrom {offset : Nat} {text : List Char} {site : Site}
    (h : site ∈ sitesFrom offset text) : offset ≤ site.offset := by
  obtain ⟨before, _, _, _, _, rfl⟩ := mem_sitesFrom_iff.mp h
  exact Nat.le_add_right offset _

/-- The sites go from left to right, and no two start at one place. -/
theorem sitesFrom_pairwise (offset : Nat) (text : List Char) :
    (sitesFrom offset text).Pairwise (·.offset < ·.offset) := by
  induction text generalizing offset with
  | nil => exact .nil
  | cons c rest ih =>
      rw [sitesFrom]
      split
      · exact ih _
      · refine List.pairwise_cons.mpr ⟨fun later hLater => ?_, ih _⟩
        have hBehind := le_of_mem_sitesFrom hLater
        have hChar := c.utf8Size_pos
        dsimp only
        omega

/-- A site at the place of a call has the argument text of that call. -/
theorem argument_of_mem_sites {source : String} {site : Site} (h : site ∈ sites source)
    {before rest : List Char} (hCall : Call source.toList before rest)
    (hOffset : Text.byteLength before = site.offset) :
    Balanced.IsArgument rest site.argument.toList := by
  obtain ⟨before', rest', argument, hCall', hArgument, rfl⟩ := mem_sites_iff.mp h
  obtain ⟨matched, inner, hMatched, rfl, hText⟩ := call_iff.mp hCall
  obtain ⟨matched', inner', hMatched', rfl, hText'⟩ := call_iff.mp hCall'
  obtain ⟨rfl, hRest⟩ := Text.eq_of_byteLength_eq (hText.symm.trans hText') hOffset
  obtain ⟨rfl, rfl⟩ := hMatched.unique hMatched' hRest
  rwa [String.toList_ofList]

/-- The sites of a source are its calls, each of them once and in the order of their places:
wherever the name stands with white space and a parenthesis behind it, also inside another
call. The argument text goes from that parenthesis to the one that closes it, or to the end of
the source. A search from left to right that goes on behind each match finds all of these,
and the argument text is what stands from the last character of the match on, which is
always the parenthesis. -/
theorem sites_exact (source : String) :
    ((sites source).map Site.offset).Pairwise (· < ·) ∧
    (∀ offset, offset ∈ (sites source).map Site.offset ↔
      ∃ before rest, Call source.toList before rest ∧ Text.byteLength before = offset) ∧
    (∀ site ∈ sites source, ∀ before rest, Call source.toList before rest →
      Text.byteLength before = site.offset → Balanced.IsArgument rest site.argument.toList) ∧
    ∃ found, (∀ found', Matches Pattern 0 source.toList found' ↔ found' = found) ∧
      (∀ m ∈ found, AtOpener source.toList m) ∧
      sites source = found.map (siteOf source.toList) := by
  refine ⟨List.pairwise_map.mpr (sitesFrom_pairwise 0 _), fun offset => ?_,
    fun site hSite before rest hCall hOffset => argument_of_mem_sites hSite hCall hOffset, ?_⟩
  · rw [List.mem_map]
    constructor
    · rintro ⟨site, hSite, rfl⟩
      obtain ⟨before, rest, _, hCall, _, rfl⟩ := mem_sites_iff.mp hSite
      exact ⟨before, rest, hCall, rfl⟩
    · rintro ⟨before, rest, hCall, rfl⟩
      exact ⟨_, mem_sites_iff.mpr ⟨before, rest, _, hCall, hCall.argument_iff.mpr rfl, rfl⟩, rfl⟩
  · obtain ⟨found, hFound, hOpeners, hSites⟩ := sitesFrom_matches [] source.toList
    exact ⟨found, fun found' => ⟨fun h => h.unique pattern_code hFound, fun h => h ▸ hFound⟩,
      hOpeners, hSites⟩

end LockTriage.RawCall
