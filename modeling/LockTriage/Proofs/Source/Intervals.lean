import LockTriage.Proofs.Source.LockUsage
import LockTriage.Proofs.Text.Cut
import Mathlib.Data.List.Pairwise
import Mathlib.Data.List.Sort

/-!
Where the lock annotations of a source stand. They are intervals of bytes that do not
overlap, and every place where an annotation could begin is inside one of them. An
annotation without a closing parenthesis of its own swallows what follows up to the next
one, so such a place need not be the start of an interval. There is one list of intervals
like that, and the tally counts them by their texts.
-/

namespace LockTriage

/-! ### Where a search finds its matches -/

namespace Leftmost

open Lock (Occurrence)

variable {pattern : List Char → Prop} {offset : Nat} {text : List Char} {found : List Occurrence}

/-- What is found is a match of the pattern, and it stands where it was found. -/
theorem Matches.stands (h : Matches pattern offset text found) {o : Occurrence} (ho : o ∈ found) :
    pattern o.text ∧ ∃ before after, text = before ++ (o.text ++ after) ∧
      o.offset = offset + Text.byteLength before := by
  induction h with
  | none => cases ho
  | @next offset skipped piece rest later _ hPiece _ ih =>
      rcases List.mem_cons.mp ho with rfl | hLater
      · exact ⟨hPiece, skipped, rest, rfl, rfl⟩
      · obtain ⟨hMatch, before, after, rfl, hOffset⟩ := ih hLater
        refine ⟨hMatch, skipped ++ (piece ++ before), after, by simp, ?_⟩
        rw [hOffset, Text.byteLength_append, Text.byteLength_append]
        omega

/-- Each match ends before the next one begins. -/
theorem Matches.apart (h : Matches pattern offset text found) :
    found.Pairwise fun o o' => o.offset + Text.byteLength o.text ≤ o'.offset := by
  induction h with
  | none => exact .nil
  | @next offset skipped piece rest later _ _ hLater ih =>
      refine List.pairwise_cons.mpr ⟨fun o ho => ?_, ih⟩
      obtain ⟨_, before, _, _, hOffset⟩ := hLater.stands ho
      rw [hOffset]
      exact Nat.le_add_right _ _

/-- Wherever the pattern matches, a match that was found begins or is under way. -/
theorem Matches.under_way (h : Matches pattern offset text found) {before rest : List Char}
    (hText : text = before ++ rest) (hStarts : StartsMatch pattern rest) :
    ∃ o ∈ found, o.offset ≤ offset + Text.byteLength before ∧
      offset + Text.byteLength before < o.offset + Text.byteLength o.text := by
  induction h generalizing before with
  | none hNone => exact absurd hStarts (hNone rest ⟨before, hText.symm⟩)
  | @next offset skipped piece tail later hSkipped _ _ ih =>
      by_cases hEarly : Text.byteLength before < Text.byteLength skipped
      -- Nothing matches in what is skipped.
      · obtain ⟨gap, hSome, hCut, rfl⟩ := Text.exists_of_byteLength_lt hText.symm hEarly
        exact absurd hStarts (hSkipped before gap hCut hSome)
      by_cases hFirst : Text.byteLength before < Text.byteLength skipped + Text.byteLength piece
      · exact ⟨_, List.mem_cons_self, by dsimp only; omega, by dsimp only; omega⟩
      · rw [← Text.byteLength_append, not_lt] at hFirst
        rw [← List.append_assoc] at hText
        obtain ⟨gap, rfl, hTail⟩ := Text.exists_of_byteLength_le hText hFirst
        obtain ⟨o, ho, hLow, hHigh⟩ := ih hTail
        simp only [Text.byteLength_append]
        exact ⟨o, List.mem_cons_of_mem _ ho, by omega, by omega⟩

end Leftmost

namespace Lock

open Leftmost (StartsMatch Matches)

/-! ### Intervals -/

/-- From which byte of a source to which. The last one does not belong to it. -/
structure Interval where
  start : Nat
  stop : Nat
  deriving DecidableEq, Repr

namespace Interval

def Holds (b : Interval) (offset : Nat) : Prop := b.start ≤ offset ∧ offset < b.stop

/-- What stands in the interval, if a text can be cut there. -/
def text? (b : Interval) (source : List Char) : Option (List Char) :=
  Text.between? b.start b.stop source

/-- The bytes of a match. -/
def ofOccurrence (o : Occurrence) : Interval := ⟨o.offset, o.offset + Text.byteLength o.text⟩

end Interval

/-- At a byte offset the opening of an annotation stands, and a closing parenthesis
somewhere behind it. -/
def OpensAt (source : List Char) (offset : Nat) : Prop :=
  ∃ before rest, source = before ++ (opening ++ rest) ∧ Text.byteLength before = offset ∧
    ')' ∈ rest

/-- The intervals have an annotation each, go from left to right, do not overlap, and
hold every place where an annotation could begin. Such a place is the start of an
interval, unless an earlier one holds it. -/
structure Marks (source : List Char) (found : List Interval) : Prop where
  annotation : ∀ b ∈ found, ∃ text, b.text? source = some text ∧ Annotation text
  increasing : found.Pairwise (·.start < ·.start)
  disjoint : found.Pairwise fun b b' => ∀ offset, ¬ (b.Holds offset ∧ b'.Holds offset)
  covers : ∀ offset, OpensAt source offset → ∃ b ∈ found, b.Holds offset ∧
    ((∀ b' ∈ found, b'.start < offset → ¬ b'.Holds offset) → b.start = offset)

variable {source : List Char} {found found' : List Interval} {b b' : Interval} {offset : Nat}

/-- An annotation could begin where one begins. -/
theorem opensAt_iff :
    OpensAt source offset ↔
      ∃ before rest, source = before ++ rest ∧ Text.byteLength before = offset ∧
        StartsMatch Annotation rest := by
  constructor
  · rintro ⟨before, rest, hSource, hOffset, hClosed⟩
    obtain ⟨inner, after, rfl, hInner⟩ := List.eq_append_cons_of_mem hClosed
    refine ⟨before, _, hSource, hOffset, opening ++ inner ++ [')'], ⟨after, ?_⟩, inner, hInner, rfl⟩
    simp
  · rintro ⟨before, _, hSource, hOffset, _, ⟨after, rfl⟩, inner, _, rfl⟩
    refine ⟨before, inner ++ [')'] ++ after, ?_, hOffset, by simp⟩
    rw [hSource]
    simp

/-! ### Uniqueness -/

/-- An annotation is determined by its start. -/
theorem Interval.eq_of_start (h : ∃ text, b.text? source = some text ∧ Annotation text)
    (h' : ∃ text, b'.text? source = some text ∧ Annotation text) (hStart : b.start = b'.start) :
    b = b' := by
  obtain ⟨text, hText, hMatch⟩ := h
  obtain ⟨text', hText', hMatch'⟩ := h'
  obtain ⟨before, after, hSource, hBefore, hStop⟩ := Text.between?_eq_some_iff.mp hText
  obtain ⟨before', after', hSource', hBefore', hStop'⟩ := Text.between?_eq_some_iff.mp hText'
  have hTexts : text ++ after = text' ++ after' :=
    (Text.eq_of_byteLength_eq (hSource.symm.trans hSource')
      (hBefore.trans (hStart.trans hBefore'.symm))).2
  have hSame : text = text' := by
    rcases List.prefix_or_prefix_of_prefix (List.prefix_append text after)
        (hTexts ▸ List.prefix_append text' after') with hShorter | hLonger
    · exact annotation_code text text' hMatch hMatch' hShorter
    · exact (annotation_code text' text hMatch' hMatch hLonger).symm
  cases b
  cases b'
  simp_all

theorem Annotation.byteLength_pos {text : List Char} (h : Annotation text) :
    0 < Text.byteLength text := by
  apply Text.byteLength_pos
  obtain ⟨inner, _, rfl⟩ := h
  simp

theorem Marks.opensAt (h : Marks source found) (hb : b ∈ found) : OpensAt source b.start := by
  obtain ⟨text, hText, hMatch⟩ := h.annotation b hb
  obtain ⟨before, after, hSource, hBefore, _⟩ := Text.between?_eq_some_iff.mp hText
  exact opensAt_iff.mpr ⟨before, _, hSource, hBefore, text, List.prefix_append text after, hMatch⟩

theorem Marks.holds_start (h : Marks source found) (hb : b ∈ found) : b.Holds b.start := by
  obtain ⟨text, hText, hMatch⟩ := h.annotation b hb
  obtain ⟨_, _, _, _, hStop⟩ := Text.between?_eq_some_iff.mp hText
  have hSome := hMatch.byteLength_pos
  exact ⟨Nat.le_refl _, by omega⟩

theorem Marks.not_both (h : Marks source found) (hb : b ∈ found) (hb' : b' ∈ found) (hNe : b ≠ b') :
    ¬ (b.Holds offset ∧ b'.Holds offset) := by
  have hSymm : Std.Symm fun b b' : Interval => ∀ offset, ¬ (b.Holds offset ∧ b'.Holds offset) :=
    ⟨fun _ _ hApart offset hBoth => hApart offset hBoth.symm⟩
  exact h.disjoint.forall hb hb' hNe offset

/-- Where two lists have the same earlier intervals, the next one of the first is in the second. -/
theorem Marks.mem_of_earlier (h : Marks source found) (h' : Marks source found') (hb : b ∈ found)
    (hEarlier : ∀ c ∈ found', c.start < b.start → c ∈ found) : b ∈ found' := by
  obtain ⟨b', hb', _, hStart⟩ := h'.covers b.start (h.opensAt hb)
  have hFirst : b'.start = b.start := by
    apply hStart
    intro c hc hLess hHolds
    have hNe : c ≠ b := by
      rintro rfl
      exact Nat.lt_irrefl _ hLess
    exact h.not_both (hEarlier c hc hLess) hb hNe ⟨hHolds, h.holds_start hb⟩
  rwa [← Interval.eq_of_start (h'.annotation b' hb') (h.annotation b hb) hFirst]

theorem Marks.mem_iff (h : Marks source found) (h' : Marks source found') (b : Interval) :
    b ∈ found ↔ b ∈ found' := by
  induction hStart : b.start using Nat.strong_induction_on generalizing b with
  | h start ih =>
      subst hStart
      constructor
      · intro hb
        exact h.mem_of_earlier h' hb fun c hc hLess => (ih c.start hLess c rfl).mpr hc
      · intro hb
        exact h'.mem_of_earlier h hb fun c hc hLess => (ih c.start hLess c rfl).mp hc

theorem Marks.unique (h : Marks source found) (h' : Marks source found') : found = found' := by
  have hIrrefl : Std.Irrefl fun b b' : Interval => b.start < b'.start := ⟨fun _ => Nat.lt_irrefl _⟩
  exact h.increasing.eq_of_mem_iff h'.increasing (h.mem_iff h')

/-! ### The intervals of a source -/

/-- The intervals of the annotations that the scan reports. -/
def intervals (source : List Char) : List Interval := (occurrences source).map .ofOccurrence

theorem text?_ofOccurrence {o : Occurrence} (ho : o ∈ occurrences source) :
    (Interval.ofOccurrence o).text? source = some o.text ∧ Annotation o.text := by
  obtain ⟨hMatch, before, after, hSource, hOffset⟩ := (occurrencesFrom_matches 0 source).stands ho
  rw [Nat.zero_add] at hOffset
  refine ⟨Text.between?_eq_some_iff.mpr ⟨before, after, hSource, hOffset.symm, rfl⟩, hMatch⟩

theorem marks_intervals (source : List Char) : Marks source (intervals source) := by
  have hMatches := occurrencesFrom_matches 0 source
  refine ⟨?_, ?_, ?_, ?_⟩
  · intro b hb
    obtain ⟨o, ho, rfl⟩ := List.mem_map.mp hb
    exact ⟨o.text, text?_ofOccurrence ho⟩
  · rw [intervals, List.pairwise_map]
    refine hMatches.apart.imp_of_mem fun {o o'} ho _ hApart => ?_
    have hSome := (text?_ofOccurrence ho).2.byteLength_pos
    show o.offset < o'.offset
    omega
  · rw [intervals, List.pairwise_map]
    refine hMatches.apart.imp fun {o o'} hApart offset hBoth => ?_
    obtain ⟨⟨_, hHigh⟩, hLow, _⟩ := hBoth
    exact absurd (hApart.trans hLow) (Nat.not_le_of_lt hHigh)
  · intro offset hOpens
    obtain ⟨before, rest, hSource, rfl, hStarts⟩ := opensAt_iff.mp hOpens
    obtain ⟨o, ho, hLow, hHigh⟩ := hMatches.under_way hSource hStarts
    rw [Nat.zero_add] at hLow hHigh
    have hMem : Interval.ofOccurrence o ∈ intervals source := List.mem_map_of_mem ho
    refine ⟨_, hMem, ⟨hLow, hHigh⟩, fun hFirst => ?_⟩
    by_contra hInside
    exact hFirst _ hMem (lt_of_le_of_ne hLow hInside) ⟨hLow, hHigh⟩

theorem marks_iff : Marks source found ↔ found = intervals source :=
  ⟨fun h => h.unique (marks_intervals source), fun h => h ▸ marks_intervals source⟩

/-! ### Counting them -/

/-- How many intervals have a text is how often the scan reports it. -/
theorem count_intervals (source lock : String) :
    (intervals source.toList).countP (fun b => b.text? source.toList = some lock.toList) =
      (texts source).count lock := by
  rw [intervals, texts, List.countP_map, List.count, List.countP_map]
  apply List.countP_congr
  intro o ho
  have hText := (text?_ofOccurrence ho).1
  simp only [Function.comp_apply, decide_eq_true_eq, hText, Option.some.injEq, beq_iff_eq]
  constructor
  · rintro hSame
    rw [hSame, String.ofList_toList]
  · rintro rfl
    rw [String.toList_ofList]

/-- Nothing is found exactly where nothing could begin. -/
theorem texts_eq_nil_iff {source : String} :
    texts source = [] ↔ ∀ offset, ¬ OpensAt source.toList offset := by
  have hMarks := marks_intervals source.toList
  have hNil : texts source = [] ↔ intervals source.toList = [] := by
    rw [texts, intervals, List.map_eq_nil_iff, List.map_eq_nil_iff]
  rw [hNil]
  constructor
  · intro hNone offset hOpens
    obtain ⟨b, hb, _⟩ := hMarks.covers offset hOpens
    rw [hNone] at hb
    cases hb
  · intro hNone
    apply List.eq_nil_iff_forall_not_mem.mpr
    intro b hb
    exact hNone b.start (hMarks.opensAt hb)

/-- Two of the intervals have the same text exactly if some text is found twice. -/
theorem reused_iff_intervals {source : List Char} :
    Reused source ↔ ∃ b ∈ intervals source, ∃ b' ∈ intervals source,
      b.start < b'.start ∧ b.text? source = b'.text? source := by
  have hOrder : (occurrences source).Pairwise (·.offset < ·.offset) := by
    have hIncreasing := (marks_intervals source).increasing
    rwa [intervals, List.pairwise_map] at hIncreasing
  rw [List.pairwise_iff_getElem] at hOrder
  simp only [Reused, matches_iff, exists_eq_left]
  constructor
  · rintro ⟨i, j, first, second, hLess, hFirst, hSecond, hSame⟩
    obtain ⟨hi, rfl⟩ := List.getElem?_eq_some_iff.mp hFirst
    obtain ⟨hj, rfl⟩ := List.getElem?_eq_some_iff.mp hSecond
    refine ⟨_, List.mem_map_of_mem (List.getElem_mem hi), _, List.mem_map_of_mem (List.getElem_mem hj),
      hOrder i j hi hj hLess, ?_⟩
    rw [(text?_ofOccurrence (List.getElem_mem hi)).1, (text?_ofOccurrence (List.getElem_mem hj)).1, hSame]
  · rintro ⟨b, hb, b', hb', hLess, hSame⟩
    obtain ⟨first, hFirst, rfl⟩ := List.mem_map.mp hb
    obtain ⟨second, hSecond, rfl⟩ := List.mem_map.mp hb'
    rw [(text?_ofOccurrence hFirst).1, (text?_ofOccurrence hSecond).1, Option.some.injEq] at hSame
    obtain ⟨i, hi, rfl⟩ := List.mem_iff_getElem.mp hFirst
    obtain ⟨j, hj, rfl⟩ := List.mem_iff_getElem.mp hSecond
    refine ⟨i, j, _, _, ?_, List.getElem?_eq_getElem hi, List.getElem?_eq_getElem hj, hSame⟩
    -- The offsets go up with the positions, so the earlier interval was found first.
    by_contra hNot
    rcases Nat.lt_or_eq_of_le (not_lt.mp hNot) with hAfter | rfl
    · exact Nat.lt_asymm hLess (hOrder j i hj hi hAfter)
    · exact Nat.lt_irrefl _ hLess

/-- The annotations of a source are intervals of bytes in one way only: none overlaps another
one, each is an annotation, and wherever one could begin there is one, which begins there
unless it began earlier. The tally has for each text the number of the intervals that hold it. So
all numbers together are the number of intervals, the tally is empty exactly if no annotation
could begin anywhere, the greatest number is the one it says, and a lock is reused exactly if
one is listed as such, which means that two intervals have the same text. -/
theorem usage_counts_intervals (source : String) :
    let usage := Usage.ofSource source
    ∃ found, (∀ found', Marks source.toList found' ↔ found' = found) ∧
      (∀ lock, usage.count lock =
        found.countP fun b => b.text? source.toList = some lock.toList) ∧
      (usage.counts.map Prod.snd).sum = found.length ∧
      (usage.isEmpty = true ↔ ∀ offset, ¬ OpensAt source.toList offset) ∧
      (∀ lock, usage.count lock ≤ usage.maxCount) ∧
      (∃ lock, usage.count lock = usage.maxCount) ∧
      (usage.hasReused = true ↔ usage.reused ≠ []) ∧
      (usage.hasReused = true ↔ ∃ b ∈ found, ∃ b' ∈ found,
        b.start < b'.start ∧ b.text? source.toList = b'.text? source.toList) := by
  intro usage
  obtain ⟨hMost, hReached⟩ := maxCount_greatest source
  refine ⟨intervals source.toList, fun _ => marks_iff, ?count, ?sum, ?empty, hMost, hReached,
    hasReused_iff_reused, ?reused⟩
  case count =>
    intro lock
    rw [count_intervals, count_ofSource]
  case sum => rw [sum_counts, texts, intervals, List.length_map, List.length_map]
  case empty => rw [isEmpty_iff, texts_eq_nil_iff]
  case reused => rw [hasReused_iff, reused_iff_intervals]

/-- An annotation that is not closed takes in the next one. -/
example : (Usage.ofSource "nonreentrant(\"a\nnonreentrant(\"b\") nonreentrant(").counts =
    [("nonreentrant(\"a\nnonreentrant(\"b\")", 1)] := by
  decide +kernel

end Lock

end LockTriage
