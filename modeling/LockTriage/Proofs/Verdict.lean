import LockTriage.Classifier
import LockTriage.Proofs.Source.CallSites
import LockTriage.Proofs.Source.LockUsage

/-!
What the verdict on a source means: a lock annotation is repeated, and either
the payable marker occurs or some call has an argument text without any marker
of the allowlist. Which way the assessment takes to its verdict does not show.
-/

open LockTriage.RawCall (Call)
open LockTriage.Balanced (IsArgument NeverCloses)

namespace LockTriage.Classifier

/-- No marker occurs in the argument text. -/
def Uncovered (markers : List String) (argument : List Char) : Prop :=
  ∀ m ∈ markers, ¬ m.toList <:+: argument

theorem isAllowlisted_eq_false_iff {markers : List String} {argument : List Char} :
    isAllowlisted markers (String.ofList argument) = false ↔ Uncovered markers argument := by
  simp only [isAllowlisted, List.any_eq_false, Text.contains_iff, String.toList_ofList, Uncovered]

/-- The allowlist of the extended heuristic: the built-in markers, and those of
the extra ones that are not blank. -/
theorem uncovered_allowing_iff {c : Classifier} {extra : List String} {argument : List Char} :
    Uncovered (c.allowing extra).safeCalls argument ↔
      (∀ m ∈ c.safeCalls, ¬ m.toList <:+: argument) ∧
        ∀ m ∈ extra, (∃ ch ∈ m.toList, Text.isBlank ch = false) → ¬ m.toList <:+: argument := by
  have hBlank (m : String) : Text.blank m = false ↔ ∃ ch ∈ m.toList, Text.isBlank ch = false := by
    simp [Text.blank]
  constructor
  · intro h
    refine ⟨fun m hm => h m (List.mem_append_left _ hm), fun m hm hShown => ?_⟩
    refine h m (List.mem_append_right _ (List.mem_filter.mpr ⟨hm, ?_⟩))
    simp [(hBlank m).mpr hShown]
  · rintro ⟨hOwn, hExtra⟩ m hm
    rcases List.mem_append.mp hm with hm | hm
    · exact hOwn m hm
    · obtain ⟨hm, hShown⟩ := List.mem_filter.mp hm
      exact hExtra m hm ((hBlank m).mp (by simpa using hShown))

/-- The unvetted calls are the calls whose argument text no marker covers. -/
theorem mem_unvetted_iff {c : Classifier} {source : String} {site : RawCall.Site} :
    site ∈ c.unvetted source ↔
      ∃ before rest argument, Call source.toList before rest ∧ IsArgument rest argument ∧
        Uncovered c.safeCalls argument ∧
        site = ⟨Text.byteLength before, String.ofList argument⟩ := by
  simp only [unvetted, List.mem_filter, Bool.not_eq_eq_eq_not, Bool.not_true, RawCall.mem_sites_iff]
  constructor
  · rintro ⟨⟨before, rest, argument, hCall, hArgument, rfl⟩, hCovered⟩
    exact ⟨before, rest, argument, hCall, hArgument,
      isAllowlisted_eq_false_iff.mp hCovered, rfl⟩
  · rintro ⟨before, rest, argument, hCall, hArgument, hUncovered, rfl⟩
    exact ⟨⟨before, rest, argument, hCall, hArgument, rfl⟩,
      isAllowlisted_eq_false_iff.mpr hUncovered⟩

/-- Where the name of the call does not occur, there is nothing to list. -/
theorem unvetted_eq_nil {c : Classifier} {source : String}
    (h : Text.contains source RawCall.marker = false) : c.unvetted source = [] := by
  rw [List.eq_nil_iff_forall_not_mem]
  intro site hSite
  obtain ⟨before, rest, _, hCall, _⟩ := mem_unvetted_iff.mp hSite
  rw [Text.contains_iff.mpr hCall.marker_infix] at h
  cases h

/-- Neither of the early answers differs from the plain rule. -/
theorem vulnerable_eq (c : Classifier) (source : String) :
    (c.assess source).vulnerable =
      ((Lock.Usage.ofSource source).hasReused &&
        (Text.contains source payableMarker || !(c.unvetted source).isEmpty)) := by
  simp only [assess]
  split
  · rename_i hEarly
    simp_all
  · rename_i hLater
    split
    -- Without a call there is no unvetted one, so the payable marker decides alone.
    · rename_i hNoCall
      simp only [Bool.not_eq_true'] at hNoCall
      rw [unvetted_eq_nil hNoCall]
      simp_all [Bool.and_comm]
    · cases hPayable : Text.contains source payableMarker
      · simp
      · simp_all

/-- Outside the early answer for payable sources the listed calls are all the
unvetted ones. -/
theorem unvettedCalls_eq (c : Classifier) (source : String)
    (h : (Text.contains source payableMarker && (Lock.Usage.ofSource source).hasReused) = false) :
    (c.assess source).unvettedCalls = c.unvetted source := by
  simp only [assess, h, Bool.false_eq_true, if_false]
  split
  · rename_i hNoCall
    simp only [Bool.not_eq_true'] at hNoCall
    exact (unvetted_eq_nil hNoCall).symm
  · rfl

private theorem exists_unvetted_iff {c : Classifier} {source : String} :
    (!(c.unvetted source).isEmpty) = true ↔
      ∃ before rest argument, Call source.toList before rest ∧ IsArgument rest argument ∧
        Uncovered c.safeCalls argument := by
  rw [Bool.not_eq_true', List.isEmpty_eq_false_iff_exists_mem]
  simp only [mem_unvetted_iff]
  constructor
  · rintro ⟨_, before, rest, argument, hCall, hArgument, hUncovered, _⟩
    exact ⟨before, rest, argument, hCall, hArgument, hUncovered⟩
  · rintro ⟨before, rest, argument, hCall, hArgument, hUncovered⟩
    exact ⟨_, before, rest, argument, hCall, hArgument, hUncovered, rfl⟩

/-- The verdict of the extended heuristic on any source: some annotation text is
matched twice, and the payable marker occurs or a call has an argument text
without a built-in marker and without an extra marker that is not blank. -/
theorem classify_iff (extra : List String) (source : String) :
    ((builtIn.allowing extra).classify source = true ↔
      Lock.Reused source.toList ∧
        (payableMarker.toList <:+: source.toList ∨
          ∃ before rest argument, Call source.toList before rest ∧ IsArgument rest argument ∧
            (∀ m ∈ builtInSafeCalls, ¬ m.toList <:+: argument) ∧
            ∀ m ∈ extra, (∃ ch ∈ m.toList, Text.isBlank ch = false) →
              ¬ m.toList <:+: argument)) ∧
      ((builtIn.allowing extra).assess source).vulnerable =
        (builtIn.allowing extra).classify source := by
  refine ⟨?_, rfl⟩
  rw [classify, vulnerable_eq, Bool.and_eq_true, Bool.or_eq_true, Lock.hasReused_iff,
    Text.contains_iff, exists_unvetted_iff]
  simp only [uncovered_allowing_iff, builtIn]

/-! ### Calls that never close -/

/-- A call that never closes is always a site, and it counts as unvetted only
while no marker occurs in all the rest of the source. -/
theorem mem_unvetted_iff_of_neverCloses {c : Classifier} {source : String}
    {before rest : List Char} (hCall : Call source.toList before rest)
    (hOpen : NeverCloses '(' ')' rest) :
    (⟨Text.byteLength before, String.ofList rest⟩ : RawCall.Site) ∈ c.unvetted source ↔
      Uncovered c.safeCalls rest := by
  rw [mem_unvetted_iff]
  constructor
  · rintro ⟨_, _, argument, _, _, hUncovered, hSite⟩
    have hSame : rest = argument := by
      simpa [String.ofList_inj] using congrArg RawCall.Site.argument hSite
    rwa [hSame]
  · intro hUncovered
    exact ⟨before, rest, rest, hCall, .inr ⟨hOpen, rfl⟩, hUncovered, rfl⟩

/-- What becomes of a call whose parenthesis never closes. It is a site with the
rest of the source as its argument text. It is listed as unvetted, and a reused
lock then makes the source vulnerable, exactly when no marker occurs anywhere in
that rest; otherwise the verdict is the one that the other calls give. -/
theorem unclosed_call_iff (extra : List String) (source : String) (before rest : List Char)
    (hCall : Call source.toList before rest) (hOpen : NeverCloses '(' ')' rest) :
    let c := builtIn.allowing extra
    let site : RawCall.Site := ⟨Text.byteLength before, String.ofList rest⟩
    site ∈ RawCall.sites source ∧
      (¬ (payableMarker.toList <:+: source.toList ∧ Lock.Reused source.toList) →
        (site ∈ (c.assess source).unvettedCalls ↔ Uncovered c.safeCalls rest)) ∧
      (Lock.Reused source.toList →
        ((c.assess source).vulnerable = true ↔
          payableMarker.toList <:+: source.toList ∨ Uncovered c.safeCalls rest ∨
            ∃ other ∈ c.unvetted source, other ≠ site)) := by
  intro c site
  have hUnvetted : site ∈ c.unvetted source ↔ Uncovered c.safeCalls rest :=
    mem_unvetted_iff_of_neverCloses hCall hOpen
  refine ⟨?_, fun hLate => ?_, fun hReused => ?_⟩
  · exact RawCall.mem_sites_iff.mpr ⟨before, rest, rest, hCall, .inr ⟨hOpen, rfl⟩, rfl⟩
  · rw [← Text.contains_iff, ← Lock.hasReused_iff, ← Bool.and_eq_true, Bool.not_eq_true] at hLate
    rw [unvettedCalls_eq c source hLate, hUnvetted]
  · rw [vulnerable_eq, Lock.hasReused_iff.mpr hReused, Bool.true_and, Bool.or_eq_true,
      Text.contains_iff, Bool.not_eq_true', List.isEmpty_eq_false_iff_exists_mem, ← hUnvetted]
    refine or_congr_right ⟨?_, ?_⟩
    · rintro ⟨other, hOther⟩
      by_cases hSame : other = site
      · exact .inl (hSame ▸ hOther)
      · exact .inr ⟨other, hOther, hSame⟩
    · rintro (hSite | ⟨other, hOther, _⟩)
      · exact ⟨site, hSite⟩
      · exact ⟨other, hOther⟩

theorem unclosed_call_listed :
    let before := "@nonreentrant(\"k\")\ndef a(): "
    let rest := "(to, data\n@nonreentrant(\"k\")\ndef b(): pass\n"
    let source := before ++ "raw_call" ++ rest
    let c := builtIn.allowing ["vetted("]
    Lock.Reused source.toList ∧ (c.assess source).vulnerable = true ∧
      ⟨Text.byteLength before.toList, rest⟩ ∈ (c.assess source).unvettedCalls := by
  intro before rest source c
  have hCall : Call source.toList before.toList rest.toList :=
    ⟨[], by simp, by decide +kernel, by decide +kernel⟩
  have hOpen : NeverCloses '(' ')' rest.toList :=
    (Balanced.neverCloses_iff (by decide) (by decide +kernel)).mpr ⟨1, by decide +kernel⟩
  have hReused : Lock.Reused source.toList := Lock.hasReused_iff.mp (by decide +kernel)
  have hUncovered : Uncovered c.safeCalls rest.toList :=
    isAllowlisted_eq_false_iff.mp (by decide +kernel)
  have hPayable : ¬ payableMarker.toList <:+: source.toList := by
    rw [← Text.contains_iff]
    decide +kernel
  obtain ⟨_, hListed, hVerdict⟩ :=
    unclosed_call_iff ["vetted("] source before.toList rest.toList hCall hOpen
  refine ⟨hReused, (hVerdict hReused).mpr (.inr (.inl hUncovered)), ?_⟩
  simpa only [String.ofList_toList] using (hListed fun h => hPayable h.1).mpr hUncovered

/-- A selector that a later function names covers the call that never closes, so
neither the call nor the source is reported. -/
theorem unclosed_call_covered :
    let before := "@nonreentrant(\"k\")\ndef a(): "
    let rest := "(to, data\n@nonreentrant(\"k\")\ndef b(): self.f = method_id(\"b()\")\n"
    let source := before ++ "raw_call" ++ rest
    Call source.toList before.toList rest.toList ∧ NeverCloses '(' ')' rest.toList ∧
      Lock.Reused source.toList ∧ ¬ payableMarker.toList <:+: source.toList ∧
      (builtIn.assess source).vulnerable = false ∧
      (builtIn.assess source).unvettedCalls = [] := by
  intro before rest source
  have hAssess : builtIn.assess source = ⟨false, false, [("nonreentrant(\"k\")", 2)], []⟩ := by
    decide +kernel
  refine ⟨⟨[], by simp, by decide +kernel, by decide +kernel⟩, ?_, ?_, ?_, ?_, ?_⟩
  · exact (Balanced.neverCloses_iff (by decide) (by decide +kernel)).mpr ⟨1, by decide +kernel⟩
  · exact Lock.hasReused_iff.mp (by decide +kernel)
  · rw [← Text.contains_iff]
    decide +kernel
  · rw [hAssess]
  · rw [hAssess]

end LockTriage.Classifier
