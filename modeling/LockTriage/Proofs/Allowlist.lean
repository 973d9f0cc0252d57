import LockTriage.Proofs.Reasons
import Mathlib.Data.List.Basic

/-!
Longer and shorter allowlists. A marker that is added can cover calls and uncover none, so
there is less to report, and what is not about calls stays as it is. A blank marker is in
every argument text; it is left out of the allowlist, so it does not matter whether one is
configured.
-/

namespace LockTriage.Classifier

variable {c c' : Classifier} {source argument m : String} {markers markers' first second : List String}

theorem mem_safeCalls_allowing :
    m ∈ (c.allowing first).safeCalls ↔ m ∈ c.safeCalls ∨ m ∈ first ∧ Text.blank m = false := by
  simp [allowing]

/-- The allowlist does not depend on the markers being added at once or one after the other. -/
theorem allowing_allowing (c : Classifier) (first second : List String) :
    (c.allowing first).allowing second = c.allowing (first ++ second) := by
  simp only [allowing, List.filter_append, List.append_assoc]

theorem safeCalls_subset (c : Classifier) (h : ∀ m ∈ first, Text.blank m = false → m ∈ second) :
    (c.allowing first).safeCalls ⊆ (c.allowing second).safeCalls := by
  intro m hm
  rw [mem_safeCalls_allowing] at hm ⊢
  exact hm.imp_right fun ⟨hMem, hShown⟩ => ⟨h m hMem hShown, hShown⟩

theorem isAllowlisted_mono (h : markers ⊆ markers') (hCovered : isAllowlisted markers argument = true) :
    isAllowlisted markers' argument = true := by
  obtain ⟨m, hm, hInside⟩ := List.any_eq_true.mp hCovered
  exact List.any_eq_true.mpr ⟨m, h hm, hInside⟩

theorem unvetted_mono (h : c.safeCalls ⊆ c'.safeCalls) (source : String) :
    (c'.unvetted source).Sublist (c.unvetted source) := by
  apply List.monotone_filter_right
  intro site hSite
  rw [Bool.not_eq_true'] at hSite ⊢
  by_contra hCovered
  rw [Bool.not_eq_false] at hCovered
  rw [isAllowlisted_mono h hCovered] at hSite
  cases hSite

/-- With more markers no call is listed that was not listed before. -/
theorem unvettedCalls_mono (h : c.safeCalls ⊆ c'.safeCalls) (source : String) :
    (c'.assess source).unvettedCalls.Sublist (c.assess source).unvettedCalls := by
  cases hEarly : Text.contains source payableMarker && (Lock.Usage.ofSource source).hasReused with
  | true =>
      rw [assess_early hEarly]
      exact List.nil_sublist _
  | false =>
      rw [unvettedCalls_eq c source hEarly, unvettedCalls_eq c' source hEarly]
      exact unvetted_mono h source

theorem vulnerable_mono (h : c.safeCalls ⊆ c'.safeCalls)
    (hVulnerable : (c'.assess source).vulnerable = true) : (c.assess source).vulnerable = true := by
  rw [vulnerable_eq, Bool.and_eq_true, Bool.or_eq_true] at hVulnerable ⊢
  refine hVulnerable.imp_right fun hWay => hWay.imp_right fun hSome => ?_
  rw [Bool.not_eq_true', List.isEmpty_eq_false_iff_exists_mem] at hSome ⊢
  obtain ⟨site, hSite⟩ := hSome
  exact ⟨site, (unvetted_mono h source).subset hSite⟩

theorem assess_eq_of_subset (h : c.safeCalls ⊆ c'.safeCalls) (h' : c'.safeCalls ⊆ c.safeCalls)
    (source : String) : c'.assess source = c.assess source := by
  have hCalls := (unvettedCalls_mono h source).antisymm (unvettedCalls_mono h' source)
  have hVerdict : (c'.assess source).vulnerable = (c.assess source).vulnerable :=
    Bool.eq_iff_iff.mpr ⟨vulnerable_mono h, vulnerable_mono h'⟩
  have hPayable := (payable_eq c' source).trans (payable_eq c source).symm
  have hLocks := (reusedLocks_eq c' source).trans (reusedLocks_eq c source).symm
  generalize c.assess source = a at *
  generalize c'.assess source = a' at *
  cases a
  cases a'
  simp_all

/-- Markers that are added to the allowlist can only take calls off the report. If all markers
of one list that are not blank are in another one, the calls listed with the other one are some
of those listed with the first, in the same order and with the same places and texts; a source
that is vulnerable with the other one is vulnerable with the first; and the payable flag and the
reused locks are the same. So lists with the same markers that are not blank give the same
assessment, adding one list after another is adding both at once, and no allowlist at all changes
how a payable source with a reused lock is judged. -/
theorem more_markers_report_less (c : Classifier) (source : String) :
    (∀ first second, (∀ m ∈ first, Text.blank m = false → m ∈ second) →
      ((c.allowing second).assess source).unvettedCalls.Sublist
          ((c.allowing first).assess source).unvettedCalls ∧
        (((c.allowing second).assess source).vulnerable = true →
          ((c.allowing first).assess source).vulnerable = true) ∧
        ((c.allowing second).assess source).payable = ((c.allowing first).assess source).payable ∧
        ((c.allowing second).assess source).reusedLocks =
          ((c.allowing first).assess source).reusedLocks) ∧
    (∀ first second, (∀ m, Text.blank m = false → (m ∈ first ↔ m ∈ second)) →
      (c.allowing second).assess source = (c.allowing first).assess source) ∧
    (∀ first second, (c.allowing first).allowing second = c.allowing (first ++ second)) ∧
    (payableMarker.toList <:+: source.toList → Lock.Reused source.toList →
      (c.assess source).vulnerable = true ∧ ∀ c' : Classifier, c'.assess source = c.assess source) := by
  refine ⟨?fewer, ?same, allowing_allowing c, ?paid⟩
  case fewer =>
    intro first second h
    have hSubset := safeCalls_subset c h
    refine ⟨unvettedCalls_mono hSubset source, vulnerable_mono hSubset, ?_, ?_⟩
    · rw [payable_eq, payable_eq]
    · rw [reusedLocks_eq, reusedLocks_eq]
  case same =>
    intro first second h
    apply assess_eq_of_subset
    · apply safeCalls_subset
      intro m hm hShown
      exact (h m hShown).mp hm
    · apply safeCalls_subset
      intro m hm hShown
      exact (h m hShown).mpr hm
  case paid =>
    intro hMarked hReused
    have hEarly : (Text.contains source payableMarker &&
        (Lock.Usage.ofSource source).hasReused) = true := by
      rw [Bool.and_eq_true]
      exact ⟨Text.contains_iff.mpr hMarked, Lock.hasReused_iff.mpr hReused⟩
    constructor
    · rw [assess_early hEarly]
    · intro c'
      rw [assess_early hEarly, assess_early hEarly]

/-- A blank marker exempts no call, one more marker leaves the other call listed, and with a
payable entry point not even a marker for every call changes the verdict. -/
theorem more_markers_report_less_vetted :
    let source := "@nonreentrant(\"k\")\ndef a(): raw_call(to, vetted(1))\n" ++
      "@nonreentrant(\"k\")\ndef b(): raw_call(to, data)\n"
    let paid := "@payable\n" ++ source
    ((builtIn.allowing ["unused(", "vetted("]).assess source).vulnerable = true ∧
      ((builtIn.allowing [" ", "vetted("]).assess source).vulnerable = true ∧
      ((builtIn.allowing ["unused(", "vetted("]).assess source).unvettedCalls.Sublist
        ((builtIn.allowing [" ", "vetted("]).assess source).unvettedCalls ∧
      (builtIn.allowing ["vetted("]).assess source = (builtIn.allowing [" ", "vetted("]).assess source ∧
      ((builtIn.assess paid).vulnerable = true ∧
        (builtIn.allowing ["to"]).assess paid = builtIn.assess paid) := by
  intro source paid
  obtain ⟨hMono, hSame, _, _⟩ := more_markers_report_less builtIn source
  obtain ⟨_, _, _, hPaid⟩ := more_markers_report_less builtIn paid
  have hMarked : payableMarker.toList <:+: paid.toList := Text.contains_iff.mp (by decide +kernel)
  have hReused : Lock.Reused paid.toList := Lock.hasReused_iff.mp (by decide +kernel)
  have hSecond : ((builtIn.allowing ["unused(", "vetted("]).assess source).vulnerable = true := by
    decide +kernel
  have hBlank : Text.blank " " = true := by decide +kernel
  obtain ⟨hCalls, hVulnerable, _, _⟩ := hMono [" ", "vetted("] ["unused(", "vetted("] (by decide +kernel)
  refine ⟨hSecond, hVulnerable hSecond, hCalls, hSame [" ", "vetted("] ["vetted("] ?_,
    (hPaid hMarked hReused).1, (hPaid hMarked hReused).2 _⟩
  intro m hShown
  have hNe : m ≠ " " := by
    rintro rfl
    rw [hBlank] at hShown
    cases hShown
  simp [hNe]

end LockTriage.Classifier
