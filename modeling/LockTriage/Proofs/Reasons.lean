import LockTriage.Proofs.Text.ByteOrder
import LockTriage.Proofs.Verdict

/-!
The verdict on a source and the reasons that are reported for it. An assessment is filled in
at three places, one for each way to a verdict, and its summary is put together from what it
holds. Whichever way was taken, the summary gives the reason for the verdict: a payable entry
point only if there is one, and otherwise calls that are there.
-/

namespace LockTriage

/-! ### Summaries -/

namespace Assessment

variable {a : Assessment}

/-- The reused locks as a summary lists them. -/
def locksText (a : Assessment) : String := ", ".intercalate (a.reusedLocks.map lockText)

theorem summary_of_safe (h : a.vulnerable = false) : a.summary = "looks safe" := by
  rw [summary, h]
  rfl

theorem summary_of_payable (h : a.vulnerable = true) (hPayable : a.payable = true)
    (hCalls : a.unvettedCalls = []) :
    a.summary = s!"payable entry point with reused lock ({a.locksText})" := by
  rw [summary, h, hPayable, hCalls]
  rfl

theorem summary_of_calls (h : a.vulnerable = true) (hPayable : a.payable = false) :
    a.summary =
      s!"{a.unvettedCalls.length} unsafe raw_call site(s) with reused lock ({a.locksText})" := by
  rw [summary, h, hPayable]
  rfl

/-- A summary that starts with a number names no payable entry point. -/
theorem not_payable_of_number {n : Nat} {rest : List Char} :
    ¬ "payable entry point".toList <+: (toString n).toList ++ rest := by
  have hDigits : (toString n).toList = Nat.toDigits 10 n := Nat.toList_repr
  obtain ⟨d, ds, hSplit⟩ := List.exists_cons_of_ne_nil (@Nat.toDigits_ne_nil n 10)
  have hDigit : d.isDigit = true :=
    Nat.isDigit_of_mem_toDigits (by decide) (by decide) (hSplit ▸ List.mem_cons_self)
  rw [hDigits, hSplit]
  intro hPrefix
  obtain ⟨rfl, _⟩ := List.cons_prefix_cons.mp hPrefix
  exact absurd hDigit (by decide)

end Assessment

/-! ### Assessments -/

namespace Classifier

variable {c : Classifier} {source : String}

theorem payable_eq (c : Classifier) (source : String) :
    (c.assess source).payable = Text.contains source payableMarker := by
  simp only [assess]
  split_ifs <;> rfl

theorem reusedLocks_eq (c : Classifier) (source : String) :
    (c.assess source).reusedLocks = (Lock.Usage.ofSource source).reused := by
  simp only [assess]
  split_ifs <;> rfl

/-- A payable source with a reused lock is judged without a look at its calls. -/
theorem assess_early
    (h : (Text.contains source payableMarker && (Lock.Usage.ofSource source).hasReused) = true) :
    c.assess source = ⟨true, true, (Lock.Usage.ofSource source).reused, []⟩ := by
  rw [assess, if_pos h, (Bool.and_eq_true_iff.mp h).1]

theorem unvettedCalls_sublist (c : Classifier) (source : String) :
    (c.assess source).unvettedCalls.Sublist (RawCall.sites source) := by
  cases hEarly : Text.contains source payableMarker && (Lock.Usage.ofSource source).hasReused with
  | true =>
      rw [assess_early hEarly]
      exact List.nil_sublist _
  | false =>
      rw [unvettedCalls_eq c source hEarly]
      exact List.filter_sublist

/-- The two reasons for which a source is vulnerable. -/
inductive Reason (c : Classifier) (source : String) : Assessment → Prop
  /-- It is payable, and its calls are not listed. -/
  | payable {a : Assessment} (hPayable : a.payable = true) (hNone : a.unvettedCalls = []) :
      Reason c source a
  /-- It is not payable and has unvetted calls, all of which are listed. -/
  | calls {a : Assessment} (hPayable : a.payable = false) (hSome : c.unvetted source ≠ [])
      (hListed : a.unvettedCalls = c.unvetted source) : Reason c source a

theorem reason_of_vulnerable (h : (c.assess source).vulnerable = true) :
    (c.assess source).reusedLocks ≠ [] ∧ Reason c source (c.assess source) := by
  rw [vulnerable_eq, Bool.and_eq_true, Bool.or_eq_true] at h
  obtain ⟨hReused, hWay⟩ := h
  constructor
  · rw [reusedLocks_eq]
    exact Lock.hasReused_iff_reused.mp hReused
  · cases hMarked : Text.contains source payableMarker with
    | true =>
        have hEarly := assess_early (c := c) (by rw [hMarked, hReused]; rfl)
        rw [hEarly]
        exact .payable rfl rfl
    | false =>
        rw [hMarked] at hWay
        have hSome : c.unvetted source ≠ [] := by simpa using hWay
        refine .calls ?_ hSome (unvettedCalls_eq c source (by rw [hMarked]; rfl))
        rw [payable_eq, hMarked]

/-- A source that is not vulnerable has no reused lock, or nothing that can re-enter it. -/
theorem nothing_of_safe (h : (c.assess source).vulnerable = false) :
    (c.assess source).reusedLocks = [] ∨
      (c.assess source).payable = false ∧ (c.assess source).unvettedCalls = [] := by
  cases hReused : (Lock.Usage.ofSource source).hasReused with
  | false =>
      left
      rw [reusedLocks_eq]
      by_contra hSome
      rw [Lock.hasReused_iff_reused.mpr hSome] at hReused
      cases hReused
  | true =>
      right
      rw [vulnerable_eq, hReused, Bool.true_and, Bool.or_eq_false_iff] at h
      refine ⟨by rw [payable_eq, h.1], ?_⟩
      rw [unvettedCalls_eq c source (by rw [h.1]; rfl)]
      simpa using h.2

/-- A summary names a payable entry point only of a payable source. -/
theorem payable_of_named (h : "payable entry point".toList <+: (c.assess source).summary.toList) :
    (c.assess source).payable = true := by
  by_contra hNot
  rw [Bool.not_eq_true] at hNot
  cases hVerdict : (c.assess source).vulnerable with
  | true =>
      rw [Assessment.summary_of_calls hVerdict hNot] at h
      simp only [String.toList_append, List.append_assoc] at h
      exact Assessment.not_payable_of_number h
  | false =>
      rw [Assessment.summary_of_safe hVerdict] at h
      exact absurd h (by decide)

/-- What an assessment reports explains its verdict. The reused locks are the annotation texts
that were counted more than once, with these numbers, in the order of their bytes; the payable
flag stands for the marker; and the listed calls are call sites in their order. A vulnerable
source has a reused lock and one of two reasons, a payable entry point without any call listed
or calls without a payable entry point, and the summary gives that one, with the number of
the sites that no marker covers. Of a source that is not vulnerable the summary says so, and no
lock is reused or nothing can re-enter it. -/
theorem signals_explain_verdict (c : Classifier) (source : String) :
    let a := c.assess source
    let uncovered := (RawCall.sites source).countP fun site => !isAllowlisted c.safeCalls site.argument
    (∀ lock n, (lock, n) ∈ a.reusedLocks ↔
      2 ≤ n ∧ (Lock.Usage.ofSource source).count lock = n) ∧
    a.reusedLocks.Pairwise (fun p q => Bytes.ofText p.1 < Bytes.ofText q.1) ∧
    (a.payable = true ↔ payableMarker.toList <:+: source.toList) ∧
    a.unvettedCalls.Sublist (RawCall.sites source) ∧
    (a.vulnerable = true → a.reusedLocks ≠ [] ∧
      (a.payable = true ∧ a.unvettedCalls = [] ∧
          a.summary = s!"payable entry point with reused lock ({a.locksText})" ∨
        a.payable = false ∧ a.unvettedCalls ≠ [] ∧ 1 ≤ uncovered ∧
          a.summary = s!"{uncovered} unsafe raw_call site(s) with reused lock ({a.locksText})")) ∧
    ("payable entry point".toList <+: a.summary.toList →
      payableMarker.toList <:+: source.toList) ∧
    (a.vulnerable = false → a.summary = "looks safe" ∧
      (a.reusedLocks = [] ∨ a.payable = false ∧ a.unvettedCalls = [])) := by
  intro a uncovered
  have hUncovered : uncovered = (c.unvetted source).length := List.countP_eq_length_filter
  have hPayable : a.payable = true ↔ payableMarker.toList <:+: source.toList := by
    rw [payable_eq, Text.contains_iff]
  refine ⟨?locks, ?order, hPayable, unvettedCalls_sublist c source, ?reason, ?named, ?safe⟩
  case locks =>
    intro lock n
    rw [reusedLocks_eq]
    exact Lock.mem_reused_iff
  case order =>
    rw [reusedLocks_eq]
    exact (Lock.sorted_reused source).imp Bytes.ofText_lt_iff.mpr
  case reason =>
    intro hVulnerable
    obtain ⟨hReused, hReason⟩ := reason_of_vulnerable hVulnerable
    constructor
    · exact hReused
    cases hReason with
    | payable hPayable hNone =>
        exact .inl ⟨hPayable, hNone, Assessment.summary_of_payable hVulnerable hPayable hNone⟩
    | calls hPayable hSome hListed =>
        have hCount : a.unvettedCalls.length = uncovered := by rw [hListed, hUncovered]
        have hSummary := Assessment.summary_of_calls hVulnerable hPayable
        rw [hCount] at hSummary
        have hPositive : 1 ≤ uncovered := hUncovered ▸ List.length_pos_of_ne_nil hSome
        exact .inr ⟨hPayable, hListed ▸ hSome, hPositive, hSummary⟩
  case named =>
    intro hNamed
    exact hPayable.mp (payable_of_named hNamed)
  case safe =>
    intro hSafe
    exact ⟨Assessment.summary_of_safe hSafe, nothing_of_safe hSafe⟩

/-- A call, a payable entry point beside the same call, and no reason at all. -/
theorem signals_explain_verdict_with_call :
    let called := "@nonreentrant(\"k\")\ndef a(): raw_call(to, data)\n@nonreentrant(\"k\")\ndef b(): pass\n"
    let paid := "@payable\n" ++ called
    let quiet := "@payable\n@nonreentrant(\"k\")\ndef a(): pass\n"
    ((builtIn.assess called).vulnerable = true ∧ (builtIn.assess called).reusedLocks ≠ [] ∧
        (builtIn.assess called).summary =
          "1 unsafe raw_call site(s) with reused lock (nonreentrant(\"k\") x2)") ∧
      ("payable entry point".toList <+: (builtIn.assess paid).summary.toList ∧
        payableMarker.toList <:+: paid.toList) ∧
      ((builtIn.assess quiet).vulnerable = false ∧ (builtIn.assess quiet).summary = "looks safe" ∧
        (builtIn.assess quiet).reusedLocks = []) := by
  intro called paid quiet
  obtain ⟨_, _, _, _, hCalled, _, _⟩ := signals_explain_verdict builtIn called
  obtain ⟨_, _, _, _, _, hPaid, _⟩ := signals_explain_verdict builtIn paid
  obtain ⟨_, _, _, _, _, _, hQuiet⟩ := signals_explain_verdict builtIn quiet
  have hVulnerable : (builtIn.assess called).vulnerable = true := by decide +kernel
  have hSafe : (builtIn.assess quiet).vulnerable = false := by decide +kernel
  have hNamed : "payable entry point".toList <+: (builtIn.assess paid).summary.toList := by
    decide +kernel
  obtain ⟨hReused, hReason⟩ := hCalled hVulnerable
  obtain ⟨hSummary, hNothing⟩ := hQuiet hSafe
  refine ⟨⟨hVulnerable, hReused, ?_⟩, ⟨hNamed, hPaid hNamed⟩, hSafe, hSummary, ?_⟩
  · rcases hReason with ⟨hPayable, _⟩ | ⟨_, _, _, hText⟩
    · exact absurd hPayable (by decide +kernel)
    · rw [hText]
      decide +kernel
  · exact hNothing.resolve_right fun hUnpaid => absurd hUnpaid.1 (by decide +kernel)

end Classifier

end LockTriage
