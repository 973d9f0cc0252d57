import LockTriage.Proofs.Scan.Asked
import LockTriage.Proofs.Scan.Demand
import LockTriage.Proofs.Shelf.Verdicts

/-!
The records of a scan in another order. With a cache in memory and an explorer whose
answers depend on the contract alone, records of different contracts do not get in each
other's way, and records of one contract do the same wherever they stand. So a scan that
succeeds does so in any order, and leaves the same.
-/

namespace LockTriage

/-- What the outcomes of a scan depend on and change: what stands where, and what is
cached. -/
@[ext] structure Slate where
  entries : Location → Option Entry
  cached : CacheKey → Option Json

/-- What stays as it is during a scan. The tree counts for its working directory alone. -/
structure Scene where
  settings : Settings
  answers : CacheKey → Except QueryFault Json
  /-- The networks that have keys. -/
  keyed : Network → Bool
  tree : FileTree

namespace Scan

instance (settings : Settings) (record : Record) : Decidable (Wanted settings record) :=
  inferInstanceAs (Decidable (_ ∧ _))

/-- The outcome of a record that is not judged. -/
def passed (settings : Settings) (record : Record) : Outcome :=
  if settings.isAffected record.declaredVersion then .suppressed else .skipped record.declaredVersion

end Scan

open Scan

namespace Scene

variable {w : Scene} {s next last : Slate} {a b record : Record} {rest records records' : List Record}
variable {found : VerifiedSource} {change : Shelf.Change} {outcome : Outcome}
variable {outcomes : List (CacheKey × Outcome)} {asked more : List CacheKey}

/-- The answer that is used for a contract: the cached one, or else that of the explorer. -/
def response? (w : Scene) (s : Slate) (key : CacheKey) : Option Json :=
  match s.cached key with
  | some response => some response
  | none => if w.keyed key.network then (w.answers key).toOption else none

/-- A cached answer is used. -/
theorem response?_of_cached {key : CacheKey} {response : Json} (h : s.cached key = some response) :
    w.response? s key = some response := by
  rw [response?, h]

/-- Without a cached answer the explorer is asked, if the network has a key. -/
theorem response?_of_unknown {key : CacheKey} (h : s.cached key = none) :
    w.response? s key = if w.keyed key.network then (w.answers key).toOption else none := by
  rw [response?, h]

/-- The source that is got for a contract. -/
def found? (w : Scene) (s : Slate) (key : CacheKey) : Option VerifiedSource :=
  (w.response? s key).bind fun response => (VerifiedSource.ofResponse response).toOption

/-- What the shelf has to do for a record with some source. -/
def change? (w : Scene) (s : Slate) (record : Record) (found : VerifiedSource) :
    Option Shelf.Change :=
  w.settings.shelf.change? w.tree record.network record.address
    (assessment w.settings found).vulnerable s.entries

/-- What comes of a record that is judged: its outcome, what was asked for, and what is
left. -/
def judged (w : Scene) (s : Slate) (record : Record) (found : VerifiedSource)
    (change : Shelf.Change) : Outcome × List CacheKey × Slate :=
  (outcomeOf w.settings found change,
    if (s.cached (keyOf record)).isNone then [keyOf record] else [],
    { entries := w.settings.shelf.after w.tree record.network record.address found.source s.entries
        change
      cached := Function.update s.cached (keyOf record) (w.response? s (keyOf record)) })

/-- What comes of a record; nothing if it fails. -/
def step? (w : Scene) (s : Slate) (record : Record) : Option (Outcome × List CacheKey × Slate) :=
  if Wanted w.settings record then
    (w.found? s (keyOf record)).bind fun found =>
      (w.change? s record found).map (w.judged s record found)
  else some (passed w.settings record, [], s)

/-- Records are read one after another, with an outcome for each. -/
inductive Reads (w : Scene) :
    Slate → List Record → List (CacheKey × Outcome) → List CacheKey → Slate → Prop where
  | done (s : Slate) : Reads w s [] [] [] s
  | step {s next last : Slate} {record : Record} {rest : List Record} {outcome : Outcome}
      {outcomes : List (CacheKey × Outcome)} {asked more : List CacheKey}
      (hStep : w.step? s record = some (outcome, asked, next))
      (hRest : Reads w next rest outcomes more last) :
      Reads w s (record :: rest) ((keyOf record, outcome) :: outcomes) (asked ++ more) last

/-! ### Two records in either order -/

/-- A record that is passed over changes nothing. -/
theorem step?_of_not_wanted (h : ¬ Wanted w.settings record) :
    w.step? s record = some (passed w.settings record, [], s) := if_neg h

/-- A record with a source and a place for it is judged. -/
theorem step?_of_wanted (h : Wanted w.settings record) (hFound : w.found? s (keyOf record) = some found)
    (hChange : w.change? s record found = some change) :
    w.step? s record = some (w.judged s record found change) := by
  rw [step?, if_pos h, hFound, Option.bind_some, hChange, Option.map_some]

/-- A record that was to be judged had a source and a place for it. -/
theorem step?_eq_some (h : Wanted w.settings record)
    {result : Outcome × List CacheKey × Slate} (hStep : w.step? s record = some result) :
    ∃ found change, w.found? s (keyOf record) = some found ∧
      w.change? s record found = some change ∧ w.judged s record found change = result := by
  rw [step?, if_pos h, Option.bind_eq_some_iff] at hStep
  obtain ⟨found, hFound, hStep⟩ := hStep
  obtain ⟨change, hChange, hResult⟩ := Option.map_eq_some_iff.mp hStep
  exact ⟨found, change, hFound, hChange, hResult⟩

/-- Of a record that is judged only its contract counts. -/
theorem step?_congr (hKeys : keyOf a = keyOf b) (hFirst : Wanted w.settings a)
    (hSecond : Wanted w.settings b) : w.step? s a = w.step? s b := by
  obtain ⟨network, address, version⟩ := a
  obtain ⟨network', address', version'⟩ := b
  simp only [keyOf, CacheKey.mk.injEq] at hKeys
  obtain ⟨rfl, rfl⟩ := hKeys
  rw [step?, step?, if_pos hFirst, if_pos hSecond]
  rfl

section Apart

variable (hApart : keyOf a ≠ keyOf b)
include hApart

/-- Judging one contract does not change what is cached for another. -/
private theorem cached_judged :
    (w.judged s a found change).2.2.cached (keyOf b) = s.cached (keyOf b) :=
  Function.update_of_ne (Ne.symm hApart) _ _

/-- Nor does it change what is answered for another. -/
private theorem response?_judged :
    w.response? (w.judged s a found change).2.2 (keyOf b) = w.response? s (keyOf b) := by
  rw [response?, cached_judged hApart, response?]

/-- Nor the source of another. -/
private theorem found?_judged :
    w.found? (w.judged s a found change).2.2 (keyOf b) = w.found? s (keyOf b) := by
  rw [found?, response?_judged hApart, found?]

/-- Nor what becomes of the file of another. -/
private theorem change?_judged {other : VerifiedSource}
    (hChange : w.change? s a found = some change) :
    w.change? (w.judged s a found change).2.2 b other = w.change? s b other := by
  refine Shelf.change?_after (fun hSame => hApart ?_) hChange
  rw [keyOf, keyOf, CacheKey.mk.injEq]
  exact Prod.mk.inj hSame

/-- Two contracts may be judged in either order. -/
private theorem judged_comm {other : VerifiedSource} {change' : Shelf.Change} :
    (w.judged (w.judged s a found change).2.2 b other change').2.2 =
      (w.judged (w.judged s b other change').2.2 a found change).2.2 := by
  have hPair : (a.network, a.address) ≠ (b.network, b.address) := fun hSame => hApart (by
    rw [keyOf, keyOf, CacheKey.mk.injEq]
    exact Prod.mk.inj hSame)
  ext1
  · exact Shelf.after_comm hPair
  · change Function.update (Function.update s.cached _ _) _ (w.response? (w.judged s a found change).2.2 _) =
      Function.update (Function.update s.cached _ _) _ (w.response? (w.judged s b other change').2.2 _)
    rw [response?_judged hApart, response?_judged (Ne.symm hApart), Function.update_comm hApart]

/-- The second is asked for whether or not the first was judged before. -/
private theorem asked_judged {other : VerifiedSource} {change' : Shelf.Change} :
    (w.judged (w.judged s a found change).2.2 b other change').2.1 =
      (w.judged s b other change').2.1 := by
  change (if ((w.judged s a found change).2.2.cached (keyOf b)).isNone then [keyOf b] else []) = _
  rw [cached_judged hApart]
  rfl

/-- Records of different contracts that are judged come to the same in either order. -/
theorem step?_apart {first second : Outcome} (hA : Wanted w.settings a) (hB : Wanted w.settings b)
    (hFirst : w.step? s a = some (first, asked, next))
    (hSecond : w.step? next b = some (second, more, last)) :
    ∃ middle, w.step? s b = some (second, more, middle) ∧
      w.step? middle a = some (first, asked, last) := by
  have hOther := Ne.symm hApart
  obtain ⟨found, change, hFound, hChange, hResult⟩ := step?_eq_some hA hFirst
  obtain rfl : (w.judged s a found change).2.2 = next := by rw [hResult]
  obtain ⟨other, change', hFound', hChange', hResult'⟩ := step?_eq_some hB hSecond
  rw [found?_judged hApart] at hFound'
  rw [change?_judged hApart hChange] at hChange'
  refine ⟨(w.judged s b other change').2.2, ?_, ?_⟩
  · rw [step?_of_wanted hB hFound' hChange']
    have hAsked : (w.judged s b other change').2.1 = more := by
      rw [← asked_judged hApart, hResult']
    have hOutcome : (w.judged s b other change').1 = second := congrArg Prod.fst hResult'
    rw [← hAsked, ← hOutcome]
  · have hFoundAgain : w.found? (w.judged s b other change').2.2 (keyOf a) = some found := by
      rw [found?_judged hOther, hFound]
    have hChangeAgain : w.change? (w.judged s b other change').2.2 a found = some change := by
      rw [change?_judged hOther hChange', hChange]
    rw [step?_of_wanted hA hFoundAgain hChangeAgain]
    have hAsked : (w.judged (w.judged s b other change').2.2 a found change).2.1 = asked := by
      rw [asked_judged hOther, hResult]
    have hOutcome : (w.judged (w.judged s b other change').2.2 a found change).1 = first :=
      congrArg Prod.fst hResult
    have hLast : (w.judged (w.judged s b other change').2.2 a found change).2.2 = last := by
      rw [← judged_comm hApart, hResult']
    rw [← hAsked, ← hOutcome, ← hLast]

end Apart

/-- Two records come to the same in either order. Those of one contract change places
without a difference, so the outcomes are the same by contract only. -/
theorem step?_swap {first second : Outcome}
    (hFirst : w.step? s a = some (first, asked, next))
    (hSecond : w.step? next b = some (second, more, last)) :
    ∃ second' more' middle first' asked', w.step? s b = some (second', more', middle) ∧
      w.step? middle a = some (first', asked', last) ∧
      [(keyOf a, first), (keyOf b, second)].Perm [(keyOf b, second'), (keyOf a, first')] ∧
      (asked ++ more).Perm (more' ++ asked') := by
  have hSwapped {middle : Slate} (hB : w.step? s b = some (second, more, middle))
      (hA : w.step? middle a = some (first, asked, last)) :
      ∃ second' more' middle first' asked', w.step? s b = some (second', more', middle) ∧
        w.step? middle a = some (first', asked', last) ∧
        [(keyOf a, first), (keyOf b, second)].Perm [(keyOf b, second'), (keyOf a, first')] ∧
        (asked ++ more).Perm (more' ++ asked') :=
    ⟨second, more, middle, first, asked, hB, hA, List.Perm.swap _ _ _, List.perm_append_comm⟩
  by_cases hA : Wanted w.settings a
  · by_cases hB : Wanted w.settings b
    · by_cases hKeys : keyOf a = keyOf b
      · refine ⟨first, asked, next, second, more, ?_, ?_, ?_, List.Perm.refl _⟩
        · rw [← step?_congr hKeys hA hB, hFirst]
        · rw [step?_congr hKeys hA hB, hSecond]
        · rw [hKeys]
      · obtain ⟨middle, hFirst', hSecond'⟩ := step?_apart hKeys hA hB hFirst hSecond
        exact hSwapped hFirst' hSecond'
    · rw [step?_of_not_wanted hB] at hSecond
      cases hSecond
      exact hSwapped (step?_of_not_wanted hB) hFirst
  · rw [step?_of_not_wanted hA] at hFirst
    cases hFirst
    exact hSwapped hSecond (step?_of_not_wanted hA)

/-- What is read depends on the slate and the records alone. -/
theorem Reads.unique {outcomes' : List (CacheKey × Outcome)} {asked' : List CacheKey} {last' : Slate}
    (h : Reads w s records outcomes asked last) (h' : Reads w s records outcomes' asked' last') :
    outcomes = outcomes' ∧ asked = asked' ∧ last = last' := by
  induction h generalizing outcomes' asked' with
  | done =>
      cases h'
      exact ⟨rfl, rfl, rfl⟩
  | step hStep _ ih =>
      cases h' with
      | step hStep' hRest' =>
          rw [hStep] at hStep'
          cases hStep'
          obtain ⟨rfl, rfl, rfl⟩ := ih hRest'
          exact ⟨rfl, rfl, rfl⟩

/-- Records can be read in any order. -/
theorem Reads.perm (h : Reads w s records outcomes asked last) (hPerm : records.Perm records') :
    ∃ outcomes' asked', Reads w s records' outcomes' asked' last ∧
      outcomes.Perm outcomes' ∧ asked.Perm asked' := by
  induction hPerm generalizing s outcomes asked with
  | nil => exact ⟨outcomes, asked, h, .refl _, .refl _⟩
  | cons record _ ih =>
      cases h with
      | step hStep hRest =>
          obtain ⟨outcomes', asked', hReads, hOutcomes, hAsked⟩ := ih hRest
          exact ⟨_, _, .step hStep hReads, hOutcomes.cons _, hAsked.append_left _⟩
  | swap a b rest =>
      cases h with
      | step hFirst hRest =>
          cases hRest with
          | step hSecond hRest =>
              obtain ⟨_, _, middle, _, _, hFirst', hSecond', hOutcomes, hAsked⟩ :=
                step?_swap hFirst hSecond
              refine ⟨_, _, .step hFirst' (.step hSecond' hRest), hOutcomes.append_right _, ?_⟩
              rw [← List.append_assoc, ← List.append_assoc]
              exact hAsked.append_right _
  | trans _ _ ihFirst ihSecond =>
      obtain ⟨_, _, hMiddle, hOutcomes, hAsked⟩ := ihFirst h
      obtain ⟨outcomes', asked', hReads, hOutcomes', hAsked'⟩ := ihSecond hMiddle
      exact ⟨outcomes', asked', hReads, hOutcomes.trans hOutcomes', hAsked.trans hAsked'⟩

end Scene

/-- The outcomes among some events, by contract. -/
def Event.verdicts (events : List Event) : List (CacheKey × Outcome) :=
  (Event.outcomes events).map fun seen => (keyOf seen.1, seen.2)

/-- Notes are no verdicts. -/
theorem Event.verdicts_noting (events : List Event) (notes : List Note) :
    Event.verdicts (events ++ notes.map .noted) = Event.verdicts events := by
  rw [verdicts, outcomes_append, outcomes_noted, List.append_nil, verdicts]

/-- Notes ask for no contract. -/
theorem Event.contracts_noting (events : List Event) (notes : List Note) :
    Event.contracts (events ++ notes.map .noted) = Event.contracts events := by
  rw [contracts_append, contracts_noted, List.append_nil]

namespace Scan

variable {σ : Type} {settings : Settings} {explorer : Explorer σ} {w : Scene}
variable {desk desk' : Desk σ} {record : Record} {records records' : List Record}
variable {network : Network} {address : String} {found : VerifiedSource} {change : Shelf.Change}
variable {outcome : Outcome} {asked : List CacheKey} {next last : Slate}

/-! ### The slate of a desk -/

def slate (desk : Desk σ) : Slate :=
  ⟨desk.files.at?, fun key => (desk.cache.get? desk.files key).1⟩

/-- The desk is one of a scene: it has the scene's keys and working directory, a cache in
memory, and files among which the shelf can be reached. -/
structure Stage (w : Scene) (desk : Desk σ) : Prop where
  memory : ∃ known, desk.cache = .memory known
  keyed : ∀ n, desk.keys.contains n = w.keyed n
  home : desk.files.home = w.tree.home
  nested : desk.files.Nested
  reached : desk.files.Walks w.settings.shelf.root

/-- The trace does not matter to the stage. -/
theorem Stage.happened (h : Stage w desk) (events : List Event) : Stage w (desk.happened events) :=
  ⟨h.memory, h.keyed, h.home, h.nested, h.reached⟩

/-- Fetches keep the stage. -/
theorem Stage.fetch (h : Stage w desk) (explorer : Explorer σ) (network : Network) (address : String) :
    Stage w (fetch explorer desk network address).2 := by
  obtain ⟨known, hMemory⟩ := h.memory
  have hKeyed (n : Network) := (fetch_contains explorer desk network address n).trans (h.keyed n)
  rcases fetch_stores explorer desk network address with
    ⟨hCache, hFiles⟩ | ⟨_, _, response, _, _, _, _, hCache, hFiles, _⟩
  · refine ⟨⟨known, by rw [hCache, hMemory]⟩, hKeyed, ?_, ?_, ?_⟩ <;> rw [hFiles]
    exacts [h.home, h.nested, h.reached]
  · rw [hMemory] at hCache hFiles
    refine ⟨⟨_, hCache⟩, hKeyed, ?_, ?_, ?_⟩ <;> rw [hFiles]
    exacts [h.home, h.nested, h.reached]

/-- On a stage answers stay what they are. -/
theorem Stage.steady (h : Stage w desk) (explorer : Explorer σ) (keys : List CacheKey) :
    Steady explorer keys desk.cache desk.files := by
  obtain ⟨known, hMemory⟩ := h.memory
  rw [hMemory]
  exact ⟨trivial, trivial, fun _ _ _ _ _ => trivial⟩

theorem slate_keeping {known : List (CacheKey × Json)} (hMemory : desk.cache = .memory known)
    (key : CacheKey) (response : Json) :
    slate (keeping desk key response) =
      { slate desk with cached := Function.update (slate desk).cached key (some response) } := by
  have hPut : desk.cache.put desk.files key response =
      (.ok (), .memory (Assoc.set key response known), desk.files) := by
    rw [hMemory]
    rfl
  ext1
  · rw [slate, keeping, hPut]
    rfl
  · funext other
    rw [slate, keeping, hPut]
    simp only [slate, hMemory, Cache.get?, Assoc.get?_set, Function.update_apply]

/-- A source is got if it is found, and its answer is cached then. -/
theorem fetch_slate (hAnswers : explorer.Answers w.answers) (h : Stage w desk) (network : Network)
    (address : String) :
    (fetch explorer desk network address).1.toOption = w.found? (slate desk) ⟨network, address⟩ ∧
      ∀ found, (fetch explorer desk network address).1 = .ok found →
        slate (fetch explorer desk network address).2 = { slate desk with
          cached := Function.update (slate desk).cached ⟨network, address⟩
            (w.response? (slate desk) ⟨network, address⟩) } := by
  obtain ⟨known, hMemory⟩ := h.memory
  have hCases := fetched explorer desk network address
  generalize fetch explorer desk network address = result at hCases ⊢
  have hKeyed : w.keyed network = (desk.keys.draw? network).isSome := by
    rw [KeyRing.isSome_draw?, h.keyed]
  have hAsked {key : String} {keys : KeyRing}
      (hNew : (slate desk).cached ⟨network, address⟩ = none)
      (hKeys : desk.keys.draw? network = some (key, keys)) :
      w.response? (slate desk) ⟨network, address⟩ =
        (answerTo explorer desk (queryFor explorer network address key)).toOption := by
    have hAnswer : answerTo explorer desk (queryFor explorer network address key) =
        w.answers ⟨network, address⟩ := hAnswers _ _
    rw [Scene.response?_of_unknown hNew, hKeyed, hKeys, hAnswer]
    rfl
  unfold Scene.found?
  cases hCases with
  | @known response notes hFound =>
      have hCached : (slate desk).cached ⟨network, address⟩ = some response := hFound
      rw [Scene.response?_of_cached hCached]
      refine ⟨?_, fun found _ => ?_⟩
      · cases hSource : VerifiedSource.ofResponse response <;>
          simp [sourceOf, hSource, Except.toOption, Except.mapError]
      · rw [← hCached, Function.update_eq_self]
        rfl
  | @keyless notes hNew hKeys =>
      rw [Scene.response?_of_unknown hNew, hKeyed, hKeys]
      exact ⟨rfl, fun found hGot => by cases hGot⟩
  | @refused notes key keys fault hNew hKeys hAnswer =>
      rw [hAsked hNew hKeys, hAnswer]
      exact ⟨rfl, fun found hGot => by cases hGot⟩
  | @malformed notes key keys response what hNew hKeys hAnswer hSource =>
      rw [hAsked hNew hKeys, hAnswer]
      refine ⟨?_, fun found hGot => by cases hGot⟩
      rw [Except.toOption, Except.toOption, Option.bind_some, hSource, Except.toOption]
  | @kept notes key keys response found hNew hKeys hAnswer hSource =>
      rw [hAsked hNew hKeys, hAnswer, hMemory]
      refine ⟨?_, fun _ _ => slate_keeping hMemory _ _⟩
      rw [Except.toOption, Option.bind_some, hSource]
      rfl

/-- A source that is judged makes the change that the slate asks for. -/
theorem judge_slate (h : Stage w desk) (hAddress : '/' ∉ record.address.toList)
    (hJudge : judge w.settings desk record found = (.ok outcome, desk')) :
    ∃ change, w.change? (slate desk) record found = some change ∧
      outcome = outcomeOf w.settings found change ∧ Stage w desk' ∧
      slate desk' = { slate desk with
        entries := w.settings.shelf.after w.tree record.network record.address found.source
          (slate desk).entries change } := by
  obtain ⟨known, hMemory⟩ := h.memory
  obtain ⟨change, t', notes, hFollow, rfl⟩ := judge_eq_ok (congrArg Prod.fst hJudge)
  rw [judge_eq, hFollow] at hJudge
  obtain rfl := (Prod.mk.inj hJudge).2
  rw [follow] at hFollow
  have hTouches := Shelf.update_touches w.settings.shelf desk.files record.network hAddress
    found.source (assessment w.settings found).vulnerable
  obtain ⟨hChange, hNested, hHome, hAt⟩ := Shelf.update_eq_ok h.nested h.reached hAddress hFollow
  rw [hFollow] at hTouches
  refine ⟨change, ?_, rfl, ⟨h.memory, h.keyed, hHome.trans h.home, hNested,
    hTouches.toKeepsDirectories.walks h.reached⟩, ?_⟩
  · rw [← hChange]
    exact (Shelf.change?_of_home h.home).symm
  · ext1
    · rw [← Shelf.after_of_home h.home]
      exact hAt
    · simp only [slate, Desk.noting_cache, hMemory]
      rfl

/-- A verdict fails only where the slate has no change for it. -/
theorem judge_slate_error {e : ScanError} (h : Stage w desk) (hAddress : '/' ∉ record.address.toList)
    (hJudge : (judge w.settings desk record found).1 = .error e) :
    w.change? (slate desk) record found = none := by
  by_contra hSome
  obtain ⟨change, hChange⟩ := Option.ne_none_iff_exists'.mp hSome
  rw [Scene.change?, ← Shelf.change?_of_home h.home] at hChange
  obtain ⟨made, hMade⟩ := Shelf.update_of_change? h.reached hAddress hChange
  rw [judge_eq, follow, hMade] at hJudge
  cases hJudge

/-- Processing a record does the step of the slate. -/
theorem process_slate (hAnswers : explorer.Answers w.answers) (h : Stage w desk)
    (hAddress : '/' ∉ record.address.toList)
    (hProcess : process w.settings explorer desk record = (.ok outcome, desk')) :
    Stage w desk' ∧ ∃ events, desk'.trace = desk.trace ++ events ∧ Event.outcomes events = [] ∧
      w.step? (slate desk) record = some (outcome, Event.contracts events, slate desk') := by
  have hCases := processed w.settings explorer desk record
  generalize process w.settings explorer desk record = result at hCases hProcess
  cases hCases with
  | skipped hOther =>
      cases hProcess
      refine ⟨h, [], by simp, rfl, ?_⟩
      rw [Scene.step?_of_not_wanted (fun hWanted => by simp [hWanted.1] at hOther), passed, hOther]
      rfl
  | suppressed hAffected hReviewed =>
      cases hProcess
      refine ⟨h, [], by simp, rfl, ?_⟩
      rw [Scene.step?_of_not_wanted (fun hWanted => by simp [hWanted.2] at hReviewed), passed, hAffected]
      rfl
  | unfetched => cases hProcess
  | @judged found middle hWanted hFetch =>
      have hMiddle := h.fetch explorer record.network record.address
      obtain ⟨hFound, hGot⟩ := fetch_slate hAnswers h record.network record.address
      obtain ⟨⟨events, hTrace, hContracts⟩, _⟩ := fetch_asks (h.steady explorer [keyOf record])
        List.mem_cons_self (congrArg Prod.fst hFetch)
      obtain ⟨recorded, hRecorded, hOutcomes, _⟩ :=
        fetch_trace explorer desk record.network record.address
      obtain rfl : recorded = events := List.append_cancel_left (hRecorded.symm.trans hTrace)
      rw [hFetch] at hFound hGot hMiddle hTrace
      obtain ⟨change, hChange, rfl, hLast, hSlate⟩ := judge_slate hMiddle hAddress hProcess
      obtain ⟨notes, hNotes⟩ := judge_trace w.settings middle record found
      rw [hProcess] at hNotes
      rw [hGot found rfl] at hChange hSlate
      refine ⟨hLast, recorded ++ notes.map .noted, ?_, ?_, ?_⟩
      · rw [hNotes, hTrace, List.append_assoc]
      · rw [Event.outcomes_append, Event.outcomes_noted, hOutcomes, List.append_nil]
      · rw [Scene.step?_of_wanted hWanted hFound.symm hChange, Event.contracts_append,
          Event.contracts_noted, List.append_nil, hContracts, hSlate]
        rfl

/-- A record that fails has no step. -/
theorem process_slate_error {e : ScanError} (hAnswers : explorer.Answers w.answers) (h : Stage w desk)
    (hAddress : '/' ∉ record.address.toList)
    (hProcess : process w.settings explorer desk record = (.error e, desk')) :
    w.step? (slate desk) record = none := by
  have hCases := processed w.settings explorer desk record
  generalize process w.settings explorer desk record = result at hCases hProcess
  cases hCases with
  | skipped => cases hProcess
  | suppressed => cases hProcess
  | unfetched hWanted hFetch =>
      have hFound := (fetch_slate hAnswers h record.network record.address).1
      rw [hFetch] at hFound
      rw [Scene.step?, if_pos hWanted, keyOf, ← hFound]
      rfl
  | @judged found middle hWanted hFetch =>
      have hMiddle := h.fetch explorer record.network record.address
      obtain ⟨hFound, hGot⟩ := fetch_slate hAnswers h record.network record.address
      rw [hFetch] at hFound hGot hMiddle
      have hNone := judge_slate_error hMiddle hAddress (congrArg Prod.fst hProcess)
      rw [hGot found rfl] at hNone
      rw [Scene.step?, if_pos hWanted, keyOf, ← hFound, Except.toOption, Option.bind_some]
      exact Option.map_eq_none_iff.mpr hNone

/-! ### Runs -/

/-- Records that are processed without an error are read. -/
theorem reads_of_processAll (hAnswers : explorer.Answers w.answers) (h : Stage w desk)
    (hAddresses : ∀ record ∈ records, '/' ∉ record.address.toList) {outcomes : List Outcome}
    (hAll : processAll w.settings explorer desk records = (.ok outcomes, desk')) :
    Stage w desk' ∧ ∃ events, desk'.trace = desk.trace ++ events ∧
      outcomes = (Event.verdicts events).map Prod.snd ∧
      w.Reads (slate desk) records (Event.verdicts events) (Event.contracts events) (slate desk') := by
  induction records generalizing desk outcomes with
  | nil =>
      cases hAll
      exact ⟨h, [], by simp, rfl, .done _⟩
  | cons record rest ih =>
      rw [processAll] at hAll
      rcases hProcess : process w.settings explorer desk record with ⟨result, middle⟩
      rw [hProcess] at hAll
      cases result with
      | error e => cases hAll
      | ok outcome =>
          obtain ⟨hMiddle, events, hTrace, hOutcomes, hStep⟩ :=
            process_slate hAnswers h (hAddresses record List.mem_cons_self) hProcess
          rcases hRest : processAll w.settings explorer (middle.happened [.judged record outcome]) rest
            with ⟨later, final⟩
          simp only [hRest] at hAll
          cases later with
          | error e => cases hAll
          | ok later =>
              cases hAll
              obtain ⟨hLast, more, hMore, rfl, hReads⟩ := ih (hMiddle.happened _)
                (fun other hMem => hAddresses other (List.mem_cons_of_mem record hMem)) hRest
              have hVerdicts : Event.verdicts (events ++ [.judged record outcome] ++ more) =
                  (keyOf record, outcome) :: Event.verdicts more := by
                rw [Event.verdicts, Event.outcomes_append, Event.outcomes_append, hOutcomes]
                rfl
              have hContracts : Event.contracts (events ++ [.judged record outcome] ++ more) =
                  Event.contracts events ++ Event.contracts more := by
                rw [Event.contracts_append, Event.contracts_append, Event.contracts_judged,
                  List.append_nil]
              refine ⟨hLast, events ++ [.judged record outcome] ++ more, ?_, ?_, ?_⟩
              · rw [hMore, Desk.happened_trace, hTrace]
                simp only [List.append_assoc]
              · rw [hVerdicts, List.map_cons]
              · rw [hVerdicts, hContracts]
                exact .step hStep hReads

/-- Records that can be read are processed without an error. -/
theorem processAll_of_reads {outcomes : List (CacheKey × Outcome)}
    (hAnswers : explorer.Answers w.answers) (h : Stage w desk)
    (hAddresses : ∀ record ∈ records, '/' ∉ record.address.toList)
    (hReads : w.Reads (slate desk) records outcomes asked last) :
    ∃ found desk', processAll w.settings explorer desk records = (.ok found, desk') := by
  induction records generalizing desk outcomes asked with
  | nil => exact ⟨_, _, rfl⟩
  | cons record rest ih =>
      cases hReads with
      | @step _ next _ _ _ first _ _ _ hStep hRest =>
          rw [processAll]
          rcases hProcess : process w.settings explorer desk record with ⟨result, middle⟩
          have hAddress := hAddresses record List.mem_cons_self
          cases result with
          | error e =>
              rw [process_slate_error hAnswers h hAddress hProcess] at hStep
              cases hStep
          | ok outcome =>
              obtain ⟨hMiddle, events, _, _, hStep'⟩ := process_slate hAnswers h hAddress hProcess
              rw [hStep] at hStep'
              cases hStep'
              obtain ⟨later, final, hLater⟩ := ih (hMiddle.happened [.judged record first])
                (fun other hMem => hAddresses other (List.mem_cons_of_mem record hMem)) hRest
              exact ⟨_, final, by simp only [hLater]; rfl⟩

/-- The records can be processed in any order. -/
theorem processAll_perm (hAnswers : explorer.Answers w.answers) (h : Stage w desk)
    (hAddresses : ∀ record ∈ records, '/' ∉ record.address.toList) (hPerm : records.Perm records')
    {outcomes : List Outcome}
    (hAll : processAll w.settings explorer desk records = (.ok outcomes, desk')) :
    ∃ outcomes' last events events',
      processAll w.settings explorer desk records' = (.ok outcomes', last) ∧
      outcomes.Perm outcomes' ∧ desk'.trace = desk.trace ++ events ∧
      last.trace = desk.trace ++ events' ∧ (Event.verdicts events).Perm (Event.verdicts events') ∧
      (Event.contracts events).Perm (Event.contracts events') ∧
      last.files.home = desk'.files.home ∧ slate last = slate desk' := by
  have hAddresses' : ∀ record ∈ records', '/' ∉ record.address.toList := fun record hMem =>
    hAddresses record (hPerm.mem_iff.mpr hMem)
  obtain ⟨hLast, events, hTrace, rfl, hReads⟩ := reads_of_processAll hAnswers h hAddresses hAll
  obtain ⟨seen, asked, hReads', hSeen, hAsked⟩ := hReads.perm hPerm
  obtain ⟨outcomes', last, hAll'⟩ := processAll_of_reads hAnswers h hAddresses' hReads'
  obtain ⟨hLast', events', hTrace', rfl, hRead⟩ := reads_of_processAll hAnswers h hAddresses' hAll'
  obtain ⟨rfl, rfl, hSlate⟩ := hReads'.unique hRead
  exact ⟨_, last, events, events', hAll', hSeen.map Prod.snd, hTrace, hTrace', hSeen, hAsked,
    hLast'.home.trans hLast.home.symm, hSlate.symm⟩

/-- A desk whose shelf has just been prepared is one of the scene of its files. -/
theorem stage_of_prepare {files : FileTree} (answers : CacheKey → Except QueryFault Json)
    {known : List (CacheKey × Json)} (hMemory : desk.cache = .memory known)
    (hNested : desk.files.Nested)
    (hPrepare : settings.shelf.prepare desk.files network = (.ok (), files)) :
    Stage ⟨settings, answers, desk.keys.contains, files⟩ { desk with files := files } where
  memory := ⟨known, hMemory⟩
  keyed _ := rfl
  home := rfl
  nested := hNested.makeDirectories (Shelf.prepare_eq_ok hPrepare)
  reached := FileTree.walks_parent (Shelf.plain_network network) (Shelf.prepare_isDirectory hPrepare)

/-- Counting does not depend on the order of the outcomes. -/
theorem ofOutcomes_perm {outcomes outcomes' : List Outcome} (h : outcomes.Perm outcomes') :
    Tally.ofOutcomes outcomes = Tally.ofOutcomes outcomes' := by
  refine h.foldl_eq' (fun first _ second _ tally => ?_) _
  cases first <;> cases second <;> rfl

/-- The records of a scan can stand in any order. With a cache in memory and an explorer
whose answers depend on the contract alone, a scan that succeeds does so for the same
records in any other order, and comes to the same: the summary, the outcomes of each
contract, the contracts that were asked for, the files and the cached answers. The files
are any in which everything stands in a directory. -/
theorem scanNetwork_perm (settings : Settings) (explorer : Explorer σ) (desk : Desk σ)
    (network : Network) {records records' : List Record} (hPerm : records.Perm records')
    {answers : CacheKey → Except QueryFault Json} (hAnswers : explorer.Answers answers)
    {known : List (CacheKey × Json)} (hMemory : desk.cache = .memory known)
    (hNested : desk.files.Nested)
    (hPlain : ∀ record ∈ records, Export.isPlainAddress record.address.toList = true)
    {summary : NetworkSummary} {final : Desk σ}
    (hScan : scanNetwork settings explorer desk network records = (.ok summary, final)) :
    ∃ final', scanNetwork settings explorer desk network records' = (.ok summary, final') ∧
      (∃ events events', final.trace = desk.trace ++ events ∧ final'.trace = desk.trace ++ events' ∧
        (Event.verdicts events).Perm (Event.verdicts events') ∧
        (Event.contracts events).Perm (Event.contracts events')) ∧
      final'.files.home = final.files.home ∧ final'.files.at? = final.files.at? ∧
      ∀ key, (final'.cache.get? final'.files key).1 = (final.cache.get? final.files key).1 := by
  have hAddresses : ∀ record ∈ records, '/' ∉ record.address.toList := fun record hMem =>
    Record.Proper.noSeparator ⟨rfl, hPlain record hMem⟩
  obtain ⟨files, outcomes, last, hPrepare, hAll, rfl, rfl⟩ := scanNetwork_eq_ok_iff.mp hScan
  have hStage := stage_of_prepare answers hMemory hNested hPrepare
  obtain ⟨outcomes', last', events, events', hAll', hOutcomes, hTrace, hTrace', hSeen, hAsked, hHome,
    hSlate⟩ := processAll_perm hAnswers hStage hAddresses hPerm hAll
  have hSummary : (⟨network, Tally.ofOutcomes outcomes⟩ : NetworkSummary) =
      ⟨network, Tally.ofOutcomes outcomes'⟩ := by rw [ofOutcomes_perm hOutcomes]
  let notes : List Note := [.networkScanned ⟨network, Tally.ofOutcomes outcomes⟩]
  refine ⟨last'.noting notes,
    scanNetwork_eq_ok_iff.mpr ⟨files, outcomes', last', hPrepare, hAll', hSummary, rfl⟩,
    ⟨events ++ notes.map .noted, events' ++ notes.map .noted, ?_, ?_, ?_, ?_⟩, hHome,
    congrArg Slate.entries hSlate, fun key => congrFun (congrArg Slate.cached hSlate) key⟩
  · rw [Desk.noting_trace, hTrace, List.append_assoc]
  · rw [Desk.noting_trace, hTrace', List.append_assoc]
  · rw [Event.verdicts_noting, Event.verdicts_noting]
    exact hSeen
  · rw [Event.contracts_noting, Event.contracts_noting]
    exact hAsked

end Scan

namespace Scan.Turns

/-- A contract stands twice among the records, and its saved file goes with the first. -/
def unordered : List Record :=
  [⟨.poly, "0xB", "0.3.0"⟩, ⟨.poly, "0xC", "0.2.0"⟩, ⟨.poly, "0xA", "0.3.0"⟩, ⟨.poly, "0xB", "0.2.15 "⟩]

theorem scanNetwork_perm_turns :
    ∃ final final',
      scanNetwork settings thorough ⟨files, .memory [], keys, (), []⟩ .poly unordered =
        (.ok ⟨.poly, ⟨4, 1, 0, 1, 1, 1⟩⟩, final) ∧
      scanNetwork settings thorough ⟨files, .memory [], keys, (), []⟩ .poly unordered.reverse =
        (.ok ⟨.poly, ⟨4, 1, 0, 1, 1, 1⟩⟩, final') ∧
      final'.files.at? = final.files.at? := by
  have hSummary : (scanNetwork settings thorough ⟨files, .memory [], keys, (), []⟩ .poly unordered).1.toOption =
      some ⟨.poly, ⟨4, 1, 0, 1, 1, 1⟩⟩ := by decide +kernel
  rcases hScan : scanNetwork settings thorough ⟨files, .memory [], keys, (), []⟩ .poly unordered
    with ⟨result, final⟩
  rw [hScan] at hSummary
  cases result with
  | error e => cases hSummary
  | ok summary =>
      obtain rfl := Option.some.inj hSummary
      have hNested : files.Nested := FileTree.nested_of_entries (by decide +kernel) (by decide +kernel)
      have hAnswers : thorough.Answers fun key =>
          .ok (document (if key.address = "0xA" then vulnerable else "")) := fun _ _ => rfl
      obtain ⟨final', hScan', _, _, hFiles, _⟩ := scanNetwork_perm settings thorough
        ⟨files, .memory [], keys, (), []⟩ .poly unordered.reverse_perm.symm hAnswers rfl hNested
        (by decide +kernel) hScan
      exact ⟨final, final', rfl, hScan', hFiles⟩

end Scan.Turns

end LockTriage
