import LockTriage.Proofs.Scan.Saved

/-!
What a scan writes on the shelf, told by the files alone. The scan of a network comes to its records
one after another. At the turn of a record whose source is got there is a tree before the verdict on
it is followed and one after, and the file of the contract is written if the second is the first with
that file written. That is so exactly if the contract is flagged, and then the file holds its source.
-/

namespace LockTriage

namespace Shelf

variable {s : Shelf} {t t' : FileTree} {network : Network} {address source : String}
variable {content content' : Bytes} {vulnerable : Bool} {change : Change} {notes : List Note}

/-- From one tree to another the file of a contract is written, after directories for it were made
if need be. -/
def Writes (s : Shelf) (network : Network) (address : String) (content : Bytes) (t t' : FileTree) :
    Prop :=
  ∃ made, FileTree.Grown t made ∧ made.write (s.place network address) content = .ok t'

/-- The file holds what was written. -/
theorem Writes.read (h : s.Writes network address content t t') (hAddress : '/' ∉ address.toList) :
    t'.read (s.place network address) = .ok content := by
  obtain ⟨made, _, hWrite⟩ := h
  exact FileTree.read_write_same (plain_title hAddress) hWrite

/-- A file that is written has one content. -/
theorem Writes.content_eq (h : s.Writes network address content t t')
    (h' : s.Writes network address content' t t') (hAddress : '/' ∉ address.toList) :
    content = content' := by
  have hRead := h.read hAddress
  rw [h'.read hAddress] at hRead
  exact (Except.ok.inj hRead).symm

/-- A verdict writes the source of a vulnerable contract, and writes no file of any other. -/
theorem writes_of_update (hAddress : '/' ∉ address.toList)
    (h : s.update t network address source vulnerable = (.ok change, t', notes)) :
    (change = .written ∧ s.Writes network address (Bytes.ofText source) t t') ∨
      (change ≠ .written ∧ ∀ content, ¬ s.Writes network address content t t') := by
  have hTitle := plain_title hAddress
  have hCases := updated s t network address source vulnerable
  rw [h] at hCases
  cases hCases with
  | saved hMade hWrite => exact .inl ⟨rfl, _, prepare_grown hMade, hWrite⟩
  | removed hRemove =>
      refine .inr ⟨by simp, fun content hWrites => ?_⟩
      have hThere := ((FileTree.read_join_iff hTitle).mp (hWrites.read hAddress)).2
      rw [FileTree.child?_removeFile hTitle hRemove] at hThere
      cases hThere
  | absent hAbsent =>
      refine .inr ⟨by simp, fun content hWrites => ?_⟩
      rw [FileTree.pathExists_of_read (hWrites.read hAddress)] at hAbsent
      cases hAbsent

end Shelf

namespace Scan

variable {σ : Type} {settings : Settings} {explorer : Explorer σ} {desk final : Desk σ}
variable {network : Network} {record : Record} {records : List Record} {outcome : Outcome}
variable {found : VerifiedSource}
variable {before after : FileTree} {content : Bytes} {seen : List (Record × Outcome)}

/-! ### Turns -/

/-- When records have their outcomes, those before one of them were processed first, and then that
one was. -/
theorem processAll_split {sooner latter : List (Record × Outcome)}
    (h : processAll settings explorer desk ((sooner ++ (record, outcome) :: latter).map Prod.fst) =
      (.ok ((sooner ++ (record, outcome) :: latter).map Prod.snd), final)) :
    ∃ reached next,
      processAll settings explorer desk (sooner.map Prod.fst) = (.ok (sooner.map Prod.snd), reached) ∧
      process settings explorer reached record = (.ok outcome, next) := by
  induction sooner generalizing desk with
  | nil =>
      obtain ⟨outcome', next, rest, hProcess, _, hOutcomes⟩ := processAll_cons_eq_ok h
      obtain ⟨rfl, _⟩ := List.cons.inj hOutcomes
      exact ⟨desk, next, rfl, hProcess⟩
  | cons first sooner ih =>
      obtain ⟨outcome', middle, rest, hProcess, hRest, hOutcomes⟩ := processAll_cons_eq_ok h
      obtain ⟨rfl, rfl⟩ := List.cons.inj hOutcomes
      obtain ⟨reached, next, hSooner, hTurn⟩ := ih hRest
      refine ⟨reached, next, ?_, hTurn⟩
      rw [List.map_cons, processAll, hProcess]
      dsimp only
      rw [hSooner]
      rfl

/-- The scan of a network comes to a record, gets its source and follows the verdict on it: the
files before that, and those after. -/
inductive Turn (settings : Settings) (explorer : Explorer σ) (desk : Desk σ) (network : Network)
    (records : List Record) (record : Record) (found : VerifiedSource) :
    FileTree → FileTree → Prop where
  | intro {made : FileTree} {earlier later : List Record} {first : List Outcome}
      {reached middle next : Desk σ} {outcome : Outcome}
      (hMade : settings.shelf.prepare desk.files network = (.ok (), made))
      (hSplit : records = earlier ++ record :: later)
      (hEarlier : processAll settings explorer { desk with files := made } earlier =
        (.ok first, reached))
      (hWanted : Wanted settings record)
      (hFetch : fetch explorer reached record.network record.address = (.ok found, middle))
      (hJudge : judge settings middle record found = (.ok outcome, next)) :
      Turn settings explorer desk network records record found middle.files next.files

/-- The scan of a network writes the file of a record when its turn has come. -/
def WritesFile (settings : Settings) (explorer : Explorer σ) (desk : Desk σ) (network : Network)
    (records : List Record) (record : Record) (content : Bytes) : Prop :=
  ∃ found before after, Turn settings explorer desk network records record found before after ∧
    settings.shelf.Writes record.network record.address content before after

theorem WritesFile.mem (h : WritesFile settings explorer desk network records record content) :
    record ∈ records := by
  obtain ⟨_, _, _, hTurn, _⟩ := h
  cases hTurn with
  | intro _ hSplit => rw [hSplit]; simp

/-- A verdict writes the file of a contract exactly if the contract is flagged. -/
theorem writes_of_judge {middle next : Desk σ} (hAddress : '/' ∉ record.address.toList)
    (h : judge settings middle record found = (.ok outcome, next)) :
    (outcome = .flagged found.compilerVersion (assessment settings found) ∧
        settings.shelf.Writes record.network record.address (Bytes.ofText found.source)
          middle.files next.files) ∨
      (outcome.isFlagged = false ∧ ∀ content,
        ¬ settings.shelf.Writes record.network record.address content middle.files next.files) := by
  obtain ⟨change, t', notes, hFollow, rfl⟩ := judge_eq_ok (congrArg Prod.fst h)
  obtain rfl : (judge settings middle record found).2 = next := congrArg Prod.snd h
  rw [judge_files, hFollow]
  rw [follow] at hFollow
  rcases Shelf.writes_of_update hAddress hFollow with ⟨rfl, hWrites⟩ | ⟨hOther, hNone⟩
  · exact .inl ⟨rfl, hWrites⟩
  · refine .inr ⟨?_, hNone⟩
    cases change with
    | written => exact absurd rfl hOther
    | removed => rfl
    | unchanged => rfl

section Seen

variable {made : FileTree}
variable (hMade : settings.shelf.prepare desk.files network = (.ok (), made))
variable (hAll : processAll settings explorer { desk with files := made } (seen.map Prod.fst) =
  (.ok (seen.map Prod.snd), final))
include hMade hAll

/-- A record that was flagged has had its turn, at which its source was written to its file. -/
theorem turn_of_flagged {version : String} {a : Assessment} (hMem : (record, .flagged version a) ∈ seen)
    (hAddress : '/' ∉ record.address.toList) :
    ∃ found before after,
      Turn settings explorer desk network (seen.map Prod.fst) record found before after ∧
      version = found.compilerVersion ∧ a = settings.classifier.assess found.source ∧
      settings.shelf.Writes record.network record.address (Bytes.ofText found.source) before after := by
  obtain ⟨sooner, latter, rfl⟩ := List.append_of_mem hMem
  obtain ⟨reached, next, hSooner, hProcess⟩ := processAll_split hAll
  rcases process_eq_ok hProcess with ⟨_, hPassed⟩ | ⟨found, middle, hWanted, hFetch, hJudge⟩
  · cases hPassed ""
  · have hTurn : Turn settings explorer desk network
        ((sooner ++ (record, .flagged version a) :: latter).map Prod.fst) record found
        middle.files next.files :=
      .intro hMade (by rw [List.map_append, List.map_cons]) hSooner hWanted hFetch hJudge
    rcases writes_of_judge hAddress hJudge with ⟨hFlagged, hWrites⟩ | ⟨hUnflagged, _⟩
    · cases hFlagged
      exact ⟨found, _, _, hTurn, rfl, rfl, hWrites⟩
    · cases hUnflagged

/-- A record whose file was written was flagged, and its source was written. -/
theorem flagged_of_turn
    (hTurn : Turn settings explorer desk network (seen.map Prod.fst) record found before after)
    (hAddress : '/' ∉ record.address.toList)
    (hWrites : settings.shelf.Writes record.network record.address content before after) :
    content = Bytes.ofText found.source ∧
      (record, .flagged found.compilerVersion (settings.classifier.assess found.source)) ∈ seen := by
  cases hTurn with
  | @intro made' earlier later first reached middle next outcome hMade' hSplit hEarlier hWanted hFetch
      hJudge =>
    obtain rfl : made = made' := congrArg Prod.snd (hMade.symm.trans hMade')
    obtain ⟨sooner, rest, rfl, rfl, hRest⟩ := List.map_eq_append_iff.mp hSplit
    obtain ⟨⟨_, outcome'⟩, latter, rfl, rfl, rfl⟩ := List.map_eq_cons_iff.mp hRest
    obtain ⟨reached', next', hSooner, hProcess⟩ := processAll_split hAll
    obtain rfl : reached = reached' := congrArg Prod.snd (hEarlier.symm.trans hSooner)
    rw [process_of_wanted hWanted, hFetch] at hProcess
    obtain ⟨hOutcome, _⟩ := Prod.mk.inj (hJudge.symm.trans hProcess)
    obtain rfl := Except.ok.inj hOutcome
    rcases writes_of_judge hAddress hJudge with ⟨rfl, hOwn⟩ | ⟨_, hNone⟩
    · exact ⟨hWrites.content_eq hOwn hAddress, by simp [assessment]⟩
    · exact absurd hWrites (hNone content)

end Seen

end Scan

end LockTriage
