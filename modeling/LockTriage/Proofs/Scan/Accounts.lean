import LockTriage.Proofs.Scan.Again
import LockTriage.Proofs.Scan.Written
import LockTriage.Proofs.Shelf.Confined
import LockTriage.Scan.Document
import Mathlib.Data.Finset.Card
import Mathlib.Data.List.Forall2

/-!
What a report accounts for. Each record that was observed is counted once, under its outcome and
in the summary of its network, and the totals are the sums of the summaries. So a report is a
function of what was observed. No more files are written than there are flagged records, and each
that is written belongs to one of them and is given its source.
-/

namespace LockTriage

/-! ### Counts -/

namespace Outcome

/-- The kinds of outcomes that a tally tells apart. -/
inductive Kind
  | skipped
  | suppressed
  | flagged
  | cleared
  | safe
  deriving DecidableEq, Repr

def kind : Outcome → Kind
  | .skipped _ => .skipped
  | .suppressed => .suppressed
  | .flagged _ _ => .flagged
  | .cleared _ => .cleared
  | .safe _ => .safe

theorem isFlagged_eq (outcome : Outcome) : outcome.isFlagged = decide (outcome.kind = .flagged) := by
  cases outcome <;> rfl

end Outcome

namespace Tally

/-- How many records had an outcome of some kind. -/
def counted (t : Tally) : Outcome.Kind → Nat
  | .skipped => t.skipped
  | .suppressed => t.suppressed
  | .flagged => t.flagged
  | .cleared => t.cleared
  | .safe => t.safe

@[simp] theorem records_count (t : Tally) (outcome : Outcome) :
    (t.count outcome).records = t.records + 1 := by
  cases outcome <;> rfl

/-- Counting an outcome adds one to its kind, and nothing to the others. -/
theorem counted_count (t : Tally) (outcome : Outcome) (kind : Outcome.Kind) :
    (t.count outcome).counted kind = t.counted kind + if outcome.kind = kind then 1 else 0 := by
  cases outcome <;> cases kind <;> rfl

/-- The counts of two tallies are added kind by kind. -/
theorem counted_add (t u : Tally) (kind : Outcome.Kind) :
    (t.add u).counted kind = t.counted kind + u.counted kind := by
  cases kind <;> rfl

/-- The tally has the number of some outcomes, and the number of those of each kind. -/
structure CountsOf (t : Tally) (outcomes : List Outcome) : Prop where
  records : t.records = outcomes.length
  kinds : ∀ kind, t.counted kind = outcomes.countP fun outcome => outcome.kind = kind

/-- One more outcome is counted last. -/
theorem ofOutcomes_concat (outcomes : List Outcome) (outcome : Outcome) :
    ofOutcomes (outcomes ++ [outcome]) = (ofOutcomes outcomes).count outcome := by
  rw [ofOutcomes, List.foldl_append]
  rfl

/-- A tally of outcomes has the number of each kind. -/
theorem countsOf_ofOutcomes (outcomes : List Outcome) : (ofOutcomes outcomes).CountsOf outcomes := by
  induction outcomes using List.reverseRecOn with
  | nil => exact ⟨rfl, fun kind => by cases kind <;> rfl⟩
  | append_singleton outcomes outcome ih =>
      rw [ofOutcomes_concat]
      refine ⟨?_, fun kind => ?_⟩
      · rw [records_count, ih.records, List.length_append, List.length_singleton]
      · rw [counted_count, ih.kinds, List.countP_append, List.countP_singleton]
        simp

/-- Every record is counted under one kind of outcome, and those that were neither skipped nor
suppressed were classified. -/
structure Balanced (t : Tally) : Prop where
  records : t.records = t.skipped + t.suppressed + t.flagged + t.cleared + t.safe
  classified : t.classified = t.records - t.skipped - t.suppressed

theorem balanced_of_records
    {t : Tally} (h : t.records = t.skipped + t.suppressed + t.flagged + t.cleared + t.safe) :
    t.Balanced := by
  refine ⟨h, ?_⟩
  rw [classified]
  omega

/-- A balanced tally is balanced with one more outcome. -/
theorem Balanced.count {t : Tally} (h : t.Balanced) (outcome : Outcome) :
    (t.count outcome).Balanced := by
  have hRecords := h.records
  apply balanced_of_records
  cases outcome <;> simp only [Tally.count] <;> omega

/-- Balanced tallies add up to a balanced one. -/
theorem Balanced.add {t u : Tally} (h : t.Balanced) (h' : u.Balanced) : (t.add u).Balanced := by
  have hRecords := h.records
  have hRecords' := h'.records
  apply balanced_of_records
  simp only [Tally.add]
  omega

theorem balanced_zero : zero.Balanced := balanced_of_records rfl

/-- The tally of any outcomes is balanced. -/
theorem balanced_ofOutcomes (outcomes : List Outcome) : (ofOutcomes outcomes).Balanced := by
  induction outcomes using List.reverseRecOn with
  | nil => exact balanced_zero
  | append_singleton outcomes outcome ih =>
      rw [ofOutcomes_concat]
      exact ih.count outcome

end Tally

namespace Report

variable {r : Report}

/-- A number in the totals is the sum of that number over the networks, if adding two tallies adds
up the number. -/
theorem totals_eq_sum (r : Report) (field : Tally → Nat) (hZero : field Tally.zero = 0)
    (hAdd : ∀ t u, field (t.add u) = field t + field u) :
    field r.totals = (r.summaries.map fun s => field s.tally).sum := by
  have hFold (t : Tally) (summaries : List NetworkSummary) :
      field (summaries.foldl (fun total s => total.add s.tally) t) =
        field t + (summaries.map fun s => field s.tally).sum := by
    induction summaries generalizing t with
    | nil => rfl
    | cons s summaries ih =>
        rw [List.foldl_cons, ih, hAdd, List.map_cons, List.sum_cons, Nat.add_assoc]
  rw [totals, hFold, hZero, Nat.zero_add]

/-- If the tallies of all networks are balanced, so are the totals. -/
theorem balanced_totals (h : ∀ s ∈ r.summaries, s.tally.Balanced) : r.totals.Balanced := by
  have hFold (t : Tally) (ht : t.Balanced) (summaries : List NetworkSummary)
      (h : ∀ s ∈ summaries, s.tally.Balanced) :
      (summaries.foldl (fun total s => total.add s.tally) t).Balanced := by
    induction summaries generalizing t with
    | nil => exact ht
    | cons s summaries ih =>
        simp only [List.mem_cons, forall_eq_or_imp] at h
        exact ih _ (ht.add h.1) h.2
  exact hFold _ Tally.balanced_zero _ h

end Report

namespace Scan

variable {σ : Type} {settings : Settings} {explorer : Explorer σ} {desk desk' : Desk σ}
variable {t : FileTree} {networks : List Network} {summary : NetworkSummary}
variable {summaries : List NetworkSummary} {observed : List (Record × Outcome)}
variable {parts : List (List (Record × Outcome))}

/-! ### The parts of a scan -/

/-- A summary counts the outcomes that were observed for the records of its network's export. -/
structure Summarizes (settings : Settings) (t : FileTree) (summary : NetworkSummary)
    (observed : List (Record × Outcome)) : Prop where
  records : Export.load t summary.network (settings.exportPath summary.network) =
    .ok (observed.map Prod.fst)
  tally : summary.tally = Tally.ofOutcomes (observed.map Prod.snd)

/-- What is observed for the export of a network belongs to the network. -/
theorem Summarizes.filter (h : Summarizes settings t summary observed) (network : Network) :
    observed.filter (fun o => o.1.network = network) =
      if summary.network = network then observed else [] := by
  have hNetwork : ∀ o ∈ observed, o.1.network = summary.network :=
    fun o hMem => (Export.proper_of_load h.records o.1 (List.mem_map_of_mem hMem)).network
  split
  · rename_i hSame
    refine List.filter_eq_self.mpr fun o hMem => ?_
    rw [hNetwork o hMem, decide_eq_true hSame]
  · rename_i hOther
    refine List.filter_eq_nil_iff.mpr fun o hMem => ?_
    rw [hNetwork o hMem, decide_eq_false hOther]
    exact Bool.false_ne_true

/-- Scans of the exports of some networks have a part for each, and what was observed explains
the files of all contracts. -/
theorem scanExports_parts (h : scanExports settings explorer desk networks = (.ok summaries, desk'))
    (hTouches : FileTree.Touches Export.NotExport t desk.files)
    (hFiles : ∀ n ∈ networks, t.isFile (settings.exportPath n) = true) :
    summaries.map NetworkSummary.network = networks ∧
      ∃ parts, List.Forall₂ (Summarizes settings t) summaries parts ∧
        Told settings parts.flatten desk desk' ∧
        ∀ key, Explained settings key parts.flatten (shelved? settings desk.files key)
          (shelved? settings desk'.files key) := by
  induction networks generalizing desk summaries with
  | nil =>
      cases h
      refine ⟨rfl, [], .nil, (Account.refl settings _).told, ?_⟩
      exact (Account.refl settings _).files fun _ hMem => by cases hMem
  | cons network rest ih =>
      simp only [List.mem_cons, forall_eq_or_imp] at hFiles
      obtain ⟨summary, next, later, hScan, hRest, rfl⟩ := scanExports_cons_eq_ok h
      obtain ⟨records, hLoad, hProper, hNetwork, hNext⟩ := scanExport_eq_ok hScan
      obtain ⟨seen, rfl, rfl, _, hTold, hExplained⟩ := scanNetwork_account hNetwork
      have hAddresses : ∀ o ∈ seen, '/' ∉ o.1.address.toList :=
        fun o hMem => (hProper o.1 (List.mem_map_of_mem hMem)).noSeparator
      rw [(Settings.load_of_touches hTouches hFiles.1).2] at hLoad
      obtain ⟨hNetworks, parts, hParts, hTold', hExplained'⟩ :=
        ih hRest (hTouches.trans hNext) hFiles.2
      refine ⟨by rw [List.map_cons, hNetworks], seen :: parts, .cons ⟨hLoad, rfl⟩ hParts,
        hTold.trans hTold', fun key => ?_⟩
      exact (hExplained hAddresses key).trans (hExplained' key)

/-- The addresses in all parts name files. -/
theorem plain_of_parts (h : List.Forall₂ (Summarizes settings t) summaries parts) :
    ∀ o ∈ parts.flatten, '/' ∉ o.1.address.toList := by
  induction h with
  | nil => exact fun _ hMem => by cases hMem
  | cons hFirst _ ih =>
      intro o hMem
      rw [List.flatten_cons] at hMem
      rcases List.mem_append.mp hMem with hMem | hMem
      · exact (Export.proper_of_load hFirst.records o.1 (List.mem_map_of_mem hMem)).noSeparator
      · exact ih o hMem

/-- A scan that succeeds has a part for each network that was asked for. -/
theorem run_parts {report : Report}
    (h : run settings explorer desk networks = (.ok report, desk')) :
    report.summaries.map NetworkSummary.network = networks ∧
      ∃ parts, List.Forall₂ (Summarizes settings desk.files) report.summaries parts ∧
        Told settings parts.flatten desk desk' ∧
        ∀ key, Explained settings key parts.flatten (shelved? settings desk.files key)
          (shelved? settings desk'.files key) := by
  obtain ⟨hFiles, summaries, hScan, rfl⟩ := run_eq_ok h
  exact scanExports_parts hScan (FileTree.Touches.refl _) hFiles

/-- In every summary of a scan that succeeds, the kinds of outcomes add up. -/
theorem run_balanced {report : Report}
    (h : run settings explorer desk networks = (.ok report, desk')) :
    ∀ summary ∈ report.summaries, summary.tally.Balanced := by
  obtain ⟨_, parts, hParts, _⟩ := run_parts h
  have hEach := hParts.imp fun summary part hPart => And.intro
    (hPart.tally ▸ Tally.balanced_ofOutcomes _ : summary.tally.Balanced) hPart
  exact ((List.forall₂_and_left _ _).mp hEach).1

/-! ### A report from what was observed -/

/-- The summaries of some networks from what was observed. A network that is asked for several
times has the same records each time, so that its share is what was observed for it divided by how
often it is still to come. -/
def summariesOf : List Network → List (Record × Outcome) → List NetworkSummary
  | [], _ => []
  | network :: rest, seen =>
      let share := (seen.countP fun o => o.1.network = network) / (network :: rest).count network
      ⟨network, Tally.ofOutcomes ((seen.take share).map Prod.snd)⟩ ::
        summariesOf rest (seen.drop share)

/-- What was observed for a network is its export as often as the network was asked for. -/
theorem countP_parts (h : List.Forall₂ (Summarizes settings t) summaries parts) {network : Network}
    {records : List Record}
    (hLoad : Export.load t network (settings.exportPath network) = .ok records) :
    (parts.flatten.countP fun o => o.1.network = network) =
      (summaries.map NetworkSummary.network).count network * records.length := by
  induction h with
  | nil => simp
  | @cons summary observed summaries parts hFirst _ ih =>
      rw [List.flatten_cons, List.countP_append, ih, List.countP_eq_length_filter, hFirst.filter,
        List.map_cons, List.count_cons]
      by_cases hSame : summary.network = network
      · subst hSame
        have hRecords := hFirst.records
        rw [hLoad] at hRecords
        obtain rfl := Except.ok.inj hRecords
        simp only [beq_self_eq_true, if_true, List.length_map]
        ring
      · simp [hSame]

/-- The summaries of a scan are determined by what was observed. -/
theorem summariesOf_parts (h : List.Forall₂ (Summarizes settings t) summaries parts) :
    summariesOf (summaries.map NetworkSummary.network) parts.flatten = summaries := by
  induction h with
  | nil => rfl
  | @cons summary observed summaries parts hFirst hRest ih =>
      have hCount := countP_parts (.cons hFirst hRest) hFirst.records
      have hShare : (((observed :: parts).flatten).countP fun o => o.1.network = summary.network) /
          ((summary :: summaries).map NetworkSummary.network).count summary.network =
            observed.length := by
        rw [hCount, List.length_map]
        apply Nat.mul_div_cancel_left
        simp
      rw [List.map_cons] at hShare ⊢
      rw [summariesOf, hShare, List.flatten_cons, List.take_left, List.drop_left, ih, ← hFirst.tally]

/-- If no network is asked for twice, the part of each is what was observed for it. -/
theorem filter_parts (h : List.Forall₂ (Summarizes settings t) summaries parts)
    (hNodup : (summaries.map NetworkSummary.network).Nodup) (hMem : summary ∈ summaries) :
    Summarizes settings t summary
      (parts.flatten.filter fun o => o.1.network = summary.network) := by
  have hNone {summaries : List NetworkSummary} {parts : List (List (Record × Outcome))}
      (h : List.Forall₂ (Summarizes settings t) summaries parts) {network : Network}
      (hOther : network ∉ summaries.map NetworkSummary.network) :
      parts.flatten.filter (fun o => o.1.network = network) = [] := by
    induction h with
    | nil => rfl
    | cons hFirst _ ih =>
        rw [List.map_cons, List.mem_cons, not_or] at hOther
        rw [List.flatten_cons, List.filter_append, hFirst.filter, if_neg (Ne.symm hOther.1),
          ih hOther.2, List.append_nil]
  induction h with
  | nil => cases hMem
  | @cons first observed summaries parts hFirst hRest ih =>
      rw [List.map_cons, List.nodup_cons] at hNodup
      rw [List.flatten_cons, List.filter_append, hFirst.filter]
      rcases List.mem_cons.mp hMem with rfl | hMem
      · rw [if_pos rfl, hNone hRest hNodup.1, List.append_nil]
        exact hFirst
      · have hOther : first.network ≠ summary.network := by
          intro hSame
          exact hNodup.1 (hSame ▸ List.mem_map_of_mem hMem)
        rw [if_neg hOther, List.nil_append]
        exact ih hNodup.2 hMem

/-! ### Files that were written -/

open Classical in
/-- The addresses among some records whose file the scan of a network writes. -/
noncomputable def writtenAddresses (settings : Settings) (explorer : Explorer σ) (desk : Desk σ)
    (network : Network) (records : List Record) : Finset String :=
  (records.map Record.address).toFinset.filter fun address => ∃ record content,
    record.address = address ∧ WritesFile settings explorer desk network records record content

/-- The addresses of the contracts that were flagged, one for each outcome. -/
def flaggedAddresses (seen : List (Record × Outcome)) : List String :=
  (seen.filter fun o => o.2.isFlagged).map fun o => o.1.address

/-- There are as many flagged addresses as the tally says. -/
theorem length_flaggedAddresses (seen : List (Record × Outcome)) :
    (flaggedAddresses seen).length = (Tally.ofOutcomes (seen.map Prod.snd)).flagged := by
  have hCount := (Tally.countsOf_ofOutcomes (seen.map Prod.snd)).kinds .flagged
  rw [flaggedAddresses, List.length_map, ← List.countP_eq_length_filter]
  refine Eq.trans ?_ hCount.symm
  rw [List.countP_map]
  exact List.countP_congr fun o _ => by rw [Outcome.isFlagged_eq, Function.comp_apply]

section Written

variable {made : FileTree} {last : Desk σ} {network : Network}
variable (hMade : settings.shelf.prepare desk.files network = (.ok (), made))
variable (hAll : processAll settings explorer { desk with files := made } (observed.map Prod.fst) =
  (.ok (observed.map Prod.snd), last))
variable (hAddresses : ∀ o ∈ observed, '/' ∉ o.1.address.toList)
include hMade hAll hAddresses

/-- The file of a record is written exactly if the record is flagged. -/
theorem writesFile_iff {record : Record} (hMem : record ∈ observed.map Prod.fst) :
    (∃ content, WritesFile settings explorer desk network (observed.map Prod.fst) record content) ↔
      ∃ outcome, (record, outcome) ∈ observed ∧ outcome.isFlagged = true := by
  obtain ⟨o, hObserved, rfl⟩ := List.mem_map.mp hMem
  have hAddress := hAddresses o hObserved
  constructor
  · rintro ⟨content, found, before, after, hTurn, hWrites⟩
    exact ⟨_, (flagged_of_turn hMade hAll hTurn hAddress hWrites).2, rfl⟩
  · rintro ⟨outcome, hOutcome, hFlagged⟩
    cases outcome with
    | flagged version a =>
        obtain ⟨found, before, after, hTurn, _, _, hWrites⟩ :=
          turn_of_flagged hMade hAll hOutcome hAddress
        exact ⟨_, found, before, after, hTurn, hWrites⟩
    | _ => cases hFlagged

/-- The files of exactly the addresses that are flagged are written. -/
theorem writtenAddresses_eq :
    writtenAddresses settings explorer desk network (observed.map Prod.fst) =
      (flaggedAddresses observed).toFinset := by
  ext address
  simp only [writtenAddresses, flaggedAddresses, Finset.mem_filter, List.mem_toFinset, List.mem_map]
  constructor
  · rintro ⟨_, record, content, rfl, hWrites⟩
    have hMem := hWrites.mem
    obtain ⟨outcome, hOutcome, hFlagged⟩ :=
      (writesFile_iff hMade hAll hAddresses hMem).mp ⟨content, hWrites⟩
    exact ⟨(record, outcome), List.mem_filter.mpr ⟨hOutcome, hFlagged⟩, rfl⟩
  · rintro ⟨o, hFlagged, rfl⟩
    obtain ⟨hMem, hFlagged⟩ := List.mem_filter.mp hFlagged
    have hRecord := List.mem_map_of_mem (f := Prod.fst) hMem
    obtain ⟨content, hWrites⟩ :=
      (writesFile_iff hMade hAll hAddresses hRecord).mpr ⟨o.2, hMem, hFlagged⟩
    exact ⟨⟨o.1, ⟨o, hMem, rfl⟩, rfl⟩, o.1, content, rfl, hWrites⟩

/-- The files that are noted as saved are those that were written. -/
theorem mem_filesOf_iff {path : Path} :
    path ∈ filesOf settings observed ↔ ∃ record content,
      WritesFile settings explorer desk network (observed.map Prod.fst) record content ∧
        path = settings.shelf.place record.network record.address := by
  simp only [filesOf, List.mem_map, List.mem_filter]
  constructor
  · rintro ⟨o, ⟨hMem, hFlagged⟩, rfl⟩
    have hRecord := List.mem_map_of_mem (f := Prod.fst) hMem
    obtain ⟨content, hWrites⟩ :=
      (writesFile_iff hMade hAll hAddresses hRecord).mpr ⟨o.2, hMem, hFlagged⟩
    exact ⟨o.1, content, hWrites, rfl⟩
  · rintro ⟨record, content, hWrites, rfl⟩
    obtain ⟨outcome, hOutcome, hFlagged⟩ :=
      (writesFile_iff hMade hAll hAddresses hWrites.mem).mp ⟨content, hWrites⟩
    exact ⟨(record, outcome), ⟨hOutcome, hFlagged⟩, rfl⟩

end Written

/-! ### Reports -/

/-- The counts of a report are those of what was observed. A scan that succeeds has one summary for
each network that was asked for, in this order, and the events that were observed fall into one part
for each, which has the records of the network's export in their order. A summary has the number of
outcomes in its part, in all and of each kind, so the summaries are a function of the networks and of
what was observed. In every summary and in the totals, which are sums over the summaries, the kinds
of outcomes add up to the records.

A scan of a network that succeeds notes that it saved a file for each record that it flags, in their
order. If the addresses name files, it writes the files of as many addresses as it flags if it flags no
address twice, and of fewer if it does. At the turn of a record that it flags, its file is given the
source for which it is flagged, and holds it then. The files that are noted are those that were
written, and every contract that has another file after the scan than before is one of them. -/
theorem report_accounts (settings : Settings) (explorer : Explorer σ) (desk : Desk σ) :
    (∀ networks report final, run settings explorer desk networks = (.ok report, final) →
      ∃ events, final.trace = desk.trace ++ events ∧
        report.summaries.map NetworkSummary.network = networks ∧
        (∃ parts, Event.outcomes events = parts.flatten ∧
          List.Forall₂ (fun (summary : NetworkSummary) (part : List (Record × Outcome)) =>
            Export.load desk.files summary.network (settings.exportPath summary.network) =
                .ok (part.map Prod.fst) ∧
              summary.tally.CountsOf (part.map Prod.snd)) report.summaries parts) ∧
        (networks.Nodup → ∀ summary ∈ report.summaries, summary.tally.CountsOf
          (((Event.outcomes events).filter fun o => o.1.network = summary.network).map Prod.snd)) ∧
        report.summaries = summariesOf networks (Event.outcomes events) ∧
        (∀ summary ∈ report.summaries, summary.tally.Balanced) ∧
        report.totals.records = (report.summaries.map fun s => s.tally.records).sum ∧
        (∀ kind, report.totals.counted kind = (report.summaries.map fun s => s.tally.counted kind).sum) ∧
        report.totals.Balanced ∧
        report.document = .object
          [("networks", .list (report.summaries.map fun s => s.tally.document (some s.network))),
           ("totals", report.totals.document none)]) ∧
    ∀ network records summary final,
      scanNetwork settings explorer desk network records = (.ok summary, final) →
      ∃ events, final.trace = desk.trace ++ events ∧
        (Event.outcomes events).map Prod.fst = records ∧
        summary.tally.CountsOf ((Event.outcomes events).map Prod.snd) ∧
        Event.saved events = filesOf settings (Event.outcomes events) ∧
        (Event.saved events).length = summary.tally.flagged ∧
        ((∀ r ∈ records, '/' ∉ r.address.toList) →
          (writtenAddresses settings explorer desk network records).card ≤ summary.tally.flagged ∧
          ((flaggedAddresses (Event.outcomes events)).Nodup →
            (writtenAddresses settings explorer desk network records).card = summary.tally.flagged) ∧
          (∀ record version a, (record, .flagged version a) ∈ Event.outcomes events →
            ∃ found before after,
              Turn settings explorer desk network records record found before after ∧
              version = found.compilerVersion ∧ a = settings.classifier.assess found.source ∧
              settings.shelf.Writes record.network record.address (Bytes.ofText found.source)
                before after ∧
              after.read (settings.shelf.place record.network record.address) =
                .ok (Bytes.ofText found.source)) ∧
          (∀ path, path ∈ Event.saved events ↔ ∃ record content,
            WritesFile settings explorer desk network records record content ∧
              path = settings.shelf.place record.network record.address) ∧
          ∀ key content, shelved? settings final.files key = some content →
            shelved? settings desk.files key ≠ some content →
            key.address ∈ writtenAddresses settings explorer desk network records) := by
  refine ⟨fun networks report final h => ?_, fun network records summary final h => ?_⟩
  · obtain ⟨hNetworks, parts, hParts, ⟨events, hTrace, hSeen, _⟩, _⟩ := run_parts h
    subst hNetworks
    have hSummaries := summariesOf_parts hParts
    rw [← hSeen] at hSummaries
    have hBalanced := run_balanced h
    refine ⟨events, hTrace, rfl, ⟨parts, hSeen, ?_⟩, fun hNodup summary hMem => ?_, hSummaries.symm,
      hBalanced, ?_, fun kind => ?_, Report.balanced_totals hBalanced, rfl⟩
    · refine hParts.imp fun summary part hPart => ⟨hPart.records, ?_⟩
      rw [hPart.tally]
      exact Tally.countsOf_ofOutcomes _
    · have hPart := filter_parts hParts hNodup hMem
      rw [hSeen, hPart.tally]
      exact Tally.countsOf_ofOutcomes _
    · exact report.totals_eq_sum Tally.records rfl fun _ _ => rfl
    · exact report.totals_eq_sum (fun t => t.counted kind) (by cases kind <;> rfl)
        fun t u => Tally.counted_add t u kind
  · obtain ⟨seen, rfl, rfl, ⟨made, last, hMade, hAll⟩, ⟨events, hTrace, rfl, hSaved⟩, hExplained⟩ :=
      scanNetwork_account h
    have hFlagged := length_flaggedAddresses (Event.outcomes events)
    refine ⟨events, hTrace, rfl, Tally.countsOf_ofOutcomes _, hSaved, ?_, fun hAddresses => ?_⟩
    · rw [hSaved, filesOf, List.length_map, ← hFlagged, flaggedAddresses, List.length_map]
    have hPlain : ∀ o ∈ Event.outcomes events, '/' ∉ o.1.address.toList :=
      fun o hMem => hAddresses o.1 (List.mem_map_of_mem hMem)
    have hSame := writtenAddresses_eq hMade hAll hPlain
    refine ⟨?_, fun hNodup => ?_, fun record version a hMem => ?_, fun path => ?_,
      fun key content hAfter hBefore => ?_⟩
    · rw [hSame, ← hFlagged]
      exact List.toFinset_card_le _
    · rw [hSame, ← hFlagged]
      exact List.toFinset_card_of_nodup hNodup
    · obtain ⟨found, before, after, hTurn, hVersion, hAssessed, hWrites⟩ :=
        turn_of_flagged hMade hAll hMem (hPlain _ hMem)
      exact ⟨found, before, after, hTurn, hVersion, hAssessed, hWrites, hWrites.read (hPlain _ hMem)⟩
    · rw [hSaved]
      exact mem_filesOf_iff hMade hAll hPlain
    · cases hExplained hPlain key with
      | absent hGone => rw [hGone] at hAfter; cases hAfter
      | untouched _ hUntouched => exact absurd (hUntouched ▸ hAfter) hBefore
      | saved hMem hKey =>
          rw [hSame, List.mem_toFinset, ← hKey]
          exact List.mem_map.mpr ⟨_, List.mem_filter.mpr ⟨hMem, rfl⟩, rfl⟩

end Scan

namespace Scan.Turns

/-- What the export of the only network says. -/
def exported : List Record := [⟨.poly, "0xA", "0.3.0"⟩, ⟨.poly, "0xB", "0.3.0"⟩]

/-- The same files with a cache in memory. -/
def uncached : Desk Unit := ⟨files, .memory [], keys, (), []⟩

/-- A scan that flags one contract, which it saves, and removes the file of another. -/
theorem report_accounts_turns :
    (∃ report final, run settings thorough uncached [.poly] = (.ok report, final) ∧
      report.summaries = [⟨.poly, ⟨2, 0, 0, 1, 1, 0⟩⟩] ∧ report.totals.Balanced ∧
      summariesOf [.poly] (Event.outcomes final.trace) = report.summaries) ∧
    ∃ summary final, scanNetwork settings thorough uncached .poly exported = (.ok summary, final) ∧
      flaggedAddresses (Event.outcomes final.trace) = ["0xA"] ∧
      (writtenAddresses settings thorough uncached .poly exported).card = summary.tally.flagged ∧
      ∃ found before after,
        Turn settings thorough uncached .poly exported ⟨.poly, "0xA", "0.3.0"⟩ found before after ∧
        after.read ⟨"out/poly/0xA.vy"⟩ = .ok (Bytes.ofText found.source) := by
  obtain ⟨hRuns, hNetworks⟩ := report_accounts settings thorough uncached
  constructor
  · have hReport : (run settings thorough uncached [.poly]).1.toOption =
        some ⟨[⟨.poly, ⟨2, 0, 0, 1, 1, 0⟩⟩]⟩ := by decide +kernel
    rcases hRun : run settings thorough uncached [.poly] with ⟨result, final⟩
    rw [hRun] at hReport
    cases result with
    | error e => cases hReport
    | ok report =>
        obtain rfl := Option.some.inj hReport
        obtain ⟨events, hTrace, _, _, _, hSummaries, _, _, _, hTotals, _⟩ := hRuns _ _ _ hRun
        obtain rfl : final.trace = events := hTrace
        exact ⟨_, final, rfl, rfl, hTotals, hSummaries.symm⟩
  · have hFlagged : ((Event.outcomes
        (scanNetwork settings thorough uncached .poly exported).2.trace).filter
          fun o => o.2.isFlagged).map Prod.fst = [⟨.poly, "0xA", "0.3.0"⟩] := by decide +kernel
    have hDone : (scanNetwork settings thorough uncached .poly exported).1.toOption =
        some ⟨.poly, ⟨2, 0, 0, 1, 1, 0⟩⟩ := by decide +kernel
    rcases hScan : scanNetwork settings thorough uncached .poly exported with ⟨result, final⟩
    rw [hScan] at hFlagged hDone
    cases result with
    | error e => cases hDone
    | ok summary =>
        obtain ⟨events, hTrace, _, _, _, _, hFiles⟩ := hNetworks .poly exported summary final hScan
        obtain rfl : final.trace = events := hTrace
        obtain ⟨_, hEqual, hTurns, _⟩ := hFiles (by decide)
        have hAddresses : flaggedAddresses (Event.outcomes final.trace) = ["0xA"] := by
          have hMapped := congrArg (List.map Record.address) hFlagged
          rwa [List.map_map] at hMapped
        have hFirst : (⟨.poly, "0xA", "0.3.0"⟩ : Record) ∈
            ((Event.outcomes final.trace).filter fun o => o.2.isFlagged).map Prod.fst := by
          rw [hFlagged]
          exact List.mem_singleton_self _
        obtain ⟨⟨record, outcome⟩, hMem, rfl⟩ := List.mem_map.mp hFirst
        obtain ⟨hSeen, hOutcome⟩ := List.mem_filter.mp hMem
        cases outcome with
        | flagged version a =>
            obtain ⟨found, before, after, hTurn, _, _, _, hHolds⟩ := hTurns _ _ _ hSeen
            exact ⟨summary, final, rfl, hAddresses, hEqual (hAddresses ▸ List.nodup_singleton _),
              found, before, after, hTurn, hHolds⟩
        | _ => cases hOutcome

end Scan.Turns

end LockTriage
