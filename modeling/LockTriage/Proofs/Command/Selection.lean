import LockTriage.Proofs.Command.Startup
import LockTriage.Proofs.Network
import LockTriage.Proofs.Network.Sorted

/-!
The networks that the command line names. Only the set of them matters: sorting them and keeping one
of equal neighbours gives the list of all networks without those that are not named, so the order
of the names, their repetitions and their case change nothing about a scan. A name that names no
network is complained about, the first of them if there are several.
-/

namespace LockTriage

namespace Program

variable {names names' : List String} {network : Network} {settings settings' : Settings}

/-- The complaint about a name that names no network. -/
def unknownName (name : String) : Complaint := ⟨s!"--network {name}", [s!"unknown network `{name}`"]⟩

/-- The name is the first of some names that names no network. -/
def FirstUnknown (names : List String) (name : String) : Prop :=
  ∃ before after, names = before ++ name :: after ∧
    (∀ earlier ∈ before, ∃ network, Network.Named earlier network) ∧
    ∀ network, ¬ Network.Named name network

/-- Both lists of names name the same networks. -/
def NameAlike (names names' : List String) : Prop :=
  ∀ network, (∃ name ∈ names, Network.Named name network) ↔
    ∃ name ∈ names', Network.Named name network

theorem ofName?_ne_none_iff {name : String} :
    Network.ofName? name ≠ none ↔ ∃ network, Network.Named name network := by
  rw [Ne, Network.ofName?_eq_none_iff, not_forall_not]

/-! ### What becomes of the names -/

/-- The networks that some names name, in scan order. -/
def named (names : List String) : List Network :=
  Network.all.filter fun n => names.any fun name => Network.ofName? name == some n

theorem mem_named : network ∈ named names ↔ ∃ name ∈ names, Network.Named name network := by
  simp [named, Network.mem_all, Network.ofName?_eq_some_iff]

theorem named_congr (h : NameAlike names names') : named names = named names' := by
  refine List.filter_congr fun network hMem => ?_
  have hNamed := h network
  rw [← mem_named, ← mem_named, named, named, List.mem_filter, List.mem_filter] at hNamed
  rw [Bool.eq_iff_iff]
  simpa [hMem] using hNamed

/-- Names that all name networks select these, whatever the settings enable. -/
theorem selectNetworks_of_known (h : ∀ name ∈ names, ∃ network, Network.Named name network)
    (settings : Settings) : selectNetworks (some names) settings = .ok (named names) := by
  rcases mapM_networkNamed names with
    ⟨chosen, hChosen, -, hMem⟩ | ⟨before, name, after, rfl, -, hUnknown, -⟩
  · have hSame : (Network.sorted chosen).eraseReps = named names := by
      rw [Network.eraseReps_sorted]
      refine List.filter_congr fun network _ => ?_
      rw [Bool.eq_iff_iff, List.contains_iff_mem, hMem]
      simp
    rw [selectNetworks, hChosen, ← hSame]
    rfl
  · exact absurd hUnknown (ofName?_ne_none_iff.mpr (h name (by simp)))

theorem FirstUnknown.mem {name : String} (h : FirstUnknown names name) :
    name ∈ names ∧ ∀ network, ¬ Network.Named name network := by
  obtain ⟨before, after, rfl, -, hUnknown⟩ := h
  exact ⟨by simp, hUnknown⟩

theorem FirstUnknown.find? {name : String} (h : FirstUnknown names name) :
    names.find? (fun n => (Network.ofName? n).isNone) = some name := by
  obtain ⟨before, after, rfl, hBefore, hUnknown⟩ := h
  exact find?_unknown id (fun earlier hMem => ofName?_ne_none_iff.mpr (hBefore earlier hMem))
    (Network.ofName?_eq_none_iff.mpr hUnknown)

/-- The names all name networks, or there is a first one that does not, and it is complained
about. -/
theorem selectNetworks_named (names : List String) (settings : Settings) :
    ((∀ name ∈ names, ∃ network, Network.Named name network) ∧
        selectNetworks (some names) settings = .ok (named names)) ∨
      ∃ name, FirstUnknown names name ∧
        selectNetworks (some names) settings = .error (unknownName name) := by
  rcases mapM_networkNamed names with
    ⟨_, -, hKnown, -⟩ | ⟨before, name, after, hSplit, hBefore, hUnknown, hError⟩
  · have hNamed : ∀ name ∈ names, ∃ network, Network.Named name network :=
      fun name hMem => ofName?_ne_none_iff.mp (hKnown name hMem)
    exact .inl ⟨hNamed, selectNetworks_of_known hNamed settings⟩
  · refine .inr ⟨name, ⟨before, after, hSplit, fun earlier hMem =>
      ofName?_ne_none_iff.mp (hBefore earlier hMem), Network.ofName?_eq_none_iff.mp hUnknown⟩, ?_⟩
    rw [selectNetworks, hError]
    rfl

theorem selectNetworks_eq_error_iff {complaint : Complaint} :
    selectNetworks (some names) settings = .error complaint ↔
      ∃ name, FirstUnknown names name ∧ complaint = unknownName name := by
  rcases selectNetworks_named names settings with ⟨hKnown, hOk⟩ | ⟨name, hFirst, hError⟩
  · rw [hOk]
    simp only [reduceCtorEq, false_iff]
    rintro ⟨name, hFirst, -⟩
    obtain ⟨network, hNamed⟩ := hKnown name hFirst.mem.1
    exact hFirst.mem.2 network hNamed
  · rw [hError, Except.error.injEq]
    constructor
    · rintro rfl
      exact ⟨name, hFirst, rfl⟩
    · rintro ⟨other, hOther, rfl⟩
      have hSame := hFirst.find?.symm.trans hOther.find?
      rw [Option.some.inj hSame]

theorem selectNetworks_fails_iff :
    (∃ complaint, selectNetworks (some names) settings = .error complaint) ↔
      ∃ name ∈ names, ∀ network, ¬ Network.Named name network := by
  rcases selectNetworks_named names settings with ⟨hKnown, hOk⟩ | ⟨name, hFirst, hError⟩
  · rw [hOk]
    simp only [reduceCtorEq, exists_false, false_iff, not_exists, not_and, not_forall, not_not]
    exact hKnown
  · exact iff_of_true ⟨_, hError⟩ ⟨name, hFirst.mem⟩

/-! ### Scans -/

/-- A scan learns from the names no more than the networks that they select. -/
theorem scan_congr [p : Settings.Order] [o : Manifest.Order] {ω : Type}
    {first second : Option (List String)}
    (h : ∀ settings, selectNetworks first settings = selectNetworks second settings) (web : Web ω)
    (s : Surroundings) (filter : Filter) (files : FileTree) (state : ω) (options : ScanRequest) :
    scan web s filter files state { options with networks := first } =
      scan web s filter files state { options with networks := second } := by
  have hPrepare : prepare s files { options with networks := first } =
      prepare s files { options with networks := second } := by
    unfold prepare
    simp only [h]
    rfl
  unfold scan
  rw [hPrepare]
  rfl

/-- Selecting networks by names fails exactly if one of them, trimmed and in small letters, is
not that of a network, and the complaint is about the first such name. Otherwise the networks
that are named are selected, strictly in scan order and whatever the settings enable, so names
of the same networks select the same and make the same scan. Without names the networks that
the settings enable are selected, strictly in scan order. -/
theorem selection_canonical :
    (∀ names settings,
      ((∃ complaint, selectNetworks (some names) settings = .error complaint) ↔
        ∃ name ∈ names, ∀ network, ¬ Network.Named name network) ∧
      (∀ complaint, selectNetworks (some names) settings = .error complaint ↔
        ∃ name, FirstUnknown names name ∧ complaint = unknownName name) ∧
      ∀ chosen, selectNetworks (some names) settings = .ok chosen →
        Network.InScanOrder chosen ∧ chosen.Nodup ∧
          ∀ network, network ∈ chosen ↔ ∃ name ∈ names, Network.Named name network) ∧
    (∀ names names', NameAlike names names' →
      (∀ name ∈ names, ∃ network, Network.Named name network) →
      (∀ name ∈ names', ∃ network, Network.Named name network) →
      (∀ settings settings',
        selectNetworks (some names) settings = selectNetworks (some names') settings') ∧
      ∀ [Settings.Order] [Manifest.Order] {ω : Type} (web : Web ω) (s : Surroundings)
        (filter : Filter) (files : FileTree) (state : ω) (options : ScanRequest),
        scan web s filter files state { options with networks := some names } =
          scan web s filter files state { options with networks := some names' }) ∧
    ∀ settings, ∃ chosen, selectNetworks none settings = .ok chosen ∧ Network.InScanOrder chosen ∧
      ∀ network, network ∈ chosen ↔ settings.isEnabled network = true := by
  refine ⟨fun names settings => ⟨selectNetworks_fails_iff, fun _ => selectNetworks_eq_error_iff, ?_⟩,
    fun names names' hAlike hKnown hKnown' => ?_, fun settings => ?_⟩
  · intro chosen hChosen
    rcases selectNetworks_named names settings with ⟨-, hOk⟩ | ⟨name, -, hError⟩
    · rw [hOk] at hChosen
      cases hChosen
      have hOrder : Network.InScanOrder (named names) := Network.inScanOrder_filter _
      exact ⟨hOrder, hOrder.nodup, fun _ => mem_named⟩
    · rw [hError] at hChosen
      cases hChosen
  · have hSame (settings settings' : Settings) :
        selectNetworks (some names) settings = selectNetworks (some names') settings' := by
      rw [selectNetworks_of_known hKnown, selectNetworks_of_known hKnown', named_congr hAlike]
    exact ⟨hSame, fun web s filter files state options =>
      scan_congr (fun settings => hSame settings settings) web s filter files state options⟩
  · refine ⟨settings.enabledNetworks, rfl, Network.inScanOrder_filter _, fun network => ?_⟩
    simp [Settings.enabledNetworks, Network.mem_all]

namespace Spelled

def given : List String := ["OP", "celo\u2003", " op"]

def others : List String := ["Celo", "op"]

def disabling : Settings := { Settings.standard with networks := [("op", ⟨some false, none⟩)] }

/-- Two networks in two spellings, one of them not enabled, and a list with two names that are
none. -/
theorem selection_canonical_spelled :
    selectNetworks (some given) disabling = .ok [.celo, .op] ∧
    Network.InScanOrder [.celo, .op] ∧
    selectNetworks (some others) Settings.standard = .ok [.celo, .op] ∧
    selectNetworks (some ["op", "o p", "kelo"]) disabling = .error (unknownName "o p") := by
  have hNamed : named given = [.celo, .op] := by decide
  have hOthers : named others = [.celo, .op] := by decide
  have hKnown : ∀ name ∈ given, ∃ network, Network.Named name network := by
    simp only [← ofName?_ne_none_iff]
    decide
  have hKnown' : ∀ name ∈ others, ∃ network, Network.Named name network := by
    simp only [← ofName?_ne_none_iff]
    decide
  have hAlike : NameAlike given others := fun network => by
    rw [← mem_named, ← mem_named, hNamed, hOthers]
  obtain ⟨hSelection, hSame, -⟩ := selection_canonical
  have hChosen : selectNetworks (some given) disabling = .ok [.celo, .op] := by decide
  have hFirst : FirstUnknown ["op", "o p", "kelo"] "o p" := by
    refine ⟨["op"], ["kelo"], rfl, ?_, Network.ofName?_eq_none_iff.mp (by decide)⟩
    simp only [← ofName?_ne_none_iff]
    decide
  refine ⟨hChosen, ((hSelection given disabling).2.2 _ hChosen).1, ?_, ?_⟩
  · rw [← (hSame given others hAlike hKnown hKnown').1 disabling, hChosen]
  · exact ((hSelection _ disabling).2.1 _).mpr ⟨"o p", hFirst, rfl⟩

end Spelled

end Program

end LockTriage
