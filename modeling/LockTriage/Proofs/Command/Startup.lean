import LockTriage.Command.Run
import LockTriage.Proofs.KeyList
import LockTriage.Proofs.Network.Sorted
import LockTriage.Proofs.Scan.Plan

/-!
What has to be right before a scan starts: the settings file, the names of networks on the command
line, the keys of the networks that are selected, and their exports. The first mistake in this order
ends the run with its complaint, and nothing else happens. Of several tables in the settings file that
name no network, it is the one that the run meets first.
-/

namespace LockTriage

/-! ### Mistakes -/

namespace ScanRequest

/-- The settings file of a scan. -/
def settingsPath (options : ScanRequest) : Path := options.settings.getD ⟨Settings.fileName⟩

/-- Where the export of a network has to be. -/
def inputPath (options : ScanRequest) (settings : Settings) (network : Network) : Path :=
  (options.inputDir.getD settings.inputDir).join s!"{network.name}.csv"

/-- The network is one to scan: the command line names it, or it names no networks and the
settings enable it. -/
def Selects (options : ScanRequest) (settings : Settings) (network : Network) : Prop :=
  match options.networks with
  | some names => ∃ name ∈ names, Network.ofName? name = some network
  | none => settings.isEnabled network = true

end ScanRequest

namespace Settings

/-- What can be wrong with a settings file that is there, with the error that reports it. -/
inductive Mistake [p : Settings.Order] (files : FileTree) (path : Path) : SettingsError → Prop where
  | unreadable {fault : Fault} (hThere : files.pathExists path = true)
      (hRead : files.readText path = .error fault) : Mistake files path (.unreadable path fault)
  | malformed {text : String} (hThere : files.pathExists path = true)
      (hRead : files.readText path = .ok text) (hParse : (Toml.parse? text).bind ofEntries? = none) :
      Mistake files path (.malformed path)
  | unknownNetwork {text : String} {read : Settings} {before after : List (String × NetworkTable)}
      {table : String × NetworkTable} (hThere : files.pathExists path = true)
      (hRead : files.readText path = .ok text)
      (hParse : (Toml.parse? text).bind ofEntries? = some read)
      (hTables : p.order read.networks = before ++ table :: after)
      (hBefore : ∀ earlier ∈ before, Network.ofName? earlier.1 ≠ none)
      (hUnknown : Network.ofName? table.1 = none) :
      Mistake files path (.invalid path (.unknownNetwork table.1))

end Settings

/-- The variable of a network is missing, or all it has between its commas is blank. -/
def Keyless (environment : String → Option String) (network : Network) : Prop :=
  ∀ raw, environment network.keyVariable = some raw → ∀ key ∈ Text.splitAt ',' raw, Text.blank key = true

/-- Something is wrong with a scan, whatever else may be. -/
inductive Mistaken [p : Settings.Order] (s : Surroundings) (files : FileTree)
    (options : ScanRequest) : Prop where
  | settings {e : SettingsError} (h : Settings.Mistake files options.settingsPath e)
  | table {text : String} {read : Settings} {table : String × NetworkTable}
      (hThere : files.pathExists options.settingsPath = true)
      (hRead : files.readText options.settingsPath = .ok text)
      (hParse : (Toml.parse? text).bind Settings.ofEntries? = some read)
      (hMem : table ∈ read.networks) (hUnknown : Network.ofName? table.1 = none)
  | name {names : List String} {name : String} (hNames : options.networks = some names)
      (hMem : name ∈ names) (hUnknown : Network.ofName? name = none)
  | keys {settings : Settings} {network : Network}
      (hLoad : Settings.load files options.settingsPath = .ok settings)
      (hSelected : options.Selects settings network) (hKeyless : Keyless s.environment network)
  | input {settings : Settings} {network : Network}
      (hLoad : Settings.load files options.settingsPath = .ok settings)
      (hSelected : options.Selects settings network)
      (hMissing : files.isFile (options.inputPath settings network) = false)

/-- The network is the first one in scan order that is selected and has a property. -/
structure FirstSelected (options : ScanRequest) (settings : Settings) (P : Network → Prop)
    (network : Network) : Prop where
  selected : options.Selects settings network
  holds : P network
  first : ∀ other, options.Selects settings other → other.rank < network.rank → ¬ P other

/-- The first mistake of a scan, with the complaint about it. Where it is of one kind, there is none
of the kinds before. -/
inductive FirstMistake [p : Settings.Order] (s : Surroundings) (files : FileTree)
    (options : ScanRequest) : Complaint → Prop where
  | settings {e : SettingsError} (h : Settings.Mistake files options.settingsPath e) :
      FirstMistake s files options (.ofSettings e)
  | name {settings : Settings} {names before after : List String} {name : String}
      (hLoad : Settings.load files options.settingsPath = .ok settings)
      (hNames : options.networks = some names) (hSplit : names = before ++ name :: after)
      (hBefore : ∀ earlier ∈ before, Network.ofName? earlier ≠ none)
      (hUnknown : Network.ofName? name = none) :
      FirstMistake s files options
        ((Complaint.ofError (.unknownNetwork name)).within s!"--network {name}")
  | keys {settings : Settings} {network : Network}
      (hLoad : Settings.load files options.settingsPath = .ok settings)
      (hNames : ∀ names, options.networks = some names → ∀ name ∈ names, Network.ofName? name ≠ none)
      (hFirst : FirstSelected options settings (Keyless s.environment) network) :
      FirstMistake s files options (.ofError (.missingKeys network))
  | input {settings : Settings} {network : Network}
      (hLoad : Settings.load files options.settingsPath = .ok settings)
      (hNames : ∀ names, options.networks = some names → ∀ name ∈ names, Network.ofName? name ≠ none)
      (hKeys : ∀ other, options.Selects settings other → ¬ Keyless s.environment other)
      (hFirst : FirstSelected options settings
        (fun n => files.isFile (options.inputPath settings n) = false) network) :
      FirstMistake s files options (.ofError (.missingInput (options.inputPath settings network)))

/-- The first unknown name is found behind names that are known. -/
theorem find?_unknown {α : Type} (nameOf : α → String) {before after : List α} {x : α}
    (hBefore : ∀ earlier ∈ before, Network.ofName? (nameOf earlier) ≠ none)
    (hUnknown : Network.ofName? (nameOf x) = none) :
    (before ++ x :: after).find? (fun y => (Network.ofName? (nameOf y)).isNone) = some x := by
  refine List.find?_eq_some_iff_append.mpr ⟨by rw [hUnknown]; rfl, before, after, rfl, ?_⟩
  intro earlier hMem
  simpa [Option.isSome_iff_ne_none] using hBefore earlier hMem

/-! ### The settings -/

namespace Settings

variable {files : FileTree} {path : Path} {settings : Settings} {e : SettingsError}

theorem validate_eq_error {before after : List (String × NetworkTable)} {table : String × NetworkTable}
    (hTables : settings.networks = before ++ table :: after)
    (hBefore : ∀ earlier ∈ before, Network.ofName? earlier.1 ≠ none)
    (hUnknown : Network.ofName? table.1 = none) :
    settings.validate = .error (.unknownNetwork table.1) := by
  rw [validate, hTables, find?_unknown Prod.fst hBefore hUnknown]

section Load

variable [p : Settings.Order]

theorem load_of_mistake (h : Mistake files path e) : load files path = .error e := by
  cases h with
  | unreadable hThere hRead =>
      rw [load, hThere, hRead]
      rfl
  | malformed hThere hRead hParse =>
      rw [load, hThere, hRead]
      dsimp only
      rw [parse, hParse]
      rfl
  | unknownNetwork hThere hRead hParse hTables hBefore hUnknown =>
      rw [load, hThere, hRead]
      dsimp only
      rw [parse, hParse]
      dsimp only
      rw [validate_eq_error (by exact hTables) hBefore hUnknown]
      rfl

/-- Settings that cannot be loaded have a mistake. -/
theorem mistake_of_load (h : load files path = .error e) : Mistake files path e := by
  unfold load at h
  split at h
  · cases h
  · rename_i hThere
    have hExists : files.pathExists path = true := by simpa using hThere
    cases hRead : files.readText path with
    | error fault =>
        rw [hRead] at h
        cases h
        exact .unreadable hExists hRead
    | ok text =>
        rw [hRead] at h
        dsimp only at h
        unfold parse at h
        cases hParse : (Toml.parse? text).bind ofEntries? with
        | none =>
            rw [hParse] at h
            cases h
            exact .malformed hExists hRead hParse
        | some read =>
            rw [hParse] at h
            dsimp only [enumerating] at h
            unfold validate at h
            cases hFind : (p.order read.networks).find? fun t => (Network.ofName? t.1).isNone with
            | none =>
                rw [hFind] at h
                cases h
            | some table =>
                rw [hFind] at h
                cases h
                obtain ⟨hUnknown, before, after, hTables, hBefore⟩ :=
                  List.find?_eq_some_iff_append.mp hFind
                refine .unknownNetwork hExists hRead hParse hTables ?_ (by simpa using hUnknown)
                intro earlier hMem
                simpa [Option.isSome_iff_ne_none] using hBefore earlier hMem

/-- One table that names no network is enough, whichever of them is met first. -/
theorem load_of_table {text : String} {read : Settings} {table : String × NetworkTable}
    (hThere : files.pathExists path = true) (hRead : files.readText path = .ok text)
    (hParse : (Toml.parse? text).bind ofEntries? = some read) (hMem : table ∈ read.networks)
    (hUnknown : Network.ofName? table.1 = none) : ∃ e, load files path = .error e := by
  have hMet := (p.perm read.networks).mem_iff.mpr hMem
  have hSome : ((p.order read.networks).find? fun t => (Network.ofName? t.1).isNone).isSome = true :=
    List.find?_isSome.mpr ⟨table, hMet, by rw [hUnknown]; rfl⟩
  obtain ⟨first, hFirst⟩ := Option.isSome_iff_exists.mp hSome
  have hInvalid : (read.enumerating (p.order read.networks)).validate =
      .error (.unknownNetwork first.1) := by
    rw [validate, enumerating, hFirst]
  refine ⟨.invalid path (.unknownNetwork first.1), ?_⟩
  simp only [load, hThere, hRead, parse, hParse, hInvalid, Bool.not_true, Bool.false_eq_true, if_false]

end Load

end Settings

/-! ### The networks -/

namespace Program

variable {s : Surroundings} {files : FileTree} {options : ScanRequest} {settings : Settings}

/-- Names are looked up in their order up to the first that names no network. -/
theorem mapM_networkNamed (names : List String) :
    (∃ chosen, names.mapM networkNamed = .ok chosen ∧
        (∀ name ∈ names, Network.ofName? name ≠ none) ∧
        ∀ n, n ∈ chosen ↔ ∃ name ∈ names, Network.ofName? name = some n) ∨
      ∃ before name after, names = before ++ name :: after ∧
        (∀ earlier ∈ before, Network.ofName? earlier ≠ none) ∧ Network.ofName? name = none ∧
        names.mapM networkNamed =
          .error ((Complaint.ofError (.unknownNetwork name)).within s!"--network {name}") := by
  induction names with
  | nil => exact .inl ⟨[], rfl, by simp, by simp⟩
  | cons name names ih =>
      rw [List.mapM_cons]
      cases hName : Network.ofName? name with
      | none =>
          have hNamed : networkNamed name =
              .error ((Complaint.ofError (.unknownNetwork name)).within s!"--network {name}") := by
            rw [networkNamed, hName]
          rw [hNamed]
          exact .inr ⟨[], name, names, rfl, by simp, hName, rfl⟩
      | some network =>
          have hNamed : networkNamed name = .ok network := by rw [networkNamed, hName]
          rw [hNamed]
          rcases ih with ⟨chosen, hChosen, hKnown, hMem⟩ | ⟨before, bad, after, rfl, hBefore, hBad, hError⟩
          · refine .inl ⟨network :: chosen, by rw [hChosen]; rfl, ?_, fun n => ?_⟩
            · simpa [hName] using hKnown
            · simp [hName, hMem, eq_comm]
          · refine .inr ⟨name :: before, bad, after, rfl, ?_, hBad, by rw [hError]; rfl⟩
            simpa [hName] using hBefore

/-- The networks to scan are those that are selected, in scan order. If a name on the command line
is unknown, the first such name is the error. -/
theorem selectNetworks_cases (options : ScanRequest) (settings : Settings) :
    (∃ chosen, selectNetworks options.networks settings = .ok chosen ∧
        (∀ names, options.networks = some names → ∀ name ∈ names, Network.ofName? name ≠ none) ∧
        chosen.Pairwise (fun m n => m.rank < n.rank) ∧
        ∀ n, n ∈ chosen ↔ options.Selects settings n) ∨
      ∃ names before name after, options.networks = some names ∧ names = before ++ name :: after ∧
        (∀ earlier ∈ before, Network.ofName? earlier ≠ none) ∧ Network.ofName? name = none ∧
        selectNetworks options.networks settings =
          .error ((Complaint.ofError (.unknownNetwork name)).within s!"--network {name}") := by
  unfold ScanRequest.Selects selectNetworks
  cases hNames : options.networks with
  | none =>
      refine .inl ⟨_, rfl, by simp, Network.inScanOrder_filter _, fun n => ?_⟩
      simp [Settings.enabledNetworks, Network.mem_all]
  | some names =>
      rcases mapM_networkNamed names with
        ⟨chosen, hChosen, hKnown, hMem⟩ | ⟨before, name, after, hSplit, hBefore, hName, hError⟩
      · have hSorted := Network.pairwise_sorted chosen
        refine .inl ⟨_, by dsimp only; rw [hChosen]; rfl, by simpa using hKnown,
          Network.inScanOrder_eraseReps hSorted, fun n => ?_⟩
        rw [Network.mem_eraseReps, (Network.sorted_perm chosen).mem_iff, hMem]
      · exact .inr ⟨names, before, name, after, rfl, hSplit, hBefore, hName,
          by dsimp only; rw [hError]; rfl⟩

end Program

/-! ### The keys -/

theorem keyless_iff {environment : String → Option String} {network : Network} :
    Keyless environment network ↔ ¬ ∃ pool, KeyRing.Supplies environment network pool := by
  simp only [KeyRing.supplies_iff]
  rw [not_exists, ← Option.eq_none_iff_forall_ne_some, Option.bind_eq_none_iff]
  simp only [KeyPool.parse?_eq_none_iff]
  rfl

/-- Every network has keys, or the first without any is the error. -/
theorem KeyRing.ofVariables_cases (environment : String → Option String) (networks : List Network) :
    (∃ keys, ofVariables environment networks = .ok keys ∧
        ∀ n ∈ networks, ¬ Keyless environment n) ∨
      ∃ before n after, networks = before ++ n :: after ∧
        (∀ earlier ∈ before, ¬ Keyless environment earlier) ∧ Keyless environment n ∧
        ofVariables environment networks = .error (.missingKeys n) := by
  simp only [keyless_iff, not_not]
  rcases ofVariables_supplied environment networks with
    ⟨keys, hOk, hAll, -⟩ | ⟨n, ⟨before, after, hSplit, hBefore, hNone⟩, hError⟩
  · exact .inl ⟨keys, hOk, hAll⟩
  · exact .inr ⟨before, n, after, hSplit, hBefore, not_exists.mpr hNone, hError⟩

/-! ### The exports -/

/-- Every network has an export, or the first without one is the error. -/
theorem Scan.checkInputs_cases (settings : Settings) (files : FileTree) (networks : List Network) :
    (checkInputs settings files networks = .ok () ∧
        ∀ n ∈ networks, files.isFile (settings.exportPath n) = true) ∨
      ∃ before n after, networks = before ++ n :: after ∧
        (∀ earlier ∈ before, files.isFile (settings.exportPath earlier) = true) ∧
        files.isFile (settings.exportPath n) = false ∧
        checkInputs settings files networks = .error (.missingInput (settings.exportPath n)) := by
  cases hFind : networks.find? fun n => !files.isFile (settings.exportPath n) with
  | none =>
      have hOk : checkInputs settings files networks = .ok () := by rw [checkInputs, hFind]
      exact .inl ⟨hOk, checkInputs_eq_ok_iff.mp hOk⟩
  | some network =>
      obtain ⟨hMissing, before, after, hSplit, hBefore⟩ := List.find?_eq_some_iff_append.mp hFind
      refine .inr ⟨before, network, after, hSplit, by simpa using hBefore, by simpa using hMissing, ?_⟩
      rw [checkInputs, hFind]

/-! ### In scan order -/

namespace FirstSelected

variable {options : ScanRequest} {settings : Settings} {P : Network → Prop} {n m : Network}

/-- Where the selected networks stand in scan order, the first with a property comes first. -/
theorem of_split {chosen before after : List Network}
    (hMem : ∀ n, n ∈ chosen ↔ options.Selects settings n)
    (hSorted : chosen.Pairwise fun m n => m.rank < n.rank) (hSplit : chosen = before ++ n :: after)
    (hBefore : ∀ earlier ∈ before, ¬ P earlier) (hHolds : P n) :
    FirstSelected options settings P n := by
  subst hSplit
  refine ⟨(hMem n).mp (by simp), hHolds, fun other hSelected hRank => ?_⟩
  rcases List.mem_append.mp ((hMem other).mpr hSelected) with hEarlier | hLater
  · exact hBefore other hEarlier
  · have hAfter := (List.pairwise_append.mp hSorted).2.1
    rcases List.mem_cons.mp hLater with rfl | hLater
    · exact absurd hRank (Nat.lt_irrefl _)
    · have hLess := List.rel_of_pairwise_cons hAfter hLater
      omega

theorem unique (h : FirstSelected options settings P n) (h' : FirstSelected options settings P m) :
    n = m := by
  rcases Nat.lt_trichotomy n.rank m.rank with hLess | hEqual | hMore
  · exact absurd h.holds (h'.first n h.selected hLess)
  · exact Network.rank_inj.mp hEqual
  · exact absurd h'.holds (h.first m h'.selected hMore)

end FirstSelected

/-! ### Preparing a scan -/

namespace Program

variable [p : Settings.Order] {s : Surroundings} {files : FileTree} {options : ScanRequest}
variable {settings : Settings} {chosen : List Network} {keys : KeyRing} {c : Complaint}

/-- The settings of a scan, with the directories that the command line names. -/
def settled (options : ScanRequest) (settings : Settings) : Settings :=
  { settings with
    inputDir := options.inputDir.getD settings.inputDir
    outputDir := options.outputDir.getD settings.outputDir
    cacheDir := options.cacheDir.getD settings.cacheDir }

theorem prepare_of_unloaded {e : SettingsError}
    (h : Settings.load files options.settingsPath = .error e) :
    prepare s files options = .error (.ofSettings e) := by
  have hSettings : scanSettings files options = .error (.ofSettings e) := by
    unfold scanSettings settingsFor
    rw [ScanRequest.settingsPath] at h
    rw [h]
    rfl
  unfold prepare
  rw [hSettings]
  rfl

theorem prepare_of_loaded (h : Settings.load files options.settingsPath = .ok settings) :
    prepare s files options =
      (selectNetworks options.networks (settled options settings)).bind fun chosen =>
        ((KeyRing.ofVariables s.environment chosen).mapError Complaint.ofError).bind fun keys =>
          ((Scan.checkInputs (settled options settings) files chosen).mapError Complaint.ofError).bind
            fun _ => .ok (settled options settings, chosen, keys) := by
  have hSettings : scanSettings files options = .ok (settled options settings) := by
    unfold scanSettings settingsFor
    rw [ScanRequest.settingsPath] at h
    rw [h]
    rfl
  unfold prepare
  rw [hSettings]
  rfl

omit p in
/-- Which networks are selected does not hang on the directories. -/
theorem selectNetworks_settled (options : ScanRequest) (settings : Settings) :
    selectNetworks options.networks (settled options settings) =
      selectNetworks options.networks settings := rfl

/-- A scan is prepared, and nothing is wrong with it, or it ends in the complaint about its first
mistake. -/
theorem prepare_cases (s : Surroundings) (files : FileTree) (options : ScanRequest) :
    (∃ settings chosen keys, Settings.load files options.settingsPath = .ok settings ∧
        (∀ n, n ∈ chosen ↔ options.Selects settings n) ∧
        (∀ names, options.networks = some names → ∀ name ∈ names, Network.ofName? name ≠ none) ∧
        (∀ n ∈ chosen, ¬ Keyless s.environment n) ∧
        (∀ n ∈ chosen, files.isFile (options.inputPath settings n) = true) ∧
        prepare s files options = .ok (settled options settings, chosen, keys)) ∨
      ∃ c, FirstMistake s files options c ∧ prepare s files options = .error c := by
  cases hLoad : Settings.load files options.settingsPath with
  | error e => exact .inr ⟨_, .settings (Settings.mistake_of_load hLoad), prepare_of_unloaded hLoad⟩
  | ok settings =>
      have hPrepare := prepare_of_loaded (s := s) hLoad
      rw [selectNetworks_settled] at hPrepare
      rcases selectNetworks_cases options settings with
        ⟨chosen, hChosen, hKnown, hSorted, hMem⟩ |
          ⟨names, before, name, after, hNames, hSplit, hBefore, hName, hError⟩
      · rw [hChosen] at hPrepare
        dsimp only [Except.bind] at hPrepare
        rcases KeyRing.ofVariables_cases s.environment chosen with
          ⟨keys, hKeys, hAll⟩ | ⟨before, n, after, hSplit, hBefore, hKeyless, hError⟩
        · rw [hKeys] at hPrepare
          dsimp only [Except.mapError] at hPrepare
          rcases Scan.checkInputs_cases (settled options settings) files chosen with
            ⟨hInputs, hFiles⟩ | ⟨before, n, after, hSplit, hBefore, hMissing, hError⟩
          · rw [hInputs] at hPrepare
            exact .inl ⟨settings, chosen, keys, rfl, hMem, hKnown, hAll, hFiles, hPrepare⟩
          · rw [hError] at hPrepare
            have hFirst : FirstSelected options settings
                (fun n => files.isFile (options.inputPath settings n) = false) n := by
              refine .of_split hMem hSorted hSplit (fun earlier hEarlier hAbsent => ?_) hMissing
              exact Bool.false_ne_true (hAbsent.symm.trans (hBefore earlier hEarlier))
            have hKeys := fun m hSelected => hAll m ((hMem m).mpr hSelected)
            exact .inr ⟨_, .input hLoad hKnown hKeys hFirst, hPrepare⟩
        · rw [hError] at hPrepare
          exact .inr ⟨_, .keys hLoad hKnown (.of_split hMem hSorted hSplit hBefore hKeyless), hPrepare⟩
      · rw [hError] at hPrepare
        exact .inr ⟨_, .name hLoad hNames hSplit hBefore hName, hPrepare⟩

end Program

/-! ### One first mistake -/

namespace FirstMistake

variable [p : Settings.Order] {s : Surroundings} {files : FileTree} {options : ScanRequest}
variable {settings : Settings}
variable {c c' : Complaint} {e : SettingsError} {n : Network}

theorem eq_of_settings (hMistake : Settings.Mistake files options.settingsPath e)
    (h : FirstMistake s files options c) : c = .ofSettings e := by
  have hError := Settings.load_of_mistake hMistake
  cases h with
  | settings hOther =>
      rw [Settings.load_of_mistake hOther] at hError
      cases hError
      rfl
  | name hLoad => rw [hLoad] at hError; cases hError
  | keys hLoad => rw [hLoad] at hError; cases hError
  | input hLoad => rw [hLoad] at hError; cases hError

theorem eq_of_keys (hLoad : Settings.load files options.settingsPath = .ok settings)
    (hNames : ∀ names, options.networks = some names → ∀ name ∈ names, Network.ofName? name ≠ none)
    (hFirst : FirstSelected options settings (Keyless s.environment) n)
    (h : FirstMistake s files options c) : c = .ofError (.missingKeys n) := by
  cases h with
  | settings hMistake =>
      rw [Settings.load_of_mistake hMistake] at hLoad
      cases hLoad
  | name _ hSome hSplit _ hUnknown =>
      exact absurd hUnknown (hNames _ hSome _ (by rw [hSplit]; simp))
  | keys hOther _ hOtherFirst =>
      obtain rfl := Except.ok.inj (hLoad.symm.trans hOther)
      rw [hFirst.unique hOtherFirst]
  | input hOther _ hKeys =>
      obtain rfl := Except.ok.inj (hLoad.symm.trans hOther)
      exact absurd hFirst.holds (hKeys n hFirst.selected)

/-- A scan has at most one first mistake. -/
theorem unique (h : FirstMistake s files options c) (h' : FirstMistake s files options c') :
    c = c' := by
  cases h with
  | settings hMistake => exact (h'.eq_of_settings hMistake).symm
  | keys hLoad hNames hFirst => exact (h'.eq_of_keys hLoad hNames hFirst).symm
  | @name _ names before after name hLoad hNames hSplit hBefore hUnknown =>
      have hMem : name ∈ names := by rw [hSplit]; simp
      cases h' with
      | settings hMistake =>
          exact eq_of_settings (s := s) hMistake (.name hLoad hNames hSplit hBefore hUnknown)
      | name _ hOther hSplit' hBefore' hUnknown' =>
          obtain rfl := Option.some.inj (hNames.symm.trans hOther)
          have hFound : names.find? (fun n => (Network.ofName? (id n)).isNone) = some name := by
            rw [hSplit]
            exact find?_unknown id hBefore hUnknown
          rw [hSplit', find?_unknown id hBefore' hUnknown'] at hFound
          rw [Option.some.inj hFound]
      | keys _ hKnown => exact absurd hUnknown (hKnown names hNames name hMem)
      | input _ hKnown => exact absurd hUnknown (hKnown names hNames name hMem)
  | @input settings network hLoad hNames hKeys hFirst =>
      cases h' with
      | settings hMistake => exact eq_of_settings hMistake (.input hLoad hNames hKeys hFirst)
      | name _ hSome hSplit _ hUnknown =>
          exact absurd hUnknown (hNames _ hSome _ (by rw [hSplit]; simp))
      | keys hOther hNames' hFirst' =>
          exact eq_of_keys hOther hNames' hFirst' (.input hLoad hNames hKeys hFirst)
      | input hOther _ _ hOtherFirst =>
          obtain rfl := Except.ok.inj (hLoad.symm.trans hOther)
          rw [hFirst.unique hOtherFirst]

end FirstMistake

/-! ### A scan with a mistake -/

namespace Program

section Mistaken

variable [p : Settings.Order] {s : Surroundings} {files : FileTree} {options : ScanRequest}

/-- A scan with which something is wrong is not prepared. -/
theorem exists_firstMistake (h : Mistaken s files options) :
    ∃ c, FirstMistake s files options c ∧ prepare s files options = .error c := by
  rcases prepare_cases s files options with
    ⟨settings, chosen, keys, hLoad, hMem, hKnown, hKeys, hFiles, _⟩ | hMistake
  · exfalso
    cases h with
    | settings hMistake =>
        rw [Settings.load_of_mistake hMistake] at hLoad
        cases hLoad
    | table hThere hRead hParse hTable hUnknown =>
        obtain ⟨e, hError⟩ := Settings.load_of_table hThere hRead hParse hTable hUnknown
        rw [hError] at hLoad
        cases hLoad
    | name hNames hName hUnknown => exact hKnown _ hNames _ hName hUnknown
    | keys hOther hSelected hKeyless =>
        obtain rfl := Except.ok.inj (hLoad.symm.trans hOther)
        exact hKeys _ ((hMem _).mpr hSelected) hKeyless
    | input hOther hSelected hMissing =>
        obtain rfl := Except.ok.inj (hLoad.symm.trans hOther)
        exact Bool.false_ne_true (hMissing.symm.trans (hFiles _ ((hMem _).mpr hSelected)))
  · exact hMistake

variable [o : Manifest.Order]

theorem scan_of_unprepared {ω : Type} (web : Web ω) (filter : Filter) (state : ω) {c : Complaint}
    (h : prepare s files options = .error c) :
    scan web s filter files state options = ⟨1, [.err c.text], files, state⟩ := by
  unfold scan
  rw [h]
  rfl

/-- In whatever order the tables of its settings are met, a scan with which something is wrong
complains about its first mistake and exits with code 1. It has printed nothing else, and it leaves
the files and the web as they were. -/
theorem mistakes_have_no_effect {ω : Type} (web : Web ω) (s : Surroundings) (files : FileTree)
    (state : ω) {options : ScanRequest} {verbose : Bool}
    (hScan : Request.parse s.arguments = .ok (.scan options, verbose))
    (h : Mistaken s files options) :
    ∃ c, FirstMistake s files options c ∧
      (∀ other, FirstMistake s files options other → other = c) ∧
      run web s files state = ⟨1, [.err c.text], files, state⟩ := by
  obtain ⟨c, hFirst, hPrepare⟩ := exists_firstMistake h
  refine ⟨c, hFirst, fun other hOther => hOther.unique hFirst, ?_⟩
  rw [run, hScan]
  exact scan_of_unprepared web (noteFilter s verbose) state hPrepare

end Mistaken

/-- A scan of two networks, one of which has a key. -/
def twoNetworks : Surroundings where
  arguments := ["scan", "-qn", "poly, OP"]
  environment name := if name = "POLYGONSCAN_API_KEY" then some "k" else some " , "
  terminal := true

def twoOptions : ScanRequest where
  networks := some ["poly", " OP"]
  settings := none
  inputDir := none
  outputDir := none
  cacheDir := none
  noCache := false
  format := .text
  quiet := true
  noColor := false

def noFiles : FileTree := .withHome ["w"]

/-- No export is there, but the keys of one network are missed first. -/
theorem mistakes_have_no_effect_keys :
    run Web.unreachable twoNetworks noFiles () =
      ⟨1, [.err (Complaint.ofError (.missingKeys .op)).text], noFiles, ()⟩ := by
  have hScan : Request.parse twoNetworks.arguments = .ok (.scan twoOptions, false) := by rfl
  have hLoad : Settings.load noFiles twoOptions.settingsPath = .ok Settings.standard := by rfl
  have hPoly : twoOptions.Selects Settings.standard .poly := ⟨"poly", by decide, by decide +kernel⟩
  have hOp : twoOptions.Selects Settings.standard .op := ⟨" OP", by decide, by decide +kernel⟩
  have hMissing : noFiles.isFile (twoOptions.inputPath Settings.standard .poly) = false := by
    decide +kernel
  have hKeys : FirstMistake twoNetworks noFiles twoOptions (.ofError (.missingKeys .op)) := by
    have hOthers : ∀ n ∈ Network.all, n.rank < Network.op.rank →
        ¬ ∃ name ∈ ["poly", " OP"], Network.ofName? name = some n := by decide +kernel
    refine .keys hLoad ?_ ⟨hOp, ?_, ?_⟩
    · intro names hNames
      obtain rfl := Option.some.inj hNames
      decide +kernel
    · intro raw hRaw
      obtain rfl := Option.some.inj hRaw
      decide +kernel
    · exact fun other hSelected hRank => absurd hSelected (hOthers other other.mem_all hRank)
  obtain ⟨c, _, hUnique, hRun⟩ := mistakes_have_no_effect Web.unreachable twoNetworks noFiles ()
    hScan (.input hLoad hPoly hMissing)
  rw [hRun, hUnique _ hKeys]

end Program

end LockTriage
