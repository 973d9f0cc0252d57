import LockTriage.Proofs.Network
import LockTriage.Settings.Basic
import Mathlib.Data.List.Perm.Basic

/-!
The tables of networks in the settings. A table belongs to the network that its name names, in
any spelling, so a network may have several. The settings answer by the one that is met first,
and tables are met in no particular order. What is answered for a network is settled exactly
if all its tables would have it answered alike.
-/

namespace LockTriage

namespace NetworkTable

/-- Whether a network with this table is scanned. -/
def enables (table : NetworkTable) : Bool := table.enabled.getD true

/-- The endpoint of a network with this table. -/
def endpoint (network : Network) (table : NetworkTable) : String :=
  table.apiUrl.getD network.defaultApiUrl

end NetworkTable

namespace Settings

variable {s : Settings} {network : Network} {table : NetworkTable} {α : Type}
variable {tables : List (String × NetworkTable)}

/-- The table is one of those of the network. -/
def HasTable (s : Settings) (network : Network) (table : NetworkTable) : Prop :=
  ∃ name, (name, table) ∈ s.networks ∧ Network.Named name network

/-- All tables of the network say the same, in some respect. -/
def Agree (s : Settings) (network : Network) (tells : NetworkTable → α) : Prop :=
  ∀ t t', s.HasTable network t → s.HasTable network t' → tells t = tells t'

/-- What the table of the network tells in some respect, or what holds if it has none. -/
def answer (s : Settings) (network : Network) (tells : NetworkTable → α) (otherwise : α) : α :=
  ((s.table? network).map tells).getD otherwise

theorem isEnabled_eq (s : Settings) (network : Network) :
    s.isEnabled network = s.answer network NetworkTable.enables true := by
  rw [isEnabled, answer]
  cases s.table? network <;> rfl

theorem apiUrl_eq (s : Settings) (network : Network) :
    s.apiUrl network = s.answer network (NetworkTable.endpoint network) network.defaultApiUrl := by
  rw [apiUrl, answer]
  cases s.table? network <;> rfl

/-! ### The table that is met first -/

theorem hasTable_of_table? (h : s.table? network = some table) : s.HasTable network table := by
  obtain ⟨⟨name, _⟩, hFind, rfl⟩ := Option.map_eq_some_iff.mp h
  have hName : Network.ofName? name = some network := by simpa using List.find?_some hFind
  exact ⟨name, List.mem_of_find?_eq_some hFind, Network.ofName?_eq_some_iff.mp hName⟩

theorem table?_eq_none_iff : s.table? network = none ↔ ∀ table, ¬ s.HasTable network table := by
  rw [table?, Option.map_eq_none_iff, List.find?_eq_none]
  constructor
  · rintro h table ⟨name, hMem, hName⟩
    exact h _ hMem (by simp [Network.ofName?_eq_some_iff.mpr hName])
  · rintro h ⟨name, table⟩ hMem hName
    exact h table ⟨name, hMem, Network.ofName?_eq_some_iff.mp (by simpa using hName)⟩

/-- The order in which tables are met does not matter for whose they are. -/
theorem hasTable_enumerating (h : tables.Perm s.networks) :
    (s.enumerating tables).HasTable network table ↔ s.HasTable network table := by
  simp only [HasTable, enumerating, h.mem_iff]

/-- Each table of a network may be the one that is met first. -/
theorem exists_enumerating (h : s.HasTable network table) :
    ∃ tables, tables.Perm s.networks ∧ (s.enumerating tables).table? network = some table := by
  obtain ⟨name, hMem, hName⟩ := h
  obtain ⟨before, after, hSplit⟩ := List.append_of_mem hMem
  refine ⟨(name, table) :: (before ++ after), ?_, ?_⟩
  · rw [hSplit]
    exact List.perm_middle.symm
  · rw [table?, enumerating, List.find?_cons_of_pos (by simp [Network.ofName?_eq_some_iff.mpr hName])]
    rfl

theorem table?_enumerating_iff :
    (∃ tables, tables.Perm s.networks ∧ (s.enumerating tables).table? network = some table) ↔
      s.HasTable network table := by
  constructor
  · rintro ⟨tables, hPerm, hTable⟩
    exact (hasTable_enumerating hPerm).mp (hasTable_of_table? hTable)
  · exact exists_enumerating

/-! ### What is settled -/

variable {tells : NetworkTable → α} {otherwise : α}

theorem answer_of_table? (h : s.table? network = some table) :
    s.answer network tells otherwise = tells table := by
  rw [answer, h]
  rfl

/-- Where tables agree it does not matter which of them is met first. -/
theorem Agree.answer_enumerating (h : s.Agree network tells) (hPerm : tables.Perm s.networks) :
    (s.enumerating tables).answer network tells otherwise = s.answer network tells otherwise := by
  cases hTable : s.table? network with
  | none =>
      have hNone : (s.enumerating tables).table? network = none := by
        rw [table?_eq_none_iff] at hTable ⊢
        exact fun table hHas => hTable table ((hasTable_enumerating hPerm).mp hHas)
      rw [answer, answer, hNone, hTable]
  | some table =>
      have hHas := hasTable_of_table? hTable
      cases hTable' : (s.enumerating tables).table? network with
      | none =>
          have hHas' := (hasTable_enumerating hPerm).mpr hHas
          exact absurd hHas' (table?_eq_none_iff.mp hTable' table)
      | some table' =>
          have hHas' := (hasTable_enumerating hPerm).mp (hasTable_of_table? hTable')
          rw [answer_of_table? hTable, answer_of_table? hTable']
          exact h table' table hHas' hHas

/-- An answer is the same in every order exactly if all tables of the network agree on it. -/
theorem answer_enumerating_iff :
    (∀ tables, tables.Perm s.networks →
        (s.enumerating tables).answer network tells otherwise = s.answer network tells otherwise) ↔
      s.Agree network tells := by
  constructor
  · intro h t t' hHas hHas'
    obtain ⟨tables, hPerm, hTable⟩ := exists_enumerating hHas
    obtain ⟨tables', hPerm', hTable'⟩ := exists_enumerating hHas'
    calc
      tells t = (s.enumerating tables).answer network tells otherwise := (answer_of_table? hTable).symm
      _ = s.answer network tells otherwise := h tables hPerm
      _ = (s.enumerating tables').answer network tells otherwise := (h tables' hPerm').symm
      _ = tells t' := answer_of_table? hTable'
  · exact fun h tables hPerm => h.answer_enumerating hPerm

theorem mem_enabledNetworks : network ∈ s.enabledNetworks ↔ s.isEnabled network = true := by
  simp [enabledNetworks, Network.mem_all]

theorem enabledNetworks_eq_iff {s' : Settings} :
    s'.enabledNetworks = s.enabledNetworks ↔ ∀ network, s'.isEnabled network = s.isEnabled network := by
  constructor
  · intro h network
    rw [Bool.eq_iff_iff, ← mem_enabledNetworks, ← mem_enabledNetworks, h]
  · exact fun h => List.filter_congr fun network _ => h network

theorem validate_eq_ok_iff :
    s.validate = .ok () ↔ ∀ t ∈ s.networks, Network.ofName? t.1 ≠ none := by
  unfold validate
  split
  · rename_i name table hFind
    have hMem := List.mem_of_find?_eq_some hFind
    have hUnknown := List.find?_some hFind
    simp only [reduceCtorEq, false_iff, not_forall]
    exact ⟨_, hMem, by simpa using hUnknown⟩
  · rename_i hFind
    simpa [Option.isSome_iff_ne_none] using hFind

/-- Valid settings stay valid in whatever order their tables are met, and any table of a network
may be the one that counts. So whether a network is enabled, its endpoint, and the list of the
enabled networks are settled exactly if the tables of each network agree on it. -/
theorem settled_iff (h : s.validate = .ok ()) :
    (∀ tables, tables.Perm s.networks → (s.enumerating tables).validate = .ok ()) ∧
    (∀ network table,
      (∃ tables, tables.Perm s.networks ∧ (s.enumerating tables).table? network = some table) ↔
        s.HasTable network table) ∧
    (∀ network,
      (∀ tables, tables.Perm s.networks →
          (s.enumerating tables).isEnabled network = s.isEnabled network) ↔
        s.Agree network NetworkTable.enables) ∧
    (∀ network,
      (∀ tables, tables.Perm s.networks →
          (s.enumerating tables).apiUrl network = s.apiUrl network) ↔
        s.Agree network (NetworkTable.endpoint network)) ∧
    ((∀ tables, tables.Perm s.networks →
        (s.enumerating tables).enabledNetworks = s.enabledNetworks) ↔
      ∀ network, s.Agree network NetworkTable.enables) := by
  have hEnabled (network : Network) :
      (∀ tables, tables.Perm s.networks →
          (s.enumerating tables).isEnabled network = s.isEnabled network) ↔
        s.Agree network NetworkTable.enables := by
    simp only [isEnabled_eq]
    exact answer_enumerating_iff
  refine ⟨fun tables hPerm => ?_, fun _ _ => table?_enumerating_iff, hEnabled, fun network => ?_, ?_⟩
  · rw [validate_eq_ok_iff] at h ⊢
    exact fun t ht => h t (hPerm.mem_iff.mp ht)
  · simp only [apiUrl_eq]
    exact answer_enumerating_iff
  · simp only [enabledNetworks_eq_iff, ← hEnabled]
    exact ⟨fun h network tables hPerm => h tables hPerm network,
      fun h tables hPerm network => h network tables hPerm⟩

namespace Doubled

/-- Two spellings of one network, each with a table. -/
def settings : Settings :=
  { standard with
    networks := [("op", ⟨some false, some "http://localhost:8080/api"⟩), (" OP", ⟨none, none⟩),
      ("Celo", ⟨some false, none⟩)] }

def turned : List (String × NetworkTable) :=
  [(" OP", ⟨none, none⟩), ("op", ⟨some false, some "http://localhost:8080/api"⟩),
    ("Celo", ⟨some false, none⟩)]

/-- The network with one table has a settled answer, and the one with two has not. -/
theorem settled_iff_doubled :
    settings.validate = .ok () ∧
    (∀ tables, tables.Perm settings.networks →
      (settings.enumerating tables).isEnabled .celo = settings.isEnabled .celo) ∧
    ¬ ∀ tables, tables.Perm settings.networks →
      (settings.enumerating tables).isEnabled .op = settings.isEnabled .op := by
  have hValid : settings.validate = .ok () := by decide +kernel
  obtain ⟨-, -, hEnabled, -, -⟩ := settled_iff hValid
  refine ⟨hValid, (hEnabled .celo).mpr ?_, fun h => ?_⟩
  · have hOne : ∀ e ∈ settings.networks, Network.ofName? e.1 = some .celo →
        e.2 = ⟨some false, none⟩ := by decide
    rintro t t' ⟨name, hMem, hName⟩ ⟨name', hMem', hName'⟩
    obtain rfl : t = ⟨some false, none⟩ := hOne _ hMem (Network.ofName?_eq_some_iff.mpr hName)
    obtain rfl : t' = ⟨some false, none⟩ := hOne _ hMem' (Network.ofName?_eq_some_iff.mpr hName')
    rfl
  · have hAgree := (hEnabled .op).mp h ⟨some false, some "http://localhost:8080/api"⟩ ⟨none, none⟩
      ⟨"op", by decide, Network.ofName?_eq_some_iff.mp (by decide)⟩
      ⟨" OP", by decide, Network.ofName?_eq_some_iff.mp (by decide)⟩
    exact absurd hAgree (by decide)

/-- Valid settings with two tables for one network answer one thing or the other, by the order
in which the tables are met. -/
theorem order_decides :
    settings.validate = .ok () ∧ turned.Perm settings.networks ∧
    settings.isEnabled .op = false ∧ (settings.enumerating turned).isEnabled .op = true ∧
    settings.apiUrl .op = "http://localhost:8080/api" ∧
    (settings.enumerating turned).apiUrl .op = Network.op.defaultApiUrl ∧
    .op ∉ settings.enabledNetworks ∧ .op ∈ (settings.enumerating turned).enabledNetworks := by
  refine ⟨by decide +kernel, .swap _ _ _, ?_, ?_, ?_, ?_, ?_, ?_⟩ <;> decide +kernel

end Doubled

end Settings

end LockTriage
