import LockTriage.Proofs.Settings.Tables
import LockTriage.Settings.Load

/-!
A settings file in two runs that meet its tables in orders of their own. It is refused by both or by
neither, and if the tables of each network say the same, both runs scan the same networks and ask the
same endpoints.
-/

namespace LockTriage.Settings

variable {s : Settings} {tables : List (String × NetworkTable)} {p : Settings.Order}
variable {files : FileTree} {path : Path} {text : String}

/-- Whichever table of a network counts, it says the same. -/
def TablesAgree (s : Settings) : Prop :=
  ∀ network, s.Agree network NetworkTable.enables ∧ s.Agree network (NetworkTable.endpoint network)

/-- Tables agree if no two different ones belong to the same network. -/
theorem tablesAgree_of_distinct (h : ∀ e ∈ s.networks, ∀ e' ∈ s.networks,
    Network.ofName? e.1 = Network.ofName? e'.1 → e.2 = e'.2) : s.TablesAgree := by
  have hSame {network : Network} {t t' : NetworkTable} (hHas : s.HasTable network t)
      (hHas' : s.HasTable network t') : t = t' := by
    obtain ⟨name, hMem, hName⟩ := hHas
    obtain ⟨name', hMem', hName'⟩ := hHas'
    refine h _ hMem _ hMem' ?_
    rw [Network.ofName?_eq_some_iff.mpr hName, Network.ofName?_eq_some_iff.mpr hName']
  exact fun network => ⟨fun t t' hHas hHas' => congrArg _ (hSame hHas hHas'),
    fun t t' hHas hHas' => congrArg _ (hSame hHas hHas')⟩

theorem TablesAgree.enumerating (h : s.TablesAgree) (hPerm : tables.Perm s.networks) :
    (s.enumerating tables).enabledNetworks = s.enabledNetworks ∧
      (s.enumerating tables).apiUrl = s.apiUrl := by
  refine ⟨enabledNetworks_eq_iff.mpr fun network => ?_, funext fun network => ?_⟩
  · rw [isEnabled_eq, isEnabled_eq]
    exact (h network).1.answer_enumerating hPerm
  · rw [apiUrl_eq, apiUrl_eq]
    exact (h network).2.answer_enumerating hPerm

/-! ### Settings that are read -/

theorem validate_enumerating (hPerm : tables.Perm s.networks) (h : s.validate = .ok ()) :
    (s.enumerating tables).validate = .ok () := by
  rw [validate_eq_ok_iff] at h ⊢
  exact fun t ht => h t (hPerm.mem_iff.mp ht)

theorem parse_eq_ok_iff :
    parse path text = .ok s ↔
      ∃ read, (Toml.parse? text).bind ofEntries? = some read ∧
        s = read.enumerating (p.order read.networks) ∧ s.validate = .ok () := by
  unfold parse
  cases (Toml.parse? text).bind ofEntries? with
  | none => simp
  | some read =>
      dsimp only
      cases hValid : (read.enumerating (p.order read.networks)).validate with
      | error cause =>
          simp only [reduceCtorEq, Option.some.injEq, false_iff]
          rintro ⟨_, rfl, rfl, hOk⟩
          rw [hValid] at hOk
          cases hOk
      | ok _ =>
          simp only [Except.ok.injEq, Option.some.injEq]
          constructor
          · rintro rfl
            exact ⟨read, rfl, rfl, hValid⟩
          · rintro ⟨_, rfl, rfl, _⟩
            rfl

/-- Settings that one run reads are read by another with their tables in its own order. -/
theorem load_enumerated (p' : Settings.Order) (h : load (p := p) files path = .ok s) :
    ∃ tables, tables.Perm s.networks ∧ load (p := p') files path = .ok (s.enumerating tables) := by
  unfold load at h ⊢
  split
  · rename_i hMissing
    rw [if_pos hMissing] at h
    cases h
    exact ⟨[], .refl _, rfl⟩
  · rename_i hThere
    rw [if_neg hThere] at h
    cases hText : files.readText path with
    | error fault =>
        rw [hText] at h
        cases h
    | ok text =>
        rw [hText] at h
        obtain ⟨read, hRead, rfl, hValid⟩ := parse_eq_ok_iff.mp h
        have hPerm : (p'.order read.networks).Perm (p.order read.networks) :=
          (p'.perm read.networks).trans (p.perm read.networks).symm
        have hValid' := validate_enumerating hPerm hValid
        exact ⟨_, hPerm, parse_eq_ok_iff.mpr ⟨read, hRead, rfl, hValid'⟩⟩

end LockTriage.Settings
