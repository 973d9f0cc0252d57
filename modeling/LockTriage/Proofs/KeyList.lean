import LockTriage.Proofs.KeyRing
import LockTriage.Proofs.Text.Split
import LockTriage.Proofs.Text.Trim
import Mathlib.Data.List.Forall2

/-!
Lists of keys. The keys of a list are its entries between the commas, without the white space around
them, and blank entries count for nothing. So whoever writes a list may pad the keys and leave blank
entries among them, and the keys that are read are those that were meant. The networks of a ring are
those whose variables were read, or the first whose variable holds no key is missed.
-/

namespace LockTriage

theorem Text.trimmed_eq_empty_iff {text : String} : trimmed text = "" ↔ blank text = true := by
  have hTrim : trim text.toList = [] ↔ ∀ c ∈ text.toList, isBlank c = true :=
    trimWhere_eq_nil_iff
  rw [trimmed, blank, List.all_eq_true, ← hTrim]
  exact String.ofList_eq_empty_iff

namespace KeyPool

variable {raw entry key : String} {entries keys : List String} {pool : KeyPool}

/-- A key list gives no pool exactly when every entry between its commas is blank. -/
theorem parse?_eq_none_iff :
    parse? raw = none ↔ ∀ key ∈ Text.splitAt ',' raw, Text.blank key = true := by
  simp only [← Text.trimmed_eq_empty_iff]
  unfold parse? ofList?
  simp

/-! ### Entries -/

/-- The entries of a text are what stands between its commas. -/
structure Lists (raw : String) (entries : List String) : Prop where
  nonempty : entries ≠ []
  noComma : ∀ entry ∈ entries, ',' ∉ entry.toList
  joined : raw = ",".intercalate entries

/-- The key is the entry without the white space around it. -/
def Trims (entry key : String) : Prop := Text.Strips Text.isBlank entry.toList key.toList

/-- A text that can be a key of a list. -/
structure IsKey (key : String) : Prop where
  nonempty : key ≠ ""
  noComma : ',' ∉ key.toList
  unpadded : Text.Trimmed Text.isBlank key.toList

/-- A text is cut into entries in one way only. -/
theorem lists_iff : Lists raw entries ↔ Text.splitAt ',' raw = entries := by
  constructor
  · rintro ⟨hSome, hComma, rfl⟩
    have hPieces : Text.pieces ',' ([','].intercalate (entries.map String.toList)) =
        entries.map String.toList :=
      Text.pieces_intercalate (by simpa using hSome) (by simpa using hComma)
    rw [Text.splitAt, String.toList_intercalate, show ",".toList = [','] from rfl, hPieces,
      List.map_map]
    simp [Function.comp_def]
  · rintro rfl
    refine ⟨by simp [Text.splitAt, Text.pieces_ne_nil], fun entry hMem => ?_, ?_⟩
    · obtain ⟨piece, hPiece, rfl⟩ := List.mem_map.mp hMem
      rw [String.toList_ofList]
      exact Text.notMem_of_mem_pieces hPiece
    · have hText := Text.intercalate_pieces ',' raw.toList
      rw [← String.toList_inj, String.toList_intercalate, Text.splitAt, List.map_map]
      simpa [Function.comp_def] using hText.symm

/-- Every text lists its entries in exactly one way. -/
theorem existsUnique_lists (raw : String) : ∃! entries, Lists raw entries :=
  ⟨Text.splitAt ',' raw, lists_iff.mpr rfl, fun _ hOther => (lists_iff.mp hOther).symm⟩

/-! ### Reading -/

/-- A list of entries gives no pool exactly when all its entries are blank. -/
theorem Lists.parse?_eq_none_iff (h : Lists raw entries) :
    parse? raw = none ↔ ∀ entry ∈ entries, Text.blank entry = true :=
  lists_iff.mp h ▸ KeyPool.parse?_eq_none_iff

/-- What is kept of the entries of a list. -/
def kept (entries : List String) : List String :=
  (entries.map Text.trimmed).filter fun key => !key.isEmpty

/-- The pool of a list is made of the entries that are kept. -/
theorem parse?_of_lists (h : Lists raw entries) : parse? raw = ofList? (kept entries) := by
  rw [parse?, lists_iff.mp h, kept]

/-- The keys of a pool are the entries kept, in the order in which they are listed. -/
theorem Lists.keys_eq (h : Lists raw entries) (hPool : KeyPool.parse? raw = some pool) :
    pool.keys = kept entries := by
  rw [parse?_of_lists h] at hPool
  exact (ofList?_eq_some_iff.mp hPool).1

theorem trims_iff : Trims entry key ↔ Text.trimmed entry = key := by
  rw [Trims, ← Text.trimWhere_eq_iff, Text.trimmed, Text.trim, ← String.toList_inj,
    String.toList_ofList]

theorem kept_cons_blank (h : Text.blank entry = true) : kept (entry :: entries) = kept entries := by
  rw [kept, List.map_cons, Text.trimmed_eq_empty_iff.mpr h]
  rfl

theorem kept_cons_key (h : Text.trimmed entry ≠ "") :
    kept (entry :: entries) = Text.trimmed entry :: kept entries :=
  List.filter_cons_of_pos (by simpa using h)

/-- What is kept are the entries that are not blank, each without the white space around it. -/
theorem trims_kept (entries : List String) :
    List.Forall₂ Trims (entries.filter fun entry => !Text.blank entry) (kept entries) := by
  induction entries with
  | nil => exact .nil
  | cons entry entries ih =>
      cases hBlank : Text.blank entry with
      | true =>
          rw [kept_cons_blank hBlank, List.filter_cons_of_neg (by simp [hBlank])]
          exact ih
      | false =>
          have hKey : Text.trimmed entry ≠ "" := by simp [Text.trimmed_eq_empty_iff, hBlank]
          rw [kept_cons_key hKey, List.filter_cons_of_pos (by simp [hBlank])]
          exact .cons (trims_iff.mpr rfl) ih

/-- What is left of an entry without comma when it is trimmed can be a key. -/
theorem Trims.isKey (h : Trims entry key) (hNonempty : key ≠ "") (hComma : ',' ∉ entry.toList) :
    IsKey key := by
  obtain ⟨left, right, hEntry, -, -, hTrimmed⟩ := h
  refine ⟨hNonempty, fun hMem => hComma ?_, hTrimmed⟩
  rw [hEntry]
  exact List.mem_append_left _ (List.mem_append_right _ hMem)

/-- All that is kept of a list can be keys. -/
theorem Lists.isKey (h : Lists raw entries) : ∀ key ∈ kept entries, IsKey key := by
  intro key hMem
  obtain ⟨hEntry, hNonempty⟩ := List.mem_filter.mp hMem
  obtain ⟨entry, hOf, hKey⟩ := List.mem_map.mp hEntry
  exact (trims_iff.mpr hKey).isKey (by simpa using hNonempty) (h.noComma entry hOf)

/-! ### Writing -/

/-- The entries are the keys in their order, each with white space around it, and blank ones
among them. -/
inductive Writes : List String → List String → Prop where
  | done : Writes [] []
  | blank {keys entries : List String} {entry : String} (hEntry : Text.blank entry = true)
      (hRest : Writes keys entries) : Writes keys (entry :: entries)
  | key {keys entries : List String} {key left right : String} (hLeft : Text.blank left = true)
      (hRight : Text.blank right = true) (hRest : Writes keys entries) :
      Writes (key :: keys) ((left ++ key ++ right) :: entries)

theorem notMem_of_blank {text : String} (h : Text.blank text = true) : ',' ∉ text.toList := by
  intro hMem
  have hComma := List.all_eq_true.mp h ',' hMem
  exact absurd hComma (by decide)

/-- A key with blanks around it trims to itself. -/
theorem IsKey.trims_pad {left right : String} (h : IsKey key) (hLeft : Text.blank left = true)
    (hRight : Text.blank right = true) : Trims (left ++ key ++ right) key :=
  ⟨left.toList, right.toList, by simp, List.all_eq_true.mp hLeft, List.all_eq_true.mp hRight,
    h.unpadded⟩

theorem Writes.noComma (h : Writes keys entries) (hKeys : ∀ key ∈ keys, IsKey key) :
    ∀ entry ∈ entries, ',' ∉ entry.toList := by
  induction h with
  | done => simp
  | blank hEntry _ ih => exact List.forall_mem_cons.mpr ⟨notMem_of_blank hEntry, ih hKeys⟩
  | key hLeft hRight _ ih =>
      obtain ⟨hKey, hOthers⟩ := List.forall_mem_cons.mp hKeys
      refine List.forall_mem_cons.mpr ⟨?_, ih hOthers⟩
      simp [notMem_of_blank hLeft, notMem_of_blank hRight, hKey.noComma]

/-- What is kept of entries that write keys are these keys. -/
theorem Writes.kept_eq (h : Writes keys entries) (hKeys : ∀ key ∈ keys, IsKey key) :
    kept entries = keys := by
  induction h with
  | done => rfl
  | blank hEntry _ ih => rw [kept_cons_blank hEntry, ih hKeys]
  | key hLeft hRight _ ih =>
      obtain ⟨hKey, hOthers⟩ := List.forall_mem_cons.mp hKeys
      have hTrimmed := trims_iff.mp (hKey.trims_pad hLeft hRight)
      rw [kept_cons_key (by rw [hTrimmed]; exact hKey.nonempty), hTrimmed, ih hOthers]

/-- Entries that write keys are the entries of their list. -/
theorem Writes.lists (h : Writes keys entries) (hSome : keys ≠ [])
    (hKeys : ∀ key ∈ keys, IsKey key) : Lists (",".intercalate entries) entries := by
  refine ⟨?_, h.noComma hKeys, rfl⟩
  rintro rfl
  cases h
  exact hSome rfl

/-- A list that writes keys is read back as a pool of just these keys. -/
theorem Writes.parse? (h : Writes keys entries) (hSome : keys ≠ [])
    (hKeys : ∀ key ∈ keys, IsKey key) :
    ∃ pool, KeyPool.parse? (",".intercalate entries) = some pool ∧ pool.keys = keys := by
  rw [parse?_of_lists (h.lists hSome hKeys), h.kept_eq hKeys]
  exact ⟨⟨keys, 0, List.length_pos_iff.mpr hSome⟩, ofList?_eq_some_iff.mpr ⟨rfl, rfl⟩, rfl⟩

/-! ### Drawing -/

/-- The keys of a list are drawn in their order, over and over. -/
theorem drawn_of_parse? (h : KeyPool.parse? raw = some pool) (count : Nat) :
    (pool.drawn count).map some =
      (List.range count).map fun i => pool.keys[i % pool.keys.length]? := by
  rw [drawn_eq, List.map_map]
  exact List.map_congr_left fun i _ => (pool.getElem?_nth (cursor_of_parse? h) i).symm

end KeyPool

namespace KeyRing

open KeyPool

/-- Each text is one list of entries. It has no keys exactly if all entries are blank; otherwise
its keys are the entries that are not, each without the white space around it, and they are drawn
in their order, over and over. However keys are written as a list, they are read back. Reading the
variables of some networks succeeds exactly if each is set and has keys, and gives pools to these
networks and no others; otherwise the first of the networks for which this is not so is missed. -/
theorem key_lists_exact :
    (∀ raw, ∃! entries, Lists raw entries) ∧
    (∀ raw entries, Lists raw entries →
      (parse? raw = none ↔ ∀ entry ∈ entries, Text.blank entry = true) ∧
      ∀ pool, parse? raw = some pool →
        List.Forall₂ Trims (entries.filter fun entry => !Text.blank entry) pool.keys ∧
        (∀ key ∈ pool.keys, IsKey key) ∧
        ∀ count, (pool.drawn count).map some =
          (List.range count).map fun i => pool.keys[i % pool.keys.length]?) ∧
    (∀ keys entries, keys ≠ [] → (∀ key ∈ keys, IsKey key) → Writes keys entries →
      ∃ pool, parse? (",".intercalate entries) = some pool ∧ pool.keys = keys) ∧
    ∀ lookup networks,
      ((∃ ring, ofVariables lookup networks = .ok ring) ↔
        ∀ n ∈ networks, ∃ pool, Supplies lookup n pool) ∧
      (∀ ring, ofVariables lookup networks = .ok ring →
        (∀ n, ring.contains n = true ↔ n ∈ networks) ∧
        ∀ n pool, ring.pool? n = some pool ↔ n ∈ networks ∧ Supplies lookup n pool) ∧
      ∀ e, ofVariables lookup networks = .error e ↔
        ∃ n, FirstWithout lookup networks n ∧ e = .missingKeys n := by
  refine ⟨existsUnique_lists, fun raw entries hLists => ⟨hLists.parse?_eq_none_iff, ?_⟩,
    fun keys entries hSome hKeys hWrites => hWrites.parse? hSome hKeys, fun lookup networks => ?_⟩
  · intro pool hPool
    have hKept := hLists.keys_eq hPool
    exact ⟨hKept ▸ trims_kept entries, hKept ▸ hLists.isKey, drawn_of_parse? hPool⟩
  · refine ⟨ofVariables_succeeds_iff, fun ring hRing => ?_, fun e => ofVariables_eq_error_iff⟩
    exact ⟨contains_ofVariables hRing, pool?_ofVariables hRing⟩

namespace Listed

/-- Two keys, one of them padded, with a blank entry between them and one at the end. -/
def entries : List String := [" a\t", "\u2003", "b", ""]

def raw : String := " a\t,\u2003,b,"

/-- One network has these keys, another one has none but its variable is set. -/
def lookup (name : String) : Option String :=
  if name = "POLYGONSCAN_API_KEY" then some raw
  else if name = "ETHERSCAN_API_KEY" then some " ,\u00a0" else none

/-- The keys a list of two entries gives, five draws from them, and the first network that is left
without keys. -/
theorem key_lists_exact_listed :
    Writes ["a", "b"] entries ∧ Lists raw entries ∧
    (∃ pool, parse? raw = some pool ∧ pool.keys = ["a", "b"] ∧
      (pool.drawn 5).map some = [some "a", some "b", some "a", some "b", some "a"]) ∧
    (∃ ring, ofVariables lookup [.poly, .poly] = .ok ring ∧ ring.contains .poly = true) ∧
    ofVariables lookup [.poly, .ethereum, .op] = .error (.missingKeys .ethereum) := by
  obtain ⟨-, hRead, hWrite, hVariables⟩ := key_lists_exact
  have hKeys : ∀ key ∈ ["a", "b"], IsKey key := by
    simp only [List.forall_mem_cons, List.not_mem_nil, false_imp_iff, implies_true, and_true]
    exact ⟨⟨by decide, by decide, by decide⟩, ⟨by decide, by decide, by decide⟩⟩
  have hWrites : Writes ["a", "b"] [" " ++ "a" ++ "\t", "\u2003", "" ++ "b" ++ "", ""] :=
    .key (by decide) (by decide) (.blank (by decide)
      (.key (by decide) (by decide) (.blank (by decide) .done)))
  have hLists : Lists raw entries := ⟨by decide, by decide, by decide⟩
  obtain ⟨pool, hPool, hOwn⟩ := hWrite ["a", "b"] entries (by decide) hKeys hWrites
  rw [← hLists.joined] at hPool
  obtain ⟨-, hDrawn⟩ := hRead raw entries hLists
  have hSupplies : Supplies lookup .poly pool := ⟨raw, by decide, hPool⟩
  refine ⟨hWrites, hLists, ⟨pool, hPool, hOwn, ?_⟩, ?_, ?_⟩
  · rw [(hDrawn pool hPool).2.2 5, hOwn]
    rfl
  · obtain ⟨ring, hRing⟩ := (hVariables lookup [.poly, .poly]).1.mpr (by simpa using ⟨pool, hSupplies⟩)
    exact ⟨ring, hRing, (((hVariables _ _).2.1 ring hRing).1 .poly).mpr (by simp)⟩
  · refine ((hVariables _ _).2.2 _).mpr ⟨.ethereum, ⟨[.poly], [.op], rfl, ?_, ?_⟩, rfl⟩
    · simpa using ⟨pool, hSupplies⟩
    · rintro other ⟨text, hText, hParse⟩
      obtain rfl : " ,\u00a0" = text := Option.some.inj hText
      have hBlank : Lists " ,\u00a0" [" ", "\u00a0"] := ⟨by decide, by decide, by decide⟩
      rw [(hRead _ _ hBlank).1.mpr (by decide)] at hParse
      cases hParse

end Listed

end KeyRing

end LockTriage
