import LockTriage.KeyRing
import Mathlib.Data.List.Range

/-!
Drawing keys. A pool that has been drawn from any number of times stands at a
place that depends on that number alone, and drawing from one pool leaves the
pools of the other networks as they are. The pools that the variables give are
those of the networks they are read for.
-/

namespace LockTriage

namespace KeyPool

variable (p : KeyPool)

/-- The key that is drawn after `count` others. -/
def nth (count : Nat) : String :=
  p.keys.get ⟨(p.cursor + count) % p.keys.length,
    Nat.mod_lt _ (Nat.lt_of_le_of_lt (Nat.zero_le _) p.cursor_lt)⟩

/-- The pool after `count` keys have been drawn. -/
def advance (count : Nat) : KeyPool :=
  ⟨p.keys, (p.cursor + count) % p.keys.length,
    Nat.mod_lt _ (Nat.lt_of_le_of_lt (Nat.zero_le _) p.cursor_lt)⟩

@[simp] theorem advance_keys (count : Nat) : (p.advance count).keys = p.keys := rfl

@[simp] theorem advance_cursor (count : Nat) :
    (p.advance count).cursor = (p.cursor + count) % p.size := rfl

@[simp] theorem advance_zero : p.advance 0 = p := by
  obtain ⟨keys, cursor, hCursor⟩ := p
  simp [advance, Nat.mod_eq_of_lt hCursor]

/-- Passing over keys twice passes over both numbers of them. -/
@[simp] theorem advance_advance (count more : Nat) :
    (p.advance count).advance more = p.advance (count + more) := by
  simp [advance, Nat.add_assoc]

/-- The keys that come after some were passed over are the later ones. -/
theorem nth_advance (count more : Nat) : (p.advance count).nth more = p.nth (count + more) := by
  simp [advance, nth, Nat.add_assoc]

/-- Drawing takes the next key and passes over it. -/
theorem draw_eq : p.draw = (p.nth 0, p.advance 1) := by
  obtain ⟨keys, cursor, hCursor⟩ := p
  simp [draw, nth, advance, Nat.mod_eq_of_lt hCursor]

/-- From a pool that has not been drawn from the keys come in their order, over
and over. -/
theorem getElem?_nth (hCursor : p.cursor = 0) (count : Nat) :
    p.keys[count % p.size]? = some (p.nth count) := by
  simp only [nth, hCursor, Nat.zero_add, size, List.get_eq_getElem]
  exact List.getElem?_eq_getElem _

/-- The keys of the next `count` draws, in their order. -/
def drawn (p : KeyPool) : Nat → List String
  | 0 => []
  | count + 1 => p.draw.1 :: p.draw.2.drawn count

/-- What is drawn in a row are the keys from the cursor on. -/
theorem drawn_eq (count : Nat) : p.drawn count = (List.range count).map p.nth := by
  induction count generalizing p with
  | zero => rfl
  | succ count ih =>
      rw [drawn, draw_eq, ih, List.range_succ_eq_map, List.map_cons, List.map_map]
      refine congrArg (p.nth 0 :: ·) (List.map_congr_left fun i _ => ?_)
      rw [nth_advance, Nat.add_comm, Function.comp_apply]

/-- A pool starts at the first of its keys. -/
theorem ofList?_eq_some_iff {keys : List String} {p : KeyPool} :
    ofList? keys = some p ↔ p.keys = keys ∧ p.cursor = 0 := by
  obtain ⟨own, cursor, hCursor⟩ := p
  unfold ofList?
  split
  · simp [eq_comm]
  · rename_i hNone
    simp only [reduceCtorEq, false_iff, not_and]
    rintro rfl -
    exact hNone (Nat.lt_of_le_of_lt (Nat.zero_le _) hCursor)

/-- A pool that was just read begins with its first key. -/
theorem cursor_of_parse? {raw : String} {p : KeyPool} (h : parse? raw = some p) : p.cursor = 0 :=
  (ofList?_eq_some_iff.mp h).2

end KeyPool

namespace KeyRing

variable {r r' : KeyRing} {network other : Network} {pool : KeyPool} {key : String}

/-- A pool that is put in place of another leaves all others as they are. -/
theorem pool?_insert (r : KeyRing) (network other : Network) (pool : KeyPool) :
    (r.insert network pool).pool? other = if other = network then some pool else r.pool? other :=
  Assoc.get?_set _ _ _ _

/-- Drawing for a network advances its pool. -/
theorem draw?_of_pool (hPool : r.pool? network = some pool) :
    r.draw? network = some (pool.nth 0, r.insert network (pool.advance 1)) := by
  rw [draw?, hPool, Option.map_some, KeyPool.draw_eq]

/-- A key that was drawn is the next one of the pool of its network. -/
theorem draw?_eq_some (h : r.draw? network = some (key, r')) :
    ∃ pool, r.pool? network = some pool ∧ key = pool.nth 0 ∧
      r' = r.insert network (pool.advance 1) := by
  cases hPool : r.pool? network with
  | none =>
      rw [draw?, hPool] at h
      cases h
  | some pool =>
      rw [draw?_of_pool hPool] at h
      cases h
      exact ⟨pool, rfl, rfl, rfl⟩

/-- Drawing fails for no other reason than that the network has no pool. -/
theorem isSome_draw? (r : KeyRing) (network : Network) :
    (r.draw? network).isSome = r.contains network := Option.isSome_map

/-- Drawing for a network leaves the pools of all others as they are. -/
theorem pool?_of_draw? (h : r.draw? network = some (key, r')) (hNe : other ≠ network) :
    r'.pool? other = r.pool? other := by
  obtain ⟨pool, _, _, rfl⟩ := draw?_eq_some h
  rw [pool?_insert, if_neg hNe]

/-- Drawing takes no network's pool away. -/
theorem contains_of_draw? (h : r.draw? network = some (key, r')) (other : Network) :
    r'.contains other = r.contains other := by
  obtain ⟨pool, hPool, _, rfl⟩ := draw?_eq_some h
  rw [contains, contains, pool?_insert]
  split
  · rename_i hSame
    rw [hSame, hPool]
    rfl
  · rfl

/-- No key has been drawn yet. -/
def Fresh (r : KeyRing) : Prop := ∀ network pool, r.pool? network = some pool → pool.cursor = 0

/-- No key was drawn where there are none. -/
theorem fresh_empty : empty.Fresh := by
  intro network pool hPool
  cases hPool

/-- A new pool has all its keys ahead. -/
theorem Fresh.insert (h : r.Fresh) {keys : List String} (hPool : KeyPool.ofList? keys = some pool) :
    (r.insert network pool).Fresh := by
  intro other found hFound
  rw [pool?_insert] at hFound
  split at hFound
  · cases hFound
    exact (KeyPool.ofList?_eq_some_iff.mp hPool).2
  · exact h other found hFound

/-! ### Reading the variables -/

/-- The variable of the network is set, and the pool is that of its keys. -/
def Supplies (lookup : String → Option String) (network : Network) (pool : KeyPool) : Prop :=
  ∃ raw, lookup network.keyVariable = some raw ∧ KeyPool.parse? raw = some pool

/-- The network is the first of some networks whose variable gives no pool. -/
def FirstWithout (lookup : String → Option String) (networks : List Network) (network : Network) :
    Prop :=
  ∃ before after, networks = before ++ network :: after ∧
    (∀ earlier ∈ before, ∃ pool, Supplies lookup earlier pool) ∧
    ∀ pool, ¬ Supplies lookup network pool

variable {lookup : String → Option String} {networks : List Network}

/-- A variable supplies the pool that is read from it. -/
theorem supplies_iff :
    Supplies lookup network pool ↔ (lookup network.keyVariable).bind KeyPool.parse? = some pool :=
  Option.bind_eq_some_iff.symm

/-- The first network without keys is the one that reading stops at. -/
theorem FirstWithout.find? (h : FirstWithout lookup networks network) :
    networks.find? (fun n => ((lookup n.keyVariable).bind KeyPool.parse?).isNone) =
      some network := by
  obtain ⟨before, after, rfl, hBefore, hNone⟩ := h
  refine List.find?_eq_some_iff_append.mpr ⟨?_, before, after, rfl, fun earlier hMem => ?_⟩
  · rw [Option.isNone_iff_eq_none, Option.eq_none_iff_forall_ne_some]
    exact fun pool hPool => hNone pool (supplies_iff.mpr hPool)
  · obtain ⟨pool, hPool⟩ := hBefore earlier hMem
    rw [supplies_iff.mp hPool]
    rfl

/-- There is one first network without keys at most. -/
theorem FirstWithout.unique (h : FirstWithout lookup networks network)
    (h' : FirstWithout lookup networks other) : network = other :=
  Option.some.inj (h.find?.symm.trans h'.find?)

/-- The first network without keys is one of the networks, and has none. -/
theorem FirstWithout.mem (h : FirstWithout lookup networks network) :
    network ∈ networks ∧ ¬ ∃ pool, Supplies lookup network pool := by
  obtain ⟨before, after, rfl, -, hNone⟩ := h
  exact ⟨by simp, not_exists.mpr hNone⟩

/-- A network that has a pool is passed over. -/
theorem FirstWithout.cons (h : FirstWithout lookup networks network)
    (hPool : Supplies lookup other pool) : FirstWithout lookup (other :: networks) network := by
  obtain ⟨before, after, rfl, hBefore, hNone⟩ := h
  exact ⟨other :: before, after, rfl, List.forall_mem_cons.mpr ⟨⟨pool, hPool⟩, hBefore⟩, hNone⟩

/-- Every network has a pool, or the first without one is the error. -/
theorem ofVariables_supplied (lookup : String → Option String) (networks : List Network) :
    (∃ r, ofVariables lookup networks = .ok r ∧
        (∀ n ∈ networks, ∃ pool, Supplies lookup n pool) ∧
        ∀ n, r.pool? n =
          if n ∈ networks then (lookup n.keyVariable).bind KeyPool.parse? else empty.pool? n) ∨
      ∃ n, FirstWithout lookup networks n ∧
        ofVariables lookup networks = .error (.missingKeys n) := by
  unfold ofVariables
  -- The pools that are there already are kept, so the induction is on any ring to start with.
  generalize empty = ring
  induction networks generalizing ring with
  | nil => exact .inl ⟨ring, rfl, by simp, by simp⟩
  | cons network networks ih =>
      rw [List.foldlM_cons]
      cases hPool : (lookup network.keyVariable).bind KeyPool.parse? with
      | none =>
          refine .inr ⟨network, ⟨[], networks, rfl, by simp, fun pool hSupplies => ?_⟩, rfl⟩
          rw [supplies_iff.mp hSupplies] at hPool
          cases hPool
      | some pool =>
          have hSupplies : Supplies lookup network pool := supplies_iff.mpr hPool
          rcases ih (ring.insert network pool) with ⟨r, hOk, hAll, hPools⟩ | ⟨n, hFirst, hError⟩
          · refine .inl ⟨r, hOk, List.forall_mem_cons.mpr ⟨⟨pool, hSupplies⟩, hAll⟩, fun n => ?_⟩
            rw [hPools, pool?_insert]
            by_cases hSame : n = network
            · simp [hSame, hPool]
            · simp [hSame]
          · exact .inr ⟨n, hFirst.cons hSupplies, hError⟩

/-- The pools are those of the listed networks, as their variables give them. -/
theorem pool?_ofVariables (h : ofVariables lookup networks = .ok r) (network : Network)
    (pool : KeyPool) :
    r.pool? network = some pool ↔ network ∈ networks ∧ Supplies lookup network pool := by
  rcases ofVariables_supplied lookup networks with ⟨ring, hRing, -, hPools⟩ | ⟨n, -, hError⟩
  · obtain rfl := Except.ok.inj (hRing.symm.trans h)
    rw [hPools, supplies_iff]
    split
    · simp [*]
    · simp [*, empty, pool?]
  · rw [hError] at h
    cases h

/-- The variables are enough exactly if each network has keys. -/
theorem ofVariables_succeeds_iff :
    (∃ r, ofVariables lookup networks = .ok r) ↔
      ∀ n ∈ networks, ∃ pool, Supplies lookup n pool := by
  rcases ofVariables_supplied lookup networks with ⟨r, hOk, hAll, -⟩ | ⟨n, hFirst, hError⟩
  · exact iff_of_true ⟨r, hOk⟩ hAll
  · rw [hError]
    simp only [reduceCtorEq, exists_false, false_iff]
    exact fun hAll => hFirst.mem.2 (hAll n hFirst.mem.1)

/-- The error names the first network without keys. -/
theorem ofVariables_eq_error_iff {e : ScanError} :
    ofVariables lookup networks = .error e ↔
      ∃ n, FirstWithout lookup networks n ∧ e = .missingKeys n := by
  rcases ofVariables_supplied lookup networks with ⟨r, hOk, hAll, -⟩ | ⟨n, hFirst, hError⟩
  · rw [hOk]
    simp only [reduceCtorEq, false_iff, not_exists, not_and]
    exact fun n hFirst => absurd (hAll n hFirst.mem.1) hFirst.mem.2
  · rw [hError, Except.error.injEq]
    constructor
    · rintro rfl
      exact ⟨n, hFirst, rfl⟩
    · rintro ⟨m, hOther, rfl⟩
      rw [hFirst.unique hOther]

/-- The ring has pools of the networks that were asked for, and of no other. -/
theorem contains_ofVariables (h : ofVariables lookup networks = .ok r) (network : Network) :
    r.contains network = true ↔ network ∈ networks := by
  rw [contains, Option.isSome_iff_exists]
  simp only [pool?_ofVariables h]
  rw [exists_and_left, and_iff_left_iff_imp]
  exact ofVariables_succeeds_iff.mp ⟨r, h⟩ network

end KeyRing

end LockTriage
