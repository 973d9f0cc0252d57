import LockTriage.Explorer.Query

/-!
Histories of explorers. An explorer may remember what it was asked, so what its answers
depend on is said about all sequences of queries that it can have answered before.
-/

namespace LockTriage

/-- The query but for its key. -/
def Query.withoutKey (q : Query) : Query := { q with key := "" }

namespace Explorer

variable {σ : Type} {explorer : Explorer σ} {state state' : σ}

/-- What the explorer remembers after some queries. -/
def after (explorer : Explorer σ) (state : σ) (asked : List Query) : σ :=
  asked.foldl (fun state query => (explorer.answer query state).2) state

theorem after_cons (query : Query) (asked : List Query) :
    explorer.after state (query :: asked) =
      explorer.after (explorer.answer query state).2 asked := rfl

/-! ### Keys -/

/-- Asked the same but for keys, from one state and from the other, the explorer gives the
same answers. -/
def Indistinct (explorer : Explorer σ) (state state' : σ) : Prop :=
  ∀ (asked asked' : List Query) (query query' : Query),
    asked'.map Query.withoutKey = asked.map Query.withoutKey →
    query'.withoutKey = query.withoutKey →
    (explorer.answer query' (explorer.after state' asked')).1 =
      (explorer.answer query (explorer.after state asked)).1

/-- No answer depends on the keys that the explorer was given, then or before. -/
def Blind (explorer : Explorer σ) (state : σ) : Prop := explorer.Indistinct state state

theorem Indistinct.answer (h : explorer.Indistinct state state') {query query' : Query}
    (hQuery : query'.withoutKey = query.withoutKey) :
    (explorer.answer query' state').1 = (explorer.answer query state).1 :=
  h [] [] query query' rfl hQuery

/-- One more query that is the same but for its key leaves the states indistinct. -/
theorem Indistinct.next (h : explorer.Indistinct state state') {query query' : Query}
    (hQuery : query'.withoutKey = query.withoutKey) :
    explorer.Indistinct (explorer.answer query state).2 (explorer.answer query' state').2 := by
  intro asked asked' last last' hAsked hLast
  refine h (query :: asked) (query' :: asked') last last' ?_ hLast
  rw [List.map_cons, List.map_cons, hQuery, hAsked]

/-- An explorer that never looks at keys. -/
theorem blind_of_answer
    (h : ∀ query state, explorer.answer query state = explorer.answer query.withoutKey state)
    (state : σ) : explorer.Blind state := by
  have hAfter (asked : List Query) (state : σ) :
      explorer.after state asked = explorer.after state (asked.map Query.withoutKey) := by
    induction asked generalizing state with
    | nil => rfl
    | cons query asked ih => rw [List.map_cons, after_cons, after_cons, ← h query, ih]
  intro asked asked' query query' hAsked hQuery
  rw [h query, h query', hQuery, hAfter asked, hAfter asked', hAsked]

/-! ### Networks -/

/-- From one state and from the other, the explorer gives the same answer about a contract of
the network when it was asked about the network as often before, whatever it was asked
besides. -/
def AgreeOn (explorer : Explorer σ) (network : Network) (state state' : σ) : Prop :=
  ∀ (asked asked' : List Query) (query query' : Query),
    (asked'.filter (·.network = network)).length = (asked.filter (·.network = network)).length →
    query.network = network → query'.network = network → query'.address = query.address →
    (explorer.answer query' (explorer.after state' asked')).1 =
      (explorer.answer query (explorer.after state asked)).1

/-- An answer depends on the network, the address, and how many queries about the network came
before. -/
def Separate (explorer : Explorer σ) (state : σ) : Prop :=
  ∀ network, explorer.AgreeOn network state state

variable {network : Network}

theorem AgreeOn.symm (h : explorer.AgreeOn network state state') :
    explorer.AgreeOn network state' state :=
  fun asked asked' query query' hCount hQuery hQuery' hAddress =>
    (h asked' asked query' query hCount.symm hQuery' hQuery hAddress.symm).symm

theorem AgreeOn.trans {last : σ} (h : explorer.AgreeOn network state state')
    (h' : explorer.AgreeOn network state' last) : explorer.AgreeOn network state last :=
  fun asked asked' query query' hCount hQuery hQuery' hAddress =>
    (h' asked asked' query query' hCount hQuery hQuery' hAddress).trans
      (h asked asked query query rfl hQuery hQuery rfl)

theorem AgreeOn.answer (h : explorer.AgreeOn network state state') {query : Query}
    (hQuery : query.network = network) :
    (explorer.answer query state').1 = (explorer.answer query state).1 :=
  h [] [] query query rfl hQuery hQuery rfl

/-- A query about the network, in both states, is one more that came before. -/
theorem AgreeOn.next (h : explorer.AgreeOn network state state') {query : Query}
    (hQuery : query.network = network) :
    explorer.AgreeOn network (explorer.answer query state).2 (explorer.answer query state').2 := by
  intro asked asked' last last' hCount
  refine h (query :: asked) (query :: asked') last last' ?_
  rw [List.filter_cons_of_pos (by simpa using hQuery), List.filter_cons_of_pos (by simpa using hQuery),
    List.length_cons, List.length_cons, hCount]

/-- A query about another network does not count. -/
theorem AgreeOn.other (h : explorer.AgreeOn network state state') {query : Query}
    (hQuery : query.network ≠ network) :
    explorer.AgreeOn network state (explorer.answer query state').2 := by
  intro asked asked' last last' hCount
  refine h asked (query :: asked') last last' ?_
  rw [List.filter_cons_of_neg (by simpa using hQuery), hCount]

end Explorer

end LockTriage
