import LockTriage.Proofs.Json.Reading

/-!
Written documents read back. A document that was read from text is read from its
compact text again, and the tree of any document with whole numbers that fit is
read from its text over several lines.
-/

namespace LockTriage.Json

private theorem ofText?_of_lexes {text : List Char} {r : Raw} (h : Lexes text r.tokens) :
    Raw.ofText? text = some r := by
  have hTokens := h [] ended_nil
  rw [List.append_nil] at hTokens
  have hNil : tokens? [] = some [] := by rw [tokens?]
  rw [Raw.ofText?, hTokens, hNil, Option.map_some, List.append_nil, Option.bind_some,
    Raw.ofTokens?_tokens]

/-- The indented text of a document reads as its tree. -/
theorem Exact.ofText?_pretty {j : Json} (h : Exact j) :
    Raw.ofText? j.pretty.toList = some j.raw := by
  rw [pretty, String.toList_ofList]
  exact ofText?_of_lexes (h.lexes_indented 0)

/-- It reads the same with the end of its last line. -/
theorem Exact.ofText?_pretty_line {j : Json} (h : Exact j) :
    Raw.ofText? (j.pretty ++ "\n").toList = some j.raw := by
  have hLine : Lexes (j.indented 0 ++ ['\n']) (j.raw.tokens ++ []) := by
    apply (h.lexes_indented 0).append (Lexes.nil.space rfl)
    exact ended_cons.mpr rfl
  rw [List.append_nil] at hLine
  rw [pretty, String.toList_append, String.toList_ofList]
  exact ofText?_of_lexes hLine

/-- A member whose name comes after all others is put at the end. -/
theorem setMember_of_ordered {name : String} {before : List (String × Json)}
    (h : ∀ m ∈ before, m.1 < name) (value : Json) :
    setMember name value before = before ++ [(name, value)] := by
  induction before with
  | nil => rfl
  | cons m before ih =>
      obtain ⟨n, v⟩ := m
      simp only [List.mem_cons, forall_eq_or_imp] at h
      rw [setMember, if_neg (ne_of_gt h.1), if_neg (lt_asymm h.1), ih h.2, List.cons_append]

private theorem items?_raw {depth : Nat} {items : List Json}
    (h : ∀ item ∈ items, item.raw.value? depth = some item) :
    Raw.items? depth (items.map raw) = some items := by
  induction items with
  | nil => rfl
  | cons item items ih =>
      simp only [List.mem_cons, forall_eq_or_imp] at h
      rw [List.map_cons, Raw.items?, h.1, ih h.2]

private theorem members?_raw {depth : Nat} (before : List (String × Json))
    {members : List (String × Json)} (hOrdered : Ordered (before ++ members))
    (h : ∀ m ∈ members, m.2.raw.value? depth = some m.2) :
    Raw.members? depth before (members.map fun m => (units m.1, m.2.raw)) =
      some (before ++ members) := by
  induction members generalizing before with
  | nil => simp [Raw.members?]
  | cons m members ih =>
      obtain ⟨name, value⟩ := m
      simp only [List.mem_cons, forall_eq_or_imp] at h
      have hLast : ∀ m ∈ before, m.1 < name := fun m hm =>
        (List.pairwise_append.mp hOrdered).2.2 m hm (name, value) List.mem_cons_self
      have hPlace := setMember_of_ordered hLast value
      have hSplit : before ++ (name, value) :: members = before ++ [(name, value)] ++ members := by
        simp
      rw [hSplit] at hOrdered ⊢
      rw [List.map_cons, Raw.members?, string?_units, h.1]
      simp only [hPlace]
      exact ih _ hOrdered h.2

/-- The tree of a document that reading gives stands for it. -/
theorem Stable.value?_raw {depth : Nat} {j : Json} (h : Stable depth j) :
    j.raw.value? depth = some j := by
  induction h with
  | null => simp [raw, Raw.value?]
  | bool => simp [raw, Raw.value?]
  | number => simp [raw, Raw.value?]
  | text => simp [raw, Raw.value?]
  | list _ ih => simp [raw, Raw.value?, items?_raw ih]
  | @object depth members hOrdered _ ih =>
      have hMembers := members?_raw [] hOrdered ih
      simp only [List.nil_append] at hMembers
      simp [raw, Raw.value?, hMembers]

/-- A document that reading gives is read from its compact text again. -/
theorem Stable.parse?_render {j : Json} (h : Stable depthLimit j) :
    parse? j.render = some j := by
  rw [parse?, render, String.toList_ofList, ofText?_of_lexes h.lexes_compact,
    Option.bind_some, h.value?_raw]

theorem Readable.parse?_render {j : Json} (h : Readable depthLimit j) :
    parse? j.render = some j :=
  h.stable.parse?_render

/-- Whatever numbers it has, a document that was read from text is read from its
compact text again. -/
theorem parse?_render_again {s : String} {j : Json} (h : parse? s = some j) :
    parse? j.render = some j :=
  (stable_of_parse? h).parse?_render

/-- A document that was read from text, with whole numbers only, is read from its
compact text again. -/
theorem parse?_render {s : String} {j : Json} (h : parse? s = some j) (hWhole : Whole j) :
    parse? j.render = some j :=
  (readable_of_parse? h hWhole).parse?_render

end LockTriage.Json
