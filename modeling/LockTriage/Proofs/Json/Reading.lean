import LockTriage.Proofs.Json.Lexing

/-!
Reading the tokens of a tree gives the tree. Each value is read with whatever
stands open below it on the stack, which it leaves as it is.
-/

namespace LockTriage.Json.Raw

/-- Reading the tokens leads from one state of the reader to another. -/
def Leads (reading : Reading) (tokens : List Token) (next : Reading) : Prop :=
  tokens.foldlM step reading = some next

theorem Leads.append {reading middle last : Reading} {first second : List Token}
    (hFirst : Leads reading first middle) (hSecond : Leads middle second last) :
    Leads reading (first ++ second) last := by
  unfold Leads at *
  rw [List.foldlM_append, hFirst]
  exact hSecond

theorem Leads.cons {reading middle last : Reading} {token : Token} {tokens : List Token}
    (hStep : step reading token = some middle) (hRest : Leads middle tokens last) :
    Leads reading (token :: tokens) last := by
  unfold Leads at *
  rw [List.foldlM_cons, hStep]
  exact hRest

/-- Before the first item of a list, a value is read as it is read anywhere else. -/
theorem Leads.firstItem {stack : List Open} {tokens : List Token} {next : Reading}
    (hNonempty : tokens ≠ []) (h : Leads (.value stack) tokens next) :
    Leads (.firstItem stack) tokens next := by
  cases tokens with
  | nil => exact absurd rfl hNonempty
  | cons token tokens =>
      have hStep : begin stack token ≠ none → step (.firstItem stack) token = begin stack token := by
        intro hBegin
        unfold step
        split <;> simp_all [begin]
      unfold Leads at *
      rw [List.foldlM_cons] at h ⊢
      cases hBegin : begin stack token with
      | none => simp [step, hBegin] at h
      | some middle => rwa [hStep (by simp [hBegin])]

-- The items before these are on the stack, latest first, and do not change.
private theorem leads_items {items : List Raw}
    (h : ∀ item ∈ items, ∀ stack, Leads (.value stack) item.tokens (.complete item stack))
    (hNonempty : items ≠ []) (done : List Raw) (stack : List Open) :
    Leads (.value (.list done :: stack))
      ([.comma].intercalate (items.map tokens) ++ [.closeList])
      (.complete (.list (done.reverse ++ items)) stack) := by
  induction items generalizing done with
  | nil => exact absurd rfl hNonempty
  | cons item items ih =>
      simp only [List.mem_cons, forall_eq_or_imp] at h
      have hItem := h.1 (.list done :: stack)
      cases items with
      | nil =>
          have hClose : Leads (.complete item (.list done :: stack)) [.closeList]
              (.complete (.list (done.reverse ++ [item])) stack) := by
            simp [Leads, step, continue?]
          simpa using hItem.append hClose
      | cons next items =>
          have hRest := ih h.2 (List.cons_ne_nil next items) (item :: done)
          have hComma : Leads (.complete item (.list done :: stack)) (.comma :: _) _ :=
            Leads.cons rfl hRest
          simpa [List.intercalate_cons_cons] using hItem.append hComma

private theorem leads_members {members : List (List StringUnit × Raw)}
    (h : ∀ m ∈ members, ∀ stack, Leads (.value stack) m.2.tokens (.complete m.2 stack))
    (hNonempty : members ≠ []) (done : List (List StringUnit × Raw)) (stack : List Open) :
    Leads (.name done stack)
      ([.comma].intercalate (members.map fun m => .string m.1 :: .colon :: m.2.tokens) ++
        [.closeObject])
      (.complete (.object (done.reverse ++ members)) stack) := by
  induction members generalizing done with
  | nil => exact absurd rfl hNonempty
  | cons m members ih =>
      obtain ⟨name, value⟩ := m
      simp only [List.mem_cons, forall_eq_or_imp] at h
      have hValue := h.1 (.object done name :: stack)
      have hMember : Leads (.name done stack) (.string name :: .colon :: value.tokens)
          (.complete value (.object done name :: stack)) :=
        Leads.cons rfl (Leads.cons rfl hValue)
      cases members with
      | nil =>
          have hClose : Leads (.complete value (.object done name :: stack)) [.closeObject]
              (.complete (.object (done.reverse ++ [(name, value)])) stack) := by
            simp [Leads, step, continue?]
          simpa using hMember.append hClose
      | cons next members =>
          have hRest := ih h.2 (List.cons_ne_nil next members) ((name, value) :: done)
          have hComma : Leads (.complete value (.object done name :: stack)) (.comma :: _) _ :=
            Leads.cons rfl hRest
          simpa [List.intercalate_cons_cons] using hMember.append hComma

/-- The tokens of a tree are read as the tree, whatever is open around it. -/
theorem leads_tokens (r : Raw) (stack : List Open) :
    Leads (.value stack) r.tokens (.complete r stack) := by
  match r with
  | .null => simp [tokens, Leads, step, begin]
  | .bool b => simp [tokens, Leads, step, begin]
  | .number n => simp [tokens, Leads, step, begin]
  | .text units => simp [tokens, Leads, step, begin]
  | .list items =>
      have hItems : ∀ item ∈ items, ∀ stack,
          Leads (.value stack) item.tokens (.complete item stack) :=
        fun item _ stack => leads_tokens item stack
      rw [tokens]
      refine Leads.cons rfl ?_
      cases items with
      | nil => simp [Leads, step]
      | cons item items =>
          refine Leads.firstItem (by simp) ?_
          simpa using leads_items hItems (List.cons_ne_nil item items) [] stack
  | .object members =>
      have hMembers : ∀ m ∈ members, ∀ stack,
          Leads (.value stack) m.2.tokens (.complete m.2 stack) :=
        fun m _ stack => leads_tokens m.2 stack
      rw [tokens]
      refine Leads.cons rfl ?_
      cases members with
      | nil => simp [Leads, step]
      | cons m members =>
          have hNames := leads_members hMembers (List.cons_ne_nil m members) [] stack
          cases members <;> exact hNames
termination_by sizeOf r
decreasing_by
  · decreasing_tactic
  · obtain ⟨name, value⟩ := m
    have hSize := List.sizeOf_lt_of_mem ‹(name, value) ∈ members›
    simp only [Prod.mk.sizeOf_spec, object.sizeOf_spec] at hSize ⊢
    omega

/-- The tokens of a tree stand for it. -/
@[simp] theorem ofTokens?_tokens (r : Raw) : ofTokens? r.tokens = some r := by
  have hLeads := leads_tokens r []
  rw [ofTokens?, hLeads]
  rfl

end LockTriage.Json.Raw
