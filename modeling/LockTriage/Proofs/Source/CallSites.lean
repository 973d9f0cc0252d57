import LockTriage.Source.RawCall
import LockTriage.Proofs.Source.Span
import LockTriage.Proofs.Text.Search

/-!
Call sites against the shape of a call. The sites of a source are the places
where its text has that shape, each with the byte at which it starts and with
its argument text.
-/

namespace LockTriage.RawCall

/-- Behind `before` the source has a call: its name, white space, and then the
rest of the source, which starts with the opening parenthesis. -/
def Call (source before rest : List Char) : Prop :=
  ∃ blanks, (∀ c ∈ blanks, Text.isBlank c = true) ∧ rest.head? = some '(' ∧
    source = before ++ (marker.toList ++ (blanks ++ rest))

theorem leading?_eq_some_iff {text rest : List Char} :
    leading? text = some rest ↔ Call text [] rest := by
  simp only [Call, List.nil_append]
  constructor
  · intro h
    unfold leading? at h
    split at h
    · cases h
    · rename_i tail hMarker
      rw [Text.after?_eq_some_iff] at hMarker
      split at h
      · rename_i inner hDrop
        simp only [Option.some.injEq] at h
        subst h
        refine ⟨tail.takeWhile Text.isBlank, fun c hc => ?_, rfl, ?_⟩
        · exact List.all_eq_true.mp List.all_takeWhile c hc
        · rw [hMarker, ← hDrop, List.takeWhile_append_dropWhile]
      · cases h
  · rintro ⟨blanks, hBlanks, hHead, rfl⟩
    obtain ⟨inner, rfl⟩ : ∃ inner, rest = '(' :: inner := List.head?_eq_some_iff.mp hHead
    have hDrop : (blanks ++ '(' :: inner).dropWhile Text.isBlank = '(' :: inner := by
      rw [List.dropWhile_append_of_pos hBlanks]
      rfl
    simp only [leading?, Text.after?_append, hDrop]

/-- A call stands at the start of a text or behind its first character. -/
theorem call_cons_iff {c : Char} {text before rest : List Char} :
    Call (c :: text) before rest ↔
      (before = [] ∧ leading? (c :: text) = some rest) ∨
        ∃ before', before = c :: before' ∧ Call text before' rest := by
  cases before with
  | nil => simp [leading?_eq_some_iff]
  | cons b before =>
      simp only [Call, List.cons_append, List.cons.injEq]
      constructor
      · rintro ⟨blanks, hBlanks, hHead, rfl, hText⟩
        exact .inr ⟨before, ⟨rfl, rfl⟩, blanks, hBlanks, hHead, hText⟩
      · rintro (⟨hEmpty, _⟩ | ⟨before', ⟨rfl, rfl⟩, blanks, hBlanks, hHead, hText⟩)
        · cases hEmpty
        · exact ⟨blanks, hBlanks, hHead, rfl, hText⟩

/-- A call needs its name and its parenthesis, so no empty text has one. -/
theorem not_call_nil {before rest : List Char} : ¬ Call [] before rest := by
  rintro ⟨blanks, _, hHead, hText⟩
  have hRest : rest = [] := by simp_all
  simp [hRest] at hHead

theorem Call.argument_iff {source before rest argument : List Char}
    (h : Call source before rest) :
    Balanced.IsArgument rest argument ↔ argument = Balanced.leadingOrRest '(' ')' rest := by
  obtain ⟨_, _, hHead, _⟩ := h
  obtain ⟨inner, rfl⟩ := List.head?_eq_some_iff.mp hHead
  exact Balanced.isArgument_iff

theorem mem_sitesFrom_iff {offset : Nat} {text : List Char} {site : Site} :
    site ∈ sitesFrom offset text ↔
      ∃ before rest argument, Call text before rest ∧ Balanced.IsArgument rest argument ∧
        site = ⟨offset + Text.byteLength before, String.ofList argument⟩ := by
  induction text generalizing offset with
  | nil => simp [sitesFrom, not_call_nil]
  | cons c text ih =>
      have hLater : site ∈ sitesFrom (offset + c.utf8Size) text ↔
          ∃ before rest argument, (∃ before', before = c :: before' ∧ Call text before' rest) ∧
            Balanced.IsArgument rest argument ∧
            site = ⟨offset + Text.byteLength before, String.ofList argument⟩ := by
        rw [ih]
        constructor
        · rintro ⟨before, rest, argument, hCall, hArgument, rfl⟩
          exact ⟨c :: before, rest, argument, ⟨before, rfl, hCall⟩, hArgument,
            by simp [Text.byteLength, Nat.add_assoc]⟩
        · rintro ⟨_, rest, argument, ⟨before, rfl, hCall⟩, hArgument, rfl⟩
          exact ⟨before, rest, argument, hCall, hArgument,
            by simp [Text.byteLength, Nat.add_assoc]⟩
      simp only [sitesFrom, call_cons_iff, or_and_right, exists_or]
      rw [← hLater]
      cases hLeading : leading? (c :: text) with
      | none => simp
      | some args =>
          have hCall := leading?_eq_some_iff.mp hLeading
          simp only [List.mem_cons, Option.some.injEq]
          refine or_congr_left ?_
          constructor
          · rintro rfl
            exact ⟨[], args, _, ⟨rfl, rfl⟩, hCall.argument_iff.mpr rfl, rfl⟩
          · rintro ⟨_, _, argument, ⟨rfl, rfl⟩, hArgument, rfl⟩
            rw [hCall.argument_iff.mp hArgument]
            rfl

/-- A site is listed exactly where the source has a call. -/
theorem mem_sites_iff {source : String} {site : Site} :
    site ∈ sites source ↔
      ∃ before rest argument, Call source.toList before rest ∧
        Balanced.IsArgument rest argument ∧
        site = ⟨Text.byteLength before, String.ofList argument⟩ := by
  simp only [sites, mem_sitesFrom_iff, Nat.zero_add]

/-- Every call shows its name. -/
theorem Call.marker_infix {source before rest : List Char} (h : Call source before rest) :
    marker.toList <:+: source := by
  obtain ⟨blanks, _, _, rfl⟩ := h
  exact ⟨before, blanks ++ rest, by simp⟩

end LockTriage.RawCall
