import LockTriage.Text.Search

/-!
What the searches decide: a fixed text is found exactly where it stands.
-/

namespace LockTriage.Text

/-- Reading a fixed text leaves exactly what stands behind it. -/
theorem after?_eq_some_iff {needle text rest : List Char} :
    after? needle text = some rest ↔ text = needle ++ rest := by
  induction needle generalizing text with
  | nil => simp [after?]
  | cons n needle ih =>
      cases text with
      | nil => simp [after?]
      | cons c text =>
          by_cases h : n = c
          · simp [after?, h, ih]
          · simp [after?, h, Ne.symm h]

@[simp] theorem after?_append (needle rest : List Char) :
    after? needle (needle ++ rest) = some rest :=
  after?_eq_some_iff.mpr rfl

/-- A text starts with what is a prefix of it. -/
theorem startsWith_iff {needle text : List Char} :
    startsWith needle text = true ↔ needle <+: text := by
  rw [startsWith, Option.isSome_iff_exists]
  constructor
  · rintro ⟨rest, h⟩
    exact ⟨rest, (after?_eq_some_iff.mp h).symm⟩
  · rintro ⟨rest, rfl⟩
    exact ⟨rest, after?_append needle rest⟩

/-- What occurs in a text is a stretch of it. -/
theorem occursIn_iff {needle text : List Char} :
    occursIn needle text = true ↔ needle <:+: text := by
  induction text with
  | nil => simp [occursIn]
  | cons c text ih =>
      rw [occursIn, Bool.or_eq_true, startsWith_iff, ih, List.infix_cons_iff]

/-- A text contains what is a stretch of it. -/
theorem contains_iff {s needle : String} :
    contains s needle = true ↔ needle.toList <:+: s.toList :=
  occursIn_iff

end LockTriage.Text
