import LockTriage.Text.Blank
import Mathlib.Data.List.DropRight

/-!
Trimming. What is left of a text has none of the characters at its ends, and what was cut
off consists of them, so a text can be trimmed in one way only.
-/

namespace LockTriage.Text

variable {p : Char → Bool} {text core left right : List Char}

/-- Neither end of the text is one of the characters. -/
structure Trimmed (p : Char → Bool) (text : List Char) : Prop where
  head : ∀ c ∈ text.head?, p c = false
  last : ∀ c ∈ text.getLast?, p c = false

instance (p : Char → Bool) (text : List Char) : Decidable (Trimmed p text) :=
  decidable_of_iff (text.head?.all (! p ·) ∧ text.getLast?.all (! p ·))
    ⟨fun h => ⟨by simpa [Option.all_eq_true] using h.1, by simpa [Option.all_eq_true] using h.2⟩,
      fun h => by simpa [Option.all_eq_true] using And.intro h.head h.last⟩

/-- The text is the core with some of the characters before and behind it, and the core
has none of them at its ends. -/
def Strips (p : Char → Bool) (text core : List Char) : Prop :=
  ∃ left right, text = left ++ core ++ right ∧ (∀ c ∈ left, p c = true) ∧
    (∀ c ∈ right, p c = true) ∧ Trimmed p core

theorem trimmed_nil (p : Char → Bool) : Trimmed p [] :=
  ⟨by simp, by simp⟩

/-- Trimming drops what can be dropped at the front, and then at the back. -/
theorem trimWhere_eq_rdropWhile (p : Char → Bool) (text : List Char) :
    trimWhere p text = (text.dropWhile p).rdropWhile p := rfl

/-- The characters around a text do not matter. -/
theorem trimWhere_pad (hLeft : ∀ c ∈ left, p c = true) (hRight : ∀ c ∈ right, p c = true) :
    trimWhere p (left ++ text ++ right) = trimWhere p text := by
  rw [List.append_assoc, trimWhere, List.dropWhile_append_of_pos hLeft, List.dropWhile_append]
  split
  · rename_i hEmpty
    rw [List.isEmpty_iff] at hEmpty
    rw [trimWhere, hEmpty, List.dropWhile_eq_nil_iff.mpr hRight]
  · rw [trimWhere, List.reverse_append, List.dropWhile_append_of_pos]
    exact fun c hc => hRight c (List.mem_reverse.mp hc)

/-- What follows and can be dropped makes no difference. -/
theorem trimWhere_append (hRight : ∀ c ∈ right, p c = true) :
    trimWhere p (text ++ right) = trimWhere p text :=
  @trimWhere_pad p text [] right (by simp) hRight

/-- A character that stays keeps what stands before it from being trimmed. -/
theorem rdropWhile_append_of_kept {second : List Char} (h : ∃ c ∈ second, p c = false)
    (first : List Char) : (first ++ second).rdropWhile p = first ++ second.rdropWhile p := by
  have hSome : (second.reverse.dropWhile p).isEmpty = false := by
    rw [Bool.eq_false_iff, Ne, List.isEmpty_iff, List.dropWhile_eq_nil_iff]
    obtain ⟨c, hMem, hc⟩ := h
    intro hAll
    rw [hAll c (List.mem_reverse.mpr hMem)] at hc
    cases hc
  rw [List.rdropWhile, List.rdropWhile, List.reverse_append, List.dropWhile_append, hSome,
    if_neg Bool.false_ne_true, List.reverse_append, List.reverse_reverse]

/-- A character that stays parts the text into what is trimmed in front and behind. -/
theorem trimWhere_append_cons {c : Char} (hc : p c = false) (before after : List Char) :
    trimWhere p (before ++ c :: after) = before.dropWhile p ++ c :: after.rdropWhile p := by
  have hKeep (front back : List Char) :
      (front ++ c :: back).dropWhile p = front.dropWhile p ++ c :: back := by
    rw [List.dropWhile_append]
    split
    · rename_i hEmpty
      rw [List.isEmpty_iff.mp hEmpty, List.dropWhile_cons_of_neg (by simp [hc]), List.nil_append]
    · rfl
  rw [trimWhere, hKeep, List.reverse_append, List.reverse_cons, List.append_assoc,
    List.singleton_append, hKeep, List.reverse_append, List.reverse_cons, List.reverse_reverse,
    List.append_assoc, List.singleton_append, List.rdropWhile]

theorem trimWhere_dropWhile (p : Char → Bool) (text : List Char) :
    trimWhere p (text.dropWhile p) = trimWhere p text := by
  rw [trimWhere, trimWhere, List.dropWhile_idempotent]

theorem trimWhere_rdropWhile (p : Char → Bool) (text : List Char) :
    trimWhere p (text.rdropWhile p) = trimWhere p text := by
  conv_rhs => rw [← List.rdropWhile_append_rtakeWhile (p := p) (l := text)]
  exact (trimWhere_append fun c hc => List.mem_rtakeWhile_imp hc).symm

/-- Other characters around a text do not give it ends that would be trimmed. -/
theorem Trimmed.pad (h : Trimmed p text) (hLeft : ∀ c ∈ left, p c = false)
    (hRight : ∀ c ∈ right, p c = false) : Trimmed p (left ++ text ++ right) := by
  refine ⟨fun c hc => ?_, fun c hc => ?_⟩
  · rw [List.head?_append, List.head?_append, Option.mem_def, Option.or_eq_some_iff,
      Option.or_eq_some_iff] at hc
    rcases hc with (hc | ⟨-, hc⟩) | ⟨-, hc⟩
    · exact hLeft c (List.mem_of_mem_head? hc)
    · exact h.head c hc
    · exact hRight c (List.mem_of_mem_head? hc)
  · rw [List.getLast?_append, List.getLast?_append, Option.mem_def, Option.or_eq_some_iff,
      Option.or_eq_some_iff] at hc
    rcases hc with hc | ⟨-, hc | ⟨-, hc⟩⟩
    · exact hRight c (List.mem_of_getLast? hc)
    · exact h.last c hc
    · exact hLeft c (List.mem_of_getLast? hc)

/-- Trimming a text at which there is nothing to trim. -/
theorem Trimmed.trimWhere_eq (h : Trimmed p text) : trimWhere p text = text := by
  have hFirst : text.dropWhile p = text := by
    cases text with
    | nil => rfl
    | cons c text => exact List.dropWhile_cons_of_neg (by simpa using h.head c rfl)
  rw [trimWhere_eq_rdropWhile, hFirst, List.rdropWhile_eq_self_iff]
  intro hSome
  simpa using h.last _ (List.getLast?_eq_some_getLast hSome)

/-- Nothing more can be dropped from a trimmed text. -/
theorem trimmed_trimWhere (p : Char → Bool) (text : List Char) : Trimmed p (trimWhere p text) := by
  rw [trimWhere_eq_rdropWhile]
  refine ⟨fun c hc => ?_, fun c hc => ?_⟩
  · have hFirst : (text.dropWhile p).head? = some c := by
      obtain ⟨rest, hRest⟩ := List.rdropWhile_prefix (p := p) (text.dropWhile p)
      rw [← hRest, List.head?_append, hc, Option.some_or]
    have hNot := List.head?_dropWhile_not p text
    rw [hFirst] at hNot
    simpa using hNot
  · obtain ⟨hSome, rfl⟩ := List.mem_getLast?_eq_getLast hc
    simpa using List.rdropWhile_last_not p _ hSome

/-- Trimming strips a text. -/
theorem strips_trimWhere (p : Char → Bool) (text : List Char) :
    Strips p text (trimWhere p text) := by
  refine ⟨text.takeWhile p, (text.dropWhile p).rtakeWhile p, ?_,
    fun c hc => List.mem_takeWhile_imp hc, fun c hc => List.mem_rtakeWhile_imp hc,
    trimmed_trimWhere p text⟩
  rw [trimWhere_eq_rdropWhile, List.append_assoc, List.rdropWhile_append_rtakeWhile,
    List.takeWhile_append_dropWhile]

/-- A text trims to its one core. -/
theorem trimWhere_eq_iff : trimWhere p text = core ↔ Strips p text core := by
  constructor
  · rintro rfl
    exact strips_trimWhere p text
  · rintro ⟨left, right, rfl, hLeft, hRight, hCore⟩
    rw [trimWhere_pad hLeft hRight, hCore.trimWhere_eq]

/-- A text trims to nothing if all of it can be dropped. -/
theorem trimWhere_eq_nil_iff : trimWhere p text = [] ↔ ∀ c ∈ text, p c = true := by
  rw [trimWhere_eq_iff]
  constructor
  · rintro ⟨left, right, rfl, hLeft, hRight, -⟩ c hc
    rw [List.append_nil] at hc
    exact (List.mem_append.mp hc).elim (hLeft c) (hRight c)
  · exact fun h => ⟨text, [], by simp, h, by simp, trimmed_nil p⟩

/-! ### Both ends -/

theorem Trimmed.reverse (h : Trimmed p text) : Trimmed p text.reverse :=
  ⟨by simpa using h.last, by simpa using h.head⟩

/-- The two ends of a text are trimmed alike. -/
theorem trimWhere_reverse (p : Char → Bool) (text : List Char) :
    trimWhere p text.reverse = (trimWhere p text).reverse := by
  obtain ⟨left, right, hText, hLeft, hRight, hCore⟩ := strips_trimWhere p text
  refine trimWhere_eq_iff.mpr ⟨right.reverse, left.reverse, ?_, ?_, ?_, hCore.reverse⟩
  · conv_lhs => rw [hText]
    simp
  · simpa using hRight
  · simpa using hLeft

/-- Where nothing is missing, nothing was trimmed. -/
theorem Strips.eq_of_length_le (h : Strips p text core) (hLength : text.length ≤ core.length) :
    text = core := by
  obtain ⟨left, right, rfl, -, -, -⟩ := h
  simp only [List.length_append] at hLength
  obtain rfl : left = [] := List.length_eq_zero_iff.mp (by omega)
  obtain rfl : right = [] := List.length_eq_zero_iff.mp (by omega)
  simp

theorem Strips.length_le (h : Strips p text core) : core.length ≤ text.length := by
  obtain ⟨left, right, rfl, -, -, -⟩ := h
  simp only [List.length_append]
  omega

end LockTriage.Text
