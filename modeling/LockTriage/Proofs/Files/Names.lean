import LockTriage.Files.Path
import LockTriage.Proofs.Text.Split

/-!
The names of a path that is continued by the name of a file: they are those of
the path and then the name, however the path is written.
-/

namespace LockTriage

namespace Path

/-- A name that a file can have in its directory. -/
structure Plain (name : String) : Prop where
  ne_empty : name ≠ ""
  noSeparator : '/' ∉ name.toList
  ne_dot : name ≠ "."
  ne_dots : name ≠ ".."

variable {name : String}

private theorem Plain.head?_ne (h : Plain name) : name.toList.head? ≠ some '/' := by
  intro hHead
  exact h.noSeparator (List.mem_of_mem_head? hHead)

private theorem Plain.toList_ne_nil (h : Plain name) : name.toList ≠ [] := by
  simpa [String.toList_eq_nil_iff] using h.ne_empty

/-- How a path continued by a name is written: the name alone, or behind a
separator that ends the path already or is added to it. -/
private theorem join_toList (p : Path) (h : Plain name) :
    (p.text.toList = [] ∧ (p.join name).text.toList = name.toList) ∨
    ∃ front, (p.text.toList = front ++ ['/'] ∨ p.text.toList = front ∧ front ≠ []) ∧
      (p.join name).text.toList = front ++ '/' :: name.toList := by
  have hHead := h.head?_ne
  rcases List.eq_nil_or_concat p.text.toList with hNil | ⟨front, last, hText⟩
  · left
    refine ⟨hNil, ?_⟩
    simp [join, hHead, hNil]
  · right
    rw [List.concat_eq_append] at hText
    by_cases hLast : last = '/'
    · subst hLast
      refine ⟨front, .inl hText, ?_⟩
      simp [join, hHead, hText]
    · refine ⟨p.text.toList, .inr ⟨rfl, by simp [hText]⟩, ?_⟩
      simp [join, hHead, hText]

/-- What a path is continued by is written behind it. -/
theorem exists_text_join (p : Path) (h : Plain name) : ∃ rest, (p.join name).text = p.text ++ rest := by
  have hHead := h.head?_ne
  unfold join
  rw [if_neg (by simpa using hHead)]
  split
  · exact ⟨name, rfl⟩
  · exact ⟨name, rfl⟩
  · exact ⟨"/" ++ name, String.append_assoc⟩

/-- Joining a plain name to a path adds it to the names. -/
theorem names_join (p : Path) (h : Plain name) : (p.join name).names = p.names ++ [name] := by
  have hPiece : (Text.pieces '/' name.toList).filter (!·.isEmpty) = [name.toList] := by
    rw [Text.pieces_of_notMem h.noSeparator]
    simp [h.toList_ne_nil]
  rcases join_toList p h with ⟨hNil, hJoin⟩ | ⟨front, hText, hJoin⟩
  · rw [names, names, hJoin, hPiece, hNil]
    simp [Text.pieces]
  · have hNames : p.names = ((Text.pieces '/' front).filter (!·.isEmpty)).map String.ofList := by
      rcases hText with hText | ⟨hText, _⟩
      · rw [names, hText, Text.pieces_append]
        simp [Text.pieces]
      · rw [names, hText]
    rw [hNames, names, hJoin, Text.pieces_append, List.filter_append, hPiece]
    simp

/-- A path is as absolute as the directory it is in. -/
theorem isAbsolute_join (p : Path) (h : Plain name) : (p.join name).isAbsolute = p.isAbsolute := by
  have hHead := h.head?_ne
  rcases join_toList p h with ⟨hNil, hJoin⟩ | ⟨front, hText, hJoin⟩
  · simp [isAbsolute, hNil, hJoin, hHead]
  · rcases hText with hText | ⟨hText, hFront⟩
    · cases front <;> simp [isAbsolute, hText, hJoin]
    · cases front with
      | nil => exact absurd rfl hFront
      | cons c front => simp [isAbsolute, hText, hJoin]

/-- A name adds one component, which is the name. -/
theorem steps_join (p : Path) (h : Plain name) : (p.join name).steps = p.steps ++ [name] := by
  rw [steps, steps, names_join p h, isAbsolute_join p h]
  cases p.names with
  | nil => simp [h.ne_dot]
  | cons first others =>
      rw [List.cons_append]
      dsimp only
      rw [List.filter_append]
      split <;> simp [h.ne_dot]

theorem getLast?_join (p : Path) (h : Plain name) :
    (p.join name).text.toList.getLast? ≠ some '/' := by
  have hLast : name.toList.getLast? ≠ some '/' := fun hEq =>
    h.noSeparator (List.mem_of_mem_getLast? hEq)
  rcases join_toList p h with ⟨_, hJoin⟩ | ⟨front, _, hJoin⟩
  · rwa [hJoin]
  · rw [hJoin, List.getLast?_append, List.getLast?_cons]
    cases hName : name.toList.getLast? with
    | none => exact absurd (List.getLast?_eq_none_iff.mp hName) h.toList_ne_nil
    | some last => simpa [hName] using hLast

theorem text_join_ne_empty (p : Path) (h : Plain name) : (p.join name).text.isEmpty = false := by
  have hNonempty : (p.join name).text.toList ≠ [] := by
    rcases join_toList p h with ⟨_, hJoin⟩ | ⟨front, _, hJoin⟩
    · rw [hJoin]
      exact h.toList_ne_nil
    · simp [hJoin]
  simpa [String.toList_eq_nil_iff] using hNonempty

/-- The paths of the directories above a name in the directory of the path, which is the
first of them. -/
def above (p : Path) : List Path :=
  (beginnings p.steps).map (ofSteps p.isAbsolute) ++ if p.isAbsolute then [⟨"/"⟩] else []

/-- The ancestors of a name in a directory are itself and those of the directory. -/
theorem ancestors_join (p : Path) (h : Plain name) :
    (p.join name).ancestors = p.join name :: p.above := by
  rw [ancestors, text_join_ne_empty p h, if_neg Bool.false_ne_true, steps_join p h,
    isAbsolute_join p h, List.dropLast_concat, above, List.cons_append]

/-- The ending of a path: what follows the last dot of its last component, if something
stands before that dot. A component that is a dot or two dots has none. -/
def extension? (p : Path) : Option String :=
  match p.steps.getLast? with
  | none => none
  | some last =>
      let ending := Text.afterLast '.' last.toList
      if last = "." ∨ last = ".." then none
      else if ending.length + 1 < last.toList.length then some (String.ofList ending)
      else none

/-- The extension of a path is the ending of its last name, after the last dot. -/
theorem extension?_join (p : Path) (h : Plain name) {front ending : List Char}
    (hName : name.toList = front ++ '.' :: ending) (hFront : front ≠ []) (hEnding : '.' ∉ ending) :
    (p.join name).extension? = some (String.ofList ending) := by
  have hAfter : Text.afterLast '.' name.toList = ending := by
    have hReversed : (front ++ '.' :: ending).reverse = ending.reverse ++ '.' :: front.reverse := by
      simp
    rw [Text.afterLast, hName, hReversed, Text.takeWhile_separator (by simpa using hEnding),
      List.reverse_reverse]
  have hLength : ending.length + 1 < name.toList.length := by
    have := List.length_pos_of_ne_nil hFront
    simp only [hName, List.length_append, List.length_cons]
    omega
  rw [extension?, steps_join p h, List.getLast?_concat]
  simp only [hAfter, h.ne_dot, h.ne_dots, or_self, if_false, hLength, if_true]

end Path

end LockTriage
