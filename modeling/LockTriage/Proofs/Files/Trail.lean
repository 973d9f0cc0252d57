import LockTriage.Proofs.Files.Agree
import Mathlib.Data.List.Infix

/-!
The locations that a path leads through. In trees that agree on them the path finds the
same, and so do the paths of the directories above it, which lead through no others: what
is read, written or made by the path comes to the same in both trees.
-/

namespace LockTriage

namespace Path

variable {p : Path}

/-! ### Paths of the directories above -/

/-- What stands between separators: it is not empty and has no separator. -/
def Segment (name : String) : Prop := name ≠ "" ∧ '/' ∉ name.toList

theorem segment_of_mem_names {name : String} (h : name ∈ p.names) : Segment name := by
  simp only [names, List.mem_map, List.mem_filter] at h
  obtain ⟨piece, ⟨hPiece, hSome⟩, rfl⟩ := h
  refine ⟨fun hEmpty => ?_, ?_⟩
  · have hNil : piece = [] := by simpa using congrArg String.toList hEmpty
    rw [hNil] at hSome
    cases hSome
  · rw [String.toList_ofList]
    exact Text.notMem_of_mem_pieces hPiece

/-- The steps of a path are among its names. -/
theorem steps_subset_names (p : Path) : p.steps ⊆ p.names := by
  unfold steps
  split
  · exact List.nil_subset _
  · rename_i first others hNames
    have hOthers : others.filter (· ≠ ".") ⊆ first :: others := fun name hName =>
      List.mem_cons_of_mem first (List.mem_of_mem_filter hName)
    rw [hNames]
    dsimp only
    split_ifs
    · exact hOthers
    · exact List.cons_subset.mpr ⟨List.mem_cons_self, hOthers⟩

private theorem toList_ofSteps (absolute : Bool) (names : List String) :
    (ofSteps absolute names).text.toList =
      (if absolute then ['/'] else []) ++ ['/'].intercalate (names.map String.toList) := by
  cases absolute <;> simp [ofSteps]

/-- A path made of names has these names. -/
theorem names_ofSteps (absolute : Bool) {names : List String} (h : ∀ name ∈ names, Segment name) :
    (ofSteps absolute names).names = names := by
  have hPieces : (Text.pieces '/' (['/'].intercalate (names.map String.toList))).filter (!·.isEmpty) =
      names.map String.toList := by
    by_cases hSome : names = []
    · subst hSome
      rfl
    · rw [Text.pieces_intercalate (by simpa using hSome) (by simpa using fun n hn => (h n hn).2),
        List.filter_eq_self]
      simpa using fun n hn => (h n hn).1
  have hAll : ((Text.pieces '/' (ofSteps absolute names).text.toList).filter (!·.isEmpty)) =
      names.map String.toList := by
    rw [toList_ofSteps]
    cases absolute with
    | false => exact hPieces
    | true =>
        rw [if_pos rfl, List.singleton_append, Text.pieces_cons_self, List.filter_cons_of_neg (by simp)]
        exact hPieces
  rw [Path.names, hAll, List.map_map]
  simp [Function.comp_def]

theorem isAbsolute_ofSteps (absolute : Bool) {names : List String}
    (h : ∀ name ∈ names, Segment name) : (ofSteps absolute names).isAbsolute = absolute := by
  rw [isAbsolute, toList_ofSteps]
  cases absolute with
  | true => rfl
  | false =>
      cases names with
      | nil => rfl
      | cons name names =>
          have hName := h name List.mem_cons_self
          rcases hText : name.toList with _ | ⟨c, rest⟩
          · exact absurd (String.toList_eq_nil_iff.mp hText) hName.1
          · have hSep : c ≠ '/' := fun hSame => hName.2 (by rw [hText, hSame]; exact List.mem_cons_self)
            cases names <;> simp [hText, List.intercalate, hSep]

theorem prefix_of_mem_beginnings {names front : List String} (h : front ∈ beginnings names) :
    front <+: names := by
  induction names generalizing front with
  | nil => cases h
  | cons name names ih =>
      rw [beginnings, List.mem_append, List.mem_map, List.mem_singleton] at h
      rcases h with ⟨rest, hRest, rfl⟩ | rfl
      · exact (List.prefix_cons_inj name).mpr (ih hRest)
      · exact List.prefix_append [name] names

/-- The path of a directory above is made of the first components, or of none for the root. -/
theorem eq_ofSteps_of_mem_ancestors {q : Path} (h : q ∈ p.ancestors) :
    q = p ∨ ∃ front, front <+: p.steps ∧ q = ofSteps p.isAbsolute front := by
  unfold ancestors at h
  split at h
  · cases h
  · rw [List.cons_append, List.mem_cons, List.mem_append, List.mem_map] at h
    rcases h with rfl | ⟨front, hFront, rfl⟩ | hRoot
    · exact .inl rfl
    · exact .inr ⟨front, (prefix_of_mem_beginnings hFront).trans (List.dropLast_prefix _), rfl⟩
    · split_ifs at hRoot with hAbsolute
      · obtain rfl := List.mem_singleton.mp hRoot
        exact .inr ⟨[], List.nil_prefix, by rw [hAbsolute]; rfl⟩
      · cases hRoot

end Path

namespace FileTree

variable {t t' : FileTree} {p q : Path} {name : String} {loc : Location} {S : Location → Prop}

/-! ### The way of a path -/

/-- The locations that a path leads through, from where it starts to where it leads. -/
def trail (t : FileTree) (p : Path) : List Location :=
  p.names.inits.map fun front => front.foldl descend (if p.isAbsolute then [] else t.home)

/-- A location is on the trail of a path if some first names of the path lead there. -/
theorem mem_trail_iff :
    loc ∈ t.trail p ↔
      ∃ front, front <+: p.names ∧ front.foldl descend (if p.isAbsolute then [] else t.home) = loc := by
  simp [trail]

/-- A trail depends on the working directory, and on nothing in the tree. -/
theorem trail_of_home (h : t'.home = t.home) (p : Path) : t'.trail p = t.trail p := by
  rw [trail, trail, h]

/-- A path's trail ends at its location. -/
theorem location_mem_trail (t : FileTree) (p : Path) : t.location p ∈ t.trail p :=
  mem_trail_iff.mpr ⟨p.names, List.prefix_rfl, rfl⟩

/-- The trail of a name in a directory is that of the directory and one more step. -/
theorem mem_trail_join (hName : Path.Plain name) :
    loc ∈ t.trail (p.join name) ↔ loc ∈ t.trail p ∨ loc = t.location p ++ [name] := by
  have hLast : (p.names ++ [name]).foldl descend (if p.isAbsolute then [] else t.home) =
      t.location p ++ [name] := by
    rw [← location_join t p hName, location, Path.names_join p hName, Path.isAbsolute_join p hName]
  simp only [mem_trail_iff, Path.names_join p hName, Path.isAbsolute_join p hName,
    List.prefix_concat_iff, or_and_right, exists_or, exists_eq_left, hLast]
  rw [or_comm, eq_comm (a := loc)]

/-- A dot leads nowhere, so the way is the same without it. -/
private theorem foldl_descend_filter (names : List String) (loc : Location) :
    (names.filter (· ≠ ".")).foldl descend loc = names.foldl descend loc := by
  rw [List.foldl_filter]
  congr 1
  funext loc name
  by_cases hDot : name = "." <;> simp [descend, hDot]

/-- Up to any of its components, a path leads where it leads up to one of its names. -/
private theorem exists_of_prefix_steps {front : List String} (h : front <+: p.steps) :
    ∃ names, names <+: p.names ∧ ∀ loc, names.foldl descend loc = front.foldl descend loc := by
  unfold Path.steps at h
  split at h
  · obtain rfl := List.prefix_nil.mp h
    exact ⟨[], List.nil_prefix, fun _ => rfl⟩
  · rename_i first others hNames
    rw [hNames]
    have hFilter {rest : List String} (hRest : rest <+: others.filter (· ≠ ".")) :
        ∃ names, first :: names <+: first :: others ∧
          ∀ loc, names.foldl descend loc = rest.foldl descend loc := by
      obtain ⟨names, hPrefix, rfl⟩ := List.prefix_filter_iff.mp hRest
      exact ⟨names, (List.prefix_cons_inj first).mpr hPrefix,
        fun loc => (foldl_descend_filter names loc).symm⟩
    dsimp only at h
    split_ifs at h with hDot
    · obtain ⟨names, hPrefix, hSame⟩ := hFilter h
      have hFirst : first = "." := by simpa using (Bool.and_eq_true_iff.mp hDot).1
      exact ⟨first :: names, hPrefix, fun loc => by simp [hSame, hFirst, descend]⟩
    · rcases List.prefix_cons_iff.mp h with rfl | ⟨rest, rfl, hRest⟩
      · exact ⟨[], List.nil_prefix, fun _ => rfl⟩
      · obtain ⟨names, hPrefix, hSame⟩ := hFilter hRest
        exact ⟨first :: names, hPrefix, fun loc => by rw [List.foldl_cons, List.foldl_cons, hSame]⟩

/-- The path of a directory above leads through nothing that the path does not lead through. -/
theorem trail_ancestors (h : q ∈ p.ancestors) : t.trail q ⊆ t.trail p := by
  rcases Path.eq_ofSteps_of_mem_ancestors h with rfl | ⟨front, hFront, rfl⟩
  · exact List.Subset.refl _
  · have hSegments : ∀ name ∈ front, Path.Segment name := fun name hName =>
      Path.segment_of_mem_names (p.steps_subset_names (hFront.subset hName))
    intro loc hLoc
    rw [mem_trail_iff, Path.names_ofSteps _ hSegments, Path.isAbsolute_ofSteps _ hSegments] at hLoc
    obtain ⟨first, hFirst, rfl⟩ := hLoc
    obtain ⟨names, hNames, hSame⟩ := exists_of_prefix_steps (hFirst.trans hFront)
    exact mem_trail_iff.mpr ⟨names, hNames, hSame _⟩

/-! ### In trees that agree on the way -/

/-- Trees that agree on a step both take it, or neither does. -/
theorem Agree.enter (h : Agree S t t') (hLoc : S (descend loc name)) :
    t'.enter loc name = t.enter loc name := by
  unfold FileTree.enter
  unfold descend at hLoc
  split_ifs at hLoc ⊢ with hDot hDots hLong
  · rfl
  · rfl
  · rfl
  · rw [h.same _ hLoc]

/-- Trees that agree on all that lies on the way both go it, or neither does. -/
theorem Agree.walk (h : Agree S t t') {names : List String} {loc : Location}
    (hWay : ∀ front, front <+: names → S (front.foldl descend loc)) :
    names.foldlM t'.enter loc = names.foldlM t.enter loc := by
  induction names generalizing loc with
  | nil => rfl
  | cons name names ih =>
      rw [List.foldlM_cons, List.foldlM_cons, h.enter (hWay [name] (List.prefix_append [name] names))]
      cases hEnter : t.enter loc name with
      | error fault => rfl
      | ok next =>
          obtain rfl := enter_eq_descend hEnter
          exact ih fun front hFront => hWay (name :: front) ((List.prefix_cons_inj name).mpr hFront)

/-- Trees that agree on the trail of a path find the same there. -/
theorem Agree.findsSame (h : Agree S t t') (hTrail : ∀ loc ∈ t.trail p, S loc) :
    FindsSame p t t' := by
  refine ⟨?_, h.same _ (hTrail _ (t.location_mem_trail p))⟩
  have hWalk : p.names.dropLast.foldlM t'.enter (if p.isAbsolute then [] else t.home) =
      p.names.dropLast.foldlM t.enter (if p.isAbsolute then [] else t.home) :=
    h.walk fun front hFront =>
      hTrail _ (mem_trail_iff.mpr ⟨front, hFront.trans (List.dropLast_prefix _), rfl⟩)
  unfold FileTree.place
  simp only [h.home, hWalk]

/-- Making directories in trees that agree on their trails ends alike and leaves trees that agree.
-/
theorem Agree.makeFirst (h : Agree S t t') {paths : List Path}
    (hTrails : ∀ p ∈ paths, ∀ loc ∈ t.trail p, S loc) :
    (t'.makeFirst paths).1 = (t.makeFirst paths).1 ∧
      Agree S (t.makeFirst paths).2 (t'.makeFirst paths).2 := by
  -- The trails stay what they are, as the working directory does.
  have hFinds : ∀ p ∈ paths, ∀ {u u' : FileTree}, Agree S u u' ∧ u.home = t.home →
      FindsAlike p u u' := by
    rintro p hp u u' ⟨hNext, hHome⟩
    refine (Agree.findsSame hNext ?_).findsAlike
    rw [trail_of_home hHome]
    exact hTrails p hp
  obtain ⟨hDone, hMade, _⟩ := makeFirst_related (R := fun u u' => Agree S u u' ∧ u.home = t.home)
    ⟨h, rfl⟩ hFinds fun _ hNext hRoot => ⟨hNext.1.put hRoot _, hNext.2⟩
  exact ⟨hDone, hMade⟩

/-- Making directories comes to the same in trees that agree on the way to the last of them. -/
theorem Agree.makeDirectories (h : Agree S t t') (hTrail : ∀ loc ∈ t.trail p, S loc) :
    (t'.makeDirectories p).1 = (t.makeDirectories p).1 ∧
      Agree S (t.makeDirectories p).2 (t'.makeDirectories p).2 :=
  h.makeFirst fun _ hAbove loc hLoc => hTrail loc (trail_ancestors hAbove hLoc)

end FileTree

end LockTriage
