import LockTriage.Export
import LockTriage.Proofs.Text.Search
import LockTriage.Proofs.Text.Split
import LockTriage.Proofs.Text.Trim
import Mathlib.Data.List.Forall2

/-!
Exports line by line. Each line that is not blank is a row of its own, and the first one that
is no row of a contract ends the reading. So an export can be read in parts, and only the
number of a line depends on what stands above it.
-/

namespace LockTriage.Export

variable {network : Network} {path : Path} {number : Nat} {line : List Char}
variable {lines rest others : List (List Char)} {records : List Record} {e : ScanError}

/-- An address is plain if it is there, has no separators and no two dots in a row. -/
theorem isPlainAddress_iff {address : List Char} :
    isPlainAddress address = true ↔
      address ≠ [] ∧ '/' ∉ address ∧ '\\' ∉ address ∧ ¬ ['.', '.'] <:+: address := by
  rw [← Text.occursIn_iff]
  simp [isPlainAddress, and_assoc]

/-- The line is the row of the record in an export of the network. -/
structure Tells (network : Network) (line : List Char) (record : Record) : Prop where
  network : record.network = network
  fields : fields? (Text.trim line) = some (record.address, record.declaredVersion)

/-- The line is neither blank nor the row of a contract. -/
def Offends (line : List Char) : Prop :=
  Text.trim line ≠ [] ∧ fields? (Text.trim line) = none

/-- A line that tells a record does not offend. -/
theorem Tells.not_offends {record : Record} (h : Tells network line record) : ¬ Offends line := by
  intro hOffends
  have hFields := h.fields
  rw [hOffends.2] at hFields
  cases hFields

/-- The lines that are not blank. -/
def filled (lines : List (List Char)) : List (List Char) :=
  lines.filter fun line => Text.trim line ≠ []

/-- The lines that are filled are those of the one part and then those of the other. -/
theorem filled_append (lines others : List (List Char)) :
    filled (lines ++ others) = filled lines ++ filled others := List.filter_append _ _

theorem filled_cons_blank (h : Text.trim line = []) : filled (line :: rest) = filled rest :=
  List.filter_cons_of_neg (by simpa using h)

theorem filled_cons_row (h : Text.trim line ≠ []) : filled (line :: rest) = line :: filled rest :=
  List.filter_cons_of_pos (by simpa using h)

/-! ### One line -/

/-- A blank line is passed over, and counted. -/
theorem readLines_blank (h : Text.trim line = []) :
    readLines network path number (line :: rest) = readLines network path (number + 1) rest := by
  simp [readLines, h]

/-- A row gives a record before those of the lines after it. -/
theorem readLines_row {address version : String} (hRow : Text.trim line ≠ [])
    (hFields : fields? (Text.trim line) = some (address, version)) :
    readLines network path number (line :: rest) =
      (readLines network path (number + 1) rest).map (⟨network, address, version⟩ :: ·) := by
  simp [readLines, hRow, hFields]

/-- An offending line ends the reading with its number and its text. -/
theorem readLines_offending (h : Offends line) :
    readLines network path number (line :: rest) =
      .error (.badRow path number (String.ofList (Text.trim line))) := by
  simp [readLines, h.1, h.2]

/-- A line is blank, the row of a contract, or in the way. -/
theorem line_cases (line : List Char) :
    Text.trim line = [] ∨
      (Text.trim line ≠ [] ∧ ∃ address version,
        fields? (Text.trim line) = some (address, version)) ∨
      Offends line := by
  by_cases hBlank : Text.trim line = []
  · exact .inl hBlank
  · cases hFields : fields? (Text.trim line) with
    | none => exact .inr (.inr ⟨hBlank, hFields⟩)
    | some fields => exact .inr (.inl ⟨hBlank, fields.1, fields.2, rfl⟩)

private theorem map_cons_eq_ok_iff {read : Except ScanError (List Record)} {record : Record} :
    read.map (record :: ·) = .ok records ↔ ∃ later, read = .ok later ∧ record :: later = records := by
  cases read <;> simp [Except.map]

private theorem map_cons_eq_error_iff {read : Except ScanError (List Record)} {record : Record} :
    read.map (record :: ·) = .error e ↔ read = .error e := by
  cases read <;> simp [Except.map]

/-- What goes wrong behind a line that does not offend goes wrong with it in front. -/
theorem readLines_cons_eq_error_iff (h : ¬ Offends line) :
    readLines network path number (line :: rest) = .error e ↔
      readLines network path (number + 1) rest = .error e := by
  rcases line_cases line with hBlank | ⟨hRow, address, version, hFields⟩ | hOffends
  · rw [readLines_blank hBlank]
  · rw [readLines_row hRow hFields, map_cons_eq_error_iff]
  · exact absurd hOffends h

/-! ### Many lines -/

/-- Lines are accepted if each that is not blank is a row, and then their records are these. -/
theorem readLines_eq_ok_iff :
    readLines network path number lines = .ok records ↔
      List.Forall₂ (Tells network) (filled lines) records := by
  induction lines generalizing number records with
  | nil =>
      rw [readLines, filled, List.filter_nil, List.forall₂_nil_left_iff, Except.ok.injEq, eq_comm]
  | cons line lines ih =>
      rcases line_cases line with hBlank | ⟨hRow, address, version, hFields⟩ | hOffends
      · rw [readLines_blank hBlank, filled_cons_blank hBlank, ih]
      · rw [readLines_row hRow hFields, map_cons_eq_ok_iff, filled_cons_row hRow,
          List.forall₂_cons_left_iff]
        constructor
        · rintro ⟨later, hLater, rfl⟩
          exact ⟨_, later, ⟨rfl, hFields⟩, ih.mp hLater, rfl⟩
        · rintro ⟨record, later, ⟨hNetwork, hRecord⟩, hLater, rfl⟩
          rw [hFields, Option.some.injEq, Prod.mk.injEq] at hRecord
          obtain ⟨rfl, rfl⟩ := hRecord
          exact ⟨later, ih.mpr hLater, by rw [← hNetwork]⟩
      · rw [readLines_offending hOffends, filled_cons_row hOffends.1, List.forall₂_cons_left_iff]
        constructor
        · intro h
          cases h
        · rintro ⟨record, later, hTells, -⟩
          exact absurd hOffends hTells.not_offends

/-- Lines are refused for the first of them that offends. -/
theorem readLines_eq_error_iff :
    readLines network path number lines = .error e ↔
      ∃ earlier line later, lines = earlier ++ line :: later ∧
        (∀ l ∈ earlier, ¬ Offends l) ∧ Offends line ∧
        e = .badRow path (number + earlier.length) (String.ofList (Text.trim line)) := by
  induction lines generalizing number with
  | nil => simp [readLines]
  | cons line lines ih =>
      by_cases hOffends : Offends line
      · rw [readLines_offending hOffends]
        constructor
        · intro h
          cases h
          exact ⟨[], line, lines, rfl, by simp, hOffends, rfl⟩
        · rintro ⟨earlier, other, later, hLines, hEarlier, -, rfl⟩
          cases earlier with
          | nil =>
              cases hLines
              rfl
          | cons first earlier =>
              cases hLines
              exact absurd hOffends (hEarlier line List.mem_cons_self)
      · rw [readLines_cons_eq_error_iff hOffends, ih]
        constructor
        · rintro ⟨earlier, other, later, rfl, hEarlier, hOther, rfl⟩
          refine ⟨line :: earlier, other, later, rfl, ?_, hOther, ?_⟩
          · exact List.forall_mem_cons.mpr ⟨hOffends, hEarlier⟩
          · rw [List.length_cons, Nat.add_right_comm, Nat.add_assoc]
        · rintro ⟨earlier, other, later, hLines, hEarlier, hOther, rfl⟩
          cases earlier with
          | nil =>
              cases hLines
              exact absurd hOther hOffends
          | cons first earlier =>
              cases hLines
              refine ⟨earlier, other, later, rfl, (List.forall_mem_cons.mp hEarlier).2, hOther, ?_⟩
              rw [List.length_cons, Nat.add_right_comm, Nat.add_assoc]

/-- Nothing offends among lines that are accepted. -/
theorem not_offends_of_ok (h : readLines network path number lines = .ok records) :
    ∀ l ∈ lines, ¬ Offends l := by
  have hFilled := (readLines_eq_ok_iff.mp h).imp fun l record hTells =>
    And.intro hTells.not_offends hTells
  intro l hMem hOffends
  refine ((List.forall₂_and_left _ _).mp hFilled).1 l ?_ hOffends
  exact List.mem_filter.mpr ⟨hMem, by simpa using hOffends.1⟩

/-! ### Where lines end -/

/-- Only what is left of the lines when they are trimmed matters. -/
theorem readLines_congr (h : lines.map Text.trim = others.map Text.trim) :
    readLines network path number lines = readLines network path number others := by
  induction lines generalizing number others with
  | nil =>
      rw [List.map_nil, eq_comm, List.map_eq_nil_iff] at h
      rw [h]
  | cons line lines ih =>
      cases others with
      | nil => cases h
      | cons other others =>
          rw [List.map_cons, List.map_cons, List.cons.injEq] at h
          rw [readLines, readLines, h.1, ih h.2]

/-- Nothing is read from an empty line at the end. -/
theorem readLines_concat_nil :
    readLines network path number (lines ++ [[]]) = readLines network path number lines := by
  induction lines generalizing number with
  | nil => rfl
  | cons line lines ih => rw [List.cons_append, readLines, readLines, ih]

theorem trim_dropReturn (line : List Char) : Text.trim (Text.dropReturn line) = Text.trim line := by
  unfold Text.dropReturn
  split
  · rename_i hLast
    obtain ⟨front, rfl⟩ := List.getLast?_eq_some_iff.mp hLast
    rw [List.dropLast_concat]
    exact (Text.trimWhere_append (by simp; decide)).symm
  · rfl

/-- A carriage return in front of a line feed is white space, so an export may be cut at its
line feeds alone. -/
theorem parse_eq_readLines (network : Network) (path : Path) (text : String) :
    parse network path text = readLines network path 1 (Text.pieces '\n' text.toList) := by
  have hSome := Text.pieces_ne_nil '\n' text.toList
  have hEnded (ended : List (List Char)) :
      (ended.map Text.dropReturn).map Text.trim = ended.map Text.trim := by
    rw [List.map_map]
    exact List.map_congr_left fun line _ => trim_dropReturn line
  rw [parse, Text.lines]
  generalize Text.pieces '\n' text.toList = pieces at hSome ⊢
  obtain ⟨ended, last, rfl⟩ := (List.eq_nil_or_concat' pieces).resolve_left hSome
  rw [List.getLast?_concat, List.dropLast_concat]
  cases last with
  | nil =>
      rw [readLines_concat_nil]
      exact readLines_congr (hEnded ended)
  | cons c last =>
      apply readLines_congr
      rw [List.map_append, List.map_append, hEnded]

/-! ### Whole exports -/

variable {text first second : String}

/-- An export is accepted with just the records that its filled lines tell, in order. -/
theorem parse_eq_ok_iff :
    parse network path text = .ok records ↔
      List.Forall₂ (Tells network) (filled (Text.pieces '\n' text.toList)) records := by
  rw [parse_eq_readLines, readLines_eq_ok_iff]

/-- An export is refused for its first line that offends. -/
theorem parse_eq_error_iff :
    parse network path text = .error e ↔
      ∃ earlier line later, Text.pieces '\n' text.toList = earlier ++ line :: later ∧
        (∀ l ∈ earlier, ¬ Offends l) ∧ Offends line ∧
        e = .badRow path (earlier.length + 1) (String.ofList (Text.trim line)) := by
  simp only [parse_eq_readLines, readLines_eq_error_iff, Nat.add_comm 1]

/-- A line feed keeps the lines of two texts apart. -/
theorem pieces_joined (first second : String) :
    Text.pieces '\n' (first ++ "\n" ++ second).toList =
      Text.pieces '\n' first.toList ++ Text.pieces '\n' second.toList := by
  rw [String.toList_append, String.toList_append, List.append_assoc]
  exact Text.pieces_append '\n' first.toList second.toList

/-- An export that is refused is refused for the same row whatever follows it. -/
theorem parse_joined_of_error (h : parse network path first = .error e) (second : String) :
    parse network path (first ++ "\n" ++ second) = .error e := by
  obtain ⟨earlier, line, later, hLines, hEarlier, hLine, hError⟩ := parse_eq_error_iff.mp h
  refine parse_eq_error_iff.mpr ⟨earlier, line, later ++ Text.pieces '\n' second.toList, ?_,
    hEarlier, hLine, hError⟩
  rw [pieces_joined, hLines, List.append_assoc, List.cons_append]

/-- Two exports that are accepted are accepted as one, with the records of both. -/
theorem parse_joined_of_ok {later : List Record} (h : parse network path first = .ok records)
    (hLater : parse network path second = .ok later) :
    parse network path (first ++ "\n" ++ second) = .ok (records ++ later) := by
  rw [parse_eq_ok_iff] at h hLater ⊢
  rw [pieces_joined, filled_append]
  exact List.rel_append h hLater

/-- If only the second export is refused, the two as one are refused for the same row, with the
lines before it counted. -/
theorem parse_joined_of_ok_error (h : parse network path first = .ok records)
    (hError : parse network path second = .error e) :
    ∃ line row, e = .badRow path line row ∧
      parse network path (first ++ "\n" ++ second) =
        .error (.badRow path (line + (1 + first.toList.count '\n')) row) := by
  obtain ⟨earlier, line, later, hLines, hEarlier, hLine, rfl⟩ := parse_eq_error_iff.mp hError
  refine ⟨_, _, rfl, parse_eq_error_iff.mpr
    ⟨Text.pieces '\n' first.toList ++ earlier, line, later, ?_, ?_, hLine, ?_⟩⟩
  · rw [pieces_joined, hLines, List.append_assoc]
  · rw [parse_eq_readLines] at h
    exact List.forall_mem_append.mpr ⟨not_offends_of_ok h, hEarlier⟩
  · rw [List.length_append, Text.length_pieces]
    congr 1
    omega

/-- An export can be cut at any line feed. If the part above it is refused, the whole is
refused for the same reason. If both parts are accepted, the records of the one follow those of
the other; and if only the part below is refused, the whole is refused for the same row, which
stands as many lines further down as the part above has. So the records are those of the lines
that are not blank, one each and in their order, and a refusal names the first line that offends
by its place among all lines. -/
theorem parse_composes (network : Network) (path : Path) :
    (∀ first second e, parse network path first = .error e →
      parse network path (first ++ "\n" ++ second) = .error e) ∧
    (∀ first second records later, parse network path first = .ok records →
      parse network path second = .ok later →
      parse network path (first ++ "\n" ++ second) = .ok (records ++ later)) ∧
    (∀ first second records e, parse network path first = .ok records →
      parse network path second = .error e →
      ∃ line row, e = .badRow path line row ∧
        parse network path (first ++ "\n" ++ second) =
          .error (.badRow path (line + (1 + first.toList.count '\n')) row)) ∧
    (∀ text records, parse network path text = .ok records ↔
      List.Forall₂ (Tells network) (filled (Text.pieces '\n' text.toList)) records) ∧
    ∀ text e, parse network path text = .error e ↔
      ∃ earlier line later, Text.pieces '\n' text.toList = earlier ++ line :: later ∧
        (∀ l ∈ earlier, ¬ Offends l) ∧ Offends line ∧
        e = .badRow path (earlier.length + 1) (String.ofList (Text.trim line)) := by
  refine ⟨?above, ?both, ?below, fun _ _ => parse_eq_ok_iff, fun _ _ => parse_eq_error_iff⟩
  case above => exact fun _ second _ hError => parse_joined_of_error hError second
  case both => exact fun _ _ _ _ hFirst hSecond => parse_joined_of_ok hFirst hSecond
  case below => exact fun _ _ _ _ hFirst hError => parse_joined_of_ok_error hFirst hError

end LockTriage.Export
