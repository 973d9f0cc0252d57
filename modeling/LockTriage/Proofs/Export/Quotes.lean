import LockTriage.Proofs.Export.Lines
import LockTriage.Settings.Basic

/-!
What is left at the ends of a field. White space, quotes and white space again are taken away
once each, so the value of a field never has white space at its ends, but it has a quote there
if quotes were set around white space and further quotes. Reading a value once more changes it
exactly in that case.
-/

namespace LockTriage.Export

variable {network : Network} {path : Path} {field value rest : List Char}

/-- Neither end of the value is white space or a quote. -/
structure Bare (value : List Char) : Prop where
  unpadded : Text.Trimmed Text.isBlank value
  unquoted : Text.Trimmed (· = '"') value

/-- Quotes and then white space, as they stand at the end of a field. -/
def Closes (text : List Char) : Prop :=
  ∃ quotes blanks, text = quotes ++ blanks ∧ (∀ c ∈ quotes, c = '"') ∧
    ∀ c ∈ blanks, Text.isBlank c = true

/-- Behind the quotes at its beginning the field has white space and then a quote again, which
is not one of the quotes at its end. -/
def OpensAgain (field : List Char) : Prop :=
  ∃ pad quotes gap rest, field = pad ++ quotes ++ gap ++ '"' :: rest ∧
    (∀ c ∈ pad, Text.isBlank c = true) ∧ quotes ≠ [] ∧ (∀ c ∈ quotes, c = '"') ∧
    gap ≠ [] ∧ (∀ c ∈ gap, Text.isBlank c = true) ∧ ¬ Closes rest

/-- At one of its ends the field has quotes around white space around quotes. -/
def Requoted (field : List Char) : Prop := OpensAgain field ∨ OpensAgain field.reverse

private theorem isBlank_mark : Text.isBlank '"' = false := by decide

/-! ### Reading twice -/

theorem trimmed_unquote (field : List Char) : Text.Trimmed Text.isBlank (unquote field) :=
  Text.trimmed_trimWhere _ _

theorem unquote_reverse (field : List Char) : unquote field.reverse = (unquote field).reverse := by
  rw [unquote, unquote, Text.trim, Text.trim, Text.trim, Text.trim, Text.trimWhere_reverse,
    Text.trimWhere_reverse, Text.trimWhere_reverse]

/-- The values that stay as they are when they are read are those with bare ends. -/
theorem unquote_eq_self_iff : unquote value = value ↔ Bare value := by
  constructor
  · intro h
    have hBlank : Text.Trimmed Text.isBlank value := h ▸ trimmed_unquote value
    refine ⟨hBlank, ?_⟩
    -- Nothing is missing at the end, so nothing was taken away with the quotes.
    have hQuotes : Text.Strips (· = '"') value (Text.trimWhere (· = '"') value) :=
      Text.strips_trimWhere _ _
    have hInner : Text.Strips Text.isBlank (Text.trimWhere (· = '"') value) value := by
      refine Text.trimWhere_eq_iff.mp ?_
      rw [unquote, Text.trim, Text.trim, hBlank.trimWhere_eq] at h
      exact h
    rw [hQuotes.eq_of_length_le hInner.length_le]
    exact Text.trimmed_trimWhere _ _
  · rintro ⟨hBlank, hQuote⟩
    rw [unquote, Text.trim, Text.trim, hBlank.trimWhere_eq, hQuote.trimWhere_eq, hBlank.trimWhere_eq]

/-! ### Quotes that are left -/

/-- What stands at the end of a field has only white space from the first character on that is
no quote. -/
theorem Closes.blank_behind {front back : List Char} {c : Char} (h : Closes (front ++ c :: back))
    (hc : c ≠ '"') : ∀ d ∈ c :: back, Text.isBlank d = true := by
  obtain ⟨quotes, blanks, hSplit, hQuotes, hBlanks⟩ := h
  rcases List.append_eq_append_iff.mp hSplit with ⟨gap, hFront, hBack⟩ | ⟨gap, -, hBack⟩
  · cases gap with
    | nil =>
        rw [List.nil_append] at hBack
        rwa [hBack]
    | cons d gap =>
        obtain ⟨rfl, -⟩ := List.cons.inj hBack
        exact absurd (hQuotes c (by simp [hFront])) hc
  · intro d hd
    refine hBlanks d ?_
    rw [hBack]
    exact List.mem_append_right gap hd

/-- A field whose value begins with a quote has that quote behind quotes and white space. -/
theorem opensAgain_of_head (h : (unquote field).head? = some '"') : OpensAgain field := by
  obtain ⟨pad, pad', hField, hPad, -, hTrim⟩ := Text.strips_trimWhere Text.isBlank field
  obtain ⟨quotes, quotes', hOuter, hQuotes, hQuotes', hInner⟩ :=
    Text.strips_trimWhere (· = '"') (Text.trim field)
  obtain ⟨gap, gap', hMiddle, hGap, -, -⟩ :=
    Text.strips_trimWhere Text.isBlank (Text.trimWhere (· = '"') (Text.trim field))
  obtain ⟨rest, hValue⟩ : ∃ rest, unquote field = '"' :: rest := List.head?_eq_some_iff.mp h
  rw [← Text.trim] at hField hTrim hMiddle
  rw [← unquote, hValue] at hMiddle
  generalize Text.trim field = outer at *
  generalize Text.trimWhere (· = '"') outer = inner at *
  subst hMiddle
  -- The text within the quotes does not end in a quote, so there is more than the one found.
  obtain ⟨front, c, hRest⟩ : ∃ front c, rest ++ gap' = front ++ [c] := by
    refine (List.eq_nil_or_concat' _).resolve_left fun hNil => ?_
    have hEnd := hInner.last '"' (by simp [List.append_eq_nil_iff.mp hNil])
    simp at hEnd
  have hInside : gap ++ '"' :: rest ++ gap' = gap ++ '"' :: front ++ [c] := by
    rw [List.append_assoc, List.cons_append, hRest]
    simp
  rw [hInside] at hInner hOuter
  have hc : c ≠ '"' := by simpa using hInner.last c List.getLast?_concat
  have hGapSome : gap ≠ [] := by
    rintro rfl
    have hStart := hInner.head '"' (by simp)
    simp at hStart
  have hQuotesSome : quotes ≠ [] := by
    rintro rfl
    obtain ⟨d, gap, rfl⟩ := List.exists_cons_of_ne_nil hGapSome
    have hStart := hTrim.head d (by simp [hOuter])
    rw [hGap d List.mem_cons_self] at hStart
    cases hStart
  refine ⟨pad, quotes, gap, front ++ c :: (quotes' ++ pad'), ?_, hPad, hQuotesSome,
    by simpa using hQuotes, hGapSome, hGap, fun hCloses => ?_⟩
  · rw [hField, hOuter]
    simp
  · have hBlank := hCloses.blank_behind hc
    obtain rfl : quotes' = [] := by
      refine List.eq_nil_iff_forall_not_mem.mpr fun d hd => ?_
      obtain rfl : d = '"' := by simpa using hQuotes' d hd
      have hMark := hBlank '"' (by simp [hd])
      rw [isBlank_mark] at hMark
      cases hMark
    rw [List.append_nil, ← List.append_assoc] at hOuter
    have hEnd := hTrim.last c (by rw [hOuter, List.getLast?_concat]; rfl)
    rw [hBlank c List.mem_cons_self] at hEnd
    cases hEnd

/-- Quotes around white space around quotes leave a quote at the beginning. -/
theorem head_of_opensAgain (h : OpensAgain field) : (unquote field).head? = some '"' := by
  obtain ⟨pad, quotes, gap, rest, rfl, hPad, hSome, hQuotes, hGapSome, hGap, hRest⟩ := h
  obtain ⟨q, quotes, rfl⟩ := List.exists_cons_of_ne_nil hSome
  obtain ⟨b, gap, rfl⟩ := List.exists_cons_of_ne_nil hGapSome
  obtain rfl : q = '"' := hQuotes q List.mem_cons_self
  have hBlank := hGap b List.mem_cons_self
  have hNoQuote : decide (b = '"') = false := by
    rw [decide_eq_false_iff_not]
    rintro rfl
    simp [isBlank_mark] at hBlank
  -- What is behind the quote is not all taken away with the white space and quotes at the end.
  have hKept : ¬ ∀ c ∈ rest.rdropWhile Text.isBlank, c = '"' := by
    intro hAll
    refine hRest ?_
    rw [← List.rdropWhile_append_rtakeWhile (p := Text.isBlank) (l := rest)]
    exact ⟨_, _, rfl, hAll, fun c hc => List.mem_rtakeWhile_imp hc⟩
  have hInner : ∃ c ∈ rest.rdropWhile Text.isBlank, decide (c = '"') = false := by
    simpa using hKept
  have hTrim : Text.trim (pad ++ '"' :: quotes ++ b :: gap ++ '"' :: rest) =
      '"' :: quotes ++ b :: (gap ++ ['"'] ++ rest.rdropWhile Text.isBlank) := by
    rw [Text.trim, Text.trimWhere_append_cons isBlank_mark, List.append_assoc pad,
      List.dropWhile_append_of_pos hPad, List.cons_append,
      List.dropWhile_cons_of_neg (by simp [isBlank_mark])]
    simp
  have hQuoted : Text.trimWhere (· = '"')
      ('"' :: quotes ++ b :: (gap ++ ['"'] ++ rest.rdropWhile Text.isBlank)) =
      b :: gap ++ '"' :: (rest.rdropWhile Text.isBlank).rdropWhile (· = '"') := by
    rw [Text.trimWhere_append_cons hNoQuote, Text.rdropWhile_append_of_kept hInner,
      List.dropWhile_eq_nil_iff.mpr (by simpa using hQuotes)]
    simp
  have hBefore : (b :: gap).dropWhile Text.isBlank = [] := List.dropWhile_eq_nil_iff.mpr hGap
  rw [unquote, hTrim, hQuoted, Text.trim, Text.trimWhere_append_cons isBlank_mark, hBefore]
  rfl

theorem head_unquote_iff : (unquote field).head? = some '"' ↔ OpensAgain field :=
  ⟨opensAgain_of_head, head_of_opensAgain⟩

private theorem forall_mem_iff (end? : Option Char) :
    (∀ c ∈ end?, decide (c = '"') = false) ↔ ¬ end? = some '"' := by
  cases end? <;> simp

/-- The value of a field has bare ends unless the field was quoted again. -/
theorem bare_unquote_iff : Bare (unquote field) ↔ ¬ Requoted field := by
  have hFirst : (∀ c ∈ (unquote field).head?, decide (c = '"') = false) ↔ ¬ OpensAgain field := by
    rw [← head_unquote_iff, forall_mem_iff]
  have hLast : (∀ c ∈ (unquote field).getLast?, decide (c = '"') = false) ↔
      ¬ OpensAgain field.reverse := by
    rw [← head_unquote_iff, unquote_reverse, List.head?_reverse, forall_mem_iff]
  rw [Requoted, not_or, ← hFirst, ← hLast]
  exact ⟨fun h => ⟨h.unquoted.head, h.unquoted.last⟩, fun h => ⟨trimmed_unquote field, h.1, h.2⟩⟩

/-! ### Rows -/

/-- What is known of the ends of a value that was read from a field. -/
structure Ends (field value : List Char) : Prop where
  unpadded : Text.Trimmed Text.isBlank value
  bare_iff : Bare value ↔ ¬ Requoted field
  again_iff : unquote value = value ↔ ¬ Requoted field

theorem ends_unquote (field : List Char) : Ends field (unquote field) :=
  ⟨trimmed_unquote field, bare_unquote_iff, unquote_eq_self_iff.trans bare_unquote_iff⟩

/-- One of the fields of the row on a line was quoted again. -/
def RequotedRow (line : List Char) : Prop :=
  ∃ address version, Text.cutFirst? ',' (Text.trim line) = some (address, version) ∧
    (Requoted address ∨ Requoted version)

/-- The record has the values of the fields on the line, with ends that go by these fields. -/
def EndsAs (line : List Char) (record : Record) : Prop :=
  ∃ address version, Text.cutFirst? ',' (Text.trim line) = some (address, version) ∧
    Ends address record.address.toList ∧ Ends version record.declaredVersion.toList

theorem Tells.endsAs {line : List Char} {record : Record} (h : Tells network line record) :
    EndsAs line record := by
  have hFields := h.fields
  unfold fields? at hFields
  split at hFields
  · cases hFields
  · rename_i address version hCut
    split_ifs at hFields
    obtain ⟨hAddress, hVersion⟩ := Prod.mk.inj (Option.some.inj hFields)
    refine ⟨address, version, hCut, ?_, ?_⟩
    · rw [← hAddress, String.toList_ofList]
      exact ends_unquote address
    · rw [← hVersion, String.toList_ofList]
      exact ends_unquote version

theorem EndsAs.bare_iff {line : List Char} {record : Record} (h : EndsAs line record) :
    (Bare record.address.toList ∧ Bare record.declaredVersion.toList) ↔ ¬ RequotedRow line := by
  obtain ⟨address, version, hCut, hAddress, hVersion⟩ := h
  rw [hAddress.bare_iff, hVersion.bare_iff, ← not_or, RequotedRow, hCut]
  simp

theorem bare_iff_of_endsAs {lines : List (List Char)} {records : List Record}
    (h : List.Forall₂ EndsAs lines records) :
    (∀ r ∈ records, Bare r.address.toList ∧ Bare r.declaredVersion.toList) ↔
      ∀ line ∈ lines, ¬ RequotedRow line := by
  induction h with
  | nil => simp
  | cons hRow _ ih => rw [List.forall_mem_cons, List.forall_mem_cons, hRow.bare_iff, ih]

/-- Every value in an accepted export has ends without white space. It has ends without quotes,
and is read again as it is, exactly if its field was not quoted again; so all values of the
export have bare ends exactly if this holds of all its rows. -/
theorem values_bare_iff {text : String} {records : List Record}
    (h : parse network path text = .ok records) :
    List.Forall₂ EndsAs (filled (Text.pieces '\n' text.toList)) records ∧
    ((∀ r ∈ records, Bare r.address.toList ∧ Bare r.declaredVersion.toList) ↔
      ∀ line ∈ filled (Text.pieces '\n' text.toList), ¬ RequotedRow line) := by
  have hEnds := (parse_eq_ok_iff.mp h).imp fun line record hTells => hTells.endsAs
  exact ⟨hEnds, bare_iff_of_endsAs hEnds⟩

namespace Spaced

/-- The version of the first row stands in quotes within quotes, and white space between them. -/
def text : String := "\"0xA\", \" \"0.3.0\" \"\r\n\n0xB,\"0.2.15\""

def records : List Record := [⟨.op, "0xA", "\"0.3.0\""⟩, ⟨.op, "0xB", "0.2.15"⟩]

/-- Of the two rows only the first is quoted again, and only its version has quotes left. -/
theorem values_bare_iff_spaced :
    parse .op ⟨"op.csv"⟩ text = .ok records ∧
    List.Forall₂ EndsAs (filled (Text.pieces '\n' text.toList)) records ∧
    ∃ line ∈ filled (Text.pieces '\n' text.toList), RequotedRow line := by
  have hParse : parse .op ⟨"op.csv"⟩ text = .ok records := by decide +kernel
  obtain ⟨hEnds, hIff⟩ := values_bare_iff hParse
  refine ⟨hParse, hEnds, ?_⟩
  by_contra hNone
  have hBare := hIff.mpr (fun line hLine hRow => hNone ⟨line, hLine, hRow⟩)
  have hQuote := (hBare ⟨.op, "0xA", "\"0.3.0\""⟩ (by decide)).2.unquoted
  exact absurd hQuote (by decide)

/-- The row is accepted, the values keep the quotes within, and the version, which is one of
the affected ones, is not taken for it. -/
theorem requoted_values_kept :
    parse .op ⟨"op.csv"⟩ "\" \"0xA\" \",\" \"0.3.0\" \"" = .ok [⟨.op, "\"0xA\"", "\"0.3.0\""⟩] ∧
    ¬ Bare "\"0xA\"".toList ∧ ¬ Bare "\"0.3.0\"".toList ∧
    unquote "\"0xA\"".toList = "0xA".toList ∧ unquote "\"0.3.0\"".toList = "0.3.0".toList ∧
    Settings.standard.isAffected "0.3.0" = true ∧
    Settings.standard.isAffected "\"0.3.0\"" = false := by
  refine ⟨by decide +kernel, fun h => ?_, fun h => ?_, by decide, by decide, by decide, by decide⟩
  · exact absurd h.unquoted (by decide)
  · exact absurd h.unquoted (by decide)

end Spaced

end LockTriage.Export
