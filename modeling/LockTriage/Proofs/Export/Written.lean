import LockTriage.Proofs.Export.Lines

/-!
Writing exports. Whoever writes an export may put each field in quotes or not, set white space
around it, end lines in either way and leave lines blank. Reading it gives the contracts that
were meant, whichever way was taken.
-/

namespace LockTriage.Export

variable {network : Network} {path : Path} {value field line stop rest : List Char}

/-! ### Texts of an export -/

/-- White space within a line. -/
def Padding (text : List Char) : Prop := ∀ c ∈ text, Text.isBlank c = true ∧ c ≠ '\n'

instance (text : List Char) : Decidable (Padding text) :=
  List.decidableBAll (fun c => Text.isBlank c = true ∧ c ≠ '\n') text

/-- A value that can be written as a field stands on one line and has neither white space nor
quotes at its ends. -/
structure Writable (value : List Char) : Prop where
  oneLine : '\n' ∉ value
  unpadded : Text.Trimmed Text.isBlank value
  unquoted : Text.Trimmed (· = '"') value

/-- An address and a version that a row can have. A comma would end the address; the rest is
what an address must not have if it is to name a file. -/
structure Exportable (contract : String × String) : Prop where
  address : Writable contract.1.toList
  version : Writable contract.2.toList
  named : contract.1.toList ≠ []
  comma : ',' ∉ contract.1.toList
  slash : '/' ∉ contract.1.toList
  backslash : '\\' ∉ contract.1.toList
  dots : ¬ ['.', '.'] <:+: contract.1.toList

/-- The field has the value, bare or in quotes, and white space wherever it is skipped. -/
inductive WritesField (value : List Char) : List Char → Prop where
  | bare {left right : List Char} (hLeft : Padding left) (hRight : Padding right) :
      WritesField value (left ++ value ++ right)
  | quoted {left right inner inner' : List Char} (hLeft : Padding left) (hRight : Padding right)
      (hInner : Padding inner) (hInner' : Padding inner') :
      WritesField value (left ++ (['"'] ++ (inner ++ value ++ inner') ++ ['"']) ++ right)

/-- The line has the two fields of a contract. -/
inductive WritesRow (contract : String × String) : List Char → Prop where
  | fields {address version : List Char} (hAddress : WritesField contract.1.toList address)
      (hVersion : WritesField contract.2.toList version) :
      WritesRow contract (address ++ ',' :: version)

inductive LineEnd : List Char → Prop where
  | feed : LineEnd ['\n']
  | returnFeed : LineEnd ['\r', '\n']

/-- The text has a row for each of the contracts, in their order, and blank lines. The last
line may lack its end. -/
inductive Writes : List (String × String) → List Char → Prop where
  | blankEnd {line : List Char} (hLine : Padding line) : Writes [] line
  | rowEnd {contract : String × String} {line : List Char} (hLine : WritesRow contract line) :
      Writes [contract] line
  | blank {contracts : List (String × String)} {line stop rest : List Char}
      (hLine : Padding line) (hStop : LineEnd stop) (hRest : Writes contracts rest) :
      Writes contracts (line ++ stop ++ rest)
  | row {contract : String × String} {contracts : List (String × String)}
      {line stop rest : List Char} (hLine : WritesRow contract line) (hStop : LineEnd stop)
      (hRest : Writes contracts rest) : Writes (contract :: contracts) (line ++ stop ++ rest)

/-! ### Fields -/

private theorem isBlank_quote : Text.isBlank '"' = false := by decide

private theorem isBlank_comma : Text.isBlank ',' = false := by decide

private theorem isBlank_return : Text.isBlank '\r' = true := by decide

/-- Padding is made of blanks. -/
theorem Padding.blank (h : Padding line) : ∀ c ∈ line, Text.isBlank c = true :=
  fun c hc => (h c hc).1

theorem Padding.oneLine (h : Padding line) : '\n' ∉ line := fun hMem => (h _ hMem).2 rfl

theorem Padding.ne_quote (h : Padding line) : ∀ c ∈ line, decide (c = '"') = false := by
  intro c hc
  rw [decide_eq_false_iff_not]
  rintro rfl
  simpa [isBlank_quote] using h.blank _ hc

/-- A field has no characters but those of the value, quotes and white space. -/
theorem WritesField.mem {c : Char} (h : WritesField value field) (hc : c ∈ field) :
    c ∈ value ∨ c = '"' ∨ (Text.isBlank c = true ∧ c ≠ '\n') := by
  cases h with
  | bare hLeft hRight =>
      simp only [List.mem_append] at hc
      rcases hc with (hc | hc) | hc
      · exact .inr (.inr (hLeft c hc))
      · exact .inl hc
      · exact .inr (.inr (hRight c hc))
  | quoted hLeft hRight hInner hInner' =>
      simp only [List.mem_append, List.mem_singleton] at hc
      rcases hc with (hc | (rfl | (hc | hc) | hc) | rfl) | hc
      · exact .inr (.inr (hLeft c hc))
      · exact .inr (.inl rfl)
      · exact .inr (.inr (hInner c hc))
      · exact .inl hc
      · exact .inr (.inr (hInner' c hc))
      · exact .inr (.inl rfl)
      · exact .inr (.inr (hRight c hc))

/-- A field has no character but those of its value, the quotes and the blanks. -/
theorem WritesField.notMem {c : Char} (h : WritesField value field) (hValue : c ∉ value)
    (hQuote : c ≠ '"') (hBlank : Text.isBlank c = true → c = '\n') : c ∉ field := by
  intro hc
  rcases h.mem hc with hMem | rfl | ⟨hWhite, hFeed⟩
  · exact hValue hMem
  · exact hQuote rfl
  · exact hFeed (hBlank hWhite)

/-- Only what is left of a field when it is trimmed matters. -/
theorem unquote_congr {other : List Char} (h : Text.trim field = Text.trim other) :
    unquote field = unquote other := by
  rw [unquote, unquote, h]

/-- Padding on either side of a field is trimmed off. -/
theorem Padding.trim_pad {left right : List Char} (hLeft : Padding left) (hRight : Padding right) :
    Text.trim (left ++ field ++ right) = Text.trim field :=
  Text.trimWhere_pad hLeft.blank hRight.blank

/-- A value that can be written has no blanks at its ends. -/
theorem Writable.trim_eq (h : Writable value) : Text.trim value = value := h.unpadded.trimWhere_eq

/-- A value that can be written has no quotes to lose. -/
theorem Writable.unquote_eq (h : Writable value) : unquote value = value := by
  rw [unquote, h.trim_eq, h.unquoted.trimWhere_eq, h.trim_eq]

/-- Quotes are taken away with the white space between them and the value. -/
theorem Writable.unquote_quoted {inner inner' : List Char} (h : Writable value)
    (hInner : Padding inner) (hInner' : Padding inner') :
    unquote (['"'] ++ (inner ++ value ++ inner') ++ ['"']) = value := by
  have hOuter : Text.Trimmed Text.isBlank (['"'] ++ (inner ++ value ++ inner') ++ ['"']) := by
    refine ⟨by simp [isBlank_quote], ?_⟩
    rw [List.getLast?_concat]
    simp [isBlank_quote]
  have hQuotes : Text.trimWhere (· = '"') (['"'] ++ (inner ++ value ++ inner') ++ ['"']) =
      inner ++ value ++ inner' := by
    rw [Text.trimWhere_pad (by simp) (by simp)]
    exact (h.unquoted.pad hInner.ne_quote hInner'.ne_quote).trimWhere_eq
  have hTrim : Text.trim (['"'] ++ (inner ++ value ++ inner') ++ ['"']) =
      ['"'] ++ (inner ++ value ++ inner') ++ ['"'] := hOuter.trimWhere_eq
  rw [unquote, hTrim, hQuotes, hInner.trim_pad hInner', h.trim_eq]

/-- Reading a field gives the value that it writes. -/
theorem WritesField.unquote_eq (hField : WritesField value field) (h : Writable value) :
    unquote field = value := by
  cases hField with
  | bare hLeft hRight => rw [unquote_congr (hLeft.trim_pad hRight), h.unquote_eq]
  | quoted hLeft hRight hInner hInner' =>
      rw [unquote_congr (hLeft.trim_pad hRight), h.unquote_quoted hInner hInner']

/-! ### Rows -/

/-- Trimming a row takes nothing from its fields but the white space around them. -/
theorem fields?_trim_row {address version : List Char} (hComma : ',' ∉ address) :
    fields? (Text.trim (address ++ ',' :: version)) =
      if isPlainAddress (unquote address) then
        some (String.ofList (unquote address), String.ofList (unquote version))
      else none := by
  have hFirst : ',' ∉ address.dropWhile Text.isBlank :=
    fun hMem => hComma ((List.dropWhile_sublist _).mem hMem)
  have hAddress : unquote (address.dropWhile Text.isBlank) = unquote address :=
    unquote_congr (Text.trimWhere_dropWhile _ _)
  have hVersion : unquote (version.rdropWhile Text.isBlank) = unquote version :=
    unquote_congr (Text.trimWhere_rdropWhile _ _)
  rw [Text.trim, Text.trimWhere_append_cons isBlank_comma, fields?, Text.cutFirst?_separator hFirst]
  simp only [hAddress, hVersion]

/-- The contract, as it is read from an export of the network. -/
def record (network : Network) (contract : String × String) : Record :=
  ⟨network, contract.1, contract.2⟩

/-- A line that writes a contract tells its record. -/
theorem WritesRow.tells {contract : String × String} (hLine : WritesRow contract line)
    (h : Exportable contract) :
    Tells network line (record network contract) := by
  cases hLine with
  | fields hAddress hVersion =>
      have hComma := hAddress.notMem h.comma (by decide) (by decide)
      have hPlain : isPlainAddress contract.1.toList = true :=
        isPlainAddress_iff.mpr ⟨h.named, h.slash, h.backslash, h.dots⟩
      refine ⟨rfl, ?_⟩
      rw [fields?_trim_row hComma, hAddress.unquote_eq h.address, hVersion.unquote_eq h.version,
        if_pos hPlain, String.ofList_toList, String.ofList_toList]
      rfl

theorem WritesRow.trim_ne_nil {contract : String × String} (hLine : WritesRow contract line) :
    Text.trim line ≠ [] := by
  cases hLine with
  | fields =>
      intro hBlank
      have hComma := Text.trimWhere_eq_nil_iff.mp hBlank ',' (by simp)
      rw [isBlank_comma] at hComma
      cases hComma

/-- A row is written without line break. -/
theorem WritesRow.oneLine {contract : String × String} (hLine : WritesRow contract line)
    (h : Exportable contract) : '\n' ∉ line := by
  cases hLine with
  | fields hAddress hVersion =>
      have hFirst := hAddress.notMem h.address.oneLine (by decide) fun _ => rfl
      have hSecond := hVersion.notMem h.version.oneLine (by decide) fun _ => rfl
      simp [hFirst, hSecond]

/-! ### Lines -/

/-- A line with either end is cut off, but for white space at its end. -/
theorem LineEnd.pieces_eq (hStop : LineEnd stop) (hLine : '\n' ∉ line) (rest : List Char) :
    ∃ first, Text.pieces '\n' (line ++ stop ++ rest) = first :: Text.pieces '\n' rest ∧
      Text.trim first = Text.trim line := by
  cases hStop with
  | feed =>
      refine ⟨line, ?_, rfl⟩
      rw [List.append_assoc, List.singleton_append, Text.pieces_append,
        Text.pieces_of_notMem hLine, List.singleton_append]
  | returnFeed =>
      refine ⟨line ++ ['\r'], ?_, Text.trimWhere_append (by simp [isBlank_return])⟩
      have hFirst : '\n' ∉ line ++ ['\r'] := by simp [hLine]
      rw [show line ++ ['\r', '\n'] ++ rest = (line ++ ['\r']) ++ '\n' :: rest by simp,
        Text.pieces_append, Text.pieces_of_notMem hFirst, List.singleton_append]

/-- A line tells what is left of it when it is trimmed. -/
theorem Tells.of_trim {other : List Char} {r : Record} (h : Tells network line r)
    (hTrim : Text.trim other = Text.trim line) : Tells network other r :=
  ⟨h.network, by rw [hTrim, h.fields]⟩

theorem Padding.trim_eq (h : Padding line) : Text.trim line = [] :=
  Text.trimWhere_eq_nil_iff.mpr h.blank

/-- The lines of a written export that are not blank tell the contracts. -/
theorem Writes.tells {contracts : List (String × String)} {text : List Char}
    (h : Writes contracts text)
    (hContracts : ∀ c ∈ contracts, Exportable c) :
    List.Forall₂ (Tells network) (filled (Text.pieces '\n' text))
      (contracts.map (record network)) := by
  induction h with
  | blankEnd hLine =>
      rw [Text.pieces_of_notMem hLine.oneLine, filled_cons_blank hLine.trim_eq]
      exact .nil
  | rowEnd hLine =>
      have hContract := hContracts _ List.mem_cons_self
      rw [Text.pieces_of_notMem (hLine.oneLine hContract), filled_cons_row hLine.trim_ne_nil]
      exact .cons (hLine.tells hContract) .nil
  | @blank contracts line stop rest hLine hStop _ ih =>
      obtain ⟨first, hPieces, hTrim⟩ := hStop.pieces_eq hLine.oneLine rest
      rw [hPieces, filled_cons_blank (hTrim.trans hLine.trim_eq)]
      exact ih hContracts
  | @row contract contracts line stop rest hLine hStop _ ih =>
      obtain ⟨hContract, hOthers⟩ := List.forall_mem_cons.mp hContracts
      obtain ⟨first, hPieces, hTrim⟩ := hStop.pieces_eq (hLine.oneLine hContract) rest
      rw [hPieces, filled_cons_row (hTrim ▸ hLine.trim_ne_nil), List.map_cons]
      exact .cons ((hLine.tells hContract).of_trim hTrim) (ih hOthers)

/-- However the contracts were written, they are read back. -/
theorem parse_of_writes (network : Network) (path : Path) {contracts : List (String × String)}
    {text : String} (hContracts : ∀ c ∈ contracts, Exportable c)
    (hText : Writes contracts text.toList) :
    parse network path text = .ok (contracts.map (record network)) :=
  parse_eq_ok_iff.mpr (hText.tells hContracts)

namespace Mixed

/-- One of the addresses has a quote in it, and one of the versions is empty. -/
def contracts : List (String × String) := [("0xA", "0.3.0"), ("b\"c", ""), ("d", "1, 2")]

/-- Quotes on some fields, white space of several kinds, both line ends, and blank lines. -/
def text : String := "\u00a00xA ,\t\" 0.3.0\"\r\n \u2003\n\"b\"c\",\r\n\nd,\"1, 2\" "

theorem writes_text : Writes contracts text.toList := by
  have hNone : Padding [] := by decide
  have hSpace : Padding [' '] := by decide
  have hTab : Padding ['\t'] := by decide
  have hFixed : Padding ['\u00a0'] := by decide
  have hWide : Padding [' ', '\u2003'] := by decide
  have hFirst : WritesRow ("0xA", "0.3.0") "\u00a00xA ,\t\" 0.3.0\"".toList :=
    .fields (.bare hFixed hSpace) (.quoted hTab hNone hSpace hNone)
  have hSecond : WritesRow ("b\"c", "") "\"b\"c\",".toList :=
    .fields (.quoted hNone hNone hNone hNone) (.bare hNone hNone)
  have hThird : WritesRow ("d", "1, 2") "d,\"1, 2\" ".toList :=
    .fields (.bare hNone hNone) (.quoted hNone hSpace hNone hNone)
  exact .row hFirst .returnFeed (.blank hWide .feed
    (.row hSecond .returnFeed (.blank hNone .feed (.rowEnd hThird))))

/-- An export with a quoted field, padding, a blank line and a version left out is read as written.
-/
theorem parse_of_writes_mixed :
    (∀ c ∈ contracts, Exportable c) ∧ Writes contracts text.toList ∧
      parse .op ⟨"op.csv"⟩ text =
        .ok [⟨.op, "0xA", "0.3.0"⟩, ⟨.op, "b\"c", ""⟩, ⟨.op, "d", "1, 2"⟩] := by
  have hContracts : ∀ c ∈ contracts, Exportable c := by
    simp only [contracts, List.forall_mem_cons, List.not_mem_nil, false_imp_iff, implies_true]
    refine ⟨?_, ?_, ?_, trivial⟩ <;>
      exact ⟨⟨by decide, by decide, by decide⟩, ⟨by decide, by decide, by decide⟩, by decide,
        by decide, by decide, by decide, by decide⟩
  exact ⟨hContracts, writes_text, parse_of_writes .op ⟨"op.csv"⟩ hContracts writes_text⟩

end Mixed

end LockTriage.Export
