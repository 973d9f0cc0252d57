import LockTriage.Json.Printer
import LockTriage.Proofs.Json.Readable

/-!
The tokens of written JSON text. A document that is written, compactly or
indented, reads as the tokens of its tree, with whatever may follow it; only a
number has to be followed by something that does not continue it.
-/

namespace LockTriage.Json

/-! ### Documents as they are written -/

/-- The unit that a character of a written string is read as. -/
def written (c : Char) : StringUnit :=
  if c.toNat < 0x20 ∧ c ≠ '\x08' ∧ c ≠ '\t' ∧ c ≠ '\n' ∧ c ≠ '\x0c' ∧ c ≠ '\r' then
    .unit c.toNat
  else .char c

/-- The units of a written string. -/
def units (s : String) : List StringUnit := s.toList.map written

/-- A document as it is written. -/
def raw : Json → Raw
  | .null => .null
  | .bool b => .bool b
  | .number n => .number (some n)
  | .text s => .text (units s)
  | .list items => .list (items.map raw)
  | .object members => .object (members.map fun m => (units m.1, raw m.2))
decreasing_by
  · decreasing_tactic
  · obtain ⟨name, value⟩ := m
    have hSize := List.sizeOf_lt_of_mem ‹(name, value) ∈ members›
    simp only [Prod.mk.sizeOf_spec, object.sizeOf_spec] at hSize ⊢
    omega

/-- The tokens that write a document. -/
def Raw.tokens : Raw → List Token
  | .null => [.null]
  | .bool b => [.bool b]
  | .number n => [.number n]
  | .text units => [.string units]
  | .list items => .openList :: ([.comma].intercalate (items.map Raw.tokens) ++ [.closeList])
  | .object members =>
      .openObject :: ([.comma].intercalate
        (members.map fun m => .string m.1 :: .colon :: Raw.tokens m.2) ++ [.closeObject])
decreasing_by
  · decreasing_tactic
  · obtain ⟨name, value⟩ := m
    have hSize := List.sizeOf_lt_of_mem ‹(name, value) ∈ members›
    simp only [Prod.mk.sizeOf_spec, object.sizeOf_spec] at hSize ⊢
    omega

/-! ### Strings -/

/-- A hexadecimal digit is read as the number that it writes. -/
theorem hexValue?_hexDigit {n : Nat} (h : n < 16) :
    Bytes.hexValue? (Bytes.hexDigit n) = some n := by
  have hAll : ∀ m < 16, Bytes.hexValue? (Bytes.hexDigit m) = some m := by decide
  exact hAll n h

/-- An escaped character is read as one unit. -/
theorem lexString?_escape (c : Char) (rest : List Char) :
    lexString? (escape c ++ rest) =
      (lexString? rest).map fun p => (written c :: p.1, p.2) := by
  by_cases hShort : c ∈ ['"', '\\', '\x08', '\t', '\n', '\x0c', '\r']
  · simp only [List.mem_cons, List.not_mem_nil, or_false] at hShort
    rcases hShort with rfl | rfl | rfl | rfl | rfl | rfl | rfl <;>
      cases hRest : lexString? rest <;> simp [escape, written, lexString?, shortEscape?, hRest]
  · simp only [List.mem_cons, List.not_mem_nil, or_false, not_or] at hShort
    obtain ⟨hQuote, hSlash, hBack, hTab, hLine, hPage, hReturn⟩ := hShort
    by_cases hControl : c.toNat < 0x20
    · have hHigh := hexValue?_hexDigit (show c.toNat / 16 < 16 by omega)
      have hLow := hexValue?_hexDigit (show c.toNat % 16 < 16 by omega)
      have hZero : Bytes.hexValue? '0' = some 0 := by decide
      have hUnit : c.toNat / 16 * 16 + c.toNat % 16 = c.toNat := by omega
      cases hRest : lexString? rest <;>
        simp [escape, written, lexString?, hexUnit?, hQuote, hSlash, hBack, hTab, hLine, hPage,
          hReturn, hControl, hHigh, hLow, hZero, hUnit, hRest]
    · have hEscape : escape c = [c] := by
        simp [escape, hQuote, hSlash, hBack, hTab, hLine, hPage, hReturn, hControl]
      have hWritten : written c = .char c := by simp [written, hControl]
      rw [hEscape, hWritten, List.singleton_append, lexString?.eq_def]
      split <;> simp_all
      cases hRest : lexString? rest <;> simp_all

/-- A quoted string reads back as its units, whatever follows its closing quote. -/
theorem lexString?_quote (s : String) (rest : List Char) :
    lexString? (s.toList.flatMap escape ++ '"' :: rest) = some (units s, rest) := by
  simp only [units]
  induction s.toList with
  | nil => simp [lexString?]
  | cons c cs ih =>
      rw [List.flatMap_cons, List.append_assoc, lexString?_escape, ih]
      rfl

/-- The unit of a character is decoded as the character. -/
theorem decodeUnits?_written (c : Char) (rest : List StringUnit) :
    decodeUnits? (written c :: rest) = (decodeUnits? rest).map (c :: ·) := by
  unfold written
  split
  · rename_i hControl
    have hPlain : c.toNat < 0xD800 := by omega
    rw [decodeUnits?.eq_def]
    simp [hPlain]
  · rw [decodeUnits?]

/-- The units of a written string form the string. -/
@[simp] theorem string?_units (s : String) : Raw.string? (units s) = some s := by
  have hDecode : decodeUnits? (units s) = some s.toList := by
    rw [units]
    induction s.toList with
    | nil => rfl
    | cons c cs ih => rw [List.map_cons, decodeUnits?_written, ih, Option.map_some]
  rw [Raw.string?, hDecode, Option.map_some, String.ofList_toList]

/-! ### Texts and their tokens -/

/-- The text reads as the tokens, whatever ends it. -/
def Lexes (text : List Char) (tokens : List Token) : Prop :=
  ∀ rest, Ended rest → tokens? (text ++ rest) = (tokens? rest).map (tokens ++ ·)

theorem Lexes.nil : Lexes [] [] := by
  intro rest _
  cases h : tokens? rest <;> simp [h]

/-- Texts are read one after the other if the second cannot continue the last token of the first. -/
theorem Lexes.append {first second : List Char} {tokens tokens' : List Token}
    (hFirst : Lexes first tokens) (hSecond : Lexes second tokens') (hEnded : Ended second) :
    Lexes (first ++ second) (tokens ++ tokens') := by
  intro rest hRest
  rw [List.append_assoc, hFirst _ (hEnded.append hRest), hSecond rest hRest, Option.map_map]
  congr 1
  funext later
  exact (List.append_assoc ..).symm

/-- A token at the start is the first that is read. -/
private theorem tokens?_of_leading {c : Char} {text rest : List Char} {token : Token}
    (hSpace : isSpace c = false) (h : leadingToken? (c :: text) = some (token, rest)) :
    tokens? (c :: text) = (tokens? rest).map (token :: ·) := by
  rw [tokens?]
  simp only [hSpace, Bool.false_eq_true, if_false]
  split
  · simp_all
  · rename_i found tail hFound
    rw [h] at hFound
    cases hFound
    rfl

/-- A token that needs nothing behind it to be complete. -/
theorem Lexes.token {c : Char} {token : Token} {piece text : List Char} {tokens : List Token}
    (hSpace : isSpace c = false)
    (hToken : ∀ rest, leadingToken? (c :: (piece ++ rest)) = some (token, rest))
    (hText : Lexes text tokens) : Lexes (c :: (piece ++ text)) (token :: tokens) := by
  intro rest hRest
  rw [List.cons_append, List.append_assoc, tokens?_of_leading hSpace (hToken _), hText rest hRest,
    Option.map_map]
  rfl

/-- A sign before a text is one more token. -/
theorem Lexes.punctuation {c : Char} {token : Token} {text : List Char} {tokens : List Token}
    (hText : Lexes text tokens) (hSpace : isSpace c = false)
    (hToken : ∀ rest, leadingToken? (c :: rest) = some (token, rest)) :
    Lexes (c :: text) (token :: tokens) :=
  @Lexes.token c token [] text tokens hSpace hToken hText

/-- A quoted string before a text is one more token. -/
theorem Lexes.string (s : String) {text : List Char} {tokens : List Token}
    (h : Lexes text tokens) : Lexes (quote s ++ text) (.string (units s) :: tokens) := by
  have hToken (rest : List Char) :
      leadingToken? ('"' :: (s.toList.flatMap escape ++ ['"'] ++ rest)) =
        some (.string (units s), rest) := by
    rw [leadingToken?, List.append_assoc, List.singleton_append, lexString?_quote]
    rfl
  exact Lexes.token rfl hToken h

/-- White space is passed over. -/
theorem Lexes.space {c : Char} {text : List Char} {tokens : List Token}
    (hSpace : isSpace c = true) (h : Lexes text tokens) : Lexes (c :: text) tokens := by
  intro rest hRest
  rw [List.cons_append, tokens?]
  simp only [hSpace, if_true]
  exact h rest hRest

/-- A line end and the spaces behind it are passed over. -/
theorem Lexes.newLine (level : Nat) {text : List Char} {tokens : List Token}
    (h : Lexes text tokens) : Lexes (newLine level ++ text) tokens := by
  refine Lexes.space rfl ?_
  induction 2 * level with
  | zero => exact h
  | succ width ih => exact ih.space rfl

/-- Texts between commas read as their tokens between commas. -/
theorem Lexes.intercalate {α : Type} {text : α → List Char} {tokens : α → List Token}
    {items : List α} (h : ∀ item ∈ items, Lexes (text item) (tokens item)) :
    Lexes ([','].intercalate (items.map text)) ([.comma].intercalate (items.map tokens)) := by
  induction items with
  | nil => exact Lexes.nil
  | cons item items ih =>
      simp only [List.mem_cons, forall_eq_or_imp] at h
      cases items with
      | nil => simpa using h.1
      | cons next items =>
          simp only [List.map_cons, List.intercalate_cons_cons] at ih ⊢
          rw [List.append_assoc, List.append_assoc]
          refine h.1.append ((ih h.2).punctuation rfl fun _ => rfl) ?_
          exact ended_cons.mpr rfl

/-! ### Number tokens -/

private theorem ne_of_isDigit {c d : Char} (hDigit : d.isDigit = true) (hc : c.isDigit = false) :
    d ≠ c := by
  rintro rfl
  rw [hDigit] at hc
  cases hc

private theorem isSpace_digit {d : Char} (hDigit : d.isDigit = true) : isSpace d = false := by
  simp [isSpace, ne_of_isDigit hDigit (c := ' ') rfl, ne_of_isDigit hDigit (c := '\t') rfl,
    ne_of_isDigit hDigit (c := '\n') rfl, ne_of_isDigit hDigit (c := '\r') rfl]

/-- What begins with a digit is a number. -/
private theorem leadingToken?_digit {d : Char} (hDigit : d.isDigit = true) (rest : List Char) :
    leadingToken? (d :: rest) =
      (lexMagnitude? false (d :: rest)).map fun p => (.number p.1, p.2) := by
  unfold leadingToken?
  split <;> simp_all

/-- Digits in range are read as their value. -/
private theorem ofWhole?_inRange (negative : Bool) {digits : Nat} {n : Int}
    (hZero : negative = true → digits ≠ 0)
    (hValue : (if negative then -(digits : Int) else digits) = n) (h : InRange n) :
    JsonNumber.ofWhole? negative digits = some (.whole n) := by
  have hSign : (negative && digits == 0) = false := by
    cases negative with
    | false => rfl
    | true => simpa using hZero rfl
  have hLeast := not_lt.mpr h.1
  have hGreatest := not_lt.mpr h.2
  unfold JsonNumber.ofWhole?
  rw [hValue]
  simp [hSign, hLeast, hGreatest]

/-- A magnitude is read as a number whatever follows it. -/
private theorem lexes_magnitude {text : List Char} {n : Option JsonNumber}
    (h : ∀ rest, Ended rest → lexMagnitude? false (text ++ rest) = some (n, rest)) :
    Lexes text [.number n] := by
  intro rest hRest
  have hRead := h rest hRest
  obtain ⟨d, more, hText, hDigit⟩ := exists_digit_of_lexMagnitude? hRead
  have hLeading := leadingToken?_digit hDigit more
  rw [← hText, hRead, Option.map_some, hText] at hLeading
  rw [hText]
  exact tokens?_of_leading (isSpace_digit hDigit) hLeading

/-- The same holds behind a minus sign. -/
private theorem lexes_negative {text : List Char} {n : Option JsonNumber}
    (h : ∀ rest, Ended rest → lexMagnitude? true (text ++ rest) = some (n, rest)) :
    Lexes ('-' :: text) [.number n] := by
  intro rest hRest
  have hLeading : leadingToken? ('-' :: (text ++ rest)) = some (.number n, rest) := by
    rw [leadingToken?, h rest hRest]
    rfl
  exact tokens?_of_leading rfl hLeading

/-- A whole number is read as it was written. -/
private theorem lexes_whole {n : Int} (h : InRange n) :
    Lexes (JsonNumber.text (.whole n)) [.number (some (.whole n))] := by
  rw [JsonNumber.text, Int.toString_eq_repr, Int.repr_eq_if]
  split
  · rename_i hNonneg
    rw [Nat.toList_repr]
    refine lexes_magnitude fun rest hRest => ?_
    rw [lexMagnitude?_toDigits false _ hRest,
      ofWhole?_inRange false (by simp) (Int.toNat_of_nonneg hNonneg) h]
  · rename_i hNegative
    have hValue : (-((-n).toNat : Int)) = n := by omega
    have hPositive : (-n).toNat ≠ 0 := by omega
    have hRead (rest : List Char) (hRest : Ended rest) :
        lexMagnitude? true (Nat.toDigits 10 (-n).toNat ++ rest) = some (some (.whole n), rest) := by
      rw [lexMagnitude?_toDigits true _ hRest, ofWhole?_inRange true (fun _ => hPositive) hValue h]
    rw [String.toList_append, Nat.toList_repr]
    exact lexes_negative hRead

/-- A decimal number is read as it was written. -/
private theorem lexes_decimal {d : Decimal}
    (h : JsonNumber.ofDecimal? d.negative d.digits d.exponent = some (.decimal d)) :
    Lexes (JsonNumber.decimalText d) [.number (some (.decimal d))] := by
  have hRead (rest : List Char) (hRest : Ended rest) :
      lexMagnitude? d.negative (magnitudeText d ++ rest) = some (some (.decimal d), rest) := by
    rw [lexMagnitude?_magnitudeText d.negative d hRest, h]
  rw [decimalText_eq]
  cases hSign : d.negative with
  | false =>
      rw [hSign] at hRead
      exact lexes_magnitude hRead
  | true =>
      rw [hSign] at hRead
      exact lexes_negative hRead

/-- A number that is kept as it is, is written as a token of its own. -/
theorem Lexes.number {n : JsonNumber} (h : n.Steady) : Lexes n.text [.number (some n)] := by
  cases h with
  | whole hRange => exact lexes_whole hRange
  | decimal hSame => exact lexes_decimal hSame

/-! ### Documents -/

/-- Items are written with commas between them. -/
private theorem compactItems_eq (items : List Json) :
    compactItems items = [','].intercalate (items.map compact) := by
  induction items with
  | nil => rfl
  | cons item items ih =>
      cases items with
      | nil => simp [compactItems]
      | cons next items =>
          rw [compactItems, ih]
          · simp [List.intercalate_cons_cons]
          · simp

/-- The text of a member, without white space. -/
private def compactMember (m : String × Json) : List Char := quote m.1 ++ ':' :: compact m.2

private theorem compactMembers_eq (members : List (String × Json)) :
    compactMembers members = [','].intercalate (members.map compactMember) := by
  induction members with
  | nil => rfl
  | cons m members ih =>
      obtain ⟨name, value⟩ := m
      cases members with
      | nil => simp [compactMembers, compactMember]
      | cons next members =>
          rw [compactMembers, ih]
          · simp [List.intercalate_cons_cons, compactMember]
          · simp

/-- Indented items stand each behind a line end, with commas between them. -/
private theorem indentedItems_eq (level : Nat) (item : Json) (rest : List Json) :
    newLine level ++ indented level item ++ indentedItems level rest =
      [','].intercalate ((item :: rest).map fun i => newLine level ++ indented level i) := by
  induction rest generalizing item with
  | nil => simp [indentedItems]
  | cons next rest ih =>
      rw [indentedItems, ih]
      simp [List.intercalate_cons_cons]

/-- The text of a member on a line of its own. -/
private def indentedMember (level : Nat) (m : String × Json) : List Char :=
  newLine level ++ (quote m.1 ++ ':' :: ' ' :: indented level m.2)

private theorem indentedMembers_eq (level : Nat) (m : String × Json)
    (rest : List (String × Json)) :
    indentedMember level m ++ indentedMembers level rest =
      [','].intercalate ((m :: rest).map (indentedMember level)) := by
  induction rest generalizing m with
  | nil => simp [indentedMembers]
  | cons next rest ih =>
      obtain ⟨name, value⟩ := next
      have hNext := ih (name, value)
      rw [List.map_cons, List.map_cons, List.intercalate_cons_cons, ← List.map_cons, ← hNext]
      simp [indentedMembers, indentedMember]

private theorem lexes_null : Lexes ['n', 'u', 'l', 'l'] [.null] :=
  @Lexes.token 'n' .null ['u', 'l', 'l'] [] [] rfl (fun _ => rfl) Lexes.nil

private theorem lexes_bool (b : Bool) : Lexes (compact (.bool b)) [.bool b] := by
  cases b with
  | true => exact @Lexes.token 't' (.bool true) ['r', 'u', 'e'] [] [] rfl (fun _ => rfl) Lexes.nil
  | false =>
      exact @Lexes.token 'f' (.bool false) ['a', 'l', 's', 'e'] [] [] rfl (fun _ => rfl) Lexes.nil

private theorem lexes_text (s : String) : Lexes (quote s) [.string (units s)] := by
  simpa using Lexes.string s Lexes.nil

/-- A document without white space reads as its tokens. -/
theorem Stable.lexes_compact {depth : Nat} {j : Json} (h : Stable depth j) :
    Lexes j.compact j.raw.tokens := by
  induction h with
  | null => simpa only [compact, raw, Raw.tokens] using lexes_null
  | bool _ b => simpa only [raw, Raw.tokens] using lexes_bool b
  | number _ h => simpa only [compact, raw, Raw.tokens] using Lexes.number h
  | text _ s => simpa only [compact, raw, Raw.tokens] using lexes_text s
  | @list depth items h ih =>
      rw [compact, compactItems_eq, raw, Raw.tokens, List.map_map]
      have hClosing : Lexes [']'] [.closeList] := Lexes.nil.punctuation rfl fun _ => rfl
      have hItems := (Lexes.intercalate ih).append hClosing (ended_cons.mpr rfl)
      exact hItems.punctuation rfl fun _ => rfl
  | @object depth members _ h ih =>
      rw [compact, compactMembers_eq, raw, Raw.tokens, List.map_map]
      have hClosing : Lexes ['\x7d'] [.closeObject] := Lexes.nil.punctuation rfl fun _ => rfl
      have hMember : ∀ m ∈ members,
          Lexes (compactMember m) (.string (units m.1) :: .colon :: m.2.raw.tokens) :=
        fun m hm => ((ih m hm).punctuation rfl fun _ => rfl).string m.1
      have hMembers := (Lexes.intercalate hMember).append hClosing (ended_cons.mpr rfl)
      exact hMembers.punctuation rfl fun _ => rfl

/-- A document over several lines reads as its tokens. -/
theorem Exact.lexes_indented {j : Json} (h : Exact j) (level : Nat) :
    Lexes (j.indented level) j.raw.tokens := by
  induction h generalizing level with
  | null => simpa only [indented, raw, Raw.tokens] using lexes_null
  | bool b =>
      have hBool := lexes_bool b
      cases b <;> simpa only [indented, compact, raw, Raw.tokens] using hBool
  | number h => simpa only [indented, raw, Raw.tokens] using Lexes.number (.whole h)
  | text s => simpa only [indented, raw, Raw.tokens] using lexes_text s
  | @list items h ih =>
      have hClosing : Lexes (newLine level ++ [']']) [.closeList] :=
        (Lexes.nil.punctuation rfl fun _ => rfl).newLine level
      have hItem : ∀ item ∈ items,
          Lexes (newLine (level + 1) ++ indented (level + 1) item) item.raw.tokens :=
        fun item hi => (ih item hi (level + 1)).newLine (level + 1)
      have hItems := (Lexes.intercalate hItem).append hClosing (ended_cons.mpr rfl)
      have hText := hItems.punctuation (c := '[') rfl fun _ => rfl
      rw [raw, Raw.tokens, List.map_map]
      cases items with
      | nil => exact (Lexes.nil.punctuation rfl fun _ => rfl).punctuation rfl fun _ => rfl
      | cons item rest =>
          rw [← indentedItems_eq] at hText
          simpa [indented, Function.comp_def] using hText
  | @object members h ih =>
      have hClosing : Lexes (newLine level ++ ['\x7d']) [.closeObject] :=
        (Lexes.nil.punctuation rfl fun _ => rfl).newLine level
      have hMember : ∀ m ∈ members, Lexes (indentedMember (level + 1) m)
          (.string (units m.1) :: .colon :: m.2.raw.tokens) := by
        intro m hm
        have hValue := ((ih m hm (level + 1)).space (c := ' ') rfl).punctuation (c := ':') rfl fun _ => rfl
        exact (hValue.string m.1).newLine (level + 1)
      have hMembers := (Lexes.intercalate hMember).append hClosing (ended_cons.mpr rfl)
      have hText := hMembers.punctuation (c := '\x7b') rfl fun _ => rfl
      rw [raw, Raw.tokens, List.map_map]
      cases members with
      | nil => exact (Lexes.nil.punctuation rfl fun _ => rfl).punctuation rfl fun _ => rfl
      | cons m rest =>
          rw [← indentedMembers_eq] at hText
          simpa [indented, indentedMember, Function.comp_def] using hText

end LockTriage.Json
