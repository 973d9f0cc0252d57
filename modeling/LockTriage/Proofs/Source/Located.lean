import LockTriage.Proofs.Source.Span
import LockTriage.Proofs.Text.Cut

/-!
Balanced spans at byte offsets. The stack of a scan is as high as the depth that counting has,
and the pair at its bottom is closed last. So what is cut out of a text is the shortest
beginning that closes every pair it opens, and a cut never goes through a character.
-/

namespace LockTriage.Balanced

variable {opener closer : Char}

/-! ### The stack of a scan -/

/-- What a scan has come to, by what counting the open pairs answers. The pair at `bottom`
is the one that was opened first. -/
def Scan.Counted (bottom offset : Nat) (s : Scan) : Except Nat (List Char) → Prop
  | .ok found => s = ⟨[], some (bottom, offset + Text.byteLength found)⟩
  | .error depth => s.opened.length = depth ∧ s.opened ≠ []

theorem Scan.Counted.cons {bottom offset : Nat} {c : Char} {s : Scan}
    {answer : Except Nat (List Char)} (h : s.Counted bottom (offset + c.utf8Size) answer) :
    s.Counted bottom offset (answer.map (c :: ·)) := by
  cases answer with
  | ok found =>
      rw [Counted, Nat.add_assoc] at h
      exact h
  | error depth => exact h

/-- While something is open, the stack of a scan is as high as the depth that counting has. -/
theorem scan_counted {s : Scan} {bottom : Nat} (hBottom : s.opened.getLast? = some bottom)
    (offset : Nat) (text : List Char) :
    (scan opener closer s offset text).Counted bottom offset
      (closing opener closer s.opened.length text) := by
  induction text generalizing s offset with
  | nil =>
      refine ⟨rfl, fun hNone => ?_⟩
      rw [scan] at hNone
      simp [hNone] at hBottom
  | cons c text ih =>
      obtain ⟨start, outer, hOpened⟩ : ∃ start outer, s.opened = start :: outer :=
        List.exists_cons_of_ne_nil fun hNone => by simp [hNone] at hBottom
      rw [scan, closing]
      split
      · have hPushed : (s.push offset).opened.getLast? = some bottom := by
          rw [Scan.push, hOpened, List.getLast?_cons_cons, ← hOpened, hBottom]
        exact (ih hPushed (offset + c.utf8Size)).cons
      · split
        · have hPopped : s.pop (offset + c.utf8Size) = ⟨outer, some (start, offset + c.utf8Size)⟩ := by
            rw [Scan.pop, hOpened]
          rw [hPopped, hOpened]
          -- Either this closes the pair at the bottom, or that one stays where it is.
          cases outer with
          | nil =>
              rw [hOpened] at hBottom
              obtain rfl : start = bottom := by simpa using hBottom
              simp [Scan.Counted, Text.byteLength]
          | cons next outer =>
              have hLast : (next :: outer).getLast? = some bottom := by
                rw [← hBottom, hOpened, List.getLast?_cons_cons]
              simp only [List.isEmpty_cons, Bool.false_eq_true, if_false]
              rw [if_neg (by simp)]
              exact (@ih ⟨next :: outer, _⟩ hLast (offset + c.utf8Size)).cons
        · exact (ih hBottom (offset + c.utf8Size)).cons

/-- What is located at an opening delimiter: all of the span that counting finds. -/
theorem locate_of_opener {text rest : List Char} {index : Nat}
    (h : Text.fromByte? index text = some (opener :: rest)) :
    locate opener closer text index =
      match leading opener closer (opener :: rest) with
      | .ok found => .ok (index, index + Text.byteLength found)
      | .error depth => .error (.neverClosed index depth) := by
  have hScan : scan opener closer ⟨[], none⟩ index (opener :: rest) =
      scan opener closer ⟨[index], none⟩ (index + opener.utf8Size) rest := by
    rw [scan, if_pos rfl]
    rfl
  have hLeading : leading opener closer (opener :: rest) =
      (closing opener closer 1 rest).map (opener :: ·) := by
    rw [leading, closing, if_pos rfl]
  have hCounted := (@scan_counted opener closer ⟨[index], none⟩ index rfl
    (index + opener.utf8Size) rest).cons
  rw [List.length_singleton, ← hLeading, ← hScan] at hCounted
  rw [locate, h]
  dsimp only
  rw [if_pos rfl]
  generalize scan opener closer ⟨[], none⟩ index (opener :: rest) = s at hCounted ⊢
  cases hAnswer : leading opener closer (opener :: rest) with
  | ok found =>
      rw [hAnswer] at hCounted
      obtain rfl : s = _ := hCounted
      rfl
  | error depth =>
      rw [hAnswer] at hCounted
      obtain ⟨hHeight, hSome⟩ := hCounted
      obtain ⟨opened, closed⟩ := s
      cases opened with
      | nil => exact absurd rfl hSome
      | cons start outer => cases closed <;> simp_all

/-! ### Where the delimiters are one character -/

/-- A delimiter that opens and closes only ever opens. -/
theorem closing_same (delimiter : Char) (depth : Nat) (text : List Char) :
    closing delimiter delimiter depth text = .error (depth + text.count delimiter) := by
  induction text generalizing depth with
  | nil => rfl
  | cons c text ih =>
      rw [closing]
      by_cases hc : c = delimiter
      · subst hc
        rw [if_pos rfl, ih, List.count_cons_self, Nat.add_assoc, Nat.add_comm 1]
        rfl
      · rw [if_neg hc, if_neg hc, ih, List.count_cons_of_ne hc]
        rfl

/-! ### The shortest beginning that closes what it opens -/

/-- A beginning of the text, not empty, with as many closing delimiters as opening ones. -/
structure Even (opener closer : Char) (text p : List Char) : Prop where
  begins : p <+: text
  nonempty : p ≠ []
  closed : p.count closer = p.count opener

theorem IsSpan.even {text found : List Char} (h : IsSpan opener closer text found) :
    Even opener closer text found :=
  ⟨h.begins, h.nonempty, h.closed⟩

theorem IsSpan.shortest {text found p : List Char} (h : IsSpan opener closer text found)
    (hEven : Even opener closer text p) : found.length ≤ p.length := by
  rcases List.prefix_or_prefix_of_prefix h.begins hEven.begins with hShorter | hLonger
  · exact hShorter.length_le
  · by_cases hSame : p = found
    · exact Nat.le_of_eq (congrArg List.length hSame.symm)
    · have hOpen := h.first p hLonger hEven.nonempty hSame
      have hClosed := hEven.closed
      omega

/-- A text that leaves a pair open in every beginning has no even one. -/
theorem NeverCloses.not_even {text p : List Char} (h : NeverCloses opener closer text) :
    ¬ Even opener closer text p := by
  intro hEven
  have hOpen := h p hEven.begins hEven.nonempty
  have hClosed := hEven.closed
  omega

/-- A span that starts with an opening delimiter ends with the one that closes it. -/
theorem IsSpan.getLast? (hDelimiters : opener ≠ closer) {rest found : List Char}
    (h : IsSpan opener closer (opener :: rest) found) : found.getLast? = some closer := by
  obtain ⟨before, c, rfl⟩ := (List.eq_nil_or_concat found).resolve_left h.nonempty
  rw [List.concat_eq_append] at h ⊢
  have hClosed := h.closed
  rw [List.count_append, List.count_append] at hClosed
  have hLast : c = closer := by
    by_contra hOther
    have hNone : [c].count closer = 0 := List.count_eq_zero.mpr (by simpa using Ne.symm hOther)
    cases before with
    | nil =>
        obtain rfl : c = opener := (List.cons_prefix_cons.mp h.begins).1
        simp [hNone] at hClosed
    | cons b before =>
        have hOpen := h.first (b :: before) (List.prefix_append _ _) (List.cons_ne_nil b before)
          (by simp)
        omega
  rw [hLast, List.getLast?_append, List.getLast?_singleton, Option.some_or]

/-! ### What the search for a span answers -/

/-- What counting finds is at the start of the text, whatever the delimiters. -/
theorem prefix_of_leading {rest found : List Char}
    (h : leading opener closer (opener :: rest) = .ok found) : found <+: opener :: rest := by
  by_cases hDelimiters : opener = closer
  · rw [leading, hDelimiters, closing_same] at h
    cases h
  · have hSpan := leading_answers hDelimiters rest
    rw [h] at hSpan
    exact hSpan.begins

/-- What is located is cut out of the text between characters, and it is what counting
finds behind the offset. -/
theorem between?_of_locate {text rest : List Char} {index start stop : Nat}
    (hText : Text.fromByte? index text = some (opener :: rest))
    (h : locate opener closer text index = .ok (start, stop)) :
    ∃ found, leading opener closer (opener :: rest) = .ok found ∧ start = index ∧
      stop ≤ Text.byteLength text ∧ Text.between? start stop text = some found := by
  rw [locate_of_opener hText] at h
  cases hFound : leading opener closer (opener :: rest) with
  | error depth =>
      rw [hFound] at h
      cases h
  | ok found =>
      rw [hFound] at h
      obtain ⟨rfl, rfl⟩ := Prod.mk.inj (Except.ok.inj h)
      obtain ⟨before, hCut, rfl⟩ := Text.fromByte?_eq_some_iff.mp hText
      obtain ⟨after, hAfter⟩ := prefix_of_leading hFound
      rw [← hAfter] at hCut
      subst hCut
      refine ⟨found, rfl, rfl, ?_, Text.between?_append before found after⟩
      rw [Text.byteLength_append, Text.byteLength_append]
      omega

/-- At an opening delimiter the span is the one that counting finds. -/
theorem span_of_opener {text rest : List Char} {index : Nat}
    (h : Text.fromByte? index text = some (opener :: rest)) :
    span opener closer text index =
      (leading opener closer (opener :: rest)).mapError (.neverClosed index) := by
  have hLocated := @locate_of_opener opener closer text rest index h
  rw [span]
  cases hFound : leading opener closer (opener :: rest) with
  | error depth =>
      rw [hFound] at hLocated
      rw [hLocated]
      rfl
  | ok found =>
      rw [hFound] at hLocated
      obtain ⟨_, hSame, _, _, hCut⟩ := between?_of_locate h hLocated
      obtain rfl := Except.ok.inj (hFound.symm.trans hSame)
      rw [hLocated, Except.map, hCut]
      rfl

/-- Where no opening delimiter stands at the offset, there is no span. -/
theorem locate_of_other {text : List Char} {index : Nat}
    (h : ∀ rest, Text.fromByte? index text ≠ some (opener :: rest)) :
    locate opener closer text index = .error (.notAnOpener index) := by
  rw [locate]
  split
  · rename_i c rest hText
    rw [if_neg]
    rintro rfl
    exact h rest hText
  · rfl

/-- An offset at which no opening delimiter stands is behind the end of the text, inside a
character, or at another character. -/
theorem forall_fromByte?_ne_iff {text : List Char} {index : Nat} :
    (∀ rest, Text.fromByte? index text ≠ some (opener :: rest)) ↔
      Text.byteLength text < index ∨
        (index ≤ Text.byteLength text ∧
          ∀ before after, text = before ++ after → Text.byteLength before ≠ index) ∨
        ∃ before after, text = before ++ after ∧ Text.byteLength before = index ∧
          after.head? ≠ some opener := by
  constructor
  · intro h
    by_cases hCut : ∃ before after, text = before ++ after ∧ Text.byteLength before = index
    · obtain ⟨before, after, hText, hIndex⟩ := hCut
      refine .inr (.inr ⟨before, after, hText, hIndex, fun hHead => ?_⟩)
      obtain ⟨rest, rfl⟩ := List.head?_eq_some_iff.mp hHead
      exact h rest (Text.fromByte?_eq_some_iff.mpr ⟨before, hText, hIndex⟩)
    · rcases Nat.lt_or_ge (Text.byteLength text) index with hBehind | hWithin
      · exact .inl hBehind
      · exact .inr (.inl ⟨hWithin, fun before after hText hIndex =>
          hCut ⟨before, after, hText, hIndex⟩⟩)
  · intro h rest hText
    obtain ⟨before, hCut, hIndex⟩ := Text.fromByte?_eq_some_iff.mp hText
    rcases h with hBehind | ⟨_, hInside⟩ | ⟨before', after, hCut', hIndex', hHead⟩
    · rw [hCut, Text.byteLength_append, hIndex] at hBehind
      omega
    · exact hInside before _ hCut hIndex
    · obtain ⟨_, rfl⟩ := Text.eq_of_byteLength_eq (hCut.symm.trans hCut') (hIndex.trans hIndex'.symm)
      exact hHead rfl

theorem span_eq_notAnOpener_iff {text : List Char} {index i : Nat} :
    span opener closer text index = .error (.notAnOpener i) ↔
      i = index ∧ ∀ rest, Text.fromByte? index text ≠ some (opener :: rest) := by
  constructor
  · intro h
    by_cases hOpener : ∃ rest, Text.fromByte? index text = some (opener :: rest)
    · obtain ⟨rest, hText⟩ := hOpener
      rw [span_of_opener hText] at h
      cases hFound : leading opener closer (opener :: rest) <;> rw [hFound] at h <;> cases h
    · have hOther := not_exists.mp hOpener
      rw [span, locate_of_other hOther] at h
      cases h
      exact ⟨rfl, hOther⟩
  · rintro ⟨rfl, hOther⟩
    rw [span, locate_of_other hOther]
    rfl

/-- With two different delimiters, the span is the shortest even beginning, and without an
even one all that is open at the end is counted. -/
theorem span_of_different (hDelimiters : opener ≠ closer) {text rest : List Char} {index : Nat}
    (hText : Text.fromByte? index text = some (opener :: rest)) :
    (∃ found, span opener closer text index = .ok found ∧ IsSpan opener closer (opener :: rest) found) ∨
      (∃ depth, span opener closer text index = .error (.neverClosed index depth) ∧
        NeverCloses opener closer (opener :: rest) ∧
        depth + (opener :: rest).count closer = (opener :: rest).count opener) := by
  have hAnswers := leading_answers hDelimiters rest
  rw [span_of_opener hText]
  cases hFound : leading opener closer (opener :: rest) with
  | ok found =>
      rw [hFound] at hAnswers
      exact .inl ⟨found, rfl, hAnswers⟩
  | error depth =>
      rw [hFound] at hAnswers
      refine .inr ⟨depth, rfl, hAnswers.1, ?_⟩
      rw [List.count_cons_of_ne hDelimiters, List.count_cons_self, hAnswers.2, Nat.add_comm]

theorem span_of_same {text rest : List Char} {index : Nat}
    (hText : Text.fromByte? index text = some (opener :: rest)) :
    span opener opener text index =
      .error (.neverClosed index ((opener :: rest).count opener)) := by
  rw [span_of_opener hText, leading, closing_same, Nat.zero_add]
  rfl

/-- What the search for a span answers, for every offset and all delimiters. There is no
opener at the offset if it is behind the end of the text, inside a character or at another
character. From an opener on, the span is the shortest beginning with as many closers as
openers, which ends with a closer and has more openers in every shorter beginning; if there
is none, the number of pairs open at the end is the answer. A character that is both
delimiters never closes. What is located can always be cut out between two characters. -/
theorem span_outermost (opener closer : Char) (text : String) (index : Nat) :
    (∀ i, span opener closer text.toList index = .error (.notAnOpener i) ↔
      i = index ∧
        (text.utf8ByteSize < index ∨
          (index ≤ text.utf8ByteSize ∧
            ∀ before after, text.toList = before ++ after → Text.byteLength before ≠ index) ∨
          ∃ before after, text.toList = before ++ after ∧ Text.byteLength before = index ∧
            after.head? ≠ some opener)) ∧
    (∀ before rest, text.toList = before ++ opener :: rest → Text.byteLength before = index →
      opener ≠ closer →
        ((∃ p, Even opener closer (opener :: rest) p) →
          ∃ found, span opener closer text.toList index = .ok found ∧
            Even opener closer (opener :: rest) found ∧
            (∀ p, Even opener closer (opener :: rest) p → found.length ≤ p.length) ∧
            found.getLast? = some closer ∧
            ∀ p, p <+: found → p ≠ [] → p ≠ found → p.count closer < p.count opener) ∧
        ((¬ ∃ p, Even opener closer (opener :: rest) p) →
          ∃ depth, span opener closer text.toList index = .error (.neverClosed index depth) ∧
            1 ≤ depth ∧
            depth + (opener :: rest).count closer = (opener :: rest).count opener)) ∧
    (opener = closer →
      (∀ found, span opener closer text.toList index ≠ .ok found) ∧
        ∀ before rest, text.toList = before ++ opener :: rest → Text.byteLength before = index →
          span opener closer text.toList index =
            .error (.neverClosed index ((opener :: rest).count opener))) ∧
    ∀ start stop, locate opener closer text.toList index = .ok (start, stop) →
      start = index ∧ stop ≤ text.utf8ByteSize ∧
        ∃ found, Text.between? start stop text.toList = some found ∧
          span opener closer text.toList index = .ok found := by
  have hFrom {before rest : List Char} (hText : text.toList = before ++ opener :: rest)
      (hIndex : Text.byteLength before = index) :
      Text.fromByte? index text.toList = some (opener :: rest) :=
    Text.fromByte?_eq_some_iff.mpr ⟨before, hText, hIndex⟩
  refine ⟨fun i => ?_, fun before rest hText hIndex hDelimiters => ?_, ?_, fun start stop h => ?_⟩
  · rw [span_eq_notAnOpener_iff, forall_fromByte?_ne_iff, Text.byteLength_toList]
  · rcases span_of_different hDelimiters (hFrom hText hIndex) with
      ⟨found, hSpan, hFound⟩ | ⟨depth, hSpan, hOpen, hDepth⟩
    · refine ⟨fun _ => ⟨found, hSpan, hFound.even, fun p => hFound.shortest,
        hFound.getLast? hDelimiters, hFound.first⟩, fun hNone => ?_⟩
      exact absurd ⟨found, hFound.even⟩ hNone
    · refine ⟨fun ⟨p, hEven⟩ => absurd hEven hOpen.not_even, fun _ => ⟨depth, hSpan, ?_, hDepth⟩⟩
      have hAll := hOpen (opener :: rest) List.prefix_rfl (List.cons_ne_nil opener rest)
      omega
  · rintro rfl
    refine ⟨fun found hFound => ?_, fun before rest hText hIndex => span_of_same (hFrom hText hIndex)⟩
    by_cases hOpener : ∃ rest, Text.fromByte? index text.toList = some (opener :: rest)
    · obtain ⟨rest, hText⟩ := hOpener
      rw [span_of_same hText] at hFound
      cases hFound
    · rw [span, locate_of_other (not_exists.mp hOpener)] at hFound
      cases hFound
  · by_cases hOpener : ∃ rest, Text.fromByte? index text.toList = some (opener :: rest)
    · obtain ⟨rest, hText⟩ := hOpener
      obtain ⟨found, hFound, hStart, hStop, hCut⟩ := between?_of_locate hText h
      rw [Text.byteLength_toList] at hStop
      refine ⟨hStart, hStop, found, hCut, ?_⟩
      rw [span_of_opener hText, hFound]
      rfl
    · rw [locate_of_other (not_exists.mp hOpener)] at h
      cases h

example : span '(' ')' "é(ü(ß))(".toList 2 = .ok "(ü(ß))".toList := by decide

end LockTriage.Balanced
