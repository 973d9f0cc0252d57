import LockTriage.Json.Raw
import LockTriage.Proofs.Json.Numbers

/-!
Which documents reading can give. Whatever text is read, its lists and objects
are nested no deeper than the limit, the members of its objects stand in byte
order of their names, each once, its whole numbers fit in 64 bits, and its
decimals are those that their own digits and exponents stand for.
-/

namespace LockTriage.Json

/-- Every number in the document is a whole number. -/
inductive Whole : Json → Prop where
  | null : Whole .null
  | bool (b : Bool) : Whole (.bool b)
  | number (n : Int) : Whole (.number (.whole n))
  | text (s : String) : Whole (.text s)
  | list {items : List Json} (h : ∀ item ∈ items, Whole item) : Whole (.list items)
  | object {members : List (String × Json)} (h : ∀ m ∈ members, Whole m.2) :
      Whole (.object members)

/-- Every number in the document is a whole number that fits. -/
inductive Exact : Json → Prop where
  | null : Exact .null
  | bool (b : Bool) : Exact (.bool b)
  | number {n : Int} (h : InRange n) : Exact (.number (.whole n))
  | text (s : String) : Exact (.text s)
  | list {items : List Json} (h : ∀ item ∈ items, Exact item) : Exact (.list items)
  | object {members : List (String × Json)} (h : ∀ m ∈ members, Exact m.2) :
      Exact (.object members)

/-- The names of members stand in byte order, each once. -/
def Ordered (members : List (String × Json)) : Prop :=
  members.Pairwise fun first second => first.1 < second.1

/-- The document has whole numbers that fit, ordered members, and lists and
objects nested at most `depth` deep. -/
inductive Readable : Nat → Json → Prop where
  | null (depth : Nat) : Readable depth .null
  | bool (depth : Nat) (b : Bool) : Readable depth (.bool b)
  | number (depth : Nat) {n : Int} (h : InRange n) : Readable depth (.number (.whole n))
  | text (depth : Nat) (s : String) : Readable depth (.text s)
  | list {depth : Nat} {items : List Json} (h : ∀ item ∈ items, Readable depth item) :
      Readable (depth + 1) (.list items)
  | object {depth : Nat} {members : List (String × Json)} (hOrdered : Ordered members)
      (h : ∀ m ∈ members, Readable depth m.2) : Readable (depth + 1) (.object members)

/-- The document is one that reading gives: its numbers are kept as they are, its
members are ordered, and lists and objects are nested at most `depth` deep. -/
inductive Stable : Nat → Json → Prop where
  | null (depth : Nat) : Stable depth .null
  | bool (depth : Nat) (b : Bool) : Stable depth (.bool b)
  | number (depth : Nat) {n : JsonNumber} (h : n.Steady) : Stable depth (.number n)
  | text (depth : Nat) (s : String) : Stable depth (.text s)
  | list {depth : Nat} {items : List Json} (h : ∀ item ∈ items, Stable depth item) :
      Stable (depth + 1) (.list items)
  | object {depth : Nat} {members : List (String × Json)} (hOrdered : Ordered members)
      (h : ∀ m ∈ members, Stable depth m.2) : Stable (depth + 1) (.object members)

/-- A document that can be read back is stable. -/
theorem Readable.stable {depth : Nat} {j : Json} (h : Readable depth j) : Stable depth j := by
  induction h with
  | null depth => exact .null depth
  | bool depth b => exact .bool depth b
  | number depth h => exact .number depth (.whole h)
  | text depth s => exact .text depth s
  | list _ ih => exact .list ih
  | object hOrdered _ ih => exact .object hOrdered ih

/-- With whole numbers only, a document that reading gives is readable. -/
theorem Stable.readable {depth : Nat} {j : Json} (h : Stable depth j) (hWhole : Whole j) :
    Readable depth j := by
  induction h with
  | null depth => exact .null depth
  | bool depth b => exact .bool depth b
  | number depth h =>
      cases hWhole with
      | number n =>
          cases h with
          | whole hRange => exact .number depth hRange
  | text depth s => exact .text depth s
  | list _ ih =>
      cases hWhole with
      | list hItems => exact .list fun item hi => ih item hi (hItems item hi)
  | object hOrdered _ ih =>
      cases hWhole with
      | object hMembers => exact .object hOrdered fun m hm => ih m hm (hMembers m hm)

theorem Exact.whole {j : Json} (h : Exact j) : Whole j := by
  induction h with
  | null => exact .null
  | bool b => exact .bool b
  | @number n _ => exact .number n
  | text s => exact .text s
  | list _ ih => exact .list ih
  | object _ ih => exact .object ih

theorem Readable.exact {depth : Nat} {j : Json} (h : Readable depth j) : Exact j := by
  induction h with
  | null => exact .null
  | bool _ b => exact .bool b
  | number _ h => exact .number h
  | text _ s => exact .text s
  | list _ ih => exact .list ih
  | object _ _ ih => exact .object ih

/-! ### Ordered members -/

/-- A member of an object that was set is the one set or was there before. -/
theorem mem_setMember {name : String} {value : Json} {before : List (String × Json)}
    {m : String × Json} (h : m ∈ setMember name value before) : m = (name, value) ∨ m ∈ before := by
  induction before with
  | nil => simpa [setMember] using h
  | cons first before ih =>
      obtain ⟨n, v⟩ := first
      simp only [setMember] at h
      split at h
      · exact (List.mem_cons.mp h).imp id (List.mem_cons_of_mem _)
      · split at h
        · exact List.mem_cons.mp h
        · rcases List.mem_cons.mp h with rfl | h
          · exact .inr List.mem_cons_self
          · exact (ih h).imp id (List.mem_cons_of_mem _)

/-- Setting a member keeps the members in order. -/
theorem Ordered.setMember {before : List (String × Json)} (h : Ordered before) (name : String)
    (value : Json) : Ordered (setMember name value before) := by
  induction before with
  | nil => simp [Json.setMember, Ordered]
  | cons first before ih =>
      obtain ⟨n, v⟩ := first
      obtain ⟨hFirst, hRest⟩ := List.pairwise_cons.mp h
      simp only [Json.setMember]
      split
      · rename_i hSame
        subst hSame
        exact List.pairwise_cons.mpr ⟨hFirst, hRest⟩
      · rename_i hNe
        split
        · rename_i hLess
          refine List.pairwise_cons.mpr ⟨fun m hm => ?_, h⟩
          rcases List.mem_cons.mp hm with rfl | hm
          · exact hLess
          · exact hLess.trans (hFirst m hm)
        · rename_i hNotLess
          refine List.pairwise_cons.mpr ⟨fun m hm => ?_, ih hRest⟩
          rcases mem_setMember hm with rfl | hm
          · exact lt_of_le_of_ne (not_lt.mp hNotLess) (Ne.symm hNe)
          · exact hFirst m hm

/-! ### Numbers that fit, from the text to the tree -/

/-- A number that is read is kept as it is. -/
def NumberFits (n : Option JsonNumber) : Prop := ∀ v, n = some v → v.Steady

/-- Every number in the document as written fits. -/
inductive Raw.Fits : Raw → Prop where
  | null : Fits .null
  | bool (b : Bool) : Fits (.bool b)
  | number {n : Option JsonNumber} (h : NumberFits n) : Fits (.number n)
  | text (units : List StringUnit) : Fits (.text units)
  | list {items : List Raw} (h : ∀ item ∈ items, Fits item) : Fits (.list items)
  | object {members : List (List StringUnit × Raw)} (h : ∀ m ∈ members, Fits m.2) :
      Fits (.object members)

/-- The numbers the lexer reads fit. -/
private theorem lexMagnitude?_fits {negative : Bool} {cs rest : List Char}
    {n : Option JsonNumber} (h : lexMagnitude? negative cs = some (n, rest)) : NumberFits n := by
  unfold lexMagnitude? at h
  split at h
  · cases h
  · split at h
    · cases h
    · split at h
      · cases h
      · split at h
        · cases h
          exact fun _ => JsonNumber.steady_of_ofWhole?
        · cases h
          exact fun _ => JsonNumber.steady_of_ofDecimal?
      · cases h
        exact fun _ => JsonNumber.steady_of_ofDecimal?

/-- A number that a token holds fits. -/
def Token.Fits (token : Token) : Prop := ∀ n, token = .number n → NumberFits n

private theorem leadingToken?_fits {cs rest : List Char} {token : Token}
    (h : leadingToken? cs = some (token, rest)) : token.Fits := by
  intro n hToken
  subst hToken
  unfold leadingToken? at h
  split at h
  case h_11 =>
    obtain ⟨_, _, hPair⟩ := Option.map_eq_some_iff.mp h
    cases hPair
  case h_12 =>
    obtain ⟨⟨n', _⟩, hNumber, hPair⟩ := Option.map_eq_some_iff.mp h
    cases hPair
    exact lexMagnitude?_fits hNumber
  case h_13 =>
    obtain ⟨⟨n', _⟩, hNumber, hPair⟩ := Option.map_eq_some_iff.mp h
    cases hPair
    exact lexMagnitude?_fits hNumber
  all_goals cases h

/-- All tokens of a text fit. -/
theorem tokens?_fits {cs : List Char} {tokens : List Token} (h : tokens? cs = some tokens) :
    ∀ token ∈ tokens, token.Fits := by
  induction hLength : cs.length using Nat.strongRecOn generalizing cs tokens with
  | ind length ih =>
      rw [tokens?.eq_def] at h
      split at h
      · cases h
        simp
      · rename_i c rest
        split at h
        · exact ih rest.length (by simp [← hLength]) h rfl
        · split at h
          · cases h
          · rename_i token tail hToken
            obtain ⟨later, hLater, rfl⟩ := Option.map_eq_some_iff.mp h
            have hShorter := leadingToken?_shorter hToken
            have hTail := ih tail.length (hLength ▸ hShorter) hLater rfl
            intro t ht
            rcases List.mem_cons.mp ht with rfl | ht
            · exact leadingToken?_fits hToken
            · exact hTail t ht

/-- Everything in an open list or object fits. -/
def Raw.Open.Fits : Raw.Open → Prop
  | .list items => ∀ item ∈ items, Raw.Fits item
  | .object members _ => ∀ m ∈ members, Raw.Fits m.2

/-- Everything that is read so far fits. -/
def Raw.Reading.Fits : Raw.Reading → Prop
  | .value stack => ∀ o ∈ stack, Open.Fits o
  | .firstItem stack => ∀ o ∈ stack, Open.Fits o
  | .firstName stack => ∀ o ∈ stack, Open.Fits o
  | .name members stack => (∀ m ∈ members, Raw.Fits m.2) ∧ ∀ o ∈ stack, Open.Fits o
  | .colon members _ stack => (∀ m ∈ members, Raw.Fits m.2) ∧ ∀ o ∈ stack, Open.Fits o
  | .complete done stack => Raw.Fits done ∧ ∀ o ∈ stack, Open.Fits o

private theorem begin_fits {stack : List Raw.Open} {token : Token} {reading : Raw.Reading}
    (hStack : ∀ o ∈ stack, Raw.Open.Fits o) (hToken : token.Fits)
    (h : Raw.begin stack token = some reading) : reading.Fits := by
  cases token <;> simp only [Raw.begin, reduceCtorEq, Option.some.injEq] at h <;> subst h
  case null => exact ⟨.null, hStack⟩
  case bool b => exact ⟨.bool b, hStack⟩
  case number n => exact ⟨.number (hToken n rfl), hStack⟩
  case string units => exact ⟨.text units, hStack⟩
  case openList => simpa [Raw.Reading.Fits, Raw.Open.Fits] using hStack
  case openObject => exact hStack

private theorem continue?_fits {value : Raw} {stack : List Raw.Open} {token : Token}
    {reading : Raw.Reading} (hValue : Raw.Fits value) (hStack : ∀ o ∈ stack, Raw.Open.Fits o)
    (h : Raw.continue? value stack token = some reading) : reading.Fits := by
  unfold Raw.continue? at h
  split at h <;> simp only [reduceCtorEq, Option.some.injEq] at h <;> subst h <;>
    simp only [List.mem_cons, forall_eq_or_imp, Raw.Open.Fits] at hStack
  · simpa [Raw.Reading.Fits, Raw.Open.Fits, hValue] using hStack
  · exact ⟨.list (by simpa [hValue, or_imp, forall_and] using hStack.1), hStack.2⟩
  · refine ⟨?_, hStack.2⟩
    simpa [hValue, or_imp, forall_and] using hStack.1
  · refine ⟨.object ?_, hStack.2⟩
    simpa [hValue, or_imp, forall_and] using hStack.1

/-- What is read so far still fits after one more token. -/
private theorem step_fits {reading next : Raw.Reading} {token : Token} (hReading : reading.Fits)
    (hToken : token.Fits) (h : Raw.step reading token = some next) : next.Fits := by
  unfold Raw.step at h
  split at h <;> try simp only [reduceCtorEq, Option.some.injEq] at h
  · exact begin_fits hReading hToken h
  · subst h
    simp only [Raw.Reading.Fits, List.mem_cons, forall_eq_or_imp, Raw.Open.Fits] at hReading
    exact ⟨.list (by simpa using hReading.1), hReading.2⟩
  · exact begin_fits hReading hToken h
  · subst h
    exact ⟨.object (by simp), hReading⟩
  · subst h
    exact ⟨by simp, hReading⟩
  · subst h
    exact hReading
  · subst h
    simpa [Raw.Reading.Fits, Raw.Open.Fits] using hReading
  · exact continue?_fits hReading.1 hReading.2 h

private theorem foldlM_step_fits {tokens : List Token} (reading : Raw.Reading)
    {last : Raw.Reading} (hReading : reading.Fits) (hTokens : ∀ token ∈ tokens, token.Fits)
    (h : tokens.foldlM Raw.step reading = some last) : last.Fits := by
  induction tokens generalizing reading with
  | nil =>
      cases h
      exact hReading
  | cons token tokens ih =>
      rw [List.foldlM_cons] at h
      obtain ⟨next, hStep, hRest⟩ := Option.bind_eq_some_iff.mp h
      simp only [List.mem_cons, forall_eq_or_imp] at hTokens
      exact ih next (step_fits hReading hTokens.1 hStep) hTokens.2 hRest

/-- A text that is read gives a document whose numbers fit. -/
theorem Raw.ofText?_fits {cs : List Char} {r : Raw} (h : Raw.ofText? cs = some r) : r.Fits := by
  obtain ⟨tokens, hTokens, hTree⟩ := Option.bind_eq_some_iff.mp h
  obtain ⟨last, hLast, hResult⟩ := Option.bind_eq_some_iff.mp hTree
  have hFits := foldlM_step_fits (.value []) (by simp [Raw.Reading.Fits])
    (tokens?_fits hTokens) hLast
  unfold Raw.Reading.result? at hResult
  split at hResult
  · cases hResult
    exact hFits.1
  · cases hResult

/-! ### What a tree can stand for -/

/-- The items of an array are the values of what was read as its items. -/
private theorem exists_of_mem_items {depth : Nat} {items : List Raw} {values : List Json}
    (h : Raw.items? depth items = some values) :
    ∀ v ∈ values, ∃ item ∈ items, item.value? depth = some v := by
  induction items generalizing values with
  | nil =>
      cases h
      simp
  | cons item items ih =>
      rw [Raw.items?] at h
      split at h
      · rename_i first later hFirst hLater
        cases h
        intro v hv
        rcases List.mem_cons.mp hv with rfl | hv
        · exact ⟨item, List.mem_cons_self, hFirst⟩
        · obtain ⟨other, hMem, hValue⟩ := ih hLater v hv
          exact ⟨other, List.mem_cons_of_mem _ hMem, hValue⟩
      · cases h

/-- The members of an object have values of what was read as its members, unless they were there
before. -/
private theorem exists_of_mem_members {depth : Nat} {before after : List (String × Json)}
    {members : List (List StringUnit × Raw)}
    (h : Raw.members? depth before members = some after) :
    ∀ m ∈ after, m ∈ before ∨ ∃ member ∈ members, member.2.value? depth = some m.2 := by
  induction members generalizing before with
  | nil =>
      cases h
      exact fun m hm => .inl hm
  | cons member members ih =>
      obtain ⟨units, item⟩ := member
      rw [Raw.members?] at h
      split at h
      · rename_i name v hName hValue
        intro m hm
        rcases ih h m hm with hBefore | ⟨other, hMem, hOther⟩
        · rcases mem_setMember hBefore with rfl | hBefore
          · exact .inr ⟨(units, item), List.mem_cons_self, hValue⟩
          · exact .inl hBefore
        · exact .inr ⟨other, List.mem_cons_of_mem _ hMem, hOther⟩
      · cases h

/-- Members are set in order. -/
private theorem ordered_of_members {depth : Nat} {before after : List (String × Json)}
    {members : List (List StringUnit × Raw)} (hBefore : Ordered before)
    (h : Raw.members? depth before members = some after) : Ordered after := by
  induction members generalizing before with
  | nil =>
      cases h
      exact hBefore
  | cons member members ih =>
      obtain ⟨units, item⟩ := member
      rw [Raw.members?] at h
      split at h
      · exact ih (hBefore.setMember _ _) h
      · cases h

/-- A tree whose numbers fit stands for a document that reading gives. -/
theorem Raw.Fits.stable {r : Raw} (hFits : r.Fits) {depth : Nat} {j : Json}
    (h : r.value? depth = some j) : Stable depth j := by
  induction hFits generalizing depth j with
  | null =>
      cases h
      exact .null depth
  | bool b =>
      cases h
      exact .bool depth b
  | number hNumber =>
      obtain ⟨number, rfl, rfl⟩ := Option.map_eq_some_iff.mp h
      exact .number depth (hNumber number rfl)
  | text units =>
      obtain ⟨s, _, rfl⟩ := Option.map_eq_some_iff.mp h
      exact .text depth s
  | list _ ih =>
      cases depth with
      | zero => cases h
      | succ depth =>
          obtain ⟨values, hValues, rfl⟩ := Option.map_eq_some_iff.mp h
          refine .list fun v hv => ?_
          obtain ⟨item, hMem, hValue⟩ := exists_of_mem_items hValues v hv
          exact ih item hMem hValue
  | object _ ih =>
      cases depth with
      | zero => cases h
      | succ depth =>
          obtain ⟨after, hAfter, rfl⟩ := Option.map_eq_some_iff.mp h
          refine .object (ordered_of_members List.Pairwise.nil hAfter) fun m hm => ?_
          rcases exists_of_mem_members hAfter m hm with hNone | ⟨member, hMem, hValue⟩
          · cases hNone
          · exact ih member hMem hValue

/-- What was parsed from a text is stable. -/
theorem stable_of_parse? {s : String} {j : Json} (h : parse? s = some j) :
    Stable depthLimit j := by
  obtain ⟨r, hText, hValue⟩ := Option.bind_eq_some_iff.mp h
  exact (Raw.ofText?_fits hText).stable hValue

/-- A document that was read from text is readable, if it has whole numbers only. -/
theorem readable_of_parse? {s : String} {j : Json} (h : parse? s = some j) (hWhole : Whole j) :
    Readable depthLimit j :=
  (stable_of_parse? h).readable hWhole

end LockTriage.Json
