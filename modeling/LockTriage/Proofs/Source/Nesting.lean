import LockTriage.Proofs.Source.CallSearch
import LockTriage.Proofs.Verdict

/-!
How argument texts lie to each other. Each of them is read from its own parenthesis on,
without a look at the others, and still no two of them overlap in part: what is open inside
an argument text is closed there too. So what no marker covers has no covered call in it.
-/

namespace LockTriage.Balanced

variable {opener closer : Char}

/-- From an opener inside a span on there is a span too, and it ends before the outer one. -/
theorem IsSpan.inner (hDelimiters : opener ≠ closer) {outer rest found : List Char}
    (h : IsSpan opener closer (outer ++ opener :: rest) found) (hSome : outer ≠ [])
    (hBegins : outer <+: found) (hInside : outer ≠ found) :
    ∃ inner, IsSpan opener closer (opener :: rest) inner ∧
      outer ++ inner <+: found ∧ outer ++ inner ≠ found := by
  obtain ⟨tail, rfl⟩ := hBegins
  have hTail : tail <+: opener :: rest := (List.prefix_append_right_inj outer).mp h.begins
  have hNonempty : tail ≠ [] := fun hNil => hInside (by rw [hNil, List.append_nil])
  -- What is open when the tail begins has to be closed in it.
  have hCloses : tail.count opener < tail.count closer := by
    have hOpen := h.first outer (List.prefix_append outer tail) hSome hInside
    have hClosed := h.closed
    rw [List.count_append, List.count_append] at hClosed
    omega
  have hAnswers := leading_answers hDelimiters rest
  cases hScan : leading opener closer (opener :: rest) with
  | error depth =>
      rw [hScan] at hAnswers
      have hOpen := hAnswers.1 tail hTail hNonempty
      omega
  | ok inner =>
      rw [hScan] at hAnswers
      have hDifferent : inner ≠ tail := by
        rintro rfl
        have hClosed := hAnswers.closed
        omega
      refine ⟨inner, hAnswers, (List.prefix_append_right_inj outer).mpr ?_,
        fun hSame => hDifferent (List.append_cancel_left hSame)⟩
      rcases List.prefix_or_prefix_of_prefix hAnswers.begins hTail with hShorter | hLonger
      · exact hShorter
      · have hOpen := hAnswers.first tail hLonger hNonempty hDifferent.symm
        omega

end LockTriage.Balanced

namespace LockTriage.RawCall

open LockTriage.Balanced (IsSpan IsArgument)

/-- From which byte of the source to which the argument text of a site goes. It starts with
the parenthesis of the call. -/
def Extent (source : List Char) (site : Site) (start stop : Nat) : Prop :=
  ∃ before rest, Call source before rest ∧ Text.byteLength before = site.offset ∧
    Text.fromByte? start source = some rest ∧
    stop = start + Text.byteLength site.argument.toList

/-! ### One site -/

/-- Where a site is in the text of its source. -/
structure Place (source : List Char) (site : Site) where
  before : List Char
  /-- What stands between the place of the site and its parenthesis. -/
  name : List Char
  /-- What follows behind the parenthesis. -/
  rest : List Char
  text : source = before ++ (name ++ '(' :: rest)
  matched : Pattern (name ++ ['('])
  offset : site.offset = Text.byteLength before
  isArgument : IsArgument ('(' :: rest) site.argument.toList

theorem exists_place {source : String} {site : Site} (h : site ∈ sites source) :
    Nonempty (Place source.toList site) := by
  obtain ⟨before, _, argument, hCall, hArgument, rfl⟩ := mem_sites_iff.mp h
  obtain ⟨matched, rest, hMatched, rfl, hText⟩ := call_iff.mp hCall
  obtain ⟨name, rfl, _⟩ := hMatched.cut
  rw [List.append_assoc, List.singleton_append] at hText
  exact ⟨before, name, rest, hText, hMatched, rfl, by rwa [String.toList_ofList]⟩

namespace Place

variable {source : List Char} {p q : Site}

/-- The byte at which the argument text starts. -/
def start (P : Place source p) : Nat := Text.byteLength (P.before ++ P.name)

/-- The byte behind the argument text. -/
def stop (P : Place source p) : Nat := P.start + Text.byteLength p.argument.toList

theorem text_start (P : Place source p) : source = (P.before ++ P.name) ++ '(' :: P.rest := by
  rw [List.append_assoc, ← P.text]

theorem call (P : Place source p) : Call source P.before ('(' :: P.rest) :=
  call_iff.mpr ⟨P.name ++ ['('], P.rest, P.matched, rfl, by
    rw [List.append_assoc, List.singleton_append, ← P.text]⟩

theorem fromByte?_start (P : Place source p) :
    Text.fromByte? P.start source = some ('(' :: P.rest) := by
  have hCut := Text.fromByte?_append (P.before ++ P.name) ('(' :: P.rest)
  rwa [← P.text_start] at hCut

/-- The source and the site determine from where to where the argument text goes. -/
theorem extent_iff (P : Place source p) {a b : Nat} :
    Extent source p a b ↔ a = P.start ∧ b = P.stop := by
  constructor
  · rintro ⟨before, _, hCall, hOffset, hFrom, rfl⟩
    obtain ⟨matched, inner, hMatched, rfl, hText⟩ := call_iff.mp hCall
    obtain ⟨front, hFront, rfl⟩ := Text.fromByte?_eq_some_iff.mp hFrom
    have hBoth : P.before ++ (P.name ++ ['('] ++ P.rest) = before ++ (matched ++ inner) := by
      rw [← hText, List.append_assoc, List.singleton_append, ← P.text]
    obtain ⟨_, hMatch⟩ := Text.eq_of_byteLength_eq hBoth (P.offset.symm.trans hOffset.symm)
    obtain ⟨_, rfl⟩ := P.matched.unique hMatched hMatch
    have hStart : front = P.before ++ P.name :=
      List.append_cancel_right (hFront.symm.trans P.text_start)
    rw [hStart]
    exact ⟨rfl, rfl⟩
  · rintro ⟨rfl, rfl⟩
    exact ⟨P.before, _, P.call, P.offset.symm, P.fromByte?_start, rfl⟩

/-- The argument text is what stands between its two ends. -/
theorem between?_start (P : Place source p) :
    Text.between? P.start P.stop source = some p.argument.toList := by
  obtain ⟨after, hAfter⟩ := P.isArgument.begins
  have hCut := Text.between?_append (P.before ++ P.name) p.argument.toList after
  rw [hAfter, ← P.text_start] at hCut
  exact hCut

/-- A call is closed where the search for its span has an answer. -/
theorem span_eq_ok_iff (P : Place source p) :
    Balanced.span '(' ')' source P.start = .ok p.argument.toList ↔
      IsSpan '(' ')' ('(' :: P.rest) p.argument.toList := by
  have hDelimiters : '(' ≠ ')' := by decide
  rcases Balanced.span_of_different hDelimiters P.fromByte?_start with
    ⟨found, hSpan, hFound⟩ | ⟨depth, hSpan, hOpen, _⟩
  · rw [hSpan, Except.ok.injEq]
    exact ⟨fun hSame => hSame ▸ hFound, fun hArgument => hFound.unique hArgument⟩
  · rw [hSpan]
    constructor
    · intro hNone
      cases hNone
    · exact fun hArgument => absurd hOpen hArgument.not_neverCloses

/-- Between a call and its parenthesis nothing is closed. -/
theorem closer_notMem (P : Place source p) : ')' ∉ P.name := by
  obtain ⟨blanks, hBlanks, hName⟩ := P.matched
  rw [← List.append_assoc] at hName
  rw [List.append_cancel_right hName, List.mem_append, not_or]
  exact ⟨by decide, fun hMem => absurd (hBlanks _ hMem) (by decide)⟩

/-! ### Two sites -/

/-- What stands from the parenthesis of one site up to that of a later one. -/
structure Gap (P : Place source p) (Q : Place source q) where
  inner : List Char
  before : Q.before = P.before ++ (P.name ++ '(' :: inner)
  rest : P.rest = inner ++ (Q.name ++ '(' :: Q.rest)

/-- A later call starts behind the parenthesis of an earlier one. -/
theorem exists_gap (P : Place source p) (Q : Place source q) (hOrder : p.offset < q.offset) :
    Nonempty (Gap P Q) := by
  rw [P.offset, Q.offset] at hOrder
  obtain ⟨gap, hSome, hBefore, hRest⟩ :=
    Text.exists_of_byteLength_lt (P.text.symm.trans Q.text) hOrder
  obtain ⟨tail, hMatched, hOnce⟩ := P.matched.eq_cons
  obtain ⟨tail', hMatched', _⟩ := Q.matched.eq_cons
  have hTexts : (P.name ++ ['(']) ++ P.rest = gap ++ ((Q.name ++ ['(']) ++ Q.rest) := by
    simpa using hRest
  rcases List.append_eq_append_iff.mp hTexts with ⟨inner, hGap, hInner⟩ | ⟨excess, hExcess, hInner⟩
  · refine ⟨inner, ?_, ?_⟩
    · rw [hBefore, hGap]
      simp
    · rw [hInner]
      simp
  -- A later call inside the match would start with a character that is not there again.
  · cases excess with
    | nil =>
        refine ⟨[], ?_, ?_⟩
        · rw [hBefore, ← List.append_nil gap, ← hExcess]
        · simpa using hInner.symm
    | cons c excess =>
        obtain ⟨first, gap, rfl⟩ := List.exists_cons_of_ne_nil hSome
        rw [hMatched] at hExcess
        rw [hMatched'] at hInner
        obtain ⟨_, rfl⟩ := List.cons.inj hExcess
        obtain ⟨rfl, _⟩ := List.cons.inj hInner
        simp at hOnce

variable {P : Place source p} {Q : Place source q}

namespace Gap

/-- The text from the one parenthesis up to the other. -/
def outer (G : Gap P Q) : List Char := '(' :: (G.inner ++ Q.name)

theorem text (G : Gap P Q) : '(' :: P.rest = G.outer ++ '(' :: Q.rest := by
  rw [outer, G.rest]
  simp

theorem outer_begins (G : Gap P Q) : G.outer <+: '(' :: P.rest :=
  ⟨_, G.text.symm⟩

theorem start_eq (G : Gap P Q) : Q.start = P.start + Text.byteLength G.outer := by
  rw [Place.start, Place.start, ← Text.byteLength_append, outer, G.before]
  simp

theorem start_lt (G : Gap P Q) : P.start < Q.start := by
  have hSome := Text.byteLength_pos (List.cons_ne_nil '(' (G.inner ++ Q.name))
  rw [G.start_eq, outer]
  omega

/-- The later argument text, with what is before it, begins what follows from the earlier
parenthesis on. -/
theorem argument_begins (G : Gap P Q) : G.outer ++ q.argument.toList <+: '(' :: P.rest := by
  rw [G.text]
  exact (List.prefix_append_right_inj _).mpr Q.isArgument.begins

theorem stop_eq (G : Gap P Q) :
    Q.stop = P.start + Text.byteLength (G.outer ++ q.argument.toList) := by
  rw [Place.stop, G.start_eq, Text.byteLength_append, Nat.add_assoc]

/-- A call inside a closed one is closed before it. -/
theorem closed_inside (G : Gap P Q) (h : IsSpan '(' ')' ('(' :: P.rest) p.argument.toList)
    (hBegins : G.outer <+: p.argument.toList) (hInside : G.outer ≠ p.argument.toList) :
    IsSpan '(' ')' ('(' :: Q.rest) q.argument.toList ∧ Q.stop < P.stop := by
  rw [G.text] at h
  obtain ⟨inner, hInner, hWithin, hNe⟩ :=
    h.inner (by decide) (List.cons_ne_nil '(' _) hBegins hInside
  have hSame : inner = q.argument.toList := by
    rcases Q.isArgument with hSpan | ⟨hOpen, _⟩
    · exact hInner.unique hSpan
    · exact absurd hOpen hInner.not_neverCloses
  rw [hSame] at hInner hWithin hNe
  refine ⟨hInner, ?_⟩
  rw [G.stop_eq, Place.stop]
  exact Nat.add_lt_add_left (Text.byteLength_lt_of_prefix hWithin hNe) P.start

/-- Two argument texts are apart, or the later one is inside the earlier one. -/
theorem apart_or_inside (G : Gap P Q) :
    P.stop ≤ Q.start ∨ P.start < Q.start ∧ Q.stop ≤ P.stop := by
  rcases P.isArgument with hSpan | ⟨_, hAll⟩
  · rcases List.prefix_or_prefix_of_prefix hSpan.begins G.outer_begins with hShorter | hLonger
    · refine .inl ?_
      rw [G.start_eq, Place.stop]
      exact Nat.add_le_add_left (Text.byteLength_le_of_prefix hShorter) P.start
    · by_cases hSame : G.outer = p.argument.toList
      · exact .inl (by rw [G.start_eq, Place.stop, hSame])
      · exact .inr ⟨G.start_lt, (G.closed_inside hSpan hLonger hSame).2.le⟩
  · refine .inr ⟨G.start_lt, ?_⟩
    rw [G.stop_eq, Place.stop, hAll]
    exact Nat.add_le_add_left (Text.byteLength_le_of_prefix G.argument_begins) P.start

/-- A call that starts inside a closed one has its parenthesis in there too, since a closed
argument text ends with a parenthesis that no name of a call holds. -/
theorem outer_inside (G : Gap P Q) (h : IsSpan '(' ')' ('(' :: P.rest) p.argument.toList)
    (hStarts : q.offset < P.stop) :
    G.outer <+: p.argument.toList ∧ G.outer ≠ p.argument.toList := by
  have hOffset : q.offset = P.start + Text.byteLength ('(' :: G.inner) := by
    rw [Q.offset, G.before, ← List.append_assoc, Text.byteLength_append _ ('(' :: G.inner)]
    rfl
  have hFront : '(' :: G.inner <+: G.outer := List.prefix_append ('(' :: G.inner) Q.name
  have hFrontLess : Text.byteLength ('(' :: G.inner) < Text.byteLength p.argument.toList := by
    rw [hOffset, Place.stop] at hStarts
    omega
  by_contra hOutside
  have hAll : p.argument.toList <+: G.outer := by
    rcases List.prefix_or_prefix_of_prefix h.begins G.outer_begins with hShorter | hLonger
    · exact hShorter
    · by_cases hSame : G.outer = p.argument.toList
      · exact hSame ▸ List.prefix_rfl
      · exact absurd ⟨hLonger, hSame⟩ hOutside
  obtain ⟨cut, hCut⟩ := Text.prefix_of_byteLength_le hFront hAll hFrontLess.le
  have hName : cut <+: Q.name := by
    rw [← hCut, outer, ← List.cons_append] at hAll
    exact (List.prefix_append_right_inj _).mp hAll
  have hSome : cut ≠ [] := by
    rintro rfl
    rw [← hCut, List.append_nil] at hFrontLess
    exact absurd hFrontLess (Nat.lt_irrefl _)
  have hLast : cut.getLast? = some ')' := by
    rw [← h.getLast? (by decide), ← hCut, List.getLast?_append_of_ne_nil _ hSome]
  exact Q.closer_notMem (hName.subset (List.mem_of_getLast? hLast))

/-- An argument text whose bytes are inside those of another one occurs in it. -/
theorem argument_infix (G : Gap P Q) (hInside : Q.stop ≤ P.stop) :
    q.argument.toList <:+: p.argument.toList := by
  have hLength : Text.byteLength (G.outer ++ q.argument.toList) ≤
      Text.byteLength p.argument.toList := by
    rw [G.stop_eq, Place.stop] at hInside
    omega
  exact (List.suffix_append G.outer _).isInfix.trans
    (Text.prefix_of_byteLength_le G.argument_begins P.isArgument.begins hLength).isInfix

end Gap

end Place

end LockTriage.RawCall

namespace LockTriage.Classifier

open RawCall (Site Extent Place)

/-- What no marker covers has no covered text in it. -/
theorem isAllowlisted_of_infix {markers : List String} {inner outer : String}
    (hInside : inner.toList <:+: outer.toList) (h : isAllowlisted markers outer = false) :
    isAllowlisted markers inner = false := by
  simp only [isAllowlisted, List.any_eq_false, Text.contains_iff] at h ⊢
  exact fun m hm hInner => h m hm (hInner.trans hInside)

/-- Whatever is listed, is listed on the path that lists all unvetted calls. -/
theorem unvettedCalls_of_mem {c : Classifier} {source : String} {site : Site}
    (h : site ∈ (c.assess source).unvettedCalls) :
    (c.assess source).unvettedCalls = c.unvetted source := by
  refine unvettedCalls_eq c source (Bool.eq_false_iff.mpr fun hEarly => ?_)
  rw [assess, if_pos hEarly] at h
  cases h

theorem mem_unvettedCalls_of_infix {c : Classifier} {source : String} {p q : Site}
    (hQ : q ∈ RawCall.sites source) (hInside : q.argument.toList <:+: p.argument.toList)
    (h : p ∈ (c.assess source).unvettedCalls) : q ∈ (c.assess source).unvettedCalls := by
  have hLists := unvettedCalls_of_mem h
  rw [hLists] at h ⊢
  rw [unvetted, List.mem_filter, Bool.not_eq_true'] at h ⊢
  exact ⟨hQ, isAllowlisted_of_infix hInside h.2⟩

/-- Of two calls the later one has its argument text behind that of the earlier one or inside
it. In a closed call a call that starts there is closed too, before the outer one. No marker
covers a call inside a call that none covers, so whatever is nested in a listed call is listed
as well. -/
theorem sites_nest (source : String) (p q : Site) (hP : p ∈ RawCall.sites source)
    (hQ : q ∈ RawCall.sites source) (hOrder : p.offset < q.offset) :
    ∃ start stop start' stop',
      (∀ a b, Extent source.toList p a b ↔ a = start ∧ b = stop) ∧
      (∀ a b, Extent source.toList q a b ↔ a = start' ∧ b = stop') ∧
      Text.between? start stop source.toList = some p.argument.toList ∧
      Text.between? start' stop' source.toList = some q.argument.toList ∧
      (stop ≤ start' ∨ start < start' ∧ stop' ≤ stop) ∧
      (Balanced.span '(' ')' source.toList start = .ok p.argument.toList → q.offset < stop →
        Balanced.span '(' ')' source.toList start' = .ok q.argument.toList ∧
          start < start' ∧ stop' < stop) ∧
      (start ≤ start' → stop' ≤ stop →
        (∀ markers, isAllowlisted markers p.argument = false →
          isAllowlisted markers q.argument = false) ∧
        ∀ c : Classifier, p ∈ (c.assess source).unvettedCalls →
          q ∈ (c.assess source).unvettedCalls) := by
  obtain ⟨P⟩ := RawCall.exists_place hP
  obtain ⟨Q⟩ := RawCall.exists_place hQ
  obtain ⟨G⟩ := P.exists_gap Q hOrder
  refine ⟨P.start, P.stop, Q.start, Q.stop, fun a b => P.extent_iff, fun a b => Q.extent_iff,
    P.between?_start, Q.between?_start, G.apart_or_inside, fun hClosed hStarts => ?_,
    fun _ hInside => ?_⟩
  · rw [P.span_eq_ok_iff] at hClosed
    obtain ⟨hBegins, hNe⟩ := G.outer_inside hClosed hStarts
    obtain ⟨hSpan, hStop⟩ := G.closed_inside hClosed hBegins hNe
    exact ⟨Q.span_eq_ok_iff.mpr hSpan, G.start_lt, hStop⟩
  · have hInfix := G.argument_infix hInside
    exact ⟨fun markers hNone => isAllowlisted_of_infix hInfix hNone,
      fun c hListed => mem_unvettedCalls_of_infix hQ hInfix hListed⟩

/-- A closed call with another one in its arguments, neither of them covered. -/
theorem sites_nest_listed :
    let before := "@nonreentrant(\"k\")\n@nonreentrant(\"k\")\n"
    let source := before ++ "raw_call(a, raw_call (b), c)"
    let outer : Site := ⟨38, "(a, raw_call (b), c)"⟩
    let inner : Site := ⟨50, "(b)"⟩
    outer ∈ RawCall.sites source ∧ inner ∈ RawCall.sites source ∧ outer.offset < inner.offset ∧
      Extent source.toList outer 46 66 ∧ Extent source.toList inner 59 62 ∧
      Balanced.span '(' ')' source.toList 59 = .ok inner.argument.toList ∧
      inner ∈ (builtIn.assess source).unvettedCalls := by
  intro before source outer inner
  have hOuter : outer ∈ RawCall.sites source := by decide +kernel
  have hInner : inner ∈ RawCall.sites source := by decide +kernel
  have hListed : outer ∈ (builtIn.assess source).unvettedCalls := by decide +kernel
  have hExtent : Extent source.toList outer 46 66 :=
    ⟨before.toList, outer.argument.toList, ⟨[], by simp, by decide +kernel, by decide +kernel⟩,
      by decide +kernel, by decide +kernel, by decide +kernel⟩
  have hExtent' : Extent source.toList inner 59 62 :=
    ⟨(before ++ "raw_call(a, ").toList, "(b), c)".toList,
      ⟨[' '], List.forall_mem_singleton.mpr (by decide), by decide +kernel, by decide +kernel⟩,
      by decide +kernel, by decide +kernel, by decide +kernel⟩
  obtain ⟨start, stop, start', stop', hBounds, hBounds', _, _, _, hClosed, hNested⟩ :=
    sites_nest source outer inner hOuter hInner (by decide)
  obtain ⟨rfl, rfl⟩ := (hBounds 46 66).mp hExtent
  obtain ⟨rfl, rfl⟩ := (hBounds' 59 62).mp hExtent'
  exact ⟨hOuter, hInner, by decide, hExtent, hExtent', (hClosed (by decide +kernel) (by decide)).1,
    (hNested (by decide) (by decide)).2 builtIn hListed⟩

end LockTriage.Classifier
