import LockTriage.Proofs.Result
import LockTriage.Proofs.Scan.Fetch
import LockTriage.Proofs.Text.Split
import LockTriage.Proofs.Text.Trim

/-!
Which answers have a source in them. The form of such an answer is said here without the reader:
an object whose result is a list that begins with an object with two texts. The reader accepts
these answers and no other, and what it gives depends on the two texts alone.
-/

namespace LockTriage

theorem Json.get?_eq_some_iff {document value : Json} {name : String} :
    document.get? name = some value ↔
      ∃ members, document = .object members ∧ members.lookup name = some value := by
  cases document <;> simp [get?]

theorem Json.text?_eq_some_iff {document : Json} {text : String} :
    document.text? = some text ↔ document = .text text := by
  cases document <;> simp [text?]

namespace VerifiedSource

variable {response first : Json} {name source version text : String} {found : VerifiedSource}

/-- The answer has the two texts in its place for them. What else it has does not matter. -/
inductive Gives (source version : String) : Json → Prop where
  | intro {members entry : List (String × Json)} {others : List Json}
      (hResult : members.lookup "result" = some (.list (.object entry :: others)))
      (hSource : entry.lookup "SourceCode" = some (.text source))
      (hVersion : entry.lookup "CompilerVersion" = some (.text version)) :
      Gives source version (.object members)

/-- The version is what stands behind the last colon of the compound one, or all of it, less the
white space around it. -/
def IsBare (compound version : String) : Prop :=
  ∃ tail, ':' ∉ tail ∧
    (compound.toList = tail ∨ ∃ front, compound.toList = front ++ ':' :: tail) ∧
    Text.Strips Text.isBlank tail version.toList

/-- The message of the explorer; it is empty if the answer has no text for it. -/
def IsMessage (response : Json) (message : String) : Prop :=
  response.get? "message" = some (.text message) ∨
    (∀ text, response.get? "message" ≠ some (.text text)) ∧ message = ""

/-! ### The parts -/

/-- The bare version of a compound one is the part it is said to be. -/
theorem bareVersion_eq_iff {compound : String} :
    bareVersion compound = version ↔ IsBare compound version := by
  have hList : bareVersion compound = version ↔
      Text.trim (Text.afterLast ':' compound.toList) = version.toList := by
    rw [bareVersion, ← String.toList_inj, String.toList_ofList]
  rw [hList]
  constructor
  · intro h
    obtain ⟨hColon, hTail⟩ := Text.afterLast_eq_iff.mp (Eq.refl (Text.afterLast ':' compound.toList))
    exact ⟨_, hColon, hTail, Text.trimWhere_eq_iff.mp h⟩
  · rintro ⟨tail, hColon, hTail, hStrips⟩
    rw [Text.afterLast_eq_iff.mpr ⟨hColon, hTail⟩]
    exact Text.trimWhere_eq_iff.mpr hStrips

theorem IsBare.noColon {compound : String} (h : IsBare compound version) :
    ':' ∉ version.toList := by
  obtain ⟨tail, hColon, -, left, right, rfl, -⟩ := h
  simp only [List.mem_append, not_or] at hColon
  exact hColon.1.2

/-- A field is read if it is there as a text. -/
theorem field_eq_ok_iff : field first name = .ok text ↔ first.get? name = some (.text text) := by
  have hText : (first.get? name).bind Json.text? = some text ↔
      first.get? name = some (.text text) := by
    simp [Option.bind_eq_some_iff, Json.text?_eq_some_iff]
  rw [← hText, field]
  cases (first.get? name).bind Json.text? <;> simp

/-- The first result is read if the response has a list of results with a first one. -/
theorem firstResult_eq_ok_iff :
    firstResult response = .ok first ↔
      ∃ others, response.get? "result" = some (.list (first :: others)) := by
  unfold firstResult
  split <;> simp_all

/-- An error that the explorer reports as a text. -/
theorem firstResult_of_text {result : String}
    (h : response.get? "result" = some (.text result)) :
    ∃ message, IsMessage response message ∧
      firstResult response = .error (.refused message result) := by
  refine ⟨((response.get? "message").bind Json.text?).getD "", ?_, by rw [firstResult, h]⟩
  cases hMessage : (response.get? "message").bind Json.text? with
  | some message =>
      obtain ⟨value, hValue, hText⟩ := Option.bind_eq_some_iff.mp hMessage
      rw [Json.text?_eq_some_iff.mp hText] at hValue
      exact .inl hValue
  | none =>
      refine .inr ⟨fun text hText => ?_, rfl⟩
      rw [hText] at hMessage
      cases hMessage

/-! ### The whole answer -/

/-- A response gives a source if its first result has both texts. -/
theorem gives_iff :
    Gives source version response ↔
      ∃ first, (∃ others, response.get? "result" = some (.list (first :: others))) ∧
        first.get? "SourceCode" = some (.text source) ∧
        first.get? "CompilerVersion" = some (.text version) := by
  constructor
  · rintro ⟨hResult, hSource, hVersion⟩
    exact ⟨_, ⟨_, hResult⟩, hSource, hVersion⟩
  · rintro ⟨first, ⟨others, hResult⟩, hSource, hVersion⟩
    obtain ⟨members, rfl, hMember⟩ := Json.get?_eq_some_iff.mp hResult
    obtain ⟨entry, rfl, hText⟩ := Json.get?_eq_some_iff.mp hSource
    exact .intro hMember hText hVersion

/-- An answer is accepted if it has the form, and its texts are what is read. -/
theorem ofResponse_eq_ok_iff :
    ofResponse response = .ok found ↔
      ∃ version, Gives found.source version response ∧
        found = ⟨found.source, bareVersion version, response⟩ := by
  simp only [ofResponse, bind_eq_ok_iff, firstResult_eq_ok_iff, field_eq_ok_iff, gives_iff]
  constructor
  · rintro ⟨first, hResult, source, hSource, version, hVersion, hFound⟩
    cases hFound
    exact ⟨version, ⟨first, hResult, hSource, hVersion⟩, rfl⟩
  · rintro ⟨version, ⟨first, hResult, hSource, hVersion⟩, hFound⟩
    exact ⟨first, hResult, found.source, hSource, version, hVersion, congrArg _ hFound.symm⟩

/-- A response with a source gives it. -/
theorem gives_of_ofResponse (h : ofResponse response = .ok found) :
    ∃ source version, Gives source version response := by
  obtain ⟨version, hGives, -⟩ := ofResponse_eq_ok_iff.mp h
  exact ⟨found.source, version, hGives⟩

end VerifiedSource

namespace Scan

open VerifiedSource

variable {network : Network} {address : String} {response : Json} {found : VerifiedSource}

/-- What a response gives is taken, with the bare version. -/
theorem sourceOf_of_gives (network : Network) (address : String) {source version : String}
    (h : Gives source version response) :
    sourceOf network address response = .ok ⟨source, bareVersion version, response⟩ :=
  sourceOf_eq_ok_iff.mpr (ofResponse_eq_ok_iff.mpr ⟨version, h, rfl⟩)

/-- Every refusal says which contract was asked for. -/
theorem sourceOf_of_not_gives (network : Network) (address : String)
    (h : ¬ ∃ source version, Gives source version response) :
    ∃ what, sourceOf network address response = .error (.malformed network address what) := by
  cases hRead : ofResponse response with
  | error what => exact ⟨what, by rw [sourceOf, hRead, Except.mapError]⟩
  | ok found => exact absurd (gives_of_ofResponse hRead) h

/-- A response with a text for its result is refused, for its message and this text. -/
theorem sourceOf_of_text (network : Network) (address : String) {result : String}
    (h : response.get? "result" = some (.text result)) :
    ∃ message what, IsMessage response message ∧
      sourceOf network address response = .error (.malformed network address what) ∧
      Text.Strips Text.isBlank (message ++ " " ++ result).toList what.reason.toList := by
  obtain ⟨message, hMessage, hFirst⟩ := firstResult_of_text h
  refine ⟨message, .refused message result, hMessage, ?_, ?_⟩
  · rw [sourceOf, ofResponse, hFirst]
    rfl
  · rw [Malformation.reason, Text.trimmed, String.toList_ofList]
    exact Text.strips_trimWhere _ _

/-- The answers that are accepted are exactly those of the form, with the source as it stands
there and the bare version, and the answer is kept with them, so that it can be read again. All
others are refused for the contract that was asked for, and a text in place of the results is
reported behind the explorer's message. -/
theorem sourceOf_accepts_exactly (network : Network) (address : String) (response : Json) :
    ((∃ found, sourceOf network address response = .ok found) ↔
      ∃ source version, Gives source version response) ∧
    (∀ source version, Gives source version response →
      ∃ bare, IsBare version bare ∧ ':' ∉ bare.toList ∧
        ∀ found, sourceOf network address response = .ok found ↔
          found = ⟨source, bare, response⟩) ∧
    (∀ found, sourceOf network address response = .ok found →
      sourceOf network address found.response = .ok found) ∧
    (∀ source version other found found', Gives source version response →
      Gives source version other → sourceOf network address response = .ok found →
      sourceOf network address other = .ok found' →
      found'.source = found.source ∧ found'.compilerVersion = found.compilerVersion) ∧
    ((¬ ∃ source version, Gives source version response) →
      ∃ what, sourceOf network address response = .error (.malformed network address what)) ∧
    ∀ result, response.get? "result" = some (.text result) →
      ∃ message what, IsMessage response message ∧
        sourceOf network address response = .error (.malformed network address what) ∧
        Text.Strips Text.isBlank (message ++ " " ++ result).toList what.reason.toList := by
  refine ⟨⟨?form, ?accepted⟩, ?texts, ?again, ?same, sourceOf_of_not_gives network address,
    fun result => sourceOf_of_text network address⟩
  case form =>
    rintro ⟨found, hFound⟩
    exact gives_of_ofResponse (sourceOf_eq_ok_iff.mp hFound)
  case accepted =>
    rintro ⟨source, version, hGives⟩
    exact ⟨_, sourceOf_of_gives network address hGives⟩
  case texts =>
    intro source version hGives
    have hBare : IsBare version (bareVersion version) := bareVersion_eq_iff.mp rfl
    refine ⟨bareVersion version, hBare, hBare.noColon, fun found => ?_⟩
    rw [sourceOf_of_gives network address hGives, Except.ok.injEq, eq_comm]
  case again =>
    intro found hFound
    obtain ⟨version, -, hParts⟩ := ofResponse_eq_ok_iff.mp (sourceOf_eq_ok_iff.mp hFound)
    rw [hParts] at hFound ⊢
    exact hFound
  case same =>
    intro source version other found found' hGives hOther hFound hFound'
    rw [sourceOf_of_gives network address hGives] at hFound
    rw [sourceOf_of_gives network address hOther] at hFound'
    cases hFound
    cases hFound'
    exact ⟨rfl, rfl⟩

end Scan

end LockTriage
