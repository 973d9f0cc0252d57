import LockTriage.Cache.Artifact
import Mathlib.Algebra.Group.Nat.Defs
import Mathlib.Data.List.Basic

/-!
What an artifact file says. Reading finds an artifact exactly in the bytes that
hold its two texts behind their sizes, so a part of a written artifact says
nothing, and more bytes behind it change nothing.
-/

namespace LockTriage

namespace Bytes

/-- Bytes are read as a text if they are its encoding. -/
theorem text?_eq_some_iff {b : Bytes} {s : String} : text? b = some s ↔ b = ofText s := by
  constructor
  · intro h
    unfold text? String.fromUTF8? at h
    split at h
    · cases h
      rfl
    · cases h
  · rintro rfl
    exact text?_ofText s

@[simp] theorem length_ofText (s : String) : (ofText s).length = s.utf8ByteSize := rfl

end Bytes

namespace Artifact

@[simp] theorem length_littleEndian (count n : Nat) : (littleEndian count n).length = count := by
  induction count generalizing n with
  | zero => rfl
  | succ count ih => simp [littleEndian, ih]

/-- A number that fits is read back from its bytes. -/
theorem ofLittleEndian_littleEndian {count n : Nat} (h : n < 256 ^ count) :
    ofLittleEndian (littleEndian count n) = n := by
  induction count generalizing n with
  | zero =>
      rw [Nat.pow_zero, Nat.lt_one_iff] at h
      subst h
      rfl
  | succ count ih =>
      have hDiv : n / 256 < 256 ^ count := by
        rw [Nat.pow_succ] at h
        omega
      have hLow : (UInt8.ofNat n).toNat = n % 256 := UInt8.toNat_ofNat'
      rw [littleEndian, ofLittleEndian, ih hDiv, hLow]
      exact Nat.mod_add_div n 256

/-- The bytes hold a text behind the number of its bytes, and then the rest. -/
def Framed (b : Bytes) (s : String) (rest : Bytes) : Prop :=
  ∃ size : Bytes, size.length = 8 ∧ ofLittleEndian size = s.utf8ByteSize ∧
    b = size ++ (Bytes.ofText s ++ rest)

/-- A text is taken off the front of bytes exactly when it is framed there. -/
theorem unframe?_eq_some_iff {b : Bytes} {s : String} {rest : Bytes} :
    unframe? b = some (s, rest) ↔ Framed b s rest := by
  constructor
  · intro h
    unfold unframe? at h
    dsimp only at h
    split at h
    · cases h
    · rename_i hLong
      simp only [Bool.or_eq_true, decide_eq_true_eq, not_or, Nat.not_lt] at hLong
      obtain ⟨text, hText, hPair⟩ := Option.map_eq_some_iff.mp h
      cases hPair
      have hBody := Bytes.text?_eq_some_iff.mp hText
      have hSize : ofLittleEndian (b.take 8) = s.utf8ByteSize := by
        rw [← Bytes.length_ofText, ← hBody, List.length_take, Nat.min_eq_left hLong.2]
      refine ⟨b.take 8, by rw [List.length_take, Nat.min_eq_left hLong.1], hSize, ?_⟩
      rw [← hBody, List.take_append_drop, List.take_append_drop]
  · rintro ⟨size, hLength, hSize, rfl⟩
    have hTake : (size ++ (Bytes.ofText s ++ rest)).take 8 = size := by
      rw [← hLength, List.take_left]
    have hDrop : (size ++ (Bytes.ofText s ++ rest)).drop 8 = Bytes.ofText s ++ rest := by
      rw [← hLength, List.drop_left]
    have hBody : (Bytes.ofText s ++ rest).take s.utf8ByteSize = Bytes.ofText s :=
      List.take_left' (Bytes.length_ofText s)
    have hRest : (Bytes.ofText s ++ rest).drop s.utf8ByteSize = rest :=
      List.drop_left' (Bytes.length_ofText s)
    unfold unframe?
    simp [hTake, hDrop, hSize, hLength, hBody, hRest]

/-- The bytes hold the key and the body of an artifact, each framed, one after
the other. Anything may follow. -/
def Holds (b : Bytes) (a : Artifact) : Prop :=
  ∃ middle rest, Framed b a.key middle ∧ Framed middle a.body rest

/-- Reading finds an artifact exactly where the bytes hold it. -/
theorem decode?_eq_some_iff {b : Bytes} {a : Artifact} : decode? b = some a ↔ Holds b a := by
  unfold decode? Holds
  constructor
  · intro h
    obtain ⟨⟨key, middle⟩, hKey, h⟩ := Option.bind_eq_some_iff.mp h
    obtain ⟨⟨body, rest⟩, hBody, h⟩ := Option.bind_eq_some_iff.mp h
    cases h
    exact ⟨middle, rest, unframe?_eq_some_iff.mp hKey, unframe?_eq_some_iff.mp hBody⟩
  · rintro ⟨middle, rest, hKey, hBody⟩
    simp [unframe?_eq_some_iff.mpr hKey, unframe?_eq_some_iff.mpr hBody]

/-- A framed text is still framed with more bytes behind. -/
theorem Framed.append {b : Bytes} {s : String} {rest : Bytes} (h : Framed b s rest)
    (more : Bytes) : Framed (b ++ more) s (rest ++ more) := by
  obtain ⟨size, hLength, hSize, rfl⟩ := h
  exact ⟨size, hLength, hSize, by simp⟩

/-- The length of framed bytes is eight for the count, that of the text and that of the rest. -/
theorem Framed.length {b : Bytes} {s : String} {rest : Bytes} (h : Framed b s rest) :
    b.length = 8 + s.utf8ByteSize + rest.length := by
  obtain ⟨size, hLength, _, rfl⟩ := h
  simp only [List.length_append, hLength, Bytes.length_ofText]
  omega

/-- Bytes that hold an artifact still hold it with more bytes behind. -/
theorem Holds.append {b : Bytes} {a : Artifact} (h : Holds b a) (more : Bytes) :
    Holds (b ++ more) a := by
  obtain ⟨middle, rest, hKey, hBody⟩ := h
  exact ⟨middle ++ more, rest ++ more, hKey.append more, hBody.append more⟩

/-- Bytes hold one artifact at most. -/
theorem Holds.unique {b : Bytes} {first second : Artifact} (hFirst : Holds b first)
    (hSecond : Holds b second) : first = second := by
  rw [← decode?_eq_some_iff] at hFirst hSecond
  exact Option.some.inj (hFirst.symm.trans hSecond)

/-- Number of bytes of a written artifact. -/
def size (a : Artifact) : Nat := 16 + a.key.utf8ByteSize + a.body.utf8ByteSize

theorem Holds.size_le {b : Bytes} {a : Artifact} (h : Holds b a) : a.size ≤ b.length := by
  obtain ⟨middle, rest, hKey, hBody⟩ := h
  rw [hKey.length, hBody.length, size]
  omega

@[simp] theorem length_encode (a : Artifact) : a.encode.length = a.size := by
  simp only [encode, frame, List.length_append, length_littleEndian, Bytes.length_ofText, size]
  omega

/-- The sizes of the two texts can be written in eight bytes, as those of all
texts in memory can. -/
def Fits (a : Artifact) : Prop :=
  a.key.utf8ByteSize < 2 ^ 64 ∧ a.body.utf8ByteSize < 2 ^ 64

/-- A text whose length fits in eight bytes is framed by its frame. -/
theorem framed_frame {s : String} (h : s.utf8ByteSize < 2 ^ 64) (rest : Bytes) :
    Framed (frame s ++ rest) s rest := by
  refine ⟨littleEndian 8 s.utf8ByteSize, length_littleEndian _ _, ?_, by simp [frame]⟩
  exact ofLittleEndian_littleEndian (Nat.lt_of_lt_of_eq h (by decide))

instance (a : Artifact) : Decidable a.Fits := inferInstanceAs (Decidable (_ ∧ _))

/-- An artifact that fits is held by its encoding. -/
theorem Fits.holds_encode {a : Artifact} (h : a.Fits) : Holds a.encode a := by
  refine ⟨frame a.body, [], framed_frame h.1 _, ?_⟩
  simpa using framed_frame h.2 []

/-- A part of a written artifact holds none. -/
theorem Fits.decode?_take {a : Artifact} (h : a.Fits) {count : Nat} (hPart : count < a.size) :
    decode? (a.encode.take count) = none := by
  cases hDecode : decode? (a.encode.take count) with
  | none => rfl
  | some found =>
      -- What a part holds the whole holds too, but the whole holds only `a`.
      have hFound := decode?_eq_some_iff.mp hDecode
      have hWhole := hFound.append (a.encode.drop count)
      rw [List.take_append_drop] at hWhole
      have hSame : found = a := hWhole.unique h.holds_encode
      have hSize := hFound.size_le
      rw [hSame, List.length_take] at hSize
      omega

end Artifact

end LockTriage
