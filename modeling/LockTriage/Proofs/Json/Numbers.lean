import LockTriage.Json.Token
import Mathlib.Data.List.Basic
import Mathlib.Data.String.Basic
import Mathlib.Tactic.Push
import Mathlib.Tactic.Ring

/-!
Numbers as they are written. A whole number reads back from its digits, and a
decimal that reading has given reads back from its text, wherever the point
stands in it and whether or not it has an exponent.
-/

namespace LockTriage

/-- The whole number fits in 64 bits, signed or unsigned. -/
def Json.InRange (n : Int) : Prop := JsonNumber.leastWhole ≤ n ∧ n ≤ JsonNumber.greatestWhole

namespace JsonNumber

/-! ### Trailing zeros -/

theorem dropZeros_zero (e : Int) : dropZeros e 0 = (0, e) := by
  rw [dropZeros]
  simp

/-- Zeros behind the digits count as a greater exponent. -/
theorem dropZeros_mul_pow {n : Nat} (hn : n ≠ 0) (k : Nat) (e : Int) :
    dropZeros e (n * 10 ^ k) = dropZeros (e + k) n := by
  induction k generalizing e with
  | zero => simp
  | succ k ih =>
      have hStep : n * 10 ^ (k + 1) = n * 10 ^ k * 10 := by rw [Nat.pow_succ, Nat.mul_assoc]
      have hPos : n * 10 ^ k * 10 ≠ 0 :=
        Nat.mul_ne_zero (Nat.mul_ne_zero hn (Nat.pow_pos (by decide)).ne') (by decide)
      rw [hStep, dropZeros, dif_pos ⟨hPos, Nat.mul_mod_left _ _⟩,
        Nat.mul_div_cancel _ (by decide), ih]
      congr 1
      push_cast
      ring

/-- Zeros are dropped at once. -/
theorem dropZeros_dropZeros (e : Int) (n : Nat) :
    dropZeros (dropZeros e n).2 (dropZeros e n).1 = dropZeros e n := by
  fun_induction dropZeros e n with
  | case1 e n h ih => exact ih
  | case2 e n h => rw [dropZeros, dif_neg h]

theorem ofDecimal?_zero (negative : Bool) (e : Int) :
    ofDecimal? negative 0 e = some (.decimal ⟨negative, 0, 0⟩) := by
  simp [ofDecimal?, dropZeros_zero]

/-- Zeros behind the digits do not matter to the number. -/
theorem ofDecimal?_mul_pow (negative : Bool) (n k : Nat) (e : Int) :
    ofDecimal? negative (n * 10 ^ k) e = ofDecimal? negative n (e + k) := by
  by_cases hn : n = 0
  · rw [hn, Nat.zero_mul, ofDecimal?_zero, ofDecimal?_zero]
  · unfold ofDecimal?
    rw [dropZeros_mul_pow hn]

/-! ### Numbers that reading gives -/

/-- The number is kept as it is: a whole number that fits, or a decimal that its
own digits and exponent stand for. -/
inductive Steady : JsonNumber → Prop where
  | whole {n : Int} (h : Json.InRange n) : Steady (.whole n)
  | decimal {d : Decimal} (h : ofDecimal? d.negative d.digits d.exponent = some (.decimal d)) :
      Steady (.decimal d)

/-- A number that was read from decimal digits is read again as it is. -/
theorem steady_of_ofDecimal? {negative : Bool} {n : Nat} {e : Int} {v : JsonNumber}
    (h : ofDecimal? negative n e = some v) : Steady v := by
  have hZero : Steady (.decimal ⟨negative, 0, 0⟩) := .decimal (ofDecimal?_zero negative 0)
  have hSame : ofDecimal? negative (dropZeros e n).1 (dropZeros e n).2 = some v := by
    rw [← h]
    unfold ofDecimal?
    rw [dropZeros_dropZeros]
  -- What is given is zero, or has the digits and exponent that were left.
  have hCases : v = .decimal ⟨negative, 0, 0⟩ ∨
      v = .decimal ⟨negative, (dropZeros e n).1, (dropZeros e n).2⟩ := by
    unfold ofDecimal? at h
    dsimp only at h
    split_ifs at h
    all_goals cases h
    exacts [.inl rfl, .inr rfl, .inl rfl, .inr rfl]
  rcases hCases with rfl | rfl
  · exact hZero
  · exact .decimal hSame

/-- A whole number that was read is read again as it is. -/
theorem steady_of_ofWhole? {negative : Bool} {n : Nat} {v : JsonNumber}
    (h : ofWhole? negative n = some v) : Steady v := by
  unfold ofWhole? at h
  generalize (if negative then -(n : Int) else n) = value at h
  dsimp only at h
  split at h
  · exact steady_of_ofDecimal? h
  · rename_i hFits
    simp only [Option.some.injEq] at h
    simp only [Bool.or_eq_true, decide_eq_true_eq, not_or, not_lt] at hFits
    exact h ▸ .whole ⟨hFits.1.2, hFits.2⟩

end JsonNumber

namespace Json

/-! ### Where a number ends -/

/-- A character that could go on with a number. -/
def continuesNumber (c : Char) : Bool := c.isDigit || c = '.' || c = 'e' || c = 'E'

/-- The text does not go on with a number. -/
def Ended (rest : List Char) : Prop := ∀ c ∈ rest.head?, continuesNumber c = false

@[simp] theorem ended_nil : Ended [] := by simp [Ended]

@[simp] theorem ended_cons {c : Char} {rest : List Char} :
    Ended (c :: rest) ↔ continuesNumber c = false := by
  simp [Ended]

/-- What follows a number may end in anything if something stands before it. -/
theorem Ended.append {first second : List Char} (hFirst : Ended first) (hSecond : Ended second) :
    Ended (first ++ second) := by
  cases first with
  | nil => exact hSecond
  | cons c first => exact hFirst

/-- The text does not go on with digits. -/
def NoDigit (rest : List Char) : Prop := ∀ c ∈ rest.head?, c.isDigit = false

/-- What ends a number does not begin with a digit. -/
theorem Ended.noDigit {rest : List Char} (h : Ended rest) : NoDigit rest := by
  intro c hc
  have hEnd := h c hc
  simp only [continuesNumber, Bool.or_eq_false_iff] at hEnd
  exact hEnd.1.1.1

section Digits

variable {ds rest : List Char} (hDigits : ∀ d ∈ ds, d.isDigit = true) (hRest : NoDigit rest)
include hDigits hRest

/-- Leading digits are taken up to what follows them. -/
theorem takeWhile_digits : (ds ++ rest).takeWhile Char.isDigit = ds := by
  rw [List.takeWhile_append_of_pos hDigits]
  cases rest with
  | nil => simp
  | cons c rest => simp [hRest c rfl]

theorem dropWhile_digits : (ds ++ rest).dropWhile Char.isDigit = rest := by
  rw [List.dropWhile_append_of_pos hDigits]
  cases rest with
  | nil => rfl
  | cons c rest => simp [hRest c rfl]

/-- Whole digits that do not start with a zero are all read. -/
theorem wholeDigits_append {d : Char} (hd : ds.head? = some d) (hNonzero : d ≠ '0') :
    wholeDigits (ds ++ rest) = ds := by
  have hTake := takeWhile_digits hDigits hRest
  cases ds with
  | nil => cases hd
  | cons first ds =>
      cases hd
      rw [List.cons_append] at hTake ⊢
      rw [wholeDigits.eq_def]
      split
      · simp_all
      · exact hTake

/-- A point and digits are a fraction. -/
theorem lexFraction?_digits (hNonempty : ds ≠ []) :
    lexFraction? ('.' :: (ds ++ rest)) = some (ds, rest) := by
  have hTake := takeWhile_digits hDigits hRest
  have hDrop := dropWhile_digits hDigits hRest
  cases ds with
  | nil => exact absurd rfl hNonempty
  | cons d ds => simp only [lexFraction?, hTake, hDrop]

end Digits

/-- Without a point there is no fraction. -/
theorem lexFraction?_ended {rest : List Char} (h : ∀ c ∈ rest.head?, c ≠ '.') :
    lexFraction? rest = some ([], rest) := by
  unfold lexFraction?
  split
  · simp at h
  · rfl

/-- Where a number ends there is no exponent. -/
theorem lexExponent?_ended {rest : List Char} (hRest : Ended rest) :
    lexExponent? rest = some (none, rest) := by
  cases rest with
  | nil => rfl
  | cons c rest =>
      have hc := ended_cons.mp hRest
      simp only [continuesNumber, Bool.or_eq_false_iff] at hc
      simp [lexExponent?, hc.2, hc.1.2]

/-- What ends a number does not begin with a point. -/
theorem Ended.ne_point {rest : List Char} (h : Ended rest) : ∀ c ∈ rest.head?, c ≠ '.' := by
  intro c hc hPoint
  have hEnd := h c hc
  rw [hPoint] at hEnd
  cases hEnd

/-! ### Digits of a number -/

/-- Numbers are written in digits. -/
theorem isDigit_toDigits (n : Nat) : ∀ d ∈ Nat.toDigits 10 n, d.isDigit = true := fun _ hd =>
  Nat.isDigit_of_mem_toDigits (by decide) (by decide) hd

/-- The digits of a number other than zero do not start with a zero. -/
theorem head?_toDigits {n : Nat} (hn : n ≠ 0) :
    ∃ d, (Nat.toDigits 10 n).head? = some d ∧ d ≠ '0' := by
  induction n using Nat.strongRecOn with
  | ind n ih =>
      by_cases hSmall : n < 10
      · rw [Nat.toDigits_of_lt_base hSmall]
        have hAll : ∀ m < 10, m ≠ 0 → m.digitChar ≠ '0' := by decide
        exact ⟨n.digitChar, rfl, hAll n hSmall hn⟩
      -- Above nine the first digit is that of a tenth of the number.
      · obtain ⟨d, hd, hNonzero⟩ := ih (n / 10) (by omega) (by omega)
        refine ⟨d, ?_, hNonzero⟩
        rw [Nat.toDigits_of_base_le (by decide) (by omega), List.head?_append, hd]
        rfl

/-- The digits of a number are whole digits. -/
theorem wholeDigits_toDigits (n : Nat) {rest : List Char} (hRest : NoDigit rest) :
    wholeDigits (Nat.toDigits 10 n ++ rest) = Nat.toDigits 10 n := by
  by_cases hn : n = 0
  · subst hn
    rfl
  · obtain ⟨d, hd, hNonzero⟩ := head?_toDigits hn
    exact wholeDigits_append (isDigit_toDigits n) hRest hd hNonzero

/-- Digits have the value of the number that they write. -/
theorem digitsValue_toDigits (n : Nat) : digitsValue (Nat.toDigits 10 n) = n :=
  Nat.ofDigitChars_ten_toDigits

/-- Each zero behind the digits multiplies their value by ten. -/
theorem digitsValue_append_zeros (ds : List Char) (k : Nat) :
    digitsValue (ds ++ List.replicate k '0') = digitsValue ds * 10 ^ k := by
  have hValue : Nat.ofDigitChars 10 (ds ++ List.replicate k '0') 0 =
      10 ^ k * Nat.ofDigitChars 10 ds 0 := by
    rw [Nat.ofDigitChars_append, Nat.ofDigitChars_replicate_zero]
  rw [Nat.mul_comm]
  exact hValue

/-- Zeros before the digits do not count. -/
theorem digitsValue_zeros_append (k : Nat) (ds : List Char) :
    digitsValue (List.replicate k '0' ++ ds) = digitsValue ds := by
  have hValue : Nat.ofDigitChars 10 (List.replicate k '0' ++ ds) 0 = Nat.ofDigitChars 10 ds 0 := by
    rw [Nat.ofDigitChars_append, Nat.ofDigitChars_replicate_zero, Nat.mul_zero]
  exact hValue

/-- An exponent is read behind its sign. -/
private theorem lexExponent?_of_sign {text rest : List Char} {negative : Bool} {n : Nat}
    (hSign : exponentSign text = (negative, Nat.toDigits 10 n ++ rest)) (hRest : NoDigit rest) :
    lexExponent? ('e' :: text) = some (some (if negative then -(n : Int) else n), rest) := by
  have hTake := takeWhile_digits (isDigit_toDigits n) hRest
  have hDrop := dropWhile_digits (isDigit_toDigits n) hRest
  have hValue := digitsValue_toDigits n
  rw [lexExponent?, hSign]
  simp only [decide_true, Bool.true_or, if_true, hTake, hDrop]
  split
  · rename_i hNil
    exact absurd hNil Nat.toDigits_ne_nil
  · rw [hValue]

private theorem exponentSign_toDigits (n : Nat) (rest : List Char) :
    exponentSign (Nat.toDigits 10 n ++ rest) = (false, Nat.toDigits 10 n ++ rest) := by
  cases hText : Nat.toDigits 10 n with
  | nil => exact absurd hText Nat.toDigits_ne_nil
  | cons d ds =>
      have hDigit := isDigit_toDigits n d (hText ▸ List.mem_cons_self)
      rw [List.cons_append, exponentSign.eq_def]
      split <;> simp_all

/-- A written exponent reads as the exponent. -/
theorem lexExponent?_toString (e : Int) {rest : List Char} (hRest : NoDigit rest) :
    lexExponent? ('e' :: ((toString e).toList ++ rest)) = some (some e, rest) := by
  rw [Int.toString_eq_repr, Int.repr_eq_if]
  split
  · rename_i hNonneg
    rw [Nat.toList_repr, lexExponent?_of_sign (exponentSign_toDigits e.toNat rest) hRest]
    simp [Int.toNat_of_nonneg hNonneg]
  · rename_i hNegative
    have hValue : -((-e).toNat : Int) = e := by omega
    have hSign : exponentSign ("-".toList ++ Nat.toDigits 10 (-e).toNat ++ rest) =
        (true, Nat.toDigits 10 (-e).toNat ++ rest) := rfl
    rw [String.toList_append, Nat.toList_repr, lexExponent?_of_sign hSign hRest, if_pos rfl, hValue]

/-! ### Numbers without their sign -/

section Parts

variable {negative : Bool} {whole fraction more after rest : List Char} {e : Int}
  (hWhole : wholeDigits (whole ++ more) = whole) (hSome : whole ≠ [])
include hWhole hSome

/-- Digits alone are read as a whole number. -/
theorem lexMagnitude?_whole (hFraction : lexFraction? more = some ([], after))
    (hExponent : lexExponent? after = some (none, rest)) :
    lexMagnitude? negative (whole ++ more) =
      some (JsonNumber.ofWhole? negative (digitsValue whole), rest) := by
  unfold lexMagnitude?
  rw [hWhole]
  cases whole with
  | nil => exact absurd rfl hSome
  | cons d ds => simp [hFraction, hExponent]

/-- Digits around a point are read as a decimal number, each behind the point as one less in the
exponent. -/
theorem lexMagnitude?_fraction (hFraction : lexFraction? more = some (fraction, after))
    (hNonempty : fraction ≠ []) (hExponent : lexExponent? after = some (none, rest)) :
    lexMagnitude? negative (whole ++ more) =
      some (JsonNumber.ofDecimal? negative (digitsValue (whole ++ fraction)) (-fraction.length),
        rest) := by
  unfold lexMagnitude?
  rw [hWhole]
  cases whole with
  | nil => exact absurd rfl hSome
  | cons d ds => simp [hFraction, hExponent, hNonempty]

/-- An exponent counts from the end of the fraction. -/
theorem lexMagnitude?_exponent (hFraction : lexFraction? more = some (fraction, after))
    (hExponent : lexExponent? after = some (some e, rest)) :
    lexMagnitude? negative (whole ++ more) =
      some (JsonNumber.ofDecimal? negative (digitsValue (whole ++ fraction))
        (e - fraction.length), rest) := by
  unfold lexMagnitude?
  rw [hWhole]
  cases whole with
  | nil => exact absurd rfl hSome
  | cons d ds => simp [hFraction, hExponent]

end Parts

/-- Written digits read back as the number that they write. -/
theorem lexMagnitude?_toDigits (negative : Bool) (n : Nat) {rest : List Char}
    (hRest : Ended rest) :
    lexMagnitude? negative (Nat.toDigits 10 n ++ rest) =
      some (JsonNumber.ofWhole? negative n, rest) := by
  have hWhole := wholeDigits_toDigits n hRest.noDigit
  rw [lexMagnitude?_whole hWhole Nat.toDigits_ne_nil (lexFraction?_ended hRest.ne_point)
    (lexExponent?_ended hRest), digitsValue_toDigits]

/-! ### Decimals as they are written -/

/-- The text of a decimal without its sign. -/
def magnitudeText (d : Decimal) : List Char := JsonNumber.decimalText { d with negative := false }

/-- The sign of a decimal number is written before its magnitude. -/
theorem decimalText_eq (d : Decimal) :
    JsonNumber.decimalText d = if d.negative then '-' :: magnitudeText d else magnitudeText d := by
  simp only [magnitudeText, JsonNumber.decimalText, Bool.false_eq_true, if_false]

section Magnitude

variable {negative : Bool} {n : Nat} {e : Int} {rest : List Char}

/-- Behind a point, digits at the end of a text are a fraction. -/
private theorem lexMagnitude?_point {whole fraction : List Char}
    (hWhole : ∀ more, NoDigit more → wholeDigits (whole ++ more) = whole) (hSome : whole ≠ [])
    (hDigits : ∀ d ∈ fraction, d.isDigit = true) (hNonempty : fraction ≠ []) (hRest : Ended rest) :
    lexMagnitude? negative (whole ++ '.' :: (fraction ++ rest)) =
      some (JsonNumber.ofDecimal? negative (digitsValue (whole ++ fraction)) (-fraction.length),
        rest) :=
  lexMagnitude?_fraction (hWhole _ (by simp [NoDigit])) hSome
    (lexFraction?_digits hDigits hRest.noDigit hNonempty) hNonempty (lexExponent?_ended hRest)

private theorem isDigit_zeros {k : Nat} : ∀ d ∈ List.replicate k '0', d.isDigit = true := by
  intro d hd
  rw [(List.mem_replicate.mp hd).2]
  rfl

private theorem wholeDigits_zero (more : List Char) : wholeDigits (['0'] ++ more) = ['0'] := rfl

/-- Digits with a point among or behind them. -/
private theorem lexMagnitude?_among (negative : Bool) (hn : n ≠ 0) {k : Nat} (hk : 0 < k)
    (hLength : ((Nat.toDigits 10 n).length : Int) + e = k) (hShort : k ≤ 16) (hRest : Ended rest) :
    lexMagnitude? negative
        ((Nat.toDigits 10 n ++ List.replicate 16 '0').take k ++ '.' ::
          ((if ((Nat.toDigits 10 n).drop k).isEmpty then ['0'] else (Nat.toDigits 10 n).drop k) ++
            rest)) =
      some (JsonNumber.ofDecimal? negative n e, rest) := by
  have hDigits := isDigit_toDigits n
  have hValue := digitsValue_toDigits n
  obtain ⟨d, hd, hNonzero⟩ := head?_toDigits hn
  generalize Nat.toDigits 10 n = ds at *
  have hWholeDigits : ∀ c ∈ (ds ++ List.replicate 16 '0').take k, c.isDigit = true := by
    intro c hc
    rcases List.mem_append.mp (List.mem_of_mem_take hc) with hOld | hNew
    · exact hDigits c hOld
    · exact isDigit_zeros c hNew
  have hHead : ((ds ++ List.replicate 16 '0').take k).head? = some d := by
    rw [List.head?_take, if_neg (by omega), List.head?_append, hd]
    rfl
  have hWhole (more : List Char) (hMore : NoDigit more) :
      wholeDigits ((ds ++ List.replicate 16 '0').take k ++ more) =
        (ds ++ List.replicate 16 '0').take k := wholeDigits_append hWholeDigits hMore hHead hNonzero
  have hSome : (ds ++ List.replicate 16 '0').take k ≠ [] := by
    intro hNil
    rw [hNil] at hHead
    cases hHead
  by_cases hInside : k < ds.length
  -- The point stands among the digits.
  · have hDrop : ds.drop k ≠ [] := by
      rw [ne_eq, List.drop_eq_nil_iff]
      omega
    have hTake : (ds ++ List.replicate 16 '0').take k = ds.take k :=
      List.take_append_of_le_length hInside.le
    have hFraction : ∀ c ∈ ds.drop k, c.isDigit = true := fun c hc =>
      hDigits c (List.mem_of_mem_drop hc)
    rw [if_neg (by simpa using hDrop), lexMagnitude?_point hWhole hSome hFraction hDrop hRest, hTake,
      List.take_append_drop, hValue, List.length_drop]
    congr 3
    omega
  -- It stands behind them, with zeros for the exponent before it.
  · have hDrop : ds.drop k = [] := List.drop_eq_nil_of_le (by omega)
    have hTake : (ds ++ List.replicate 16 '0').take k = ds ++ List.replicate (k - ds.length) '0' := by
      rw [List.take_append, List.take_of_length_le (by omega), List.take_replicate]
      congr 2
      omega
    have hZeros : ds ++ List.replicate (k - ds.length) '0' ++ ['0'] =
        ds ++ List.replicate (k - ds.length + 1) '0' := by
      rw [List.append_assoc, ← List.replicate_succ']
    have hZero : ∀ d ∈ ['0'], d.isDigit = true := by simp [Char.isDigit]
    rw [hDrop, List.isEmpty_nil, if_pos rfl,
      lexMagnitude?_point hWhole hSome hZero (by simp) hRest, hTake,
      hZeros, digitsValue_append_zeros, hValue, JsonNumber.ofDecimal?_mul_pow]
    congr 3
    simp
    omega

/-- Digits some places behind a point. -/
private theorem lexMagnitude?_behind (negative : Bool) {k : Nat}
    (hLength : ((Nat.toDigits 10 n).length : Int) + e = -k) (hRest : Ended rest) :
    lexMagnitude? negative
        (['0'] ++ '.' :: ((List.replicate k '0' ++ Nat.toDigits 10 n) ++ rest)) =
      some (JsonNumber.ofDecimal? negative n e, rest) := by
  have hDigits : ∀ d ∈ List.replicate k '0' ++ Nat.toDigits 10 n, d.isDigit = true := by
    intro d hd
    rcases List.mem_append.mp hd with hZero | hDigit
    · exact isDigit_zeros d hZero
    · exact isDigit_toDigits n d hDigit
  have hSome : List.replicate k '0' ++ Nat.toDigits 10 n ≠ [] := by
    simp [Nat.toDigits_ne_nil]
  have hValue : digitsValue (['0'] ++ (List.replicate k '0' ++ Nat.toDigits 10 n)) = n := by
    rw [← List.append_assoc, ← List.replicate_one, List.replicate_append_replicate,
      digitsValue_zeros_append, digitsValue_toDigits]
  rw [lexMagnitude?_point (fun more _ => wholeDigits_zero more) (by simp) hDigits hSome hRest, hValue]
  congr 3
  simp only [List.length_append, List.length_replicate]
  omega

/-- One digit, a point before any others, and an exponent. -/
private theorem lexMagnitude?_scientific (negative : Bool) (hn : n ≠ 0) (hRest : Ended rest) :
    lexMagnitude? negative
        ((Nat.toDigits 10 n).take 1 ++
          ((if ((Nat.toDigits 10 n).drop 1).isEmpty then [] else '.' :: (Nat.toDigits 10 n).drop 1) ++
            'e' :: ((toString ((Nat.toDigits 10 n).length + e - 1 : Int)).toList ++ rest))) =
      some (JsonNumber.ofDecimal? negative n e, rest) := by
  have hDigits := isDigit_toDigits n
  have hValue := digitsValue_toDigits n
  obtain ⟨d, hd, hNonzero⟩ := head?_toDigits hn
  generalize Nat.toDigits 10 n = ds at *
  cases ds with
  | nil => cases hd
  | cons first tail =>
      cases hd
      simp only [List.mem_cons, forall_eq_or_imp] at hDigits
      have hWhole (more : List Char) (hMore : NoDigit more) : wholeDigits ([d] ++ more) = [d] :=
        wholeDigits_append (by simpa using hDigits.1) hMore rfl hNonzero
      have hExponent := lexExponent?_toString ((d :: tail).length + e - 1) hRest.noDigit
      simp only [List.take_succ_cons, List.take_zero, List.drop_succ_cons, List.drop_zero]
      cases tail with
      | nil =>
          have hEnded : ∀ c ∈ ('e' :: ((toString (([d] : List Char).length + e - 1 : Int)).toList ++
            rest)).head?, c ≠ '.' := by simp
          have hFraction := lexFraction?_ended hEnded
          rw [List.isEmpty_nil, if_pos rfl, List.nil_append,
            lexMagnitude?_exponent (hWhole _ (by simp [NoDigit])) (by simp) hFraction hExponent,
            List.append_nil, hValue]
          congr 3
          simp
      | cons next tail =>
          have hNoDigit : NoDigit ('e' :: ((toString ((d :: next :: tail).length + e - 1 : Int)).toList ++
            rest)) := by simp [NoDigit]
          have hFraction := lexFraction?_digits hDigits.2 hNoDigit (by simp)
          rw [List.isEmpty_cons, if_neg (by simp)]
          refine (lexMagnitude?_exponent (hWhole _ (by simp [NoDigit])) (by simp) hFraction
            hExponent).trans ?_
          rw [List.singleton_append, hValue]
          congr 3
          simp only [List.length_cons]
          push_cast
          ring

/-- A written decimal reads as its digits and exponent. -/
theorem lexMagnitude?_magnitudeText (negative : Bool) (d : Decimal) (hRest : Ended rest) :
    lexMagnitude? negative (magnitudeText d ++ rest) =
      some (JsonNumber.ofDecimal? negative d.digits d.exponent, rest) := by
  obtain ⟨sign, n, e⟩ := d
  by_cases hn : n = 0
  · subst hn
    have hText : magnitudeText ⟨sign, 0, e⟩ = ['0', '.', '0'] := by
      simp [magnitudeText, JsonNumber.decimalText]
    have hZero := lexMagnitude?_behind negative (n := 0) (e := -1) (k := 0) rfl hRest
    rw [JsonNumber.ofDecimal?_zero] at hZero ⊢
    rw [hText]
    exact hZero
  unfold magnitudeText JsonNumber.decimalText
  simp only [hn, if_false, Bool.false_eq_true]
  split
  · rename_i hAmong
    have hPoint : (((Nat.toDigits 10 n).length : Int) + e).toNat =
      ((Nat.toDigits 10 n).length : Int) + e := Int.toNat_of_nonneg (by omega)
    have hRead := lexMagnitude?_among negative hn (by omega) hPoint.symm (by omega) hRest
    simpa only [List.append_assoc, List.cons_append, List.nil_append] using hRead
  · split
    · have hPoint : ((Nat.toDigits 10 n).length : Int) + e =
        -((-(((Nat.toDigits 10 n).length : Int) + e)).toNat : Int) := by omega
      have hRead := lexMagnitude?_behind negative hPoint hRest
      have hStart : "0.".toList = ['0', '.'] := rfl
      simpa only [hStart, List.append_assoc, List.cons_append, List.nil_append] using hRead
    · have hRead := lexMagnitude?_scientific negative (e := e) hn hRest
      simpa only [List.append_assoc, List.cons_append, List.nil_append] using hRead

/-- A number starts with a digit. -/
theorem exists_digit_of_lexMagnitude? {cs : List Char} {n : Option JsonNumber}
    (h : lexMagnitude? negative cs = some (n, rest)) :
    ∃ d more, cs = d :: more ∧ d.isDigit = true := by
  cases cs with
  | nil => cases h
  | cons d more =>
      refine ⟨d, more, rfl, ?_⟩
      by_contra hDigit
      have hNone : wholeDigits (d :: more) = [] := by
        unfold wholeDigits
        split
        · rename_i hZero
          cases hZero
          exact absurd rfl hDigit
        · simp [hDigit]
      rw [lexMagnitude?, hNone] at h
      cases h

end Magnitude

end Json

end LockTriage
