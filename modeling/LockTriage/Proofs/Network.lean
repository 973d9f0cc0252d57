import LockTriage.Network
import LockTriage.Proofs.Cache.Key
import LockTriage.Text.Lower
import Mathlib.Data.Char

/-!
The names of networks in any case. No character outside ASCII becomes an ASCII letter when it is
lowered, but for the Kelvin sign, which becomes a `k`, and no network has a `k` in its name. So a
text with such a name as its small letters is written in ASCII, and for texts like this it is
enough to lower ASCII letters.
-/

namespace LockTriage

namespace Text

variable {c : Char} {text part lowered : List Char}

private theorem toNat_ofNat {n : Nat} (h : n.isValidChar) : (Char.ofNat n).toNat = n := by
  rw [Char.ofNat, dif_pos h]
  rfl

/-- An ASCII character becomes its small letter. -/
theorem lowerForms_ascii (h : c.toNat < 128) : lowerForms c = [[c.toLower]] := by
  have hAll : ∀ n < 128, lowerForms (Char.ofNat n) = [[(Char.ofNat n).toLower]] := by decide +kernel
  simpa using hAll c.toNat h

/-- Of the capital letters of the table that are not in ASCII, only the Kelvin sign has a small
letter that is. -/
private theorem caseSpans_foreign : ∀ s ∈ caseSpans, s.last < 128 ∨
    (128 ≤ s.small ∧ s.small + (s.last - s.first) < 0xD800) ∨
    (0xDFFF < s.small ∧ s.small + (s.last - s.first) < 0x110000) ∨
    (s.first = s.last ∧ s.small = 'k'.toNat) := by
  decide +kernel

theorem CaseSpan.lowered_foreign {s : CaseSpan} {n : Nat} (hMem : s ∈ caseSpans)
    (hCovers : s.covers n = true) (h : 128 ≤ n) : 128 ≤ (s.lowered n).toNat ∨ s.lowered n = 'k' := by
  simp only [covers, Bool.and_eq_true, decide_eq_true_eq] at hCovers
  obtain ⟨⟨hFirst, hLast⟩, -⟩ := hCovers
  rw [CaseSpan.lowered]
  rcases caseSpans_foreign s hMem with hAscii | hLow | hHigh | ⟨hOne, hKelvin⟩
  · omega
  · rw [toNat_ofNat (.inl (by omega))]
    exact .inl (by omega)
  · rw [toNat_ofNat (.inr (by omega))]
    exact .inl (by omega)
  · obtain rfl : n = s.first := by omega
    rw [Nat.sub_self, Nat.add_zero, hKelvin]
    exact .inr rfl

/-- What a character outside ASCII becomes is not made of ASCII characters other than `k`. -/
theorem lowerForms_foreign (h : 128 ≤ c.toNat) (hPart : part ∈ lowerForms c) :
    ∃ d ∈ part, 128 ≤ d.toNat ∨ d = 'k' := by
  unfold lowerForms at hPart
  split_ifs at hPart
  · simp only [List.mem_cons, List.not_mem_nil, or_false] at hPart
    rcases hPart with rfl | rfl
    · exact ⟨'σ', by simp, .inl (by decide)⟩
    · exact ⟨'ς', by simp, .inl (by decide)⟩
  · obtain rfl := List.mem_singleton.mp hPart
    exact ⟨'\u0307', by simp, .inl (by decide)⟩
  · split at hPart
    · rename_i s hFind
      have hCovers : s.covers c.toNat = true := by simpa using List.find?_some hFind
      obtain rfl := List.mem_singleton.mp hPart
      exact ⟨_, List.mem_singleton_self _,
        CaseSpan.lowered_foreign (List.mem_of_find?_eq_some hFind) hCovers h⟩
    · obtain rfl := List.mem_singleton.mp hPart
      exact ⟨c, List.mem_singleton_self c, .inl h⟩

/-- The small letters of a text of ASCII characters. -/
theorem lowers_ascii (h : ∀ c ∈ text, c.toNat < 128) : Lowers text (text.map Char.toLower) := by
  induction text with
  | nil => exact .nil
  | cons c text ih =>
      obtain ⟨hFirst, hRest⟩ := List.forall_mem_cons.mp h
      have hPart : [c.toLower] ∈ lowerForms c := by simp [lowerForms_ascii hFirst]
      exact .cons hPart (ih hRest)

/-- Small letters that are ASCII characters, and none of them a `k`, come from ASCII characters. -/
theorem Lowers.eq_map (h : Lowers text lowered) (hPlain : ∀ d ∈ lowered, d.toNat < 128 ∧ d ≠ 'k') :
    lowered = text.map Char.toLower := by
  induction h with
  | nil => rfl
  | @cons c text part lowered hPart hRest ih =>
      have hFirst : c.toNat < 128 := by
        by_contra hNot
        obtain ⟨d, hMem, hForeign⟩ := lowerForms_foreign (Nat.le_of_not_lt hNot) hPart
        obtain ⟨hAscii, hOther⟩ := hPlain d (List.mem_append_left _ hMem)
        exact hForeign.elim (Nat.not_le_of_lt hAscii) hOther
      rw [lowerForms_ascii hFirst, List.mem_singleton] at hPart
      rw [hPart, ih fun d hd => hPlain d (List.mem_append_right _ hd)]
      rfl

theorem toLower_of_foreign (h : 128 ≤ c.toNat) : c.toLower = c := by
  refine dif_neg ?_
  rintro ⟨-, hLast⟩
  have hLetter : c.toNat ≤ 90 := UInt32.le_iff_toNat_le.mp hLast
  omega

end Text

namespace Network

/-- The text is a name of the network, in any case and with white space around it. -/
def Named (text : String) (network : Network) : Prop :=
  Text.Lowers (Text.trim text.toList) network.name.toList

private theorem name_plain (network : Network) :
    ∀ d ∈ network.name.toList, d.toNat < 128 ∧ d ≠ 'k' := by
  have hAll : network.name.toList.all (fun d => d.toNat < 128 ∧ d ≠ 'k') = true := by
    cases network <;> decide
  simpa using hAll

private theorem ofName?_eq_some_iff_map {text : String} {network : Network} :
    ofName? text = some network ↔
      network.name.toList = (Text.trim text.toList).map Char.toLower := by
  rw [ofName?]
  generalize (Text.trim text.toList).map Char.toLower = wanted
  constructor
  · intro h
    have hName : network.name = String.ofList wanted := by simpa using List.find?_some h
    rw [hName, String.toList_ofList]
  · intro h
    have hName : network.name = String.ofList wanted := by rw [← h, String.ofList_toList]
    have hSome : (all.find? fun n => n.name == String.ofList wanted).isSome :=
      List.find?_isSome.mpr ⟨network, mem_all network, by simp [hName]⟩
    obtain ⟨found, hFound⟩ := Option.isSome_iff_exists.mp hSome
    have hSame : found.name = String.ofList wanted := by simpa using List.find?_some hFound
    rw [hFound, CacheKey.name_injective (hSame.trans hName.symm)]

/-- The network that a text names is looked up by its small letters. -/
theorem ofName?_eq_some_iff {text : String} {network : Network} :
    ofName? text = some network ↔ Named text network := by
  rw [ofName?_eq_some_iff_map, Named]
  constructor
  · intro h
    rw [h]
    refine Text.lowers_ascii fun c hMem => ?_
    by_contra hNot
    have hSame := Text.toLower_of_foreign (Nat.le_of_not_lt hNot)
    have hName := name_plain network c.toLower (by rw [h]; exact List.mem_map_of_mem hMem)
    rw [hSame] at hName
    exact hNot hName.1
  · exact fun h => h.eq_map (name_plain network)

theorem ofName?_eq_none_iff {text : String} :
    ofName? text = none ↔ ∀ network, ¬ Named text network := by
  simp only [← ofName?_eq_some_iff, Option.eq_none_iff_forall_ne_some]

end Network

end LockTriage
