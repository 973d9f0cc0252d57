import LockTriage.Cache.Key
import LockTriage.Proofs.Files.Names
import Mathlib.Logic.Function.Basic

/-!
Keys by their texts and files. No two keys share a text, whatever characters
the address holds, and the file of a key has a name that stays in its directory.
-/

namespace LockTriage.CacheKey

private theorem noColon (n : Network) : ':' ∉ n.name.toList := by
  cases n <;> decide

theorem name_injective : Function.Injective Network.name := by
  intro m n
  cases m <;> cases n <;> decide

/-- Distinct keys have distinct texts. -/
theorem text_injective : Function.Injective text := by
  intro k k' h
  have hChars := congrArg String.toList h
  simp only [text, toString, String.toList_append] at hChars
  obtain ⟨hName, hAddress⟩ := Text.eq_of_append_separator (noColon k.network) (noColon k'.network)
    (by simpa using hChars)
  have hNetwork := name_injective (String.toList_injective hName)
  have hRest := String.toList_injective hAddress
  cases k
  cases k'
  simp_all

private theorem noSeparator_hex (b : Bytes) : '/' ∉ (Bytes.hex b).toList := by
  have hDigit : ∀ n < 16, Bytes.hexDigit n ≠ '/' := by decide
  intro hMem
  rw [Bytes.hex, String.toList_ofList, List.mem_flatMap] at hMem
  obtain ⟨byte, _, hMem⟩ := hMem
  have hByte := byte.toNat_lt
  simp only [List.mem_cons, List.not_mem_nil, or_false] at hMem
  rcases hMem with hHigh | hLow
  · exact hDigit (byte.toNat / 16) (by omega) hHigh.symm
  · exact hDigit (byte.toNat % 16) (by omega) hLow.symm

private theorem toList_artifactName (k : CacheKey) :
    k.artifactName.toList = k.hash.toList.take 16 ++ ['.', 'b', 'i', 'n'] := by
  simp [artifactName]

theorem getLast?_artifactName (k : CacheKey) : k.artifactName.toList.getLast? = some 'n' := by
  rw [toList_artifactName]
  simp

/-- The file of a key stands in the directory of the artifacts, not elsewhere. -/
theorem plain_artifactName (k : CacheKey) : Path.Plain k.artifactName := by
  have hText := toList_artifactName k
  have hLength : 4 ≤ k.artifactName.toList.length := by
    rw [hText, List.length_append]
    exact Nat.le_add_left 4 _
  have hNe (s : String) (hShort : s.toList.length < 4) : k.artifactName ≠ s := by
    rintro rfl
    omega
  refine ⟨hNe "" (by decide), ?_, hNe "." (by decide), hNe ".." (by decide)⟩
  rw [hText, List.mem_append, not_or]
  refine ⟨fun hMem => ?_, by decide⟩
  exact noSeparator_hex _ (List.mem_of_mem_take hMem)

end LockTriage.CacheKey
