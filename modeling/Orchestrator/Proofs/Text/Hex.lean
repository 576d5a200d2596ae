import Orchestrator.Text.Number

/-!
# Hexadecimal digits

What hexadecimal digits write can be read back, with zeros filled in or without: `ofHex?_hexPadded`. So
numbers with different values are never written alike.
-/
namespace Orchestrator.Text

theorem hexValue?_digitChar : ∀ n < 16, hexValue? (Nat.digitChar n) = some n := by decide

theorem ofHex?_concat (digits : List Char) (c : Char) :
    ofHex? (digits ++ [c]) = (ofHex? digits).bind fun n => (hexValue? c).map (16 * n + ·) := by
  unfold ofHex?
  rw [List.foldlM_append]
  simp

@[simp] theorem ofHex?_hex (n : Nat) : ofHex? (hex n) = some n := by
  induction n using Nat.strongRecOn with
  | ind n ih =>
    unfold hex
    by_cases hn : n < 16
    · rw [Nat.toDigits_of_lt_base hn]
      simp [ofHex?, hexValue?_digitChar n hn]
    · have hdigit : hexValue? (Nat.digitChar (n % 16)) = some (n % 16) :=
        hexValue?_digitChar _ (Nat.mod_lt n (by omega))
      have hinit : ofHex? (Nat.toDigits 16 (n / 16)) = some (n / 16) := ih _ (by omega)
      rw [Nat.toDigits_of_base_le (by omega) (by omega), ofHex?_concat, hinit, hdigit]
      exact congrArg some (Nat.div_add_mod n 16)

theorem ofHex?_zeros (m : Nat) (digits : List Char) :
    ofHex? (List.replicate m '0' ++ digits) = ofHex? digits := by
  induction m with
  | zero => rfl
  | succ m ih => exact ih

@[simp] theorem ofHex?_hexPadded (width n : Nat) : ofHex? (hexPadded width n) = some n := by
  rw [hexPadded, ofHex?_zeros, ofHex?_hex]

theorem hexPadded_injective {width m n : Nat} (h : hexPadded width m = hexPadded width n) : m = n := by
  simpa using congrArg ofHex? h

/-- What can be read consists of digits. -/
theorem isSome_hexValue?_of_mem {digits : List Char} {n : Nat} {c : Char}
    (h : ofHex? digits = some n) (hc : c ∈ digits) : (hexValue? c).isSome := by
  obtain ⟨before, after, rfl⟩ := List.append_of_mem hc
  unfold ofHex? at h
  rw [List.foldlM_append] at h
  obtain ⟨m, -, h⟩ := Option.bind_eq_some_iff.1 h
  rw [List.foldlM_cons] at h
  obtain ⟨m', hm', -⟩ := Option.bind_eq_some_iff.1 h
  obtain ⟨v, hv, -⟩ := Option.map_eq_some_iff.1 hm'
  rw [hv]
  rfl

theorem hyphen_notMem_hexPadded (width n : Nat) : '-' ∉ hexPadded width n := fun h => by
  have := isSome_hexValue?_of_mem (ofHex?_hexPadded width n) h
  revert this
  decide

end Orchestrator.Text
