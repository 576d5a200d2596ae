import Orchestrator.Naming
import Orchestrator.Proofs.Text.LowerCase

/-!
# What names and keys are made of

The characters of deployment names are their own lower case, so a valid name is in lower case as it is
written (`toLower_of_isDeploymentName`). The keys of secrets are plain letters, digits, dashes and
underscores, whose upper case is decided letter by letter. So the variable in which a secret is handed over
is its key in upper case, with underscores for dashes (`variableName_aliasFor`): one character for each, and
different keys may get the same variable.
-/
namespace Orchestrator

/-- What is framed by characters of a kind, with characters of the kind inside, is all of the kind. -/
theorem forall_of_isFramed {first inner last : Char → Bool} (hfirst : ∀ c, first c = true → inner c = true)
    (hlast : ∀ c, last c = true → inner c = true) {s : List Char} (h : isFramed first inner last s = true) :
    ∀ c ∈ s, inner c = true := by
  match s, h with
  | c :: d :: rest, h =>
    simp only [isFramed, Bool.and_eq_true, List.all_eq_true] at h
    obtain ⟨⟨hc, hinner⟩, hend⟩ := h
    have hsplit := List.dropLast_concat_getLast (List.cons_ne_nil d rest)
    intro x hx
    rcases List.mem_cons.1 hx with rfl | hx
    · exact hfirst x hc
    · rw [← hsplit, List.mem_append, List.mem_singleton] at hx
      rcases hx with hx | rfl
      · exact hinner x hx
      · exact hlast _ hend

/-! ## Names -/

/-- Every character of a valid name is one that a name may hold. -/
theorem isNameChar_of_isDeploymentName {name : String} (h : isDeploymentName name = true) {c : Char}
    (hc : c ∈ name.toList) : isNameChar c = true := by
  unfold isDeploymentName at h
  rw [Bool.and_eq_true] at h
  refine forall_of_isFramed (fun c hc => ?_) (fun c hc => ?_) h.2 c hc
  · simp [isNameChar, hc]
  · simp only [isNameChar, Bool.or_eq_true] at hc ⊢
    exact .inl (.inl hc)

/-- The characters of names are their own lower case. -/
theorem lowerChar_of_isNameChar {c : Char} (h : isNameChar c = true) :
    c.toNat ≠ 0x3A3 ∧ Text.lowerChar c = [c] := by
  have hbounds : c.toNat < 0x80 ∧ ¬ (0x41 ≤ c.toNat ∧ c.toNat ≤ 0x5A) := by
    simp only [isNameChar, isLowerLetter, isDigit, Bool.or_eq_true, Bool.and_eq_true, decide_eq_true_iff,
      Char.le_def, UInt32.le_iff_toNat_le] at h
    rcases h with ((⟨hlow, hhigh⟩ | ⟨hlow, hhigh⟩) | rfl) | rfl
    · have : 0x61 ≤ c.toNat := hlow
      have : c.toNat ≤ 0x7A := hhigh
      omega
    · have : c.toNat ≤ 0x39 := hhigh
      omega
    · decide
    · decide
  have hlower : c.toLower = c := dif_neg fun hupper => hbounds.2 ⟨hupper.1, hupper.2⟩
  refine ⟨by omega, ?_⟩
  rw [Text.lowerChar, if_pos hbounds.1, hlower]

theorem toLower_of_isDeploymentName {name : String} (h : isDeploymentName name = true) :
    Text.toLower name.toList = name.toList :=
  Text.lowerAfter_eq_self [] fun _ hc => lowerChar_of_isNameChar (isNameChar_of_isDeploymentName h hc)

/-! ## Keys -/

/-- Every character of a key is one that a key may hold. -/
theorem isKeyChar_of_isSecretKey {key : String} (h : isSecretKey key = true) :
    ∀ c ∈ key.toList, isKeyChar c = true := by
  unfold isSecretKey at h
  rw [Bool.and_eq_true] at h
  exact forall_of_isFramed (fun c hc => by simp [isKeyChar, hc]) (fun c hc => by simp [isKeyChar, hc]) h.2

theorem toNat_lt_of_isKeyChar {c : Char} (h : isKeyChar c = true) : c.toNat < 0x80 := by
  simp only [isKeyChar, isKeyEnd, isLowerLetter, isUpperLetter, isDigit, Bool.or_eq_true, Bool.and_eq_true,
    decide_eq_true_iff, Char.le_def, UInt32.le_iff_toNat_le] at h
  rcases h with (((⟨-, hhigh⟩ | ⟨-, hhigh⟩) | ⟨-, hhigh⟩) | rfl) | rfl
  · have : c.toNat ≤ 0x7A := hhigh
    omega
  · have : c.toNat ≤ 0x5A := hhigh
    omega
  · have : c.toNat ≤ 0x39 := hhigh
    omega
  · decide
  · decide

theorem Text.toUpper_ascii {s : List Char} (h : ∀ c ∈ s, c.toNat < 0x80) : Text.toUpper s = s.map Char.toUpper := by
  induction s with
  | nil => rfl
  | cons c s ih =>
    obtain ⟨hc, hs⟩ := List.forall_mem_cons.1 h
    have hchar : Text.upperChar c = [c.toUpper] := if_pos hc
    rw [Text.toUpper, List.flatMap_cons, hchar, ← Text.toUpper, ih hs]
    rfl

/-- A character of a key in upper case, or an underscore for a dash. -/
def keyUpper (c : Char) : Char := if c = '-' then '_' else c.toUpper

/-- The variable of a secret: its key in upper case, with underscores for dashes. -/
def keyVariable (key : String) : String := String.ofList (key.toList.map keyUpper)

/-- No character of a key comes to be a dash, an at sign or an equals sign in upper case. -/
theorem keyUpper_of_isKeyChar {c : Char} (h : isKeyChar c = true) :
    (if c.toUpper = '-' then '_' else c.toUpper) = keyUpper c ∧ keyUpper c ≠ '@' ∧ keyUpper c ≠ '=' := by
  have hall : ∀ n < 0x80, isKeyChar (Char.ofNat n) = true →
      (if (Char.ofNat n).toUpper = '-' then '_' else (Char.ofNat n).toUpper) = keyUpper (Char.ofNat n) ∧
        keyUpper (Char.ofNat n) ≠ '@' ∧ keyUpper (Char.ofNat n) ≠ '=' := by
    decide +kernel
  have hc := hall c.toNat (toNat_lt_of_isKeyChar h)
  rw [Char.ofNat_toNat] at hc
  exact hc h

theorem notMem_keyVariable {key : String} (h : isSecretKey key = true) :
    '@' ∉ (keyVariable key).toList ∧ '=' ∉ (keyVariable key).toList := by
  rw [keyVariable, String.toList_ofList]
  constructor
  · intro hmem
    obtain ⟨c, hc, heq⟩ := List.mem_map.1 hmem
    exact (keyUpper_of_isKeyChar (isKeyChar_of_isSecretKey h c hc)).2.1 heq
  · intro hmem
    obtain ⟨c, hc, heq⟩ := List.mem_map.1 hmem
    exact (keyUpper_of_isKeyChar (isKeyChar_of_isSecretKey h c hc)).2.2 heq

theorem aliasFor_of_isSecretKey {key : String} (h : isSecretKey key = true) :
    (aliasFor key).toList = '@' :: (keyVariable key).toList := by
  have hchars := isKeyChar_of_isSecretKey h
  rw [aliasFor, keyVariable, String.toList_ofList, String.toList_ofList,
    Text.toUpper_ascii fun c hc => toNat_lt_of_isKeyChar (hchars c hc), List.map_map]
  congr 1
  exact List.map_congr_left fun c hc => (keyUpper_of_isKeyChar (hchars c hc)).1

/-- A secret is handed over in the variable of its key. -/
theorem variableName_aliasFor {key : String} (h : isSecretKey key = true) :
    variableName (aliasFor key) = keyVariable key := by
  have hat := (notMem_keyVariable h).1
  rw [variableName, aliasFor_of_isSecretKey h, ← String.toList_inj, String.toList_ofList]
  cases hvariable : (keyVariable key).toList with
  | nil => simp
  | cons c rest =>
    have hc : c ≠ '@' := fun heq => hat (by simp [hvariable, heq])
    simp [hc]

end Orchestrator
