import Orchestrator.Proofs.Store.Secrets

/-!
# Which names and keys are accepted

The grammars of names and keys are written down here letter by letter, and a text is accepted just if it is in
its grammar (`validateName_eq_ok_iff`, `validateKey_eq_ok_iff`). The limit is one of bytes and the grammars
count characters, which comes to the same for what is otherwise accepted. What is derived from a name or a key
is the text itself with a few characters more: `accepts_exactly`.
-/
namespace Orchestrator

/-! ## Grammars -/

def lowerLetters : List Char := "abcdefghijklmnopqrstuvwxyz".toList

def upperLetters : List Char := "ABCDEFGHIJKLMNOPQRSTUVWXYZ".toList

def digits : List Char := "0123456789".toList

/-- Texts of two to fifty characters, with alphabets for the first one, the last one and those between. -/
structure Spelled (first inner last : List Char) (s : String) : Prop where
  length : 2 ≤ s.length ∧ s.length ≤ 50
  first : ∀ c ∈ s.toList.head?, c ∈ first
  inner : ∀ c ∈ s.toList.tail.dropLast, c ∈ inner
  last : ∀ c ∈ s.toList.getLast?, c ∈ last

/-- The grammar of names. -/
abbrev IsName : String → Prop :=
  Spelled lowerLetters (lowerLetters ++ digits ++ ['_', '-']) (lowerLetters ++ digits)

/-- The grammar of keys. -/
abbrev IsKey : String → Prop :=
  Spelled (lowerLetters ++ upperLetters ++ digits) (lowerLetters ++ upperLetters ++ digits ++ ['_', '-'])
    (lowerLetters ++ upperLetters ++ digits)

variable {first inner last : List Char} {s : String} {c : Char}

/-- A character is the first one, the last one or one between. -/
theorem mem_alphabets {l : List Char} (hfirst : ∀ c ∈ l.head?, c ∈ first)
    (hinner : ∀ c ∈ l.tail.dropLast, c ∈ inner) (hlast : ∀ c ∈ l.getLast?, c ∈ last) (hc : c ∈ l) :
    c ∈ first ∨ c ∈ inner ∨ c ∈ last := by
  cases l with
  | nil => cases hc
  | cons a rest =>
    rcases List.mem_cons.1 hc with rfl | hc
    · exact .inl (hfirst c rfl)
    · rcases List.eq_nil_or_concat rest with rfl | ⟨mid, z, rfl⟩
      · cases hc
      · rw [List.concat_eq_append] at hc hinner hlast
        rcases List.mem_append.1 hc with hc | hc
        · refine .inr (.inl (hinner c ?_))
          rw [List.tail_cons, List.dropLast_concat]
          exact hc
        · obtain rfl := List.mem_singleton.1 hc
          refine .inr (.inr (hlast c ?_))
          rw [← List.cons_append, List.getLast?_concat]
          rfl

/-- No text of a grammar ends in a line end, unless the alphabet for the last character has it. -/
theorem not_spelled_line (hline : '\n' ∉ last) (s : String) : ¬ Spelled first inner last (s ++ "\n") := by
  intro h
  have hend : "\n".toList = ['\n'] := rfl
  refine hline (h.last '\n' ?_)
  rw [String.toList_append, hend, List.getLast?_concat]
  rfl

/-! ## Alphabets and classes of characters -/

/-- A class of plain characters holds just those of an alphabet if that is so for the first 128 characters. -/
theorem class_iff {p : Char → Bool} {alphabet : List Char} (hp : ∀ c, p c = true → c.toNat < 0x80)
    (halphabet : alphabet.all p = true)
    (hall : ∀ n < 0x80, p (Char.ofNat n) = true → Char.ofNat n ∈ alphabet) (c : Char) :
    p c = true ↔ c ∈ alphabet := by
  refine ⟨fun h => ?_, List.all_eq_true.1 halphabet c⟩
  have hmem := hall c.toNat (hp c h)
  rw [Char.ofNat_toNat] at hmem
  exact hmem h

theorem isKeyChar_of_isKeyEnd (h : isKeyEnd c = true) : isKeyChar c = true := by simp [isKeyChar, h]

theorem isKeyChar_of_isNameChar (h : isNameChar c = true) : isKeyChar c = true := by
  simp only [isNameChar, isKeyChar, isKeyEnd, Bool.or_eq_true] at h ⊢
  rcases h with ((h | h) | h) | h
  · exact .inl (.inl (.inl (.inl h)))
  · exact .inl (.inl (.inr h))
  · exact .inl (.inr h)
  · exact .inr h

theorem isNameChar_iff (c : Char) : isNameChar c = true ↔ c ∈ lowerLetters ++ digits ++ ['_', '-'] :=
  class_iff (fun _ h => toNat_lt_of_isKeyChar (isKeyChar_of_isNameChar h)) (by decide +kernel)
    (by decide +kernel) c

theorem isNameEnd_iff (c : Char) : (isLowerLetter c || isDigit c) = true ↔ c ∈ lowerLetters ++ digits := by
  have hname : ∀ c, (isLowerLetter c || isDigit c) = true → isNameChar c = true := fun c h => by
    simp [isNameChar, h]
  exact class_iff (fun c h => toNat_lt_of_isKeyChar (isKeyChar_of_isNameChar (hname c h)))
    (by decide +kernel) (by decide +kernel) c

theorem isLowerLetter_iff (c : Char) : isLowerLetter c = true ↔ c ∈ lowerLetters := by
  have hname : ∀ c, isLowerLetter c = true → isNameChar c = true := fun c h => by simp [isNameChar, h]
  exact class_iff (fun c h => toNat_lt_of_isKeyChar (isKeyChar_of_isNameChar (hname c h)))
    (by decide +kernel) (by decide +kernel) c

theorem isKeyEnd_iff (c : Char) : isKeyEnd c = true ↔ c ∈ lowerLetters ++ upperLetters ++ digits :=
  class_iff (fun _ h => toNat_lt_of_isKeyChar (isKeyChar_of_isKeyEnd h)) (by decide +kernel)
    (by decide +kernel) c

theorem isKeyChar_iff (c : Char) :
    isKeyChar c = true ↔ c ∈ lowerLetters ++ upperLetters ++ digits ++ ['_', '-'] :=
  class_iff (fun _ h => toNat_lt_of_isKeyChar h) (by decide +kernel) (by decide +kernel) c

/-! ## Bytes and characters -/

/-- Plain characters are of one byte each. -/
theorem utf8ByteSize_eq_length (h : ∀ c ∈ s.toList, c.toNat < 0x80) : s.utf8ByteSize = s.length := by
  rw [← String.length_toList, ← String.ofList_toList (s := s), String.toList_ofList]
  generalize s.toList = l at h
  induction l with
  | nil => rfl
  | cons c l ih =>
    obtain ⟨hc, hl⟩ := List.forall_mem_cons.1 h
    have hone : c.utf8Size = 1 := Char.utf8Size_eq_one_iff.2 (UInt32.le_iff_toNat_le.2 (Nat.le_of_lt_succ hc))
    rw [String.ofList_cons, String.utf8ByteSize_append, String.utf8ByteSize_singleton, hone, ih hl,
      List.length_cons, Nat.add_comm]

/-- Framed texts, by their first character, their last one, and those between. -/
theorem isFramed_iff {p q r : Char → Bool} {l : List Char} :
    isFramed p q r l = true ↔ 2 ≤ l.length ∧ (∀ c ∈ l.head?, p c = true) ∧
      (∀ c ∈ l.tail.dropLast, q c = true) ∧ ∀ c ∈ l.getLast?, r c = true := by
  match l with
  | [] => simp [isFramed]
  | [c] => simp [isFramed]
  | c :: d :: rest =>
    have hlast : (c :: d :: rest).getLast? = some ((d :: rest).getLast (by simp)) := by
      rw [List.getLast?_cons_cons, List.getLast?_eq_some_getLast (by simp)]
    rw [hlast]
    simp [isFramed, and_assoc]

/-- A text that is framed by plain characters and is of fifty bytes at most is in the grammar that its classes
of characters make. -/
theorem spelled_iff {p q r : Char → Bool} (hp : ∀ c, p c = true ↔ c ∈ first)
    (hq : ∀ c, q c = true ↔ c ∈ inner) (hr : ∀ c, r c = true ↔ c ∈ last)
    (hplain : ∀ c, c ∈ first ∨ c ∈ inner ∨ c ∈ last → c.toNat < 0x80) :
    (s.utf8ByteSize ≤ maxNameBytes ∧ isFramed p q r s.toList = true) ↔ Spelled first inner last s := by
  simp only [isFramed_iff, hp, hq, hr, String.length_toList]
  constructor
  · rintro ⟨hbytes, htwo, hfirst, hinner, hlast⟩
    rw [utf8ByteSize_eq_length fun c hc => hplain c (mem_alphabets hfirst hinner hlast hc)] at hbytes
    exact ⟨⟨htwo, hbytes⟩, hfirst, hinner, hlast⟩
  · intro h
    refine ⟨?_, h.length.1, h.first, h.inner, h.last⟩
    rw [utf8ByteSize_eq_length fun c hc => hplain c (mem_alphabets h.first h.inner h.last hc)]
    exact h.length.2

/-! ## What is accepted -/

theorem isDeploymentName_iff (s : String) : isDeploymentName s = true ↔ IsName s := by
  rw [isDeploymentName, Bool.and_eq_true, decide_eq_true_iff]
  refine spelled_iff isLowerLetter_iff isNameChar_iff isNameEnd_iff fun c hc => ?_
  have hname : isNameChar c = true := by
    rcases hc with hc | hc | hc
    · simp [isNameChar, (isLowerLetter_iff c).2 hc]
    · exact (isNameChar_iff c).2 hc
    · simp [isNameChar, (isNameEnd_iff c).2 hc]
  exact toNat_lt_of_isKeyChar (isKeyChar_of_isNameChar hname)

theorem isSecretKey_iff (s : String) : isSecretKey s = true ↔ IsKey s := by
  rw [isSecretKey, Bool.and_eq_true, decide_eq_true_iff]
  refine spelled_iff isKeyEnd_iff isKeyChar_iff isKeyEnd_iff fun c hc => toNat_lt_of_isKeyChar ?_
  rcases hc with hc | hc | hc
  · exact isKeyChar_of_isKeyEnd ((isKeyEnd_iff c).2 hc)
  · exact (isKeyChar_iff c).2 hc
  · exact isKeyChar_of_isKeyEnd ((isKeyEnd_iff c).2 hc)

theorem validateName_of_isName (h : IsName s) : validateName s = .ok () :=
  if_pos ((isDeploymentName_iff s).2 h)

theorem validateName_of_not_isName (h : ¬ IsName s) : validateName s = .error (.invalidName s) :=
  if_neg fun hname => h ((isDeploymentName_iff s).1 hname)

theorem validateKey_of_isKey (h : IsKey s) : validateKey s = .ok () := if_pos ((isSecretKey_iff s).2 h)

theorem validateKey_of_not_isKey (h : ¬ IsKey s) : validateKey s = .error (.invalidSecretKey s) :=
  if_neg fun hkey => h ((isSecretKey_iff s).1 hkey)

theorem validateName_eq_ok_iff (s : String) : validateName s = .ok () ↔ IsName s := by
  refine ⟨fun h => Classical.not_not.1 fun hnot => ?_, validateName_of_isName⟩
  rw [validateName_of_not_isName hnot] at h
  cases h

theorem validateKey_eq_ok_iff (s : String) : validateKey s = .ok () ↔ IsKey s := by
  refine ⟨fun h => Classical.not_not.1 fun hnot => ?_, validateKey_of_isKey⟩
  rw [validateKey_of_not_isKey hnot] at h
  cases h

/-! ## What is derived -/

/-- The collection of a name that is accepted. -/
theorem secretCollection_of_isName (h : IsName s) : secretCollection s = s ++ "-secrets" := by
  rw [← String.toList_inj, toList_secretCollection, toLower_of_isDeploymentName ((isDeploymentName_iff s).2 h),
    String.toList_append]

/-- What a key becomes in upper case. -/
theorem keyUpper_mem (h : isKeyChar c = true) : keyUpper c ∈ upperLetters ++ digits ++ ['_'] := by
  have hall : ∀ n < 0x80, isKeyChar (Char.ofNat n) = true →
      keyUpper (Char.ofNat n) ∈ upperLetters ++ digits ++ ['_'] := by
    decide +kernel
  have hmem := hall c.toNat (toNat_lt_of_isKeyChar h)
  rw [Char.ofNat_toNat] at hmem
  exact hmem h

theorem length_keyVariable (key : String) : (keyVariable key).length = key.length := by
  rw [keyVariable, String.length_ofList, List.length_map, String.length_toList]

theorem mem_keyVariable (h : IsKey s) : ∀ c ∈ (keyVariable s).toList, c ∈ upperLetters ++ digits ++ ['_'] := by
  intro x hx
  rw [keyVariable, String.toList_ofList] at hx
  obtain ⟨c, hc, rfl⟩ := List.mem_map.1 hx
  exact keyUpper_mem (isKeyChar_of_isSecretKey ((isSecretKey_iff s).2 h) c hc)

/-- The alias of a key that is accepted, and the variable of a secret under it. -/
theorem secret_of_isKey (h : IsKey s) (value : String) : ∃ secret, Secret.new s value = .ok secret ∧
    secret.aliasText = aliasFor s ∧ aliasFor s = "@" ++ keyVariable s ∧ secret.envName = keyVariable s := by
  have hkey := (isSecretKey_iff s).2 h
  refine ⟨⟨s, value, aliasFor s⟩, ?_, rfl, ?_, variableName_aliasFor hkey⟩
  · rw [Secret.new, validateKey_of_isKey h]
  · rw [← String.toList_inj, aliasFor_of_isSecretKey hkey, String.toList_append]
    rfl

/-- **Names and keys are accepted just if they are in their grammars**, and are refused by name otherwise; a
line end behind them is never accepted. The collection of secrets of a name that is accepted is the name and
`-secrets`, so no other such name has it, and it is none of the two other collections. The alias of a key that
is accepted is an at sign and as many capitals, digits and underscores as the key has characters, and these
are the variable of a new secret under the key. -/
theorem accepts_exactly (s : String) :
    (validateName s = .ok () ↔ IsName s) ∧
    (¬ IsName s → validateName s = .error (.invalidName s)) ∧
    (validateKey s = .ok () ↔ IsKey s) ∧
    (¬ IsKey s → validateKey s = .error (.invalidSecretKey s)) ∧
    validateName (s ++ "\n") ≠ .ok () ∧ validateKey (s ++ "\n") ≠ .ok () ∧
    (validateName s = .ok () → secretCollection s = s ++ "-secrets" ∧
      secretCollection s ≠ Store.deploymentCollection ∧ secretCollection s ≠ Store.activityCollection ∧
      ∀ t, validateName t = .ok () → t ≠ s → secretCollection t ≠ secretCollection s) ∧
    (validateKey s = .ok () → ∀ value, ∃ secret rest, Secret.new s value = .ok secret ∧
      secret.aliasText = aliasFor s ∧ aliasFor s = "@" ++ rest ∧ rest.length = s.length ∧
      (∀ c ∈ rest.toList, c ∈ upperLetters ++ digits ++ ['_']) ∧ secret.envName = rest) := by
  refine ⟨validateName_eq_ok_iff s, validateName_of_not_isName, validateKey_eq_ok_iff s,
    validateKey_of_not_isKey, fun h => ?_, fun h => ?_, fun h => ?_, fun h value => ?_⟩
  · exact not_spelled_line (by decide) s ((validateName_eq_ok_iff _).1 h)
  · exact not_spelled_line (by decide) s ((validateKey_eq_ok_iff _).1 h)
  · have hs := (validateName_eq_ok_iff s).1 h
    refine ⟨secretCollection_of_isName hs, secretCollection_ne_deployments s, secretCollection_ne_activity s,
      fun t ht hne hsame => hne ?_⟩
    rw [secretCollection_of_isName ((validateName_eq_ok_iff t).1 ht), secretCollection_of_isName hs,
      ← String.toList_inj, String.toList_append, String.toList_append, List.append_left_inj] at hsame
    exact String.toList_inj.1 hsame
  · have hs := (validateKey_eq_ok_iff s).1 h
    obtain ⟨secret, hsecret, halias, hat, hvariable⟩ := secret_of_isKey hs value
    exact ⟨secret, keyVariable s, hsecret, halias, hat, length_keyVariable s, mem_keyVariable hs, hvariable⟩

/-- A name that is a key too, and texts that are neither. -/
theorem accepts_exactly_api :
    validateName "my-api_2" = .ok () ∧ validateKey "my-api_2" = .ok () ∧ ¬ IsName "my-api_" ∧
      ¬ IsKey "-api" ∧ validateName "my-api_" = .error (.invalidName "my-api_") ∧
      validateKey "-api" = .error (.invalidSecretKey "-api") ∧ validateName "api" = .ok () ∧
      secretCollection "api" ≠ secretCollection "my-api_2" ∧
      ∃ secret rest, Secret.new "my-api_2" "a" = .ok secret ∧ aliasFor "my-api_2" = "@" ++ rest ∧
        rest.length = 8 ∧ secret.envName = rest := by
  obtain ⟨-, -, -, -, -, -, hname, hkey⟩ := accepts_exactly "my-api_2"
  obtain ⟨-, hrefused, -⟩ := accepts_exactly "my-api_"
  obtain ⟨-, -, -, hrefusedKey, -⟩ := accepts_exactly "-api"
  have hdash : ¬ IsName "my-api_" := fun h => absurd ((isDeploymentName_iff _).2 h) (by decide)
  have hfront : ¬ IsKey "-api" := fun h => absurd ((isSecretKey_iff _).2 h) (by decide)
  have hapi : validateName "api" = .ok () := if_pos (by decide)
  have hmine : validateName "my-api_2" = .ok () := if_pos (by decide)
  have hmineKey : validateKey "my-api_2" = .ok () := if_pos (by decide)
  obtain ⟨-, -, -, hapart⟩ := hname hmine
  obtain ⟨secret, rest, hsecret, -, halias, hlength, -, hvariable⟩ := hkey hmineKey "a"
  exact ⟨hmine, hmineKey, hdash, hfront, hrefused hdash, hrefusedKey hfront, hapi,
    hapart "api" hapi (by decide), secret, rest, hsecret, halias, hlength, hvariable⟩

end Orchestrator
