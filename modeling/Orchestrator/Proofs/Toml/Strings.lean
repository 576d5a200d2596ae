import Orchestrator.Proofs.Text.Hex
import Orchestrator.Toml.Lexical
import Orchestrator.Toml.Quoted

/-!
# Strings of a document

A text is read back from each of the forms in which it can be written, whatever follows it on its line:
`readString_quoted`. Escapes are undone one by one. In the forms with three quotes at each end, quotes
of the text itself stand next to the closing ones at most two at a time (`quoteRun_escapeBasic_le`,
`quoteRun_le_longestRun`), so the reader can tell which of a run are the last three: `closeTriple_closed`.
-/
namespace Orchestrator.Toml

/-! ## Characters -/

/-- How a character other than a quote is written in a basic string. -/
def spelling (isMultiline : Bool) (c : Char) : List Char :=
  if c = '\x08' then ['\\', 'b']
  else if c = '\t' then ['\\', 't']
  else if c = '\n' then if isMultiline then ['\n'] else ['\\', 'n']
  else if c = '\x0c' then ['\\', 'f']
  else if c = '\r' then ['\\', 'r']
  else if c = '\\' then ['\\', '\\']
  else if c.toNat < 0x20 ∨ c.toNat = 0x7F then ['\\', 'u'] ++ upperHex4 c.toNat
  else [c]

theorem escapeBasic_of_ne (isMultiline : Bool) (quotes : Nat) {c : Char} (hc : c ≠ '"')
    (s : List Char) :
    escapeBasic isMultiline quotes (c :: s) = spelling isMultiline c ++ escapeBasic isMultiline 0 s := by
  rw [escapeBasic, if_neg hc]
  rfl

theorem ofHex?_upperHex4 {n : Nat} (hn : n < 0x20 ∨ n = 0x7F) :
    Text.ofHex? (upperHex4 n) = some n ∧ (upperHex4 n).length = 4 := by
  have hlow : ∀ n < 0x20, Text.ofHex? (upperHex4 n) = some n ∧ (upperHex4 n).length = 4 := by decide
  rcases hn with hn | rfl
  · exact hlow n hn
  · decide

theorem readEscape_upperHex4 {c : Char} (hc : c.toNat < 0x20 ∨ c.toNat = 0x7F) (rest : List Char) :
    readEscape ('u' :: (upperHex4 c.toNat ++ rest)) = some (c, rest) := by
  obtain ⟨hhex, hlen⟩ := ofHex?_upperHex4 hc
  have hlong : ¬ (upperHex4 c.toNat ++ rest).length < 4 := by
    rw [List.length_append]
    omega
  have htake : (upperHex4 c.toNat ++ rest).take 4 = upperHex4 c.toNat := by
    rw [← hlen, List.take_left]
  have hdrop : (upperHex4 c.toNat ++ rest).drop 4 = rest := by
    rw [← hlen, List.drop_left]
  have hvalid : scalar? c.toNat = some c := by
    have hc : c.toNat.isValidChar := c.valid
    rw [scalar?, if_pos hc, Char.ofNat_toNat]
  rw [readEscape, if_neg hlong, htake, hdrop, hhex]
  simp [hvalid]

/-- A character is written by an escape, or stands for itself. -/
theorem spelling_cases (isMultiline : Bool) (c : Char) :
    (∃ x e, spelling isMultiline c = '\\' :: x :: e ∧ isBlank x = false ∧ x ≠ '\n' ∧ x ≠ '\r' ∧
      ∀ rest, readEscape (x :: (e ++ rest)) = some (c, rest)) ∨
    (spelling isMultiline c = [c] ∧ c ≠ '\\' ∧
      (c = '\n' ∧ isMultiline = true ∨ c ≠ '\n' ∧ isStringChar c = true)) := by
  unfold spelling
  split
  · subst_vars; exact .inl ⟨'b', [], rfl, rfl, by decide, by decide, fun _ => rfl⟩
  split
  · subst_vars; exact .inl ⟨'t', [], rfl, rfl, by decide, by decide, fun _ => rfl⟩
  split
  · subst_vars
    split
    · rename_i hmulti
      exact .inr ⟨rfl, by decide, .inl ⟨rfl, hmulti⟩⟩
    · exact .inl ⟨'n', [], rfl, rfl, by decide, by decide, fun _ => rfl⟩
  split
  · subst_vars; exact .inl ⟨'f', [], rfl, rfl, by decide, by decide, fun _ => rfl⟩
  split
  · subst_vars; exact .inl ⟨'r', [], rfl, rfl, by decide, by decide, fun _ => rfl⟩
  split
  · subst_vars; exact .inl ⟨'\\', [], rfl, rfl, by decide, by decide, fun _ => rfl⟩
  split
  · rename_i hc
    exact .inl ⟨'u', upperHex4 c.toNat, rfl, rfl, by decide, by decide, readEscape_upperHex4 hc⟩
  · rename_i _ hnewline _ _ hslash hc
    refine .inr ⟨rfl, hslash, .inr ⟨hnewline, ?_⟩⟩
    simp only [isStringChar, Bool.or_eq_true, Bool.and_eq_true, decide_eq_true_eq]
    exact .inr ⟨by omega, by omega⟩

theorem spelling_ne_nil (isMultiline : Bool) (c : Char) : spelling isMultiline c ≠ [] := by
  obtain ⟨x, e, h, -⟩ | ⟨h, -⟩ := spelling_cases isMultiline c <;> simp [h]

/-- Nothing is written by a carriage return. -/
theorem cr_notMem_spelling (isMultiline : Bool) (c : Char) : '\r' ∉ spelling isMultiline c := by
  have hhex : c.toNat < 0x20 ∨ c.toNat = 0x7F → '\r' ∉ upperHex4 c.toNat := fun hc hmem => by
    have := Text.isSome_hexValue?_of_mem (ofHex?_upperHex4 hc).1 hmem
    revert this
    decide
  unfold spelling
  repeat' split
  all_goals simp_all
  exact Ne.symm ‹_›

theorem cr_notMem_escapeBasic (isMultiline : Bool) (quotes : Nat) (s : List Char) :
    '\r' ∉ escapeBasic isMultiline quotes s := by
  induction s generalizing quotes with
  | nil => exact List.not_mem_nil
  | cons c s ih =>
    by_cases hc : c = '"'
    · subst hc
      rw [escapeBasic, if_pos rfl]
      split <;> simp [ih]
    · rw [escapeBasic_of_ne _ _ hc, List.mem_append]
      exact not_or.2 ⟨cr_notMem_spelling _ c, ih 0⟩

/-- At least one character is written for each one. -/
theorem length_le_escapeBasic (isMultiline : Bool) (quotes : Nat) (s : List Char) :
    s.length ≤ (escapeBasic isMultiline quotes s).length := by
  induction s generalizing quotes with
  | nil => exact Nat.zero_le _
  | cons c s ih =>
    by_cases hc : c = '"'
    · subst hc
      have h0 := ih 0
      have h1 := ih (quotes + 1)
      rw [escapeBasic, if_pos rfl]
      split <;> simp only [List.length_cons] <;> omega
    · have hpos := List.length_pos_iff.2 (spelling_ne_nil isMultiline c)
      have := ih 0
      rw [escapeBasic_of_ne _ _ hc, List.length_append, List.length_cons]
      omega

/-! ## Strings of one line -/

/-- A basic string is read up to its closing quote. -/
theorem readBasic_escapeBasic (s rest : List Char) {fuel : Nat} (hfuel : s.length < fuel) :
    readBasic fuel (escapeBasic false 0 s ++ '"' :: rest) = some (s, rest) := by
  induction s generalizing fuel with
  | nil =>
    obtain ⟨fuel, rfl⟩ := Nat.exists_eq_add_one_of_ne_zero (Nat.ne_of_gt hfuel)
    rfl
  | cons c s ih =>
    obtain ⟨fuel, rfl⟩ := Nat.exists_eq_add_one_of_ne_zero (Nat.ne_zero_of_lt hfuel)
    have ih := ih (Nat.lt_of_succ_lt_succ hfuel)
    by_cases hc : c = '"'
    · subst hc
      have hescape : escapeBasic false 0 ('"' :: s) = '\\' :: '"' :: escapeBasic false 0 s := by
        rw [escapeBasic, if_pos rfl, if_neg (by simp)]
      rw [hescape]
      simp only [List.cons_append, readBasic, readEscape, Option.bind_eq_bind, Option.bind_some, ih]
      rfl
    · rw [escapeBasic_of_ne _ _ hc, List.append_assoc]
      obtain ⟨x, e, h, -, -, -, hread⟩ | ⟨h, hslash, hplain⟩ := spelling_cases false c
      · rw [h]
        simp only [List.cons_append, readBasic, hread, Option.bind_eq_bind, Option.bind_some, ih]
        rfl
      · have hplain : isStringChar c = true := by simp_all
        rw [h, List.singleton_append, readBasic.eq_4 _ _ _ hc hslash, if_pos hplain, ih]
        rfl

/-- A literal string is read up to its closing quote. -/
theorem readLiteral_plain {s : List Char} (hs : ∀ c ∈ s, isStringChar c = true ∧ c ≠ '\'')
    (rest : List Char) : readLiteral (s ++ '\'' :: rest) = some (s, rest) := by
  have htext : (s ++ '\'' :: rest).takeWhile (fun c => isStringChar c && c ≠ '\'') = s := by
    rw [List.takeWhile_append_of_pos (by simpa using hs), List.takeWhile_cons_of_neg (by simp),
      List.append_nil]
  simp only [readLiteral, htext, List.drop_left]

/-! ## Runs of quotes -/

theorem quoteRun_cons_self (quote : Char) (s : List Char) :
    quoteRun quote (quote :: s) = quoteRun quote s + 1 := by
  simp [quoteRun]

theorem quoteRun_cons_of_ne {quote c : Char} (hc : c ≠ quote) (s : List Char) :
    quoteRun quote (c :: s) = 0 := by
  simp [quoteRun, hc]

theorem quoteRun_replicate_append (quote : Char) (n : Nat) (s : List Char) :
    quoteRun quote (List.replicate n quote ++ s) = n + quoteRun quote s := by
  induction n with
  | zero => simp
  | succ n ih =>
    rw [List.replicate_succ, List.cons_append, quoteRun_cons_self, ih]
    omega

/-- A run ends in the text, or takes all of it. -/
theorem quoteRun_append (quote : Char) (s t : List Char) :
    quoteRun quote (s ++ t) = quoteRun quote s ∨ s = List.replicate s.length quote := by
  induction s with
  | nil => exact .inr rfl
  | cons c s ih =>
    by_cases hc : c = quote
    · subst hc
      rw [List.cons_append, quoteRun_cons_self, quoteRun_cons_self, List.length_cons,
        List.replicate_succ]
      rcases ih with ih | ih
      · exact .inl (by rw [ih])
      · exact .inr (congrArg (c :: ·) ih)
    · rw [List.cons_append, quoteRun_cons_of_ne hc, quoteRun_cons_of_ne hc]
      exact .inl rfl

/-- The text of a multi-line string and its closing quotes, which nothing lengthens. -/
def closed (quote : Char) (body rest : List Char) : List Char :=
  body ++ (List.replicate 3 quote ++ rest)

@[simp] theorem closed_cons (quote c : Char) (body rest : List Char) :
    closed quote (c :: body) rest = c :: closed quote body rest := rfl

theorem length_closed (quote : Char) (body rest : List Char) :
    (closed quote body rest).length = body.length + 3 + rest.length := by
  simp only [closed, List.length_append, List.length_replicate]
  omega

/-- Three quotes in a row are the closing ones, with those of the text before them. -/
theorem closeTriple_closed {quote : Char} {body rest : List Char} (hbody : quoteRun quote body ≤ 2)
    (hrest : rest.head? ≠ some quote) (h : 3 ≤ quoteRun quote (closed quote body rest)) :
    closeTriple quote (closed quote body rest) = (body, rest) ∧
      body = List.replicate body.length quote := by
  have hend : quoteRun quote rest = 0 := by
    cases rest with
    | nil => rfl
    | cons c rest => exact quoteRun_cons_of_ne (fun hc => hrest (congrArg some hc)) rest
  rcases quoteRun_append quote body (List.replicate 3 quote ++ rest) with hrun | hall
  · rw [closed, hrun] at h
    omega
  · have hlen : body.length ≤ 2 := by
      have := quoteRun_replicate_append quote body.length []
      rw [List.append_nil, ← hall] at this
      omega
    have hrun : quoteRun quote (closed quote body rest) = body.length + 3 := by
      rw [closed, hall, quoteRun_replicate_append, quoteRun_replicate_append, hend,
        List.length_replicate]
    have hinner : min (quoteRun quote (closed quote body rest)) 5 - 3 = body.length := by omega
    refine ⟨?_, hall⟩
    rw [closeTriple, hinner, ← hall, closed, ← List.append_assoc, List.drop_left' (by simp)]

/-- In a basic string quotes stand together two at a time. -/
theorem quoteRun_escapeBasic_le (s : List Char) {quotes : Nat} (hquotes : quotes ≤ 2) :
    quoteRun '"' (escapeBasic true quotes s) + quotes ≤ 2 := by
  induction s generalizing quotes with
  | nil => simpa [escapeBasic, quoteRun] using hquotes
  | cons c s ih =>
    by_cases hc : c = '"'
    · subst hc
      rw [escapeBasic, if_pos rfl]
      split
      · rename_i hfew
        have := @ih (quotes + 1) hfew.2
        rw [quoteRun_cons_self]
        omega
      · rw [quoteRun_cons_of_ne (by decide)]
        omega
    · rw [escapeBasic_of_ne _ _ hc]
      obtain ⟨x, e, h, -⟩ | ⟨h, -⟩ := spelling_cases true c
      · rw [h, List.cons_append, quoteRun_cons_of_ne (by decide)]
        omega
      · rw [h, List.singleton_append, quoteRun_cons_of_ne hc]
        omega

/-- What is written as quotes alone holds nothing else. -/
theorem eq_of_escapeBasic_eq_replicate {s : List Char} {quotes n : Nat}
    (h : escapeBasic true quotes s = List.replicate n '"') : s = List.replicate n '"' := by
  have hquote : ∀ {c : Char} {t : List Char}, c :: t = List.replicate n '"' → c = '"' := fun hct =>
    List.eq_of_mem_replicate (hct ▸ List.mem_cons_self)
  induction s generalizing quotes n with
  | nil => exact h
  | cons c s ih =>
    by_cases hc : c = '"'
    · subst hc
      rw [escapeBasic, if_pos rfl] at h
      split at h
      · cases n with
        | zero => cases h
        | succ n =>
          rw [List.replicate_succ, List.cons.injEq] at h
          rw [List.replicate_succ]
          exact congrArg _ (ih h.2 fun hct => List.eq_of_mem_replicate (hct ▸ List.mem_cons_self))
      · exact absurd (hquote h) (by decide)
    · rw [escapeBasic_of_ne _ _ hc] at h
      obtain ⟨x, e, hspell, -⟩ | ⟨hspell, -⟩ := spelling_cases true c
      · rw [hspell] at h
        exact absurd (hquote h) (by decide)
      · rw [hspell] at h
        exact absurd (hquote h) hc

theorem quoteRun_le_longestRun (quote : Char) (current : Nat) (s : List Char) :
    quoteRun quote s + current ≤ longestRun quote current s := by
  induction s generalizing current with
  | nil => simp [quoteRun, longestRun]
  | cons c s ih =>
    by_cases hc : c = quote
    · subst hc
      have := ih (current + 1)
      rw [quoteRun_cons_self, longestRun, if_pos rfl]
      omega
    · rw [quoteRun_cons_of_ne hc, longestRun, if_neg hc]
      omega

theorem longestRun_tail_le (quote : Char) (current : Nat) (c : Char) (s : List Char) :
    ∃ current', longestRun quote current' s ≤ longestRun quote current (c :: s) := by
  rw [longestRun]
  split
  · exact ⟨current + 1, Nat.le_refl _⟩
  · exact ⟨0, Nat.le_max_right ..⟩

theorem one_le_longestRun {quote : Char} {s : List Char} (h : quote ∈ s) (current : Nat) :
    1 ≤ longestRun quote current s := by
  induction s generalizing current with
  | nil => cases h
  | cons c s ih =>
    rw [longestRun]
    split
    · have := quoteRun_le_longestRun quote (current + 1) s
      omega
    · rename_i hc
      have := ih ((List.mem_cons.1 h).resolve_left (Ne.symm hc)) 0
      omega

/-! ## Strings of several lines -/

theorem foldNewlines_eq_self {s : List Char} (h : '\r' ∉ s) : foldNewlines s = s := by
  induction s with
  | nil => rfl
  | cons c s ih =>
    obtain ⟨hc, hs⟩ := not_or.1 (mt List.mem_cons.2 h)
    rw [foldNewlines.eq_2 _ _ fun _ hcr => absurd hcr.symm hc, ih hs]

/-- A text that starts with three quotes starts with one. -/
theorem exists_cons_of_quoteRun {quote : Char} {s : List Char} (h : 0 < quoteRun quote s) :
    ∃ t, s = quote :: t := by
  cases s with
  | nil => exact absurd h (Nat.lt_irrefl _)
  | cons c t =>
    by_cases hc : c = quote
    · exact ⟨t, by rw [hc]⟩
    · rw [quoteRun_cons_of_ne hc] at h
      exact absurd h (Nat.lt_irrefl _)

/-- At the closing quotes a basic string ends, with the quotes of the text before them. -/
theorem readTripleBasic_closing {s rest : List Char} (hrest : rest.head? ≠ some '"')
    {quotes : Nat} (hquotes : quotes ≤ 2)
    (hrun : 3 ≤ quoteRun '"' (closed '"' (escapeBasic true quotes s) rest)) (fuel : Nat) :
    readTripleBasic (fuel + 1) (closed '"' (escapeBasic true quotes s) rest) = some (s, rest) := by
  have hfew : quoteRun '"' (escapeBasic true quotes s) ≤ 2 :=
    Nat.le_trans (Nat.le_add_right ..) (quoteRun_escapeBasic_le s hquotes)
  obtain ⟨hclose, hall⟩ := closeTriple_closed hfew hrest hrun
  have hs : escapeBasic true quotes s = s := hall.trans (eq_of_escapeBasic_eq_replicate hall).symm
  obtain ⟨t, ht⟩ := exists_cons_of_quoteRun (Nat.lt_of_lt_of_le (by decide) hrun)
  rw [ht] at hrun hclose ⊢
  rw [readTripleBasic, if_pos hrun, hclose, hs]

theorem readNewline_of_ne {c : Char} (hnl : c ≠ '\n') (hcr : c ≠ '\r') (s : List Char) :
    readNewline (c :: s) = none := by
  rw [readNewline.eq_3]
  · intro _ h
    exact hnl (List.cons.inj h).1
  · intro _ h
    exact hcr (List.cons.inj h).1

theorem skipBlanks_of_not_blank {c : Char} (hc : isBlank c = false) (s : List Char) :
    skipBlanks (c :: s) = c :: s := by
  rw [skipBlanks, List.dropWhile_cons_of_neg (by simp [hc])]

/-- A basic string of several lines is read up to its closing quotes. -/
theorem readTripleBasic_escapeBasic (s : List Char) {rest : List Char}
    (hrest : rest.head? ≠ some '"') {quotes fuel : Nat} (hquotes : quotes ≤ 2)
    (hfuel : s.length < fuel) :
    readTripleBasic fuel (closed '"' (escapeBasic true quotes s) rest) = some (s, rest) := by
  induction s generalizing quotes fuel with
  | nil =>
    obtain ⟨fuel, rfl⟩ := Nat.exists_eq_add_one_of_ne_zero (Nat.ne_of_gt hfuel)
    refine readTripleBasic_closing hrest hquotes ?_ fuel
    rw [escapeBasic, closed, List.nil_append, quoteRun_replicate_append]
    omega
  | cons c s ih =>
    obtain ⟨fuel, rfl⟩ := Nat.exists_eq_add_one_of_ne_zero (Nat.ne_zero_of_lt hfuel)
    have hshort : s.length < fuel := Nat.lt_of_succ_lt_succ hfuel
    by_cases hrun : 3 ≤ quoteRun '"' (closed '"' (escapeBasic true quotes (c :: s)) rest)
    · exact readTripleBasic_closing hrest hquotes hrun fuel
    · have read := @ih 0 fuel (Nat.zero_le _) hshort
      by_cases hc : c = '"'
      · subst hc
        rw [escapeBasic, if_pos rfl] at hrun ⊢
        split at hrun
        · rename_i hfew
          have read := @ih (quotes + 1) fuel hfew.2 hshort
          rw [if_pos hfew]
          rw [closed_cons] at hrun ⊢
          rw [readTripleBasic, if_neg hrun, read]
          rfl
        · rename_i hmany
          rw [if_neg hmany, closed_cons, closed_cons, readTripleBasic,
            skipBlanks_of_not_blank (by decide), readNewline_of_ne (by decide) (by decide)]
          simp only [readEscape, Option.bind_eq_bind, Option.bind_some, read]
          rfl
      · rw [closed] at read
        rw [escapeBasic_of_ne _ _ hc, closed, List.append_assoc]
        obtain ⟨x, e, h, hblank, hnl, hcr, hread⟩ | ⟨h, hslash, hplain⟩ := spelling_cases true c
        · rw [h, List.cons_append, List.cons_append, readTripleBasic, skipBlanks_of_not_blank hblank,
            readNewline_of_ne hnl hcr]
          simp only [hread, Option.bind_eq_bind, Option.bind_some, read]
          rfl
        · rw [h, List.singleton_append]
          rcases hplain with ⟨rfl, -⟩ | ⟨hnl, hplain⟩
          · rw [readTripleBasic, read]
            rfl
          · rw [readTripleBasic.eq_5 _ _ _ hc hslash hnl, if_pos hplain, read]
            rfl

/-- A literal string of several lines is read up to its closing quotes. -/
theorem readTripleLiteral_plain {s rest : List Char} (hrest : rest.head? ≠ some '\'')
    (hs : ∀ c ∈ s, isStringChar c = true ∨ c = '\n') {current fuel : Nat}
    (hruns : longestRun '\'' current s ≤ 2) (hfuel : s.length < fuel) :
    readTripleLiteral fuel (closed '\'' s rest) = some (s, rest) := by
  have closing : ∀ {s : List Char} {current : Nat} (fuel : Nat), longestRun '\'' current s ≤ 2 →
      3 ≤ quoteRun '\'' (closed '\'' s rest) →
      readTripleLiteral (fuel + 1) (closed '\'' s rest) = some (s, rest) := by
    intro s current fuel hruns hrun
    have hfew := quoteRun_le_longestRun '\'' current s
    have hclose := (closeTriple_closed (by omega) hrest hrun).1
    obtain ⟨t, ht⟩ := exists_cons_of_quoteRun (Nat.lt_of_lt_of_le (by decide) hrun)
    rw [ht] at hrun hclose ⊢
    rw [readTripleLiteral, if_pos hrun, hclose]
  induction s generalizing current fuel with
  | nil =>
    obtain ⟨fuel, rfl⟩ := Nat.exists_eq_add_one_of_ne_zero (Nat.ne_of_gt hfuel)
    refine closing fuel hruns ?_
    rw [closed, List.nil_append, quoteRun_replicate_append]
    omega
  | cons c s ih =>
    obtain ⟨fuel, rfl⟩ := Nat.exists_eq_add_one_of_ne_zero (Nat.ne_zero_of_lt hfuel)
    by_cases hrun : 3 ≤ quoteRun '\'' (closed '\'' (c :: s) rest)
    · exact closing fuel hruns hrun
    · obtain ⟨current', htail⟩ := longestRun_tail_le '\'' current c s
      have read := ih (fun d hd => hs d (List.mem_cons_of_mem _ hd)) (Nat.le_trans htail hruns)
        (Nat.lt_of_succ_lt_succ hfuel)
      rw [closed_cons] at hrun ⊢
      by_cases hc : c = '\''
      · subst hc
        rw [readTripleLiteral, if_neg hrun, read]
        rfl
      · have hplain : (isStringChar c || decide (c = '\n')) = true := by
          simpa using hs c List.mem_cons_self
        rw [readTripleLiteral.eq_3 _ _ _ hc, if_pos hplain, read]
        rfl

/-! ## The four forms -/

/-- The line break after the opening quotes of a text of several lines. -/
def opening (s : List Char) : List Char := if s.contains '\n' then ['\n'] else []

/-- The line break after the opening quotes is no part of the text. -/
theorem skipNewline_opening {s t : List Char} (hcr : t.head? ≠ some '\r')
    (hnl : '\n' ∉ s → t.head? ≠ some '\n') : skipNewline (opening s ++ t) = t := by
  unfold opening
  split
  · rfl
  · rename_i hs
    have hs : '\n' ∉ s := by simpa using hs
    cases t with
    | nil => rfl
    | cons c t =>
      rw [List.nil_append, skipNewline, readNewline_of_ne]
      · rfl
      · exact fun hc => hnl hs (congrArg some hc)
      · exact fun hc => hcr (congrArg some hc)

theorem cr_notMem_opening (s : List Char) : '\r' ∉ opening s := by
  unfold opening
  split <;> decide

theorem cr_notMem_closed (quote : Char) {body rest : List Char} (hquote : quote ≠ '\r')
    (hbody : '\r' ∉ body) (hrest : '\r' ∉ rest) : '\r' ∉ closed quote body rest := by
  simp only [closed, List.mem_append, List.mem_replicate, not_or]
  exact ⟨hbody, fun h => hquote h.2.symm, hrest⟩

/-- An escaped text does not start with a quote. -/
theorem escapeBasic_ne_quote (s rest : List Char) {t : List Char} (hrest : rest.head? ≠ some '"') :
    escapeBasic false 0 s ++ '"' :: rest ≠ '"' :: '"' :: t := by
  cases s with
  | nil =>
    intro h
    exact hrest (by rw [(List.cons.inj h).2]; rfl)
  | cons c s =>
    by_cases hc : c = '"'
    · subst hc
      rw [escapeBasic, if_pos rfl, if_neg (by simp)]
      exact fun h => absurd (List.cons.inj h).1 (by decide)
    · rw [escapeBasic_of_ne _ _ hc]
      obtain ⟨x, e, hspell, -⟩ | ⟨hspell, -⟩ := spelling_cases false c
      · rw [hspell]
        exact fun h => absurd (List.cons.inj h).1 (by decide)
      · rw [hspell]
        exact fun h => hc (List.cons.inj h).1

theorem readString_basic (s : List Char) {rest : List Char} (hrest : rest.head? ≠ some '"') :
    readString ('"' :: (escapeBasic false 0 s ++ '"' :: rest)) = some (String.ofList s, rest) := by
  have hlen := length_le_escapeBasic false 0 s
  rw [readString.eq_2 _ fun t => escapeBasic_ne_quote s rest hrest,
    readBasic_escapeBasic s rest (by rw [List.length_append]; omega)]
  rfl

theorem readString_literal {s rest : List Char} (hrest : rest.head? ≠ some '\'')
    (hs : ∀ c ∈ s, isStringChar c = true ∧ c ≠ '\'') :
    readString ('\'' :: (s ++ '\'' :: rest)) = some (String.ofList s, rest) := by
  have hone : ∀ t, s ++ '\'' :: rest ≠ '\'' :: '\'' :: t := by
    intro t h
    cases s with
    | nil => exact hrest (by rw [(List.cons.inj h).2]; rfl)
    | cons c s => exact (hs c List.mem_cons_self).2 (List.cons.inj h).1
  rw [readString.eq_4 _ fun t => hone t, readLiteral_plain hs]
  rfl

theorem readString_tripleBasic (s : List Char) {rest : List Char} (hrest : rest.head? ≠ some '"')
    (hcr : '\r' ∉ rest) :
    readString ('"' :: '"' :: '"' :: (opening s ++ closed '"' (escapeBasic true 0 s) rest))
      = some (String.ofList s, rest) := by
  have hbody := cr_notMem_closed '"' (by decide) (cr_notMem_escapeBasic true 0 s) hcr
  have hstart : '\n' ∉ s → (closed '"' (escapeBasic true 0 s) rest).head? ≠ some '\n' := by
    intro hnl h
    cases s with
    | nil => exact absurd (Option.some.inj h) (by decide)
    | cons c s =>
      by_cases hc : c = '"'
      · subst hc
        rw [escapeBasic, if_pos rfl, if_pos (by decide)] at h
        exact absurd (Option.some.inj h) (by decide)
      · rw [escapeBasic_of_ne _ _ hc] at h
        obtain ⟨x, e, hspell, -⟩ | ⟨hspell, -⟩ := spelling_cases true c
        · rw [hspell] at h
          exact absurd (Option.some.inj h) (by decide)
        · rw [hspell] at h
          exact hnl (Option.some.inj h ▸ List.mem_cons_self)
  have hlen := length_le_escapeBasic true 0 s
  rw [readString.eq_1, foldNewlines_eq_self, skipNewline_opening,
    readTripleBasic_escapeBasic s hrest (Nat.zero_le _)]
  · rfl
  · rw [List.length_append, length_closed]
    omega
  · exact fun h => hbody (List.mem_of_mem_head? h)
  · exact hstart
  · rw [List.mem_append]
    exact not_or.2 ⟨cr_notMem_opening s, hbody⟩

theorem readString_tripleLiteral {s rest : List Char} (hrest : rest.head? ≠ some '\'')
    (hcr : '\r' ∉ rest) (hs : ∀ c ∈ s, isStringChar c = true ∨ c = '\n')
    (hruns : longestRun '\'' 0 s ≤ 2) :
    readString ('\'' :: '\'' :: '\'' :: (opening s ++ closed '\'' s rest))
      = some (String.ofList s, rest) := by
  have hplain : '\r' ∉ s := fun h => by
    have := hs _ h
    revert this
    decide
  have hbody := cr_notMem_closed '\'' (by decide) hplain hcr
  have hstart : '\n' ∉ s → (closed '\'' s rest).head? ≠ some '\n' := by
    intro hnl
    cases s with
    | nil => exact fun h => absurd (Option.some.inj h) (by decide)
    | cons c s => exact fun h => hnl (Option.some.inj h ▸ List.mem_cons_self)
  rw [readString.eq_3, foldNewlines_eq_self, skipNewline_opening,
    readTripleLiteral_plain hrest hs hruns]
  · rfl
  · rw [List.length_append, length_closed]
    omega
  · exact fun h => hbody (List.mem_of_mem_head? h)
  · exact hstart
  · rw [List.mem_append]
    exact not_or.2 ⟨cr_notMem_opening s, hbody⟩

/-- A text that holds no control but tabs and line breaks is written with characters that stand for
themselves. -/
theorem isStringChar_of_plain {s : List Char} (hs : ¬ s.any isEscapeOnly = true) {c : Char}
    (hc : c ∈ s) : isStringChar c = true ∨ c = '\n' := by
  have hplain : isEscapeOnly c = false := by
    simpa using fun h => hs (List.any_eq_true.2 ⟨c, hc, h⟩)
  revert hplain
  simp only [isEscapeOnly, isStringChar]
  by_cases htab : c = '\t'
  · simp [htab]
  · by_cases hnl : c = '\n'
    · simp [hnl]
    · simp [htab, hnl]

/-- A text is read back from its written form. -/
theorem readString_quoted (s : List Char) {rest : List Char} (hdouble : rest.head? ≠ some '"')
    (hsingle : rest.head? ≠ some '\'') (hcr : '\r' ∉ rest) :
    readString (quoted s ++ rest) = some (String.ofList s, rest) := by
  have basic := readString_basic s hdouble
  have tripleBasic := readString_tripleBasic s hdouble hcr
  simp only [opening, closed] at tripleBasic
  unfold quoted
  dsimp only
  split
  · simpa using basic
  split
  · rename_i hliteral
    obtain ⟨hcontrol, hsingles, hnewline⟩ := hliteral
    have hs : ∀ c ∈ s, isStringChar c = true ∧ c ≠ '\'' := by
      intro c hc
      refine ⟨(isStringChar_of_plain (by simpa using hcontrol) hc).resolve_right ?_, ?_⟩
      · rintro rfl
        simp [hc] at hnewline
      · rintro rfl
        have := one_le_longestRun hc 0
        omega
    simpa using readString_literal hsingle hs
  split
  · simpa using tripleBasic
  split
  · rename_i hliteral
    have hs : ∀ c ∈ s, isStringChar c = true ∨ c = '\n' := fun c hc =>
      isStringChar_of_plain (by simpa using hliteral.1) hc
    have literal := readString_tripleLiteral hsingle hcr hs hliteral.2
    simp only [opening, closed] at literal
    simpa using literal
  split
  · rename_i hnewline
    have hnewline : '\n' ∈ s := by simpa using hnewline
    simpa [hnewline] using tripleBasic
  · simpa using basic

/-- No form holds a carriage return, so one is never taken for a part of a line break. -/
theorem cr_notMem_quoted (s : List Char) : '\r' ∉ quoted s := by
  have hplain : ¬ s.any isEscapeOnly = true → '\r' ∉ s := fun hs hmem => by
    have := isStringChar_of_plain hs hmem
    revert this
    decide
  have hescape := fun isMultiline => cr_notMem_escapeBasic isMultiline 0 s
  have hopening := cr_notMem_opening s
  unfold opening at hopening
  unfold quoted
  dsimp only
  repeat' split
  all_goals simp_all

end Orchestrator.Toml
