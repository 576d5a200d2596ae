import Orchestrator.Json.Parser
import Orchestrator.Json.Printer
import Orchestrator.Proofs.Text.Decimal
import Orchestrator.Proofs.Text.Hex

/-!
# Reading what was written

The compact text of a tree is read back as the tree: `read_render`. The tree
must be `Printable`, that is, its strings must be spelled as texts are, and its numbers whole.
-/
namespace Orchestrator.Json

/-! ## Strings -/

theorem hexPadded_four {n : Nat} (hn : n < 32) :
    ∃ x y z w, Text.hexPadded 4 n = [x, y, z, w] := by
  have hlen : ∀ n < 32, (Text.hexPadded 4 n).length = 4 := by decide
  match Text.hexPadded 4 n, hlen n hn with
  | [x, y, z, w], _ => exact ⟨x, y, z, w, rfl⟩

/-- The ways in which a character is spelled: by a letter, by its number, or as it is. -/
theorem escapeChar_cases (c : Char) :
    (∃ l, letterEscape? l = some c ∧ escapeChar c = ['\\', l]) ∨
    (∃ x y z w, Text.ofHex? [x, y, z, w] = some c.toNat ∧ c.toNat < 0x20 ∧
      escapeChar c = ['\\', 'u', x, y, z, w]) ∨
    (c ≠ '"' ∧ c ≠ '\\' ∧ 0x20 ≤ c.toNat ∧ escapeChar c = [c]) := by
  unfold escapeChar
  split
  · subst_vars; exact .inl ⟨'"', rfl, rfl⟩
  split
  · subst_vars; exact .inl ⟨'\\', rfl, rfl⟩
  split
  · subst_vars; exact .inl ⟨'n', rfl, rfl⟩
  split
  · subst_vars; exact .inl ⟨'r', rfl, rfl⟩
  split
  · subst_vars; exact .inl ⟨'t', rfl, rfl⟩
  split
  · subst_vars; exact .inl ⟨'b', rfl, rfl⟩
  split
  · subst_vars; exact .inl ⟨'f', rfl, rfl⟩
  split
  · rename_i hc
    obtain ⟨x, y, z, w, hp⟩ := hexPadded_four hc
    exact .inr (.inl ⟨x, y, z, w, by rw [← hp, Text.ofHex?_hexPadded], hc, by rw [hp]; rfl⟩)
  · rename_i hquote hslash _ _ _ _ _ hc
    exact .inr (.inr ⟨hquote, hslash, Nat.le_of_not_lt hc, rfl⟩)

/-- No letter's escape is that of a number. -/
theorem ne_u_of_letterEscape? {l c : Char} (h : letterEscape? l = some c) : l ≠ 'u' := by
  rintro rfl
  cases h

theorem escape_cons (c : Char) (s : List Char) : escape (c :: s) = escapeChar c ++ escape s := rfl

/-- The spelling of a text stands for the text. -/
@[simp] theorem unescape_escape (s : List Char) : unescape (escape s) = some s := by
  induction s with
  | nil => rfl
  | cons c s ih =>
    rw [escape_cons]
    obtain ⟨l, hl, h⟩ | ⟨x, y, z, w, hhex, hc, h⟩ | ⟨hquote, hslash, hc, h⟩ := escapeChar_cases c
    · rw [h, List.cons_append, List.singleton_append,
        unescape.eq_3 _ _ fun _ _ _ _ _ hu _ => ne_u_of_letterEscape? hl hu, hl, ih]
      rfl
    · have hlow : isLowSurrogate c.toNat = false := by simp [isLowSurrogate]; omega
      have hhigh : isHighSurrogate c.toNat = false := by simp [isHighSurrogate]; omega
      rw [h]
      simp only [List.cons_append, List.nil_append, unescape.eq_2, hhex, hlow, hhigh, ih]
      simp [Char.ofNat_toNat]
    · rw [h, List.singleton_append, unescape.eq_4 _ _ (fun _ _ _ _ _ hc _ => hslash hc)
        fun _ _ hc _ => hslash hc, if_neg hslash, ih]
      rfl

/-- A spelling is read up to its closing quote. -/
theorem readSpelling_escape (s rest : List Char) :
    readSpelling (escape s ++ '"' :: rest) = some (escape s, rest) := by
  induction s with
  | nil => rfl
  | cons c s ih =>
    rw [escape_cons, List.append_assoc]
    obtain ⟨l, hl, h⟩ | ⟨x, y, z, w, hhex, hc, h⟩ | ⟨hquote, hslash, hc, h⟩ := escapeChar_cases c
    · rw [h, List.cons_append, List.singleton_append,
        readSpelling.eq_4 _ _ fun _ _ _ _ _ hu _ => ne_u_of_letterEscape? hl hu, hl, ih]
      rfl
    · rw [h]
      simp only [List.cons_append, List.nil_append, readSpelling.eq_3, hhex, ih]
      rfl
    · have hread : ¬ (c = '\\' ∨ c.toNat < 0x20) := by
        rintro (hc' | hc')
        · exact hslash hc'
        · omega
      rw [h, List.singleton_append, readSpelling.eq_5 _ _ hquote (fun _ _ _ _ _ hc _ => hslash hc)
        fun _ _ hc _ => hslash hc, if_neg hread, ih]
      rfl

/-! ## Numbers -/

/-- The text does not go on with a number. -/
def EndsNumber (rest : List Char) : Prop :=
  ∀ c ∈ rest.head?, c.isDigit = false ∧ c ≠ '.' ∧ c ≠ 'e' ∧ c ≠ 'E'

theorem spanDigits_decimal {n : Nat} {rest : List Char} (hrest : EndsNumber rest) :
    spanDigits (Text.decimal n ++ rest) = (Text.decimal n, rest) := by
  have hdigits : ∀ c ∈ Text.decimal n, c.isDigit = true := fun _ => Text.isDigit_of_mem_decimal
  unfold spanDigits
  rw [List.takeWhile_append_of_pos hdigits, List.dropWhile_append_of_pos hdigits]
  cases rest with
  | nil => simp
  | cons c rest =>
    have hc : ¬ c.isDigit = true := by simp [(hrest c rfl).1]
    rw [List.takeWhile_cons_of_neg hc, List.dropWhile_cons_of_neg hc, List.append_nil]

theorem readWhole_decimal {n : Nat} {rest : List Char} (hrest : EndsNumber rest) :
    readWhole (Text.decimal n ++ rest) = some (n, rest) := by
  unfold readWhole
  rw [spanDigits_decimal hrest]
  split
  · rename_i h
    exact absurd (Prod.mk.inj h).1 (Text.decimal_ne_nil n)
  · rename_i h
    have hdecimal := (Prod.mk.inj h).1
    by_cases hn : n = 0
    · subst hn
      cases hdecimal
    · exact absurd (by rw [hdecimal]; rfl) (Text.head_decimal hn)
  · rename_i h
    obtain ⟨rfl, rfl⟩ := Prod.mk.inj h
    rw [Text.ofDecimal_decimal]

/-- A whole number is spelled by a sign and digits only. -/
def Number.IsWhole (n : Number) : Prop := n.fraction = [] ∧ n.exponent = none

theorem readFraction_none {rest : List Char} (hrest : EndsNumber rest) :
    readFraction rest = some ([], rest) := by
  cases rest with
  | nil => rfl
  | cons c rest =>
    rw [readFraction.eq_2]
    rintro rest' h
    exact (hrest c rfl).2.1 (List.cons.inj h).1

theorem readExponent_none {rest : List Char} (hrest : EndsNumber rest) :
    readExponent rest = some (none, rest) := by
  have hhead : ∀ c r, rest = c :: r → c ≠ 'e' ∧ c ≠ 'E' := by
    rintro c r rfl
    exact (hrest c rfl).2.2
  unfold readExponent
  split
  all_goals first
    | rfl
    | exact absurd rfl (hhead _ _ rfl).1
    | exact absurd rfl (hhead _ _ rfl).2

theorem readMagnitude_decimal {n : Nat} {rest : List Char} (negative : Bool)
    (hrest : EndsNumber rest) :
    readMagnitude negative (Text.decimal n ++ rest) = some (⟨negative, n, [], none⟩, rest) := by
  unfold readMagnitude
  simp [readWhole_decimal hrest, readFraction_none hrest, readExponent_none hrest]

/-- A number is read up to where it ends. -/
theorem readNumber_render {n : Number} {rest : List Char} (hn : n.IsWhole)
    (hrest : EndsNumber rest) : readNumber (n.render ++ rest) = some (n, rest) := by
  obtain ⟨negative, whole, fraction, exponent⟩ := n
  obtain ⟨rfl, rfl⟩ : fraction = [] ∧ exponent = none := hn
  cases negative with
  | true =>
    have hrender : Number.render ⟨true, whole, [], none⟩ = '-' :: Text.decimal whole := by
      simp [Number.render]
    rw [hrender]
    exact readMagnitude_decimal true hrest
  | false =>
    have hrender : Number.render ⟨false, whole, [], none⟩ = Text.decimal whole := by
      simp [Number.render]
    rw [hrender]
    have hsign : ∀ s, Text.decimal whole ++ rest ≠ '-' :: s := by
      intro s h
      have hmem : '-' ∈ Text.decimal whole := by
        cases hd : Text.decimal whole with
        | nil => exact absurd hd (Text.decimal_ne_nil whole)
        | cons c digits =>
          rw [hd] at h
          rw [(List.cons.inj h).1]
          exact List.mem_cons_self
      have := Text.isDigit_of_mem_decimal hmem
      revert this
      decide
    rw [readNumber.eq_2 _ hsign]
    exact readMagnitude_decimal false hrest

/-! ## Trees -/

mutual
/-- The tree is spelled as trees of values are. -/
def Printable : Json → Prop
  | .null | .bool _ => True
  | .number n => n.IsWhole
  | .string spelled => ∃ s, spelled = escape s
  | .array items => PrintableItems items
  | .object members => PrintableMembers members
  | .malformed => False

/-- All items are spelled so. -/
def PrintableItems : List Json → Prop
  | [] => True
  | item :: rest => item.Printable ∧ PrintableItems rest

/-- All keys and values are spelled so. -/
def PrintableMembers : List (List Char × Json) → Prop
  | [] => True
  | (key, value) :: rest => (∃ s, key = escape s) ∧ value.Printable ∧ PrintableMembers rest
end

/-- At the front of a text stands a tree, and a rest follows it. -/
def Reads (s : List Char) (j : Json) (rest : List Char) : Prop :=
  (readValue s).1 = j ∧ (readValue s).2.val = rest

theorem Rest.val_of {s r : List Char} (h : r.length ≤ s.length) : (Rest.of s r).val = r := by
  rw [Rest.of, dif_pos h]

theorem skipSpace_cons {c : Char} (h : isSpace c = false) (s : List Char) :
    skipSpace (c :: s) = c :: s := by
  rw [skipSpace, List.dropWhile_cons_of_neg (by simp [h])]

section

variable {rest s spelled : List Char}

theorem reads_null : Reads ('n' :: 'u' :: 'l' :: 'l' :: rest) .null rest := by
  have hskip := skipSpace_cons (c := 'n') rfl ('u' :: 'l' :: 'l' :: rest)
  unfold Reads
  rw [readValue]
  split <;> simp_all
  exact Rest.val_of (by simp only [List.length_cons]; omega)

theorem reads_true : Reads ('t' :: 'r' :: 'u' :: 'e' :: rest) (.bool true) rest := by
  have hskip := skipSpace_cons (c := 't') rfl ('r' :: 'u' :: 'e' :: rest)
  unfold Reads
  rw [readValue]
  split <;> simp_all
  exact Rest.val_of (by simp only [List.length_cons]; omega)

theorem reads_false : Reads ('f' :: 'a' :: 'l' :: 's' :: 'e' :: rest) (.bool false) rest := by
  have hskip := skipSpace_cons (c := 'f') rfl ('a' :: 'l' :: 's' :: 'e' :: rest)
  unfold Reads
  rw [readValue]
  split <;> simp_all
  exact Rest.val_of (by simp only [List.length_cons]; omega)

theorem reads_string (hs : readSpelling s = some (spelled, rest)) :
    Reads ('"' :: s) (.string spelled) rest := by
  have hskip := skipSpace_cons (c := '"') rfl s
  have hlen := length_readSpelling hs
  unfold Reads
  rw [readValue]
  split <;> simp_all
  exact Rest.val_of (by simp only [List.length_cons]; omega)

theorem reads_emptyArray (hs : skipSpace s = ']' :: rest) : Reads ('[' :: s) (.array []) rest := by
  have hskip := skipSpace_cons (c := '[') rfl s
  unfold Reads
  rw [readValue]
  split <;> simp_all
  subst hskip
  split <;> simp_all

theorem reads_array (hs : ∀ r, skipSpace s ≠ ']' :: r) :
    Reads ('[' :: s) (.array (readItems s).1) (readItems s).2.val := by
  have hskip := skipSpace_cons (c := '[') rfl s
  unfold Reads
  rw [readValue]
  split <;> simp_all
  subst hskip
  simp

theorem reads_emptyObject (hs : skipSpace s = '\x7d' :: rest) :
    Reads ('\x7b' :: s) (.object []) rest := by
  have hskip := skipSpace_cons (c := '\x7b') rfl s
  unfold Reads
  rw [readValue]
  split <;> simp_all
  subst hskip
  split <;> simp_all

theorem reads_object (hs : ∀ r, skipSpace s ≠ '\x7d' :: r) :
    Reads ('\x7b' :: s) (.object (readMembers s).1) (readMembers s).2.val := by
  have hskip := skipSpace_cons (c := '\x7b') rfl s
  unfold Reads
  rw [readValue]
  split <;> simp_all
  subst hskip
  simp

/-- The character is neither a blank nor one that starts another kind of value. -/
theorem startsNumber {c : Char} (hc : c.isDigit = true ∨ c = '-') :
    isSpace c = false ∧ c ∉ ['[', '\x7b', '"', 't', 'f', 'n'] := by
  rcases hc with hc | rfl
  · have hne : ∀ d : Char, d.isDigit = false → c ≠ d := by
      rintro d hd rfl
      rw [hc] at hd
      cases hd
    constructor
    · simp [isSpace, hne ' ' rfl, hne '\n' rfl, hne '\t' rfl, hne '\r' rfl]
    · simp [hne '[' rfl, hne '\x7b' rfl, hne '"' rfl, hne 't' rfl, hne 'f' rfl, hne 'n' rfl]
  · decide

theorem reads_number {c : Char} {n : Number} (hc : c.isDigit = true ∨ c = '-')
    (hs : readNumber (c :: s) = some (n, rest)) (hlen : rest.length ≤ s.length + 1) :
    Reads (c :: s) (.number n) rest := by
  obtain ⟨hspace, hstart⟩ := startsNumber hc
  have hskip := skipSpace_cons hspace s
  unfold Reads
  rw [readValue]
  split
  case h_8 =>
    rename_i h
    obtain ⟨rfl, rfl⟩ := List.cons.inj (hskip.symm.trans h)
    simp only [hs]
    exact ⟨trivial, Rest.val_of (by simpa using hlen)⟩
  all_goals
    rename_i h
    have := hskip.symm.trans h
    simp_all

/-- The items of an array, from the next one on. -/
def ReadsItems (s : List Char) (items : List Json) (rest : List Char) : Prop :=
  (readItems s).1 = items ∧ (readItems s).2.val = rest

/-- The members of an object, from the next one on. -/
def ReadsMembers (s : List Char) (members : List (List Char × Json)) (rest : List Char) : Prop :=
  (readMembers s).1 = members ∧ (readMembers s).2.val = rest

/-- After an item comes the end of the array, or a comma and the other items. -/
theorem readsItems_cons {item : Json} {items : List Json} {after : List Char}
    (hitem : Reads s item after)
    (hafter : (skipSpace after = ']' :: rest ∧ items = []) ∨
      ∃ s', skipSpace after = ',' :: s' ∧ ReadsItems s' items rest) :
    ReadsItems s (item :: items) rest := by
  obtain ⟨rfl, rfl⟩ := hitem
  unfold ReadsItems
  rw [readItems]
  obtain ⟨hend, rfl⟩ | ⟨s', hcomma, rfl, rfl⟩ := hafter
  · dsimp only
    split <;> simp_all
  · dsimp only
    split <;> simp_all
    subst hcomma
    exact ⟨rfl, rfl⟩

/-- After a member comes the end of the object, or a comma and the other members. -/
theorem readsMembers_cons {key k v s' : List Char} {value : Json} {after : List Char}
    {members : List (List Char × Json)}
    (hs : skipSpace s = '"' :: k) (hkey : readSpelling k = some (key, s'))
    (hcolon : skipSpace s' = ':' :: v) (hvalue : Reads v value after)
    (hafter : (skipSpace after = '\x7d' :: rest ∧ members = []) ∨
      ∃ s'', skipSpace after = ',' :: s'' ∧ ReadsMembers s'' members rest) :
    ReadsMembers s ((key, value) :: members) rest := by
  obtain ⟨rfl, rfl⟩ := hvalue
  unfold ReadsMembers
  rw [readMembers]
  split
  case h_2 h => exact absurd hs (h _)
  rename_i h
  obtain ⟨-, rfl⟩ := List.cons.inj (hs.symm.trans h)
  split
  · simp_all
  rename_i h
  obtain ⟨rfl, rfl⟩ := Prod.mk.inj (Option.some.inj (hkey.symm.trans h))
  split
  case h_2 h => exact absurd hcolon (h _)
  rename_i h
  obtain ⟨-, rfl⟩ := List.cons.inj (hcolon.symm.trans h)
  obtain ⟨hend, rfl⟩ | ⟨s'', hcomma, rfl, rfl⟩ := hafter
  · dsimp only
    split <;> simp_all
  · dsimp only
    split <;> simp_all
    subst hcomma
    exact ⟨rfl, rfl⟩

end

/-! ## A tree's text is read as the tree -/

theorem Number.render_head {n : Number} (hn : n.IsWhole) :
    ∃ c s, n.render = c :: s ∧ (c.isDigit = true ∨ c = '-') := by
  obtain ⟨negative, whole, fraction, exponent⟩ := n
  obtain ⟨rfl, rfl⟩ : fraction = [] ∧ exponent = none := hn
  cases negative with
  | true => exact ⟨'-', Text.decimal whole, by simp [Number.render], .inr rfl⟩
  | false =>
    cases hd : Text.decimal whole with
    | nil => exact absurd hd (Text.decimal_ne_nil whole)
    | cons c s =>
      exact ⟨c, s, by simp [Number.render, hd],
        .inl (Text.isDigit_of_mem_decimal (hd ▸ List.mem_cons_self))⟩

/-- The text of a tree starts with a character that is neither a blank nor closes anything. -/
theorem renderChars_head {j : Json} (hj : j.Printable) :
    ∃ c s, j.renderChars = c :: s ∧ isSpace c = false ∧ c ≠ ']' ∧ c ≠ '\x7d' := by
  match j, hj with
  | .null, _ => exact ⟨_, _, rfl, by decide⟩
  | .bool true, _ => exact ⟨_, _, rfl, by decide⟩
  | .bool false, _ => exact ⟨_, _, rfl, by decide⟩
  | .string spelled, _ => exact ⟨_, _, rfl, by decide⟩
  | .array [], _ => exact ⟨_, _, rfl, by decide⟩
  | .array (item :: rest), _ => exact ⟨_, _, rfl, by decide⟩
  | .object [], _ => exact ⟨_, _, rfl, by decide⟩
  | .object ((key, value) :: rest), _ => exact ⟨_, _, rfl, by decide⟩
  | .number n, hn =>
    obtain ⟨c, s, hrender, hc⟩ := Number.render_head hn
    refine ⟨c, s, by rw [renderChars, hrender], (startsNumber hc).1, ?_, ?_⟩
    · rintro rfl
      revert hc
      decide
    · rintro rfl
      revert hc
      decide

theorem endsNumber_renderItems (items : List Json) (rest : List Char) :
    EndsNumber (renderItems items ++ rest) := by
  cases items <;> (intro c hc; cases hc; decide)

theorem endsNumber_renderMembers (members : List (List Char × Json)) (rest : List Char) :
    EndsNumber (renderMembers members ++ rest) := by
  rcases members with _ | ⟨⟨_, _⟩, _⟩ <;> (intro c hc; cases hc; decide)

/-- The text of the tree is read as the tree, whatever follows it. -/
def Legible (j : Json) : Prop :=
  ∀ rest, EndsNumber rest → Reads (j.renderChars ++ rest) j rest

mutual
theorem legible_of_printable : ∀ j : Json, j.Printable → j.Legible
  | .null, _ => fun _ _ => reads_null
  | .bool true, _ => fun _ _ => reads_true
  | .bool false, _ => fun _ _ => reads_false
  | .number n, hn => fun rest hrest => by
    obtain ⟨c, s, hrender, hc⟩ := Number.render_head hn
    have hread := readNumber_render hn hrest
    rw [renderChars, hrender]
    rw [hrender] at hread
    exact reads_number hc hread (by simp [List.length_append]; omega)
  | .string _, ⟨s, rfl⟩ => fun rest _ => by
    have := reads_string (readSpelling_escape s rest)
    simpa [renderChars, quote] using this
  | .array [], _ => fun _ _ => reads_emptyArray rfl
  | .array (item :: items), ⟨hitem, hitems⟩ => fun rest _ => by
    obtain ⟨c, s, hrender, hspace, hclose, -⟩ := renderChars_head hitem
    obtain ⟨hread, hrest'⟩ :=
      readsItems_render items hitems item (legible_of_printable item hitem) rest
    have := reads_array (s := item.renderChars ++ (renderItems items ++ rest)) fun r h => by
      rw [hrender, List.cons_append, skipSpace_cons hspace] at h
      exact hclose (List.cons.inj h).1
    rw [hread, hrest'] at this
    simpa [renderChars] using this
  | .object [], _ => fun _ _ => reads_emptyObject rfl
  | .object ((_, value) :: members), ⟨⟨key, rfl⟩, hvalue, hmembers⟩ => fun rest _ => by
    obtain ⟨hread, hrest'⟩ :=
      readsMembers_render members hmembers key value (legible_of_printable value hvalue) rest
    have := reads_object
      (s := quote (escape key) ++ ':' :: (value.renderChars ++ (renderMembers members ++ rest)))
      fun r h => by
        rw [quote, List.cons_append, List.cons_append, skipSpace_cons rfl] at h
        cases h
    rw [hread, hrest'] at this
    simpa [renderChars] using this

/-- Items are read up to the end of their array. -/
theorem readsItems_render : ∀ items : List Json, PrintableItems items →
    ∀ item : Json, item.Legible → ∀ rest : List Char,
      ReadsItems (item.renderChars ++ (renderItems items ++ rest)) (item :: items) rest
  | [], _, _, hitem, rest =>
    readsItems_cons (hitem _ (endsNumber_renderItems [] rest)) (.inl ⟨skipSpace_cons rfl rest, rfl⟩)
  | next :: items, ⟨hnext, hitems⟩, _, hitem, rest => by
    have := readsItems_render items hitems next (legible_of_printable next hnext) rest
    rw [← List.append_assoc] at this
    exact readsItems_cons (hitem _ (endsNumber_renderItems (next :: items) rest))
      (.inr ⟨_, skipSpace_cons rfl _, this⟩)

/-- Members are read up to the end of their object. -/
theorem readsMembers_render : ∀ members : List (List Char × Json), PrintableMembers members →
    ∀ (key : List Char) (value : Json), value.Legible → ∀ rest : List Char,
      ReadsMembers
        (quote (escape key) ++ ':' :: (value.renderChars ++ (renderMembers members ++ rest)))
        ((escape key, value) :: members) rest
  | [], _, key, value, hvalue, rest =>
    readsMembers_cons (skipSpace_cons rfl _)
      (by simpa using readSpelling_escape key _)
      (skipSpace_cons rfl _) (hvalue _ (endsNumber_renderMembers [] rest))
      (.inl ⟨skipSpace_cons rfl rest, rfl⟩)
  | (_, next) :: members, ⟨⟨key', rfl⟩, hnext, hmembers⟩, key, value, hvalue, rest => by
    have := readsMembers_render members hmembers key' next (legible_of_printable next hnext) rest
    refine readsMembers_cons (skipSpace_cons rfl _)
      (by simpa using readSpelling_escape key _)
      (skipSpace_cons rfl _) (hvalue _ (endsNumber_renderMembers ((escape key', next) :: members) rest))
      (.inr ⟨_, skipSpace_cons rfl _, ?_⟩)
    simpa using this
end

/-- A tree's text, alone, is read as the tree. -/
theorem read_render {j : Json} (hj : j.Printable) : read j.render.toList = ⟨j, true⟩ := by
  obtain ⟨hroot, hrest⟩ := legible_of_printable j hj [] fun _ h => nomatch h
  rw [List.append_nil] at hroot hrest
  have htext : j.render.toList = j.renderChars := String.toList_ofList
  have hread : ∀ s, read s = ⟨(readValue s).1, (skipSpace (readValue s).2.val).isEmpty⟩ :=
    fun _ => rfl
  rw [hread, htext, hroot, hrest]
  rfl

end Orchestrator.Json
