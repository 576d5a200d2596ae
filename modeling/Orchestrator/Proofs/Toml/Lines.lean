import Orchestrator.Proofs.Toml.Strings
import Orchestrator.Settings

/-!
# Lines of a document

A document of tables, each a header with a line for each of its keys, is read as those tables, in that
order: `read_documentText`. A line adds its key to the open table (`readLines_rows`), and a header puts the
open table behind the finished ones and opens the next (`readLines_blocks`).
-/
namespace Orchestrator.Toml

open Settings (line tableText)

/-! ## Keys -/

theorem isBlank_of_isBareKeyChar {c : Char} (hc : isBareKeyChar c = true) : isBlank c = false := by
  rw [Bool.eq_false_iff]
  intro h
  simp only [isBlank, Bool.or_eq_true, decide_eq_true_eq] at h
  rcases h with rfl | rfl <;> exact absurd hc (by decide)

/-- Can a key be written as it is? -/
def IsBare (key : String) : Prop := key.toList ≠ [] ∧ ∀ c ∈ key.toList, isBareKeyChar c = true

instance (key : String) : Decidable (IsBare key) :=
  decidable_of_iff (key.toList ≠ [] ∧ key.toList.all isBareKeyChar = true)
    (and_congr_right fun _ => List.all_eq_true)

theorem IsBare.exists_cons {key : String} (h : IsBare key) :
    ∃ c t, key.toList = c :: t ∧ isBareKeyChar c = true := by
  obtain ⟨c, t, hkey⟩ := List.exists_cons_of_ne_nil h.1
  exact ⟨c, t, hkey, h.2 c (hkey ▸ List.mem_cons_self)⟩

theorem IsBare.append_ne {key : String} (h : IsBare key) {c : Char} (hc : isBareKeyChar c = false)
    (rest t : List Char) : key.toList ++ rest ≠ c :: t := by
  intro heq
  obtain ⟨d, u, hkey, hd⟩ := h.exists_cons
  rw [hkey] at heq
  rw [(List.cons.inj heq).1, hc] at hd
  cases hd

theorem IsBare.skipBlanks_append {key : String} (h : IsBare key) (rest : List Char) :
    skipBlanks (key.toList ++ rest) = key.toList ++ rest := by
  obtain ⟨c, t, hkey, hc⟩ := h.exists_cons
  rw [hkey]
  exact skipBlanks_of_not_blank (isBlank_of_isBareKeyChar hc) _

theorem readSimpleKey_bare {key : String} (h : IsBare key) {c : Char} (hc : isBareKeyChar c = false)
    (rest : List Char) : readSimpleKey (key.toList ++ c :: rest) = some (key, c :: rest) := by
  have htake : (key.toList ++ c :: rest).takeWhile isBareKeyChar = key.toList := by
    rw [List.takeWhile_append_of_pos h.2, List.takeWhile_cons_of_neg (by simp [hc]), List.append_nil]
  rw [readSimpleKey.eq_3 _ (h.append_ne rfl _) (h.append_ne rfl _)]
  simp [htake, h.1]

/-- A bare key is read up to what follows it and the blanks before that. -/
theorem readKey_bare {key : String} (h : IsBare key) {blanks : List Char}
    (hblanks : ∀ c ∈ blanks, isBlank c = true) {c : Char} (hc : isBlank c = false)
    (hbare : isBareKeyChar c = false) (hdot : c ≠ '.') (rest : List Char) :
    readKey (key.toList ++ (blanks ++ c :: rest)) = some ([key], c :: rest) := by
  have hread : readSimpleKey (key.toList ++ (blanks ++ c :: rest)) = some (key, blanks ++ c :: rest) := by
    cases blanks with
    | nil => exact readSimpleKey_bare h hbare rest
    | cons b blanks =>
      refine readSimpleKey_bare h (Bool.eq_false_iff.2 fun hb => ?_) _
      have := isBlank_of_isBareKeyChar hb
      rw [hblanks b List.mem_cons_self] at this
      cases this
  have hafter : skipBlanks (blanks ++ c :: rest) = c :: rest := by
    rw [skipBlanks, List.dropWhile_append_of_pos hblanks]
    exact skipBlanks_of_not_blank hc rest
  rw [readKey, depthLimit, readKeyParts, h.skipBlanks_append, hread]
  simp only [Option.bind_eq_bind, Option.bind_some, hafter]
  split
  · rename_i heq
    exact absurd (List.cons.inj heq).1 hdot
  · rfl

/-! ## Rows -/

/-- A line of a table: a key with its value, and how the value is written. -/
structure Row where
  key : String
  text : List Char
  value : Value

namespace Row

/-- The entry that the line makes. -/
def entry (r : Row) : String × Value := (r.key, r.value)

/-- The line. -/
def chars (r : Row) : List Char := line r.key r.text

/-- The text is one from which the value is read, in whatever document it stands. -/
structure IsWritten (r : Row) : Prop where
  key : IsBare r.key
  cr : '\r' ∉ r.text
  reads : ∀ fuel rest, '\r' ∉ rest →
    readValue (fuel + 1) depthLimit (skipBlanks (r.text ++ '\n' :: rest)) = some (r.value, '\n' :: rest)

theorem IsWritten.cr_notMem_chars {r : Row} (h : r.IsWritten) : '\r' ∉ r.chars := by
  have hkey : '\r' ∉ r.key.toList := fun hmem => absurd (h.key.2 _ hmem) (by decide)
  simp [chars, line, hkey, h.cr]

theorem chars_ne_nil (r : Row) : r.chars ≠ [] := by simp [chars, line]

end Row

/-- A new key is put behind the others. -/
theorem Entries.set_new {entries : Entries} {key : String} (hnew : entries.find? key = none)
    (value : Value) : entries.set key value = entries ++ [(key, value)] := by
  have habsent : ¬ (entries.any fun e => e.1 = key) = true := by
    rw [Entries.find?, Option.map_eq_none_iff, List.find?_eq_none] at hnew
    rw [List.any_eq_true]
    rintro ⟨e, he, heq⟩
    exact hnew e he heq
  rw [Entries.set, if_neg habsent]

theorem addValue_new {entries : Entries} {key : String} (hnew : entries.find? key = none)
    (value : Value) : addValue .explicit entries [key] value = some (entries ++ [(key, value)]) := by
  simp [addValue, descend, addNew, hnew, Entries.set_new]

/-- A line adds its key to the open table. -/
theorem readLines_row {r : Row} (h : r.IsWritten) {d : Draft} (hnew : d.opened.find? r.key = none)
    {rest : List Char} (hrest : '\r' ∉ rest) (fuel : Nat) :
    readLines (fuel + 1) d (r.chars ++ rest)
      = readLines fuel { d with opened := d.opened ++ [r.entry] } rest := by
  have hchars : r.chars ++ rest = r.key.toList ++ ([' '] ++ '=' :: ' ' :: (r.text ++ '\n' :: rest)) := by
    simp [Row.chars, line]
  have hskip : skipBlanks (r.chars ++ rest) = r.chars ++ rest := by
    rw [hchars, h.key.skipBlanks_append]
  have hstart : ∀ x u, isBareKeyChar x = false → r.chars ++ rest ≠ x :: u := fun x u hx =>
    hchars ▸ h.key.append_ne hx _ u
  have hblank : ∀ c ∈ [' '], isBlank c = true := List.forall_mem_singleton.2 rfl
  have hequal : isBlank '=' = false := rfl
  have read := readKey_bare h.key hblank hequal rfl (by decide) (' ' :: (r.text ++ '\n' :: rest))
  have hspace : skipBlanks (' ' :: (r.text ++ '\n' :: rest)) = skipBlanks (r.text ++ '\n' :: rest) :=
    rfl
  rw [readLines, hskip]
  split
  · rename_i heq
    simp [Row.chars, line] at heq
  · rename_i heq
    exact absurd heq (hstart '#' _ rfl)
  · rename_i heq
    exact absurd heq (hstart '\n' _ rfl)
  · rename_i heq
    exact absurd heq (hstart '\r' _ rfl)
  · rename_i heq
    exact absurd heq (hstart '[' _ rfl)
  · rename_i heq
    exact absurd heq (hstart '[' _ rfl)
  · rw [hchars, read]
    simp only [Option.bind_eq_bind, Option.bind_some, Instant.readChar, if_pos, hspace,
      h.reads _ rest hrest, addValue_new hnew]
    rfl

theorem find?_append_of_ne {entries : Entries} {e : String × Value} {key : String}
    (hentries : entries.find? key = none) (he : e.1 ≠ key) :
    Entries.find? (entries ++ [e]) key = none := by
  rw [Entries.find?, Option.map_eq_none_iff] at hentries ⊢
  rw [List.find?_append, hentries, Option.none_or, List.find?_cons_of_neg (by simpa using he),
    List.find?_nil]

/-- Lines with different keys make their entries, in their order. -/
theorem readLines_rows {rows : List Row} (h : ∀ r ∈ rows, r.IsWritten)
    (hkeys : (rows.map Row.key).Nodup) {d : Draft}
    (hnew : ∀ r ∈ rows, d.opened.find? r.key = none) {rest : List Char} (hrest : '\r' ∉ rest)
    (fuel : Nat) :
    readLines (fuel + rows.length) d ((rows.map Row.chars).flatten ++ rest)
      = readLines fuel { d with opened := d.opened ++ rows.map Row.entry } rest := by
  induction rows generalizing d with
  | nil => simp
  | cons r rows ih =>
    obtain ⟨hr, hrows⟩ := List.forall_mem_cons.1 h
    obtain ⟨hnewr, hnewrows⟩ := List.forall_mem_cons.1 hnew
    rw [List.map_cons, List.nodup_cons] at hkeys
    have hafter : '\r' ∉ (rows.map Row.chars).flatten ++ rest := by
      have hcr : ∀ r ∈ rows, '\r' ∉ r.chars := fun r hr => (hrows r hr).cr_notMem_chars
      simpa [hrest] using hcr
    have hnew' : ∀ r' ∈ rows, Entries.find? (d.opened ++ [r.entry]) r'.key = none := fun r' hr' =>
      find?_append_of_ne (hnewrows r' hr') fun heq =>
        hkeys.1 (List.mem_map.2 ⟨r', hr', heq.symm⟩)
    have hrow := readLines_row hr hnewr hafter (fuel + rows.length)
    rw [List.map_cons, List.flatten_cons, List.append_assoc, List.length_cons, ← Nat.add_assoc, hrow,
      ih hrows hkeys.2 hnew']
    simp

/-! ## Tables -/

/-- A table with its header and its lines. -/
structure Block where
  name : String
  rows : List Row

namespace Block

def entry (b : Block) : String × Value := (b.name, .table .explicit (b.rows.map Row.entry))

/-- The header and the lines. -/
def chars (b : Block) : List Char := tableText b.name (b.rows.map Row.chars)

structure IsWritten (b : Block) : Prop where
  name : IsBare b.name
  rows : ∀ r ∈ b.rows, r.IsWritten
  keys : (b.rows.map Row.key).Nodup

/-- The lines that are read, with the empty one before the header. -/
def size (b : Block) : Nat := b.rows.length + 2

end Block

theorem readLines_newline (fuel : Nat) (d : Draft) (rest : List Char) :
    readLines (fuel + 1) d ('\n' :: rest) = readLines fuel d rest := rfl

/-- A header puts the open table in its place and opens the next one. -/
theorem readLines_header {name : String} (h : IsBare name) {d : Draft} {root : Entries}
    (hclose : d.close = some root) (hnew : root.find? name = none) (fuel : Nat) (rest : List Char) :
    readLines (fuel + 1) d ('[' :: (name.toList ++ ']' :: '\n' :: rest))
      = readLines fuel ⟨root, [name], false, []⟩ rest := by
  have hblank : isBlank ']' = false := rfl
  have read := readKey_bare h (List.forall_mem_nil _) hblank rfl (by decide) ('\n' :: rest)
  have hone : ∀ u, name.toList ++ ']' :: '\n' :: rest ≠ '[' :: u := h.append_ne rfl _
  rw [readLines, skipBlanks_of_not_blank rfl]
  split
  · rename_i heq
    cases heq
  · rename_i heq
    cases heq
  · rename_i heq
    cases heq
  · rename_i heq
    cases heq
  · rename_i heq
    exact absurd (List.cons.inj heq).2 (hone _)
  · rename_i heq
    rw [← (List.cons.inj heq).2]
    rw [List.nil_append] at read
    simp only [read, Option.bind_eq_bind, Option.bind_some, Draft.header, hclose, priorEntries, hnew]
    rfl
  · rename_i hheader
    exact absurd rfl (hheader _)

/-- The open table is put behind the finished ones. -/
theorem Draft.close_new {root opened : Entries} {name : String} (hnew : root.find? name = none) :
    Draft.close ⟨root, [name], false, opened⟩ = some (root ++ [(name, .table .explicit opened)]) := by
  simp [Draft.close, descend, hnew, Entries.set_new]

/-- A table is read from its header and its lines. -/
theorem readLines_block {b : Block} (h : b.IsWritten) {d : Draft} {root : Entries}
    (hclose : d.close = some root) (hnew : root.find? b.name = none) {rest : List Char}
    (hrest : '\r' ∉ rest) (fuel : Nat) :
    readLines (fuel + b.size) d ('\n' :: (b.chars ++ rest))
      = readLines fuel ⟨root, [b.name], false, b.rows.map Row.entry⟩ rest := by
  have hchars : b.chars ++ rest
      = '[' :: (b.name.toList ++ ']' :: '\n' :: ((b.rows.map Row.chars).flatten ++ rest)) := by
    simp [Block.chars, tableText]
  have hrows := @readLines_rows b.rows h.rows h.keys ⟨root, [b.name], false, []⟩
    (fun _ _ => rfl) rest hrest fuel
  rw [Block.size, ← Nat.add_assoc, readLines_newline, hchars, readLines_header h.name hclose hnew,
    hrows, List.nil_append]

theorem Block.IsWritten.cr_notMem_chars {b : Block} (h : b.IsWritten) : '\r' ∉ b.chars := by
  have hname : '\r' ∉ b.name.toList := fun hmem => absurd (h.name.2 _ hmem) (by decide)
  have hrows : ∀ r ∈ b.rows, '\r' ∉ r.chars := fun r hr => (h.rows r hr).cr_notMem_chars
  simpa [Block.chars, tableText, hname] using hrows

/-- A table takes no more lines than it has characters. -/
theorem Block.size_le (b : Block) : b.size ≤ ('\n' :: b.chars).length := by
  have hrows : ∀ rows : List Row, rows.length ≤ (rows.map Row.chars).flatten.length := by
    intro rows
    induction rows with
    | nil => exact Nat.le_refl _
    | cons r rows ih =>
      have := List.length_pos_iff.2 r.chars_ne_nil
      rw [List.map_cons, List.flatten_cons, List.length_append, List.length_cons]
      omega
  have := hrows b.rows
  simp only [Block.size, Block.chars, tableText, List.length_cons, List.length_append]
  omega

/-- Tables with different names, each after an empty line, are read in their order. -/
theorem readLines_blocks {blocks : List Block} (h : ∀ b ∈ blocks, b.IsWritten)
    (hnames : (blocks.map Block.name).Nodup) {d : Draft} {root : Entries}
    (hclose : d.close = some root) (hnew : ∀ b ∈ blocks, root.find? b.name = none) {fuel : Nat}
    (hfuel : (blocks.flatMap fun b => '\n' :: b.chars).length < fuel) :
    readLines fuel d (blocks.flatMap fun b => '\n' :: b.chars)
      = some (root ++ blocks.map Block.entry) := by
  induction blocks generalizing d root fuel with
  | nil =>
    obtain ⟨fuel, rfl⟩ := Nat.exists_eq_succ_of_ne_zero (Nat.ne_of_gt hfuel)
    rw [List.map_nil, List.append_nil]
    exact hclose
  | cons b blocks ih =>
    obtain ⟨hb, hblocks⟩ := List.forall_mem_cons.1 h
    obtain ⟨hnewb, hnewblocks⟩ := List.forall_mem_cons.1 hnew
    rw [List.map_cons, List.nodup_cons] at hnames
    have hafter : '\r' ∉ blocks.flatMap fun b => '\n' :: b.chars := by
      have hcr : ∀ b ∈ blocks, '\r' ∉ b.chars := fun b hb => (hblocks b hb).cr_notMem_chars
      simpa using hcr
    have hclose' : Draft.close ⟨root, [b.name], false, b.rows.map Row.entry⟩
        = some (root ++ [b.entry]) := Draft.close_new hnewb
    have hnew' : ∀ b' ∈ blocks, Entries.find? (root ++ [b.entry]) b'.name = none := fun b' hb' =>
      find?_append_of_ne (hnewblocks b' hb') fun heq =>
        hnames.1 (List.mem_map.2 ⟨b', hb', heq.symm⟩)
    -- the lines of this table, and enough for the others
    rw [List.flatMap_cons, List.length_append] at hfuel
    have hsize := b.size_le
    obtain ⟨fuel, rfl⟩ := Nat.exists_eq_add_of_le' (show b.size ≤ fuel by omega)
    have hrest : (blocks.flatMap fun b => '\n' :: b.chars).length < fuel := by omega
    rw [List.flatMap_cons, List.cons_append, readLines_block hb hclose hnewb hafter,
      ih hblocks hnames.2 hclose' hnew' hrest]
    simp [Block.entry]

/-! ## Documents -/

/-- Tables with an empty line between each and the next. -/
def documentText : List Block → List Char
  | [] => []
  | b :: blocks => b.chars ++ blocks.flatMap fun b => '\n' :: b.chars

/-- A document of tables with different names is read as these tables. -/
theorem read_documentText {blocks : List Block} (h : ∀ b ∈ blocks, b.IsWritten)
    (hnames : (blocks.map Block.name).Nodup) :
    read (documentText blocks) = some (blocks.map Block.entry) := by
  cases blocks with
  | nil => rfl
  | cons b blocks =>
    have htext : '\n' :: documentText (b :: blocks)
        = (b :: blocks).flatMap fun b => '\n' :: b.chars := rfl
    have hmark : skipMark (documentText (b :: blocks)) = documentText (b :: blocks) := rfl
    have hfuel : ((b :: blocks).flatMap fun b => '\n' :: b.chars).length
        < (documentText (b :: blocks)).length + 1 + 1 := by
      rw [← htext, List.length_cons]
      exact Nat.lt_succ_self _
    have hnone : ∀ b' ∈ b :: blocks, Entries.find? [] b'.name = none := fun _ _ => rfl
    have hread := @readLines_blocks _ h hnames ⟨[], [], false, []⟩ [] rfl hnone _ hfuel
    rw [read, hmark, ← readLines_newline, htext, hread, List.nil_append]

end Orchestrator.Toml
