/-!
Finite maps in key order. A map is the list of its entries, in strictly increasing order of keys,
so two maps with the same entries are the same value. `find?` is the view every operation is
described by: `find?_insert` and `find?_erase`.
-/
namespace Orchestrator

/-- A finite map whose entries stand in strictly increasing order of keys. -/
@[ext] structure SortedMap (κ : Type) (ν : Type) [Ord κ] where
  entries : List (κ × ν)
  sorted : entries.Pairwise fun a b => compare a.1 b.1 = .lt

namespace SortedMap

variable {κ ν : Type} [Ord κ]

instance [DecidableEq κ] [DecidableEq ν] : DecidableEq (SortedMap κ ν) := fun a b =>
  decidable_of_iff (a.entries = b.entries) SortedMap.ext_iff.symm

/-- The map without entries. -/
def empty : SortedMap κ ν := ⟨[], .nil⟩

instance : EmptyCollection (SortedMap κ ν) := ⟨empty⟩
instance : Inhabited (SortedMap κ ν) := ⟨empty⟩

/-- The keys, in order. -/
def keys (m : SortedMap κ ν) : List κ := m.entries.map Prod.fst

/-- The values, in the order of their keys. -/
def values (m : SortedMap κ ν) : List ν := m.entries.map Prod.snd

def size (m : SortedMap κ ν) : Nat := m.entries.length

def isEmpty (m : SortedMap κ ν) : Bool := m.entries.isEmpty

/-- The value of the first entry for a key. -/
def lookup (k : κ) : List (κ × ν) → Option ν
  | [] => none
  | (k', v) :: rest => if compare k k' = .eq then some v else lookup k rest

/-- The value under a key. -/
def find? (m : SortedMap κ ν) (k : κ) : Option ν := lookup k m.entries

def contains (m : SortedMap κ ν) (k : κ) : Bool := (m.find? k).isSome

/-- Puts an entry in its place; an entry with the same key is replaced. -/
def insertEntry (k : κ) (v : ν) : List (κ × ν) → List (κ × ν)
  | [] => [(k, v)]
  | (k', v') :: rest =>
    match compare k k' with
    | .lt => (k, v) :: (k', v') :: rest
    | .eq => (k, v) :: rest
    | .gt => (k', v') :: insertEntry k v rest

section Laws

variable [Std.TransOrd κ]

omit [Std.TransOrd κ] in
theorem mem_insertEntry {k : κ} {v : ν} {a : κ × ν} {l : List (κ × ν)}
    (h : a ∈ insertEntry k v l) : a = (k, v) ∨ a ∈ l := by
  induction l with
  | nil => simpa [insertEntry] using h
  | cons e rest ih =>
    obtain ⟨k', v'⟩ := e
    simp only [insertEntry] at h
    split at h
    · simpa using h
    · rcases List.mem_cons.1 h with h | h
      · exact .inl h
      · exact .inr (List.mem_cons_of_mem _ h)
    · rcases List.mem_cons.1 h with h | h
      · exact .inr (h ▸ List.mem_cons_self)
      · rcases ih h with h | h
        · exact .inl h
        · exact .inr (List.mem_cons_of_mem _ h)

theorem sorted_insertEntry {k : κ} {v : ν} {l : List (κ × ν)}
    (h : l.Pairwise fun a b => compare a.1 b.1 = .lt) :
    (insertEntry k v l).Pairwise fun a b => compare a.1 b.1 = .lt := by
  induction l with
  | nil => simp [insertEntry]
  | cons e rest ih =>
    obtain ⟨k', v'⟩ := e
    have hrest := List.pairwise_cons.1 h
    simp only [insertEntry]
    split
    · rename_i hlt
      refine List.pairwise_cons.2 ⟨fun a ha => ?_, h⟩
      rcases List.mem_cons.1 ha with rfl | ha
      · exact hlt
      · exact Std.TransCmp.lt_trans hlt (hrest.1 a ha)
    · rename_i heq
      refine List.pairwise_cons.2 ⟨fun a ha => ?_, hrest.2⟩
      exact Std.TransCmp.lt_of_eq_of_lt heq (hrest.1 a ha)
    · rename_i hgt
      refine List.pairwise_cons.2 ⟨fun a ha => ?_, ih hrest.2⟩
      rcases mem_insertEntry ha with rfl | ha
      · exact Std.OrientedCmp.lt_of_gt hgt
      · exact hrest.1 a ha

/-- The map with `v` under `k`, and every other key as before. -/
def insert (m : SortedMap κ ν) (k : κ) (v : ν) : SortedMap κ ν :=
  ⟨insertEntry k v m.entries, sorted_insertEntry m.sorted⟩

/-- The map of the entries of a list; of two entries with the same key the later one stays. -/
def ofList (l : List (κ × ν)) : SortedMap κ ν :=
  l.foldl (fun m e => m.insert e.1 e.2) empty

/-- The map with the entries of a list added in turn. -/
def insertAll (m : SortedMap κ ν) (l : List (κ × ν)) : SortedMap κ ν :=
  l.foldl (fun m e => m.insert e.1 e.2) m

end Laws

/-- The map with the entries that satisfy `p`. -/
def filter (p : κ → ν → Bool) (m : SortedMap κ ν) : SortedMap κ ν :=
  ⟨m.entries.filter fun e => p e.1 e.2, m.sorted.filter _⟩

/-- The map without a key. -/
def erase (m : SortedMap κ ν) (k : κ) : SortedMap κ ν :=
  m.filter fun k' _ => compare k k' ≠ .eq

/-- The map with every value replaced by its image. -/
def map {μ : Type} (f : κ → ν → μ) (m : SortedMap κ ν) : SortedMap κ μ :=
  ⟨m.entries.map fun e => (e.1, f e.1 e.2), by
    rw [List.pairwise_map]
    exact m.sorted⟩

/-- The entries whose keys lie between two bounds, both included. -/
def range (m : SortedMap κ ν) (low high : κ) : List (κ × ν) :=
  m.entries.filter fun e => (compare low e.1).isLE && (compare e.1 high).isLE

/-! ## The view -/

@[simp] theorem find?_empty (k : κ) : (∅ : SortedMap κ ν).find? k = none := rfl

theorem lookup_insertEntry [Std.TransOrd κ] (k k' : κ) (v : ν) (l : List (κ × ν)) :
    lookup k (insertEntry k' v l) = if compare k k' = .eq then some v else lookup k l := by
  induction l with
  | nil => simp [insertEntry, lookup]
  | cons e rest ih =>
    obtain ⟨k'', v''⟩ := e
    simp only [insertEntry]
    split
    · simp only [lookup]
    · rename_i heq
      simp only [lookup]
      by_cases h : compare k k' = .eq
      · simp [h]
      · have h' : compare k k'' ≠ .eq := fun h'' =>
          h (Std.TransCmp.eq_trans h'' (Std.OrientedCmp.eq_symm heq))
        simp [h, h']
    · rename_i hgt
      simp only [lookup, ih]
      by_cases h : compare k k'' = .eq
      · have h' : compare k k' ≠ .eq := fun h'' => by
          have := Std.TransCmp.eq_trans (Std.OrientedCmp.eq_symm h'') h
          simp [this] at hgt
        simp [h, h']
      · simp [h]

/-- An insertion is seen under its own key and under no other. -/
theorem find?_insert [Std.TransOrd κ] (m : SortedMap κ ν) (k k' : κ) (v : ν) :
    (m.insert k' v).find? k = if compare k k' = .eq then some v else m.find? k :=
  lookup_insertEntry k k' v m.entries

theorem lookup_filter_ne [Std.TransOrd κ] (k k' : κ) (l : List (κ × ν)) :
    lookup k (l.filter fun e => compare k' e.1 ≠ .eq)
      = if compare k k' = .eq then none else lookup k l := by
  induction l with
  | nil => simp [lookup]
  | cons e rest ih =>
    obtain ⟨k'', v''⟩ := e
    by_cases h : compare k' k'' = .eq
    · simp only [List.filter_cons, h, ne_eq, not_true_eq_false, decide_false,
        Bool.false_eq_true, if_false, ih, lookup]
      by_cases hk : compare k k' = .eq
      · simp [hk]
      · have : compare k k'' ≠ .eq := fun h'' =>
          hk (Std.TransCmp.eq_trans h'' (Std.OrientedCmp.eq_symm h))
        simp [hk, this]
    · simp only [List.filter_cons, h, ne_eq, not_false_eq_true, decide_true, if_true, lookup, ih]
      by_cases hk : compare k k' = .eq
      · have : compare k k'' ≠ .eq := fun h'' =>
          h (Std.TransCmp.eq_trans (Std.OrientedCmp.eq_symm hk) h'')
        simp [hk, this]
      · simp [hk]

/-- An erased key is gone and every other key is as before. -/
theorem find?_erase [Std.TransOrd κ] (m : SortedMap κ ν) (k k' : κ) :
    (m.erase k').find? k = if compare k k' = .eq then none else m.find? k :=
  lookup_filter_ne k k' m.entries

/-! ## What is found is what is there -/

theorem lookup_of_mem [Std.TransOrd κ] {l : List (κ × ν)}
    (hsorted : l.Pairwise fun a b => compare a.1 b.1 = .lt) {e : κ × ν} (h : e ∈ l) :
    lookup e.1 l = some e.2 := by
  induction l with
  | nil => cases h
  | cons a rest ih =>
    obtain ⟨hlt, hrest⟩ := List.pairwise_cons.1 hsorted
    rcases List.mem_cons.1 h with rfl | h
    · exact if_pos Std.ReflCmp.compare_self
    · have hne : compare e.1 a.1 ≠ .eq := by
        rw [Std.OrientedCmp.gt_of_lt (hlt e h)]
        exact Ordering.noConfusion
      exact (if_neg hne).trans (ih hrest h)

theorem exists_find?_of_mem_values [Std.TransOrd κ] {m : SortedMap κ ν} {v : ν} (h : v ∈ m.values) :
    ∃ k, m.find? k = some v := by
  obtain ⟨e, he, rfl⟩ := List.mem_map.1 h
  exact ⟨e.1, lookup_of_mem m.sorted he⟩

/-! ## Changes that change nothing -/

/-- Nothing is found under a key just when no entry has it. -/
theorem lookup_eq_none_iff {k : κ} {l : List (κ × ν)} :
    lookup k l = none ↔ ∀ a ∈ l, compare k a.1 ≠ .eq := by
  induction l with
  | nil => simp [lookup]
  | cons e rest ih =>
    obtain ⟨k', v'⟩ := e
    by_cases h : compare k k' = .eq <;> simp [lookup, h, ih]

theorem insertEntry_of_lookup [Std.TransOrd κ] [Std.LawfulEqOrd κ] {k : κ} {v : ν} {l : List (κ × ν)}
    (hsorted : l.Pairwise fun a b => compare a.1 b.1 = .lt) (h : lookup k l = some v) :
    insertEntry k v l = l := by
  induction l with
  | nil => cases h
  | cons e rest ih =>
    obtain ⟨k', v'⟩ := e
    have hrest := List.pairwise_cons.1 hsorted
    simp only [lookup] at h
    simp only [insertEntry]
    split
    · rename_i hlt
      -- a key in front of the first entry is in front of all
      have hnone : lookup k rest = none := by
        refine lookup_eq_none_iff.2 fun a ha => ?_
        rw [Std.TransCmp.lt_trans hlt (hrest.1 a ha)]
        exact Ordering.noConfusion
      rw [if_neg (by rw [hlt]; exact Ordering.noConfusion), hnone] at h
      cases h
    · rename_i heq
      rw [if_pos heq] at h
      rw [Std.LawfulEqOrd.eq_of_compare heq, Option.some.inj h]
    · rename_i hgt
      rw [if_neg (by rw [hgt]; exact Ordering.noConfusion)] at h
      rw [ih hrest.2 h]

/-- To insert what is there already changes nothing. -/
theorem insert_eq_self [Std.TransOrd κ] [Std.LawfulEqOrd κ] {m : SortedMap κ ν} {k : κ} {v : ν}
    (h : m.find? k = some v) : m.insert k v = m :=
  SortedMap.ext (insertEntry_of_lookup m.sorted h)

/-- To erase a key that is not there changes nothing. -/
theorem erase_eq_self {m : SortedMap κ ν} {k : κ} (h : m.contains k = false) : m.erase k = m := by
  have hnone : lookup k m.entries = none := by simpa [contains, find?] using h
  exact SortedMap.ext (List.filter_eq_self.2 fun a ha =>
    decide_eq_true (lookup_eq_none_iff.1 hnone a ha))

/-! ## Images of values -/

variable {μ : Type} (f : ν → μ)

theorem lookup_map (k : κ) (l : List (κ × ν)) :
    lookup k (l.map fun e => (e.1, f e.2)) = (lookup k l).map f := by
  induction l with
  | nil => rfl
  | cons e rest ih =>
    obtain ⟨k', v'⟩ := e
    by_cases h : compare k k' = .eq <;> simp [lookup, h, ih]

theorem find?_map (m : SortedMap κ ν) (k : κ) : (m.map fun _ => f).find? k = (m.find? k).map f :=
  lookup_map f k m.entries

theorem contains_map (m : SortedMap κ ν) (k : κ) : (m.map fun _ => f).contains k = m.contains k := by
  rw [contains, find?_map, Option.isSome_map, contains]

theorem values_map (m : SortedMap κ ν) : (m.map fun _ => f).values = m.values.map f := by
  simp [values, map]

theorem insertEntry_map (k : κ) (v : ν) (l : List (κ × ν)) :
    insertEntry k (f v) (l.map fun e => (e.1, f e.2)) = (insertEntry k v l).map fun e => (e.1, f e.2) := by
  induction l with
  | nil => rfl
  | cons e rest ih =>
    obtain ⟨k', v'⟩ := e
    simp only [List.map_cons, insertEntry]
    split
    · simp
    · simp
    · simp [ih]

theorem insert_map [Std.TransOrd κ] (m : SortedMap κ ν) (k : κ) (v : ν) :
    (m.map fun _ => f).insert k (f v) = (m.insert k v).map fun _ => f :=
  SortedMap.ext (insertEntry_map f k v m.entries)

theorem erase_map (m : SortedMap κ ν) (k : κ) :
    (m.map fun _ => f).erase k = (m.erase k).map fun _ => f :=
  SortedMap.ext List.filter_map

end SortedMap

end Orchestrator
