import Mathlib.Data.List.Nodup
import Mathlib.Data.List.Perm.Basic
import Orchestrator.SortedMap

/-!
# Maps made from lists

A map is known by what is found in it (`ext_find?`). In a map made from a list, what is found under a key is
what the last entry of the list for that key has (`find?_insertAll`). So when no key comes twice, the order of
the list does not matter: `ofList_perm`.
-/
namespace Orchestrator.SortedMap

variable {κ ν : Type} [Ord κ] {k : κ} {v : ν} {l l' : List (κ × ν)}

theorem lookup_append (k : κ) (l l' : List (κ × ν)) :
    lookup k (l ++ l') = (lookup k l).or (lookup k l') := by
  induction l with
  | nil => rfl
  | cons e l ih =>
    rw [List.cons_append, lookup, lookup, ih]
    split <;> rfl

section

variable [Std.TransOrd κ]

/-- Under each key stands what the last entry for it has; keys without an entry are as before. -/
theorem find?_insertAll (m : SortedMap κ ν) (l : List (κ × ν)) (k : κ) :
    (m.insertAll l).find? k = (lookup k l.reverse).or (m.find? k) := by
  induction l generalizing m with
  | nil => rfl
  | cons e l ih =>
    have hrest : (m.insertAll (e :: l)).find? k = (lookup k l.reverse).or ((m.insert e.1 e.2).find? k) :=
      ih (m.insert e.1 e.2)
    rw [hrest, find?_insert, List.reverse_cons, lookup_append, Option.or_assoc]
    by_cases h : compare k e.1 = .eq <;> simp [lookup, h]

theorem mem_entries_insertAll {m : SortedMap κ ν} {e : κ × ν} (h : e ∈ (m.insertAll l).entries) :
    e ∈ m.entries ∨ e ∈ l := by
  induction l generalizing m with
  | nil => exact .inl h
  | cons a rest ih =>
    rcases ih h with h | h
    · rcases mem_insertEntry h with rfl | h
      · exact .inr List.mem_cons_self
      · exact .inl h
    · exact .inr (List.mem_cons_of_mem a h)

theorem mem_of_mem_entries_ofList {e : κ × ν} (h : e ∈ (ofList l).entries) : e ∈ l :=
  (mem_entries_insertAll (m := empty) h).resolve_left List.not_mem_nil

theorem find?_ofList (l : List (κ × ν)) (k : κ) : (ofList l).find? k = lookup k l.reverse := by
  rw [ofList, ← insertAll, find?_insertAll]
  exact Option.or_none

end

section

variable [Std.LawfulEqOrd κ]

theorem isSome_lookup : (lookup k l).isSome = true ↔ k ∈ l.map Prod.fst := by
  induction l with
  | nil => simp [lookup]
  | cons e l ih =>
    by_cases h : k = e.1 <;> simp [lookup, h, ih]

/-- When no key comes twice, an entry is found under its key wherever it stands. -/
theorem lookup_eq_some_iff (hnodup : (l.map Prod.fst).Nodup) : lookup k l = some v ↔ (k, v) ∈ l := by
  induction l with
  | nil => simp [lookup]
  | cons e l ih =>
    obtain ⟨hnew, hrest⟩ := List.nodup_cons.1 hnodup
    by_cases h : k = e.1
    · subst h
      have hnot : (e.1, v) ∉ l := fun hmem => hnew (List.mem_map.2 ⟨_, hmem, rfl⟩)
      simp [lookup, hnot, Prod.ext_iff, eq_comm]
    · have hne : (k, v) ≠ e := fun heq => h (congrArg Prod.fst heq)
      simp [lookup, h, hne, ih hrest]

/-- The order of entries with different keys does not matter. -/
theorem lookup_perm (h : l.Perm l') (hnodup : (l.map Prod.fst).Nodup) (k : κ) : lookup k l = lookup k l' := by
  apply Option.ext
  intro v
  rw [lookup_eq_some_iff hnodup, lookup_eq_some_iff ((h.map Prod.fst).nodup_iff.1 hnodup), h.mem_iff]

theorem mem_keys_iff {m : SortedMap κ ν} : k ∈ m.keys ↔ m.contains k = true := isSome_lookup.symm

theorem find?_eq_none_iff {m : SortedMap κ ν} : m.find? k = none ↔ k ∉ m.keys := by
  rw [mem_keys_iff, contains, Bool.not_eq_true, Option.isSome_eq_false_iff, Option.isNone_iff_eq_none]

theorem nodup_keys (m : SortedMap κ ν) : m.keys.Nodup := by
  unfold keys List.Nodup
  rw [List.pairwise_map]
  refine m.sorted.imp fun {a b} hlt heq => ?_
  have hself : compare a.1 b.1 = .eq := Std.LawfulEqOrd.compare_eq_iff_eq.2 heq
  rw [hself] at hlt
  cases hlt

theorem mem_entries_iff {m : SortedMap κ ν} : (k, v) ∈ m.entries ↔ m.find? k = some v :=
  (lookup_eq_some_iff m.nodup_keys).symm

variable [Std.TransOrd κ]

/-- A map that is added to another one is seen in front of it. -/
theorem find?_insertAll_entries (m m' : SortedMap κ ν) (k : κ) :
    (m.insertAll m'.entries).find? k = (m'.find? k).or (m.find? k) := by
  have hreverse : lookup k m'.entries.reverse = m'.find? k :=
    (lookup_perm (List.reverse_perm m'.entries).symm m'.nodup_keys k).symm
  rw [find?_insertAll, hreverse]

/-- Maps in which the same is found are the same. -/
theorem ext_find? {m m' : SortedMap κ ν} (h : ∀ k, m.find? k = m'.find? k) : m = m' := by
  have hmem : ∀ e, e ∈ m.entries ↔ e ∈ m'.entries := by
    rintro ⟨k, v⟩
    rw [mem_entries_iff, mem_entries_iff, h]
  have hperm : m.entries.Perm m'.entries :=
    (List.perm_ext_iff_of_nodup m.nodup_keys.of_map m'.nodup_keys.of_map).2 hmem
  refine SortedMap.ext (hperm.eq_of_pairwise ?_ m.sorted m'.sorted)
  intro a b _ _ hab hba
  rw [Std.OrientedCmp.gt_of_lt hab] at hba
  cases hba

/-- A map made from entries with different keys does not depend on their order. -/
theorem ofList_perm (h : l.Perm l') (hnodup : (l.map Prod.fst).Nodup) : ofList l = ofList l' := by
  apply ext_find?
  intro k
  have hreverse : (l.reverse.map Prod.fst).Nodup := by
    rw [List.map_reverse, List.nodup_reverse]
    exact hnodup
  have hperm : l.reverse.Perm l'.reverse :=
    (List.reverse_perm l).trans (h.trans (List.reverse_perm l').symm)
  rw [find?_ofList, find?_ofList, lookup_perm hperm hreverse]

end

end Orchestrator.SortedMap
