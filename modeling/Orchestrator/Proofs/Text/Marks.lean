/-!
# Texts up to a mark

Names are often written in a row with a mark behind each: a colon, an equals sign, the end of a quotation.
What was written can be told apart again as far as no name goes on with the mark from where another ends
(`eq_or_runsOn`), and so in particular if the mark occurs in none of them (`eq_of_mark`).
-/
namespace Orchestrator.Text

/-- The text goes on with the mark from where the other one ends. -/
def RunsOn (mark a b : List Char) : Prop := a ++ mark <+: b

instance (mark a b : List Char) : Decidable (RunsOn mark a b) := inferInstanceAs (Decidable (_ <+: _))

variable {c : Char} {mark a b r r' : List Char}

/-- A mark that starts behind a text, inside of another one, is all inside if its first character does not
come again in it. -/
theorem runsOn_of_append {t : List Char} (hc : c ∉ mark) (ht : t ≠ [])
    (h : c :: mark ++ r = t ++ (c :: mark ++ r')) : RunsOn (c :: mark) a (a ++ t) := by
  refine (List.prefix_append_right_inj a).2 ?_
  rcases List.append_eq_append_iff.1 h with ⟨u, rfl, -⟩ | ⟨u, hmark, hrest⟩
  · exact List.prefix_append _ _
  · -- what is left of the first mark starts with the second one
    cases u with
    | nil =>
      rw [List.append_nil] at hmark
      exact hmark ▸ List.prefix_refl _
    | cons x u =>
      obtain ⟨rfl, -⟩ := List.cons.inj hrest
      obtain ⟨y, t, rfl⟩ := List.exists_cons_of_ne_nil ht
      obtain ⟨-, rfl⟩ := List.cons.inj hmark
      exact absurd (List.mem_append_right t List.mem_cons_self) hc

/-- Texts that read the same with the mark and more behind them are the same, or one of them runs on from
the other. -/
theorem eq_or_runsOn (hc : c ∉ mark) (h : a ++ (c :: mark ++ r) = b ++ (c :: mark ++ r')) :
    a = b ∨ RunsOn (c :: mark) a b ∨ RunsOn (c :: mark) b a := by
  rcases List.append_eq_append_iff.1 h with ⟨t, rfl, ht⟩ | ⟨t, rfl, ht⟩
  · by_cases hnil : t = []
    · exact .inl (by rw [hnil, List.append_nil])
    · exact .inr (.inl (runsOn_of_append hc hnil ht))
  · by_cases hnil : t = []
    · exact .inl (by rw [hnil, List.append_nil])
    · exact .inr (.inr (runsOn_of_append hc hnil ht))

/-- A text without the mark runs on from none. -/
theorem not_runsOn (hb : c ∉ b) : ¬ RunsOn (c :: mark) a b := by
  intro h
  exact hb (h.subset (List.mem_append_right a List.mem_cons_self))

/-- Texts without the mark are read back from in front of it. -/
theorem eq_of_mark (ha : c ∉ a) (hb : c ∉ b) (h : a ++ c :: r = b ++ c :: r') : a = b := by
  rcases eq_or_runsOn List.not_mem_nil h with heq | hruns | hruns
  · exact heq
  · exact absurd hruns (not_runsOn hb)
  · exact absurd hruns (not_runsOn ha)

/-- The text before the first mark. -/
theorem takeWhile_mark (ha : c ∉ a) : (a ++ c :: r).takeWhile (· ≠ c) = a := by
  rw [List.takeWhile_append_of_pos]
  · simp
  · intro x hx
    exact decide_eq_true fun heq => ha (heq ▸ hx)

end Orchestrator.Text
