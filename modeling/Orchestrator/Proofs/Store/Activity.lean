import Orchestrator.Proofs.Instant.Order
import Orchestrator.Proofs.Store.Records

/-!
# The activity log

Records are kept under keys that start with the time of completion, so a range of keys is meant to be a
range of times. It is as long as the years are written with four digits: `between_exactly`. Beyond, the
written order is not the order of time, and what a wider range takes in depends on how its bounds are
written: `wider_takes_in`, `wider_loses`.
-/
namespace Orchestrator

/-! ## Order of texts -/

theorem isLE_compare_text {a b : String} : (compare a b).isLE = true ↔ ¬ b < a := by
  show (compareOfLessAndEq a b).isLE = true ↔ ¬ b < a
  unfold compareOfLessAndEq
  split
  · rename_i hlt
    simp [String.lt_asymm hlt]
  · split
    · subst_vars
      simp
    · rename_i hnot hne
      have hlt : b < a := by
        apply Decidable.byContradiction
        intro hnot'
        exact hne (String.le_antisymm (String.not_lt.1 hnot') (String.not_lt.1 hnot))
      simp [hlt]

theorem compare_text_eq_lt {a b : String} : compare a b = .lt ↔ a < b := by
  show compareOfLessAndEq a b = .lt ↔ a < b
  unfold compareOfLessAndEq
  split
  · simp [*]
  · split <;> simp_all

/-! ## Keys -/

namespace Activity

/-- The text after the time of completion in a key. -/
def keyEnd (a : Activity) : List Char := '#' :: a.jobId.render.toList

theorem toList_tableKey (a : Activity) :
    a.tableKey.toList = a.completedAt.renderNanos.toList ++ a.keyEnd := by
  simp [tableKey, keyEnd]

theorem toList_highKey (t : Instant) :
    (highKey t).toList = t.renderNanos.toList ++ ['~'] := by
  simp [highKey]

/-- The key of a record of an earlier completion comes first. -/
theorem tableKey_lt {a b : Activity} (halike : Instant.Alike a.completedAt.year b.completedAt.year)
    (h : a.completedAt < b.completedAt) : a.tableKey < b.tableKey := by
  rw [String.lt_iff, toList_tableKey, toList_tableKey]
  exact Instant.renderNanos_append_lt halike h _ _

/-- A key lies below the low key of a time exactly when the record completed before the time. -/
theorem tableKey_lt_lowKey_iff {t : Instant} {a : Activity}
    (halike : Instant.Alike t.year a.completedAt.year)
    (halike' : Instant.Alike a.completedAt.year t.year) :
    a.tableKey < lowKey t ↔ a.completedAt < t := by
  rw [String.lt_iff, toList_tableKey, lowKey]
  constructor
  · intro hkey
    rcases Instant.lt_trichotomy a.completedAt t with hlt | rfl | hgt
    · exact hlt
    · exact absurd hkey (Text.not_append_lt _ _)
    · have := Instant.renderNanos_append_lt halike hgt [] a.keyEnd
      rw [List.append_nil] at this
      exact absurd hkey (List.lt_asymm this)
  · intro hlt
    have := Instant.renderNanos_append_lt halike' hlt a.keyEnd []
    rwa [List.append_nil] at this

/-- A key lies above the high key of a time exactly when the record completed after the time. -/
theorem highKey_lt_tableKey_iff {t : Instant} {a : Activity}
    (halike : Instant.Alike t.year a.completedAt.year)
    (halike' : Instant.Alike a.completedAt.year t.year) :
    highKey t < a.tableKey ↔ t < a.completedAt := by
  rw [String.lt_iff, toList_tableKey, toList_highKey]
  constructor
  · intro hkey
    rcases Instant.lt_trichotomy a.completedAt t with hlt | rfl | hgt
    · exact absurd hkey (List.lt_asymm (Instant.renderNanos_append_lt halike' hlt a.keyEnd ['~']))
    · have hsign : a.keyEnd < ['~'] := by
        rw [keyEnd, List.cons_lt_cons_iff]
        left
        decide
      exact absurd hkey (List.lt_asymm (List.append_left_lt hsign))
    · exact hgt
  · intro hlt
    exact Instant.renderNanos_append_lt halike hlt ['~'] a.keyEnd

/-- The low key of an earlier time comes first. -/
theorem lowKey_le {t u : Instant} (halike : Instant.Alike t.year u.year) (h : t ≤ u) :
    lowKey t ≤ lowKey u := by
  rcases Instant.lt_or_eq_of_le h with hlt | rfl
  · have := Instant.renderNanos_append_lt halike hlt [] []
    rw [List.append_nil, List.append_nil, ← String.lt_iff] at this
    exact String.not_lt.1 (String.lt_asymm this)
  · exact String.le_refl _

/-- The high key of an earlier time comes first. -/
theorem highKey_le {t u : Instant} (halike : Instant.Alike t.year u.year) (h : t ≤ u) :
    highKey t ≤ highKey u := by
  rcases Instant.lt_or_eq_of_le h with hlt | rfl
  · have := Instant.renderNanos_append_lt halike hlt ['~'] ['~']
    rw [← toList_highKey, ← toList_highKey, ← String.lt_iff] at this
    exact String.not_lt.1 (String.lt_asymm this)
  · exact String.le_refl _

/-- The high key of a time beyond the year 9999 comes before the keys of all records of years of four
digits, since its sign comes before every digit. -/
theorem highKey_lt_tableKey {t : Instant} {a : Activity} (ht : 9999 < t.year)
    (ha : a.completedAt.HasPlainYear) : highKey t < a.tableKey := by
  obtain ⟨hlow, hhigh⟩ := ha
  obtain ⟨c, digits, hdigits, hc⟩ :=
    Text.exists_padded_cons (by decide : 0 < 4) a.completedAt.year.toNat
  have hrange := Text.toNat_of_isDigit hc
  have hplus : ('+' : Char) < c := by
    have hnat : ('+' : Char).toNat = 43 := rfl
    have hlt : ('+' : Char).toNat < c.toNat := by omega
    exact hlt
  rw [String.lt_iff, toList_highKey, toList_tableKey, Instant.toList_renderNanos,
    Instant.toList_renderNanos]
  have hlong : Instant.renderYear t.year = '+' :: Text.padded 4 t.year.natAbs := by
    rw [Instant.renderYear, if_neg (by omega), if_neg (by omega)]
  have hplain : Instant.renderYear a.completedAt.year = c :: digits := by
    rw [Instant.renderYear, if_pos ⟨hlow, hhigh⟩, hdigits]
  rw [Instant.year] at hlong hplain
  simp only [Instant.dateText, hlong, hplain, List.cons_append, List.cons_lt_cons_iff]
  exact .inl hplus

/-- Records that complete in years of four digits have the same key only if they are of the same
job. -/
theorem jobId_eq_of_tableKey_eq {a b : Activity} (ha : a.completedAt.HasPlainYear)
    (hb : b.completedAt.HasPlainYear) (h : a.tableKey = b.tableKey) : a.jobId = b.jobId := by
  rcases Instant.lt_trichotomy a.completedAt b.completedAt with hlt | heq | hgt
  · have := tableKey_lt (ha.alike hb) hlt
    rw [h] at this
    exact absurd this (String.lt_irrefl _)
  · have htext := congrArg String.toList h
    rw [toList_tableKey, toList_tableKey, heq, List.append_cancel_left_eq, keyEnd, keyEnd,
      List.cons.injEq] at htext
    have hid := congrArg Uuid.ofText? (String.toList_inj.1 htext.2)
    rw [Uuid.ofText?_render, Uuid.ofText?_render] at hid
    exact Option.some.inj hid
  · have := tableKey_lt (hb.alike ha) hgt
    rw [h] at this
    exact absurd this (String.lt_irrefl _)

end Activity

/-! ## The log -/

namespace Store

open Orchestrator.Json

/-- The store has a log: its activity collection was empty, and then the given records were kept, in
this order, and nothing else wrote to the collection. -/
inductive Logged : Store → List Activity → Prop where
  | empty {s : Store} (h : s.records activityCollection = ∅) : Logged s []
  | record {s : Store} {log : List Activity} (h : Logged s log) (a : Activity) :
    Logged (s.recordActivity a) (log ++ [a])
  | aside {s s' : Store} {log : List Activity} (h : Logged s log)
    (hsame : s'.records activityCollection = s.records activityCollection) : Logged s' log

/-- The entry of a record in its collection. -/
def entry (a : Activity) : String × ByteArray := (a.tableKey, encode a.toJson)

/-- An entry is put among others: no other record is brought in, and none is lost unless it has the
same key. -/
theorem insertEntry_entry (a : Activity) (l : List Activity) :
    ∃ l', SortedMap.insertEntry a.tableKey (encode a.toJson) (l.map entry) = l'.map entry ∧
      l' ⊆ a :: l ∧ ((∀ b ∈ l, b.tableKey ≠ a.tableKey) → l'.Perm (a :: l)) := by
  induction l with
  | nil => exact ⟨[a], rfl, fun _ h => h, fun _ => .refl _⟩
  | cons b l ih =>
    obtain ⟨l', hinsert, hsub, hperm⟩ := ih
    simp only [List.map_cons, entry, SortedMap.insertEntry]
    split
    · exact ⟨a :: b :: l, rfl, fun _ h => h, fun _ => .refl _⟩
    · rename_i heq
      refine ⟨a :: l, rfl, ?_, fun h => ?_⟩
      · intro x hx
        rcases List.mem_cons.1 hx with rfl | hx
        · exact List.mem_cons_self
        · exact List.mem_cons_of_mem _ (List.mem_cons_of_mem _ hx)
      · exact absurd (Std.LawfulEqOrd.eq_of_compare heq).symm (h b List.mem_cons_self)
    · refine ⟨b :: l', by rw [List.map_cons, ← hinsert]; rfl, ?_, fun h => ?_⟩
      · intro x hx
        rcases List.mem_cons.1 hx with rfl | hx
        · exact List.mem_cons_of_mem _ List.mem_cons_self
        · rcases List.mem_cons.1 (hsub hx) with rfl | hx
          · exact List.mem_cons_self
          · exact List.mem_cons_of_mem _ (List.mem_cons_of_mem _ hx)
      · have := hperm fun c hc => h c (List.mem_cons_of_mem _ hc)
        exact (this.cons b).trans (.swap a b l)

/-- The collection holds entries of records that were kept, and if their keys differ, one of each. -/
theorem Logged.entries {s : Store} {log : List Activity} (h : Logged s log) :
    ∃ kept, (s.records activityCollection).entries = kept.map entry ∧ kept ⊆ log ∧
      ((log.map Activity.tableKey).Nodup → kept.Perm log) := by
  induction h with
  | empty h =>
    rw [h]
    exact ⟨[], rfl, fun _ h => h, fun _ => .refl _⟩
  | @record s log _ a ih =>
    obtain ⟨kept, hentries, hsub, hperm⟩ := ih
    obtain ⟨kept', hinsert, hsub', hperm'⟩ := insertEntry_entry a kept
    refine ⟨kept', ?_, ?_, fun hnodup => ?_⟩
    · rw [recordActivity, put, records_insert, if_pos rfl, ← hinsert, ← hentries]
      rfl
    · intro x hx
      rcases List.mem_cons.1 (hsub' hx) with rfl | hx
      · simp
      · exact List.mem_append_left _ (hsub hx)
    · rw [List.map_append, List.nodup_append] at hnodup
      have hkept := hperm hnodup.1
      have hnew : ∀ b ∈ kept, b.tableKey ≠ a.tableKey := by
        intro b hb
        exact hnodup.2.2 _ (List.mem_map_of_mem (hkept.mem_iff.1 hb)) _ List.mem_cons_self
      exact (hperm' hnew).trans ((hkept.cons a).trans (List.perm_append_singleton a log).symm)
  | aside _ hsame ih =>
    rw [hsame]
    exact ih

/-- Does the key of a record lie between the keys of two times? -/
def keyBetween (start stop : Instant) (a : Activity) : Bool :=
  (compare (Activity.lowKey start) a.tableKey).isLE && (compare a.tableKey (Activity.highKey stop)).isLE

theorem mapM_decode_entries (l : List Activity) :
    ((l.map entry).map Prod.snd).mapM (decode Activity.ofJson) = .ok l := by
  have hsnd : (l.map entry).map Prod.snd = l.map fun a => encode a.toJson := by
    simp only [List.map_map, Function.comp_def, entry]
  rw [hsnd]
  exact mapM_map_ok decode_activity l

/-- A range of keys gives the records that have such keys. -/
theorem activityBetween_eq {s : Store} {kept : List Activity}
    (h : (s.records activityCollection).entries = kept.map entry) (start stop : Instant) :
    s.activityBetween start stop = .ok (kept.filter (keyBetween start stop)) := by
  have hvalues : s.valuesBetween activityCollection (Activity.lowKey start) (Activity.highKey stop)
      = ((kept.filter (keyBetween start stop)).map entry).map Prod.snd := by
    have hkey : (fun e : String × ByteArray => (compare (Activity.lowKey start) e.1).isLE &&
        (compare e.1 (Activity.highKey stop)).isLE) ∘ entry = keyBetween start stop := by
      funext a
      simp only [Function.comp_apply, entry, keyBetween]
    rw [valuesBetween, SortedMap.range, h, List.filter_map, hkey]
  rw [activityBetween, hvalues, mapM_decode_entries]

theorem keyBetween_iff {start stop : Instant} {a : Activity} :
    keyBetween start stop a = true ↔
      ¬ a.tableKey < Activity.lowKey start ∧ ¬ Activity.highKey stop < a.tableKey := by
  rw [keyBetween, Bool.and_eq_true, isLE_compare_text, isLE_compare_text]

theorem keyBetween_eq {start stop : Instant} {a : Activity} (hstart : start.HasPlainYear)
    (hstop : stop.HasPlainYear) (ha : a.completedAt.HasPlainYear) :
    keyBetween start stop a = decide (start ≤ a.completedAt ∧ a.completedAt ≤ stop) := by
  rw [Bool.eq_iff_iff, keyBetween_iff, decide_eq_true_iff,
    Activity.tableKey_lt_lowKey_iff (hstart.alike ha) (ha.alike hstart),
    Activity.highKey_lt_tableKey_iff (hstop.alike ha) (ha.alike hstop), Instant.not_lt,
    Instant.not_lt]

/-! ## Ranges of times -/

theorem Logged.pairwise {s : Store} {kept : List Activity}
    (h : (s.records activityCollection).entries = kept.map entry) :
    kept.Pairwise fun a b => a.tableKey < b.tableKey := by
  have hsorted := (s.records activityCollection).sorted
  rw [h, List.pairwise_map] at hsorted
  exact hsorted.imp compare_text_eq_lt.1

/-- The log gives, for two times in years of four digits, the records of the jobs completed between
them, each once, oldest first; and for a deployment those of them that are its own. -/
theorem between_exactly {s : Store} {log : List Activity} (hlog : Logged s log)
    (hids : (log.map Activity.jobId).Nodup) (hplain : ∀ a ∈ log, a.completedAt.HasPlainYear)
    {start stop : Instant} (hstart : start.HasPlainYear) (hstop : stop.HasPlainYear) :
    ∃ found, s.activityBetween start stop = .ok found ∧
      found.Perm (log.filter fun a => start ≤ a.completedAt ∧ a.completedAt ≤ stop) ∧
      found.Pairwise (fun a b => a.completedAt ≤ b.completedAt) ∧
      (stop < start → found = []) ∧
      ∀ scope, s.activityFor scope start stop = .ok (found.filter (·.scope = scope)) := by
  obtain ⟨kept, hentries, hsub, hperm⟩ := hlog.entries
  have hkeys : (log.map Activity.tableKey).Nodup := by
    rw [List.Nodup, List.pairwise_map] at hids ⊢
    refine hids.imp_of_mem fun {a b} ha hb hne hkey => hne ?_
    exact Activity.jobId_eq_of_tableKey_eq (hplain a ha) (hplain b hb) hkey
  have hbetween : ∀ a ∈ kept, keyBetween start stop a
      = decide (start ≤ a.completedAt ∧ a.completedAt ≤ stop) := fun a ha =>
    keyBetween_eq hstart hstop (hplain a (hsub ha))
  have hfound := activityBetween_eq hentries start stop
  rw [List.filter_congr hbetween] at hfound
  refine ⟨_, hfound, (hperm hkeys).filter _, ?_, ?_, ?_⟩
  · refine ((Logged.pairwise hentries).filter _).imp_of_mem fun {a b} ha hb hlt => ?_
    have ha := hplain a (hsub (List.mem_filter.1 ha).1)
    have hb := hplain b (hsub (List.mem_filter.1 hb).1)
    rw [← Instant.not_lt]
    intro hlater
    exact String.lt_asymm hlt (Activity.tableKey_lt (hb.alike ha) hlater)
  · intro hempty
    rw [List.filter_eq_nil_iff]
    intro a _ ha
    rw [decide_eq_true_iff, Instant.le_def, Instant.le_def] at ha
    rw [Instant.lt_def] at hempty
    omega
  · intro scope
    rw [activityFor, hfound]
    rfl

/-- The record of a job that ended well at a time. -/
def finishedAt (id : Nat) (scope : String) (t : Instant) : Activity where
  jobId := ⟨BitVec.ofNat 128 id⟩
  scope := scope
  kind := "create"
  succeeded := true
  executionCount := 1
  failureCount := 0
  errors := []
  enqueuedAt := t
  startedAt := none
  completedAt := t

/-- The leap second at the end of 1972. -/
def leapSecond : Instant :=
  ⟨1095, 86399, 1000000000, by decide, by decide, by decide, by decide, by decide⟩

/-- Two jobs, the one that ended first recorded last. -/
def twoJobs : List Activity :=
  [finishedAt 1 "api" leapSecond, finishedAt 2 "web" Instant.epoch]

theorem logged_twoJobs : Logged (twoJobs.foldl recordActivity new) twoJobs :=
  ((Logged.empty rfl).record (finishedAt 1 "api" leapSecond)).record (finishedAt 2 "web" Instant.epoch)

theorem between_exactly_leapSecond :
    ∃ found, (twoJobs.foldl recordActivity new).activityBetween Instant.epoch leapSecond = .ok found ∧
      found.Perm (twoJobs.filter fun a => Instant.epoch ≤ a.completedAt ∧ a.completedAt ≤ leapSecond) ∧
      found.Pairwise (fun a b => a.completedAt ≤ b.completedAt) ∧
      (leapSecond < Instant.epoch → found = []) ∧
      ∀ scope, (twoJobs.foldl recordActivity new).activityFor scope Instant.epoch leapSecond
        = .ok (found.filter (·.scope = scope)) :=
  between_exactly logged_twoJobs (by decide) (by decide) (by decide) (by decide)

example : (twoJobs.filter fun a => Instant.epoch ≤ a.completedAt ∧ a.completedAt ≤ leapSecond) = twoJobs := by
  decide

/-- A wider range of times takes in what a narrower one gives if its bounds are written so that they
lie around the narrower one's, whenever the jobs completed. -/
theorem wider_takes_in {s : Store} {log : List Activity} (hlog : Logged s log)
    {start start' stop stop' : Instant} (hstart : start' ≤ start) (hstop : stop ≤ stop')
    (hfrom : Instant.Alike start'.year start.year) (hto : Instant.Alike stop.year stop'.year) :
    ∃ found found', s.activityBetween start stop = .ok found ∧
      s.activityBetween start' stop' = .ok found' ∧ found.Sublist found' := by
  obtain ⟨kept, hentries, -, -⟩ := hlog.entries
  refine ⟨_, _, activityBetween_eq hentries start stop, activityBetween_eq hentries start' stop', ?_⟩
  have hwider : ∀ a, keyBetween start stop a = true → keyBetween start' stop' a = true := by
    intro a
    rw [keyBetween_iff, keyBetween_iff, String.not_lt, String.not_lt, String.not_lt, String.not_lt]
    rintro ⟨hlow, hhigh⟩
    exact ⟨String.le_trans (Activity.lowKey_le hfrom hstart) hlow,
      String.le_trans hhigh (Activity.highKey_le hto hstop)⟩
  have hsame : kept.filter (keyBetween start stop)
      = (kept.filter (keyBetween start' stop')).filter (keyBetween start stop) := by
    rw [List.filter_filter]
    apply List.filter_congr
    intro a _
    rw [Bool.eq_iff_iff, Bool.and_eq_true]
    exact ⟨fun h => ⟨h, hwider a h⟩, And.left⟩
  rw [hsame]
  exact List.filter_sublist

theorem wider_takes_in_leapSecond :
    ∃ found found', (twoJobs.foldl recordActivity new).activityBetween Instant.epoch Instant.epoch = .ok found ∧
      (twoJobs.foldl recordActivity new).activityBetween Instant.epoch leapSecond = .ok found' ∧
      found.Sublist found' :=
  wider_takes_in logged_twoJobs (by decide) (by decide) (.same rfl) (.plain (by decide) (by decide))

/-- A range that ends after the year 9999 gives no record of a job completed before. -/
theorem between_beyond {s : Store} {log : List Activity} (hlog : Logged s log)
    (hplain : ∀ a ∈ log, a.completedAt.HasPlainYear) {start stop : Instant} (hstop : 9999 < stop.year) :
    s.activityBetween start stop = .ok [] := by
  obtain ⟨kept, hentries, hsub, -⟩ := hlog.entries
  have hnone : kept.filter (keyBetween start stop) = [] := by
    rw [List.filter_eq_nil_iff]
    intro a ha hbetween
    exact (keyBetween_iff.1 hbetween).2 (Activity.highKey_lt_tableKey hstop (hplain a (hsub ha)))
  rw [activityBetween_eq hentries, hnone]

/-- The start of the year 10000. -/
def year10000 : Instant :=
  { Instant.epoch with days := 2932897, minDays_le := by decide, le_maxDays := by decide }

/-- A range that ends in the year 10000 loses what a range that ends in 1970 gives. -/
theorem wider_loses :
    Logged (new.recordActivity (finishedAt 1 "api" Instant.epoch)) [finishedAt 1 "api" Instant.epoch] ∧
      Instant.epoch ≤ year10000 ∧
      (new.recordActivity (finishedAt 1 "api" Instant.epoch)).activityBetween
        Instant.epoch Instant.epoch = .ok [finishedAt 1 "api" Instant.epoch] ∧
      (new.recordActivity (finishedAt 1 "api" Instant.epoch)).activityBetween
        Instant.epoch year10000 = .ok [] := by
  have hlog : Logged (new.recordActivity (finishedAt 1 "api" Instant.epoch))
      [finishedAt 1 "api" Instant.epoch] := (Logged.empty rfl).record _
  have hentries : ((new.recordActivity (finishedAt 1 "api" Instant.epoch)).records
      activityCollection).entries = [finishedAt 1 "api" Instant.epoch].map entry := rfl
  refine ⟨hlog, by decide, ?_, between_beyond hlog (by decide) (by decide)⟩
  rw [activityBetween_eq hentries, List.filter_cons, keyBetween_eq (by decide) (by decide) (by decide)]
  rfl

end Store

end Orchestrator
