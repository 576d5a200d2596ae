import Orchestrator.Job.Json
import Orchestrator.Proofs.Store.Reported

/-!
# Which jobs are read back from their text

The work of a job is set aside until its kind is known, and a key that was set aside is a text and no
number. So a job is read back as it was exactly if its deployment publishes no ports, and refused
otherwise: `Job.read_back`.
-/
namespace Orchestrator

/-! ## Trees that can be set aside -/

namespace Json

/-- The tree can be set aside, and is nested no deeper than `n`. -/
structure Keepable (n : Nat) (j : Json) : Prop where
  storable : j.isStorable = true
  depth_le : j.depth ≤ n

@[simp] theorem keepable_text (n : Nat) (s : String) : Keepable n (text s) where
  storable := by simp [text, isStorable]
  depth_le := Nat.zero_le n

@[simp] theorem keepable_bool (n : Nat) (b : Bool) : Keepable n (Json.bool b) :=
  ⟨rfl, Nat.zero_le n⟩

@[simp] theorem keepable_uint32 (n : Nat) (v : UInt32) : Keepable n (nat v.toNat) where
  storable := by
    have hsmall : v.toNat < Text.doubleOverflow := Nat.lt_trans v.toNat_lt (by decide +kernel)
    have hhuge : Text.exceedsDouble (Text.decimal v.toNat) 0 = false := by
      simp [Text.exceedsDouble, Text.ofDecimal_decimal, hsmall]
    simp [nat, isStorable, Number.isHuge, hhuge]
  depth_le := Nat.zero_le n

@[simp] theorem keepable_ofOption {α : Type} {n : Nat} {f : α → Json} (hf : ∀ a, Keepable n (f a))
    (o : Option α) : Keepable n (ofOption f o) := by
  cases o with
  | none => exact ⟨rfl, Nat.zero_le n⟩
  | some a => exact hf a

theorem keepable_array {n : Nat} {items : List Json} (h : ∀ j ∈ items, Keepable n j) :
    Keepable (n + 1) (.array items) := by
  have hitems : itemsStorable items = true ∧ itemsDepth items ≤ n := by
    induction items with
    | nil => exact ⟨rfl, Nat.zero_le n⟩
    | cons j items ih =>
      have hj := h j List.mem_cons_self
      have hrest := ih fun j' hj' => h j' (List.mem_cons_of_mem _ hj')
      exact ⟨by simp [itemsStorable, hj.storable, hrest.1], Nat.max_le.2 ⟨hj.depth_le, hrest.2⟩⟩
  exact ⟨by rw [isStorable, hitems.1], Nat.succ_le_succ hitems.2⟩

@[simp] theorem keepable_texts (n : Nat) (l : List String) : Keepable (n + 1) (texts l) := by
  apply keepable_array
  intro j hj
  obtain ⟨s, -, rfl⟩ := List.mem_map.1 hj
  exact keepable_text n s

theorem keepable_record {n : Nat} {members : List (String × Json)}
    (h : ∀ m ∈ members, Keepable n m.2) : Keepable (n + 1) (record members) := by
  have hmembers : membersStorable (members.map fun m => (escape m.1.toList, m.2)) = true
      ∧ membersDepth (members.map fun m => (escape m.1.toList, m.2)) ≤ n := by
    induction members with
    | nil => exact ⟨rfl, Nat.zero_le n⟩
    | cons m members ih =>
      have hm := h m List.mem_cons_self
      have hrest := ih fun m' hm' => h m' (List.mem_cons_of_mem _ hm')
      exact ⟨by simp [membersStorable, hm.storable, hrest.1], Nat.max_le.2 ⟨hm.depth_le, hrest.2⟩⟩
  exact ⟨by rw [record, isStorable, hmembers.1], Nat.succ_le_succ hmembers.2⟩

end Json

open Json (Keepable)

@[simp] theorem Deployment.keepable_textMapToJson (n : Nat) (m : SortedMap String String) :
    Keepable (n + 1) (textMapToJson m) := by
  apply Json.keepable_record
  intro e he
  obtain ⟨e', -, rfl⟩ := List.mem_map.1 he
  exact Json.keepable_text n e'.2

@[simp] theorem Deployment.keepable_portMapToJson (n : Nat) (m : SortedMap UInt16 UInt16) :
    Keepable (n + 1) (portMapToJson m) := by
  apply Json.keepable_record
  intro e he
  obtain ⟨e', -, rfl⟩ := List.mem_map.1 he
  simpa using Json.keepable_uint32 n e'.2.toUInt32

theorem Deployment.keepable_toJson (d : Deployment) : Keepable 2 d.toJson := by
  apply Json.keepable_record
  simp

theorem Container.keepable_toJson (c : Container) : Keepable 2 c.toJson := by
  apply Json.keepable_record
  simp

/-- The containers of a job are nested four deep in its work: as one of its members, in a list, as
records, and in the lists and maps of a container. -/
theorem Work.keepable_toJson (w : Work) : Keepable 4 w.toJson := by
  have hconfig (d : Deployment) : Keepable 3 d.toJson :=
    ⟨d.keepable_toJson.storable, Nat.le_succ_of_le d.keepable_toJson.depth_le⟩
  have hcontainers (l : List Container) : Keepable 3 (.array (l.map Container.toJson)) := by
    apply Json.keepable_array
    intro j hj
    obtain ⟨c, -, rfl⟩ := List.mem_map.1 hj
    exact c.keepable_toJson
  cases w <;>
  · apply Json.keepable_record
    simp [hconfig, hcontainers]

/-! ## Deployments that were set aside -/

/-- A map of ports that was set aside is read back only if it is empty. -/
theorem Deployment.asPorts_buffered (m : SortedMap UInt16 UInt16) :
    asPorts .buffered (portMapToJson m) = if m = ∅ then .ok m else .error .shape := by
  obtain ⟨entries, hsorted⟩ := m
  cases entries with
  | nil => rfl
  | cons e entries =>
    have hne : (⟨e :: entries, hsorted⟩ : SortedMap UInt16 UInt16) ≠ ∅ := by
      intro h
      cases congrArg SortedMap.entries h
    rw [if_neg hne]
    rfl

/-- A deployment that was set aside is read back only if it publishes no ports. -/
theorem Deployment.ofJson_buffered (d : Deployment) :
    ofJson .buffered d.toJson = if d.ports = ∅ then .ok d else .error .shape := by
  have hports := asPorts_buffered d.ports
  split at hports
  case isTrue hnone =>
    rw [if_pos hnone, ofJson, toJson, Json.asRecord_record]
    · simp [Json.Given.get, Json.Given.getD, Json.Given.value?, hports, bind, Except.bind, pure,
        Except.pure]
    · simp [fields, Json.Fills, Json.required, Json.defaulted, Except.map, hports]
    · simp
  case isFalse hsome =>
    -- the five fields before the ports are taken
    rw [if_neg hsome, ofJson, toJson, Json.asRecord_faulty 5 rfl rfl ?_ rfl ?_ ?_]
    · rfl
    · simp [fields, Json.Fills, Json.required, Json.defaulted, Except.map]
    · simp [Json.defaulted, hports, Except.map]
    · simp [fields, Json.required, Json.defaulted]

/-! ## Work -/

namespace Work

theorem printable_toJson (w : Work) : w.toJson.Printable := by
  have hcontainers (l : List Container) : (Json.array (l.map Container.toJson)).Printable := by
    apply Json.printable_array
    intro j hj
    obtain ⟨c, -, rfl⟩ := List.mem_map.1 hj
    exact c.printable_toJson
  cases w <;>
  · apply Json.printable_record
    simp [Deployment.printable_toJson, hcontainers]

@[simp] theorem asContainers_array (l : List Container) :
    asContainers (.array (l.map Container.toJson)) = .ok l :=
  Json.mapM_map_ok (Container.ofJson_toJson .buffered) l

@[simp] theorem asKind_name (k : JobKind) :
    Json.asParsed JobKind.ofName? (Json.text k.name) = .ok k :=
  Json.asParsed_text (by cases k <;> rfl)

theorem isTag_member (m : String × Json) :
    isTag (Json.escape m.1.toList, m.2) = decide (m.1 = "kind") := by
  rw [isTag, Json.unescape_escape, decide_eq_decide, Option.some_inj, String.toList_inj]

/-- The members of the JSON form besides the tag. -/
def untagged : Work → List (String × Json)
  | .create config current new => [
      ("config", config.toJson),
      ("current_containers", .array (current.map Container.toJson)),
      ("new_containers", .array (new.map Container.toJson))]
  | .delete config current => [
      ("config", config.toJson),
      ("current_containers", .array (current.map Container.toJson))]

theorem toJson_eq (w : Work) :
    w.toJson = Json.record (("kind", Json.text w.kind.name) :: w.untagged) := by
  cases w <;> rfl

theorem ne_kind_of_mem_untagged {w : Work} {m : String × Json} (hm : m ∈ w.untagged) :
    m.1 ≠ "kind" := by
  cases w with
  | create =>
    simp only [untagged, List.mem_cons, List.not_mem_nil, or_false] at hm
    rcases hm with rfl | rfl | rfl <;> simp
  | delete =>
    simp only [untagged, List.mem_cons, List.not_mem_nil, or_false] at hm
    rcases hm with rfl | rfl <;> simp

/-- The members besides the tag are taken if the deployment is. -/
theorem ofFields_untagged (w : Work) :
    ofFields w.kind (Json.record w.untagged)
      = if w.config.ports = ∅ then .ok w else .error .shape := by
  have hconfig := w.config.ofJson_buffered
  split at hconfig
  case isTrue hnone =>
    rw [if_pos hnone]
    cases w <;>
    · simp only [config] at hconfig
      simp only [kind, ofFields, untagged]
      rw [Json.asRecord_record]
      · simp [Json.Given.get, Json.Given.value?, asConfig, hconfig, bind, Except.bind, pure,
          Except.pure]
      · simp [Json.Fills, Json.required, Except.map, asConfig, hconfig]
      · simp
  case isFalse hsome =>
    rw [if_neg hsome]
    cases w <;>
    · simp only [config] at hconfig
      simp only [kind, ofFields, untagged]
      rw [Json.asRecord_faulty 0 rfl rfl trivial rfl]
      · rfl
      · simp [Json.required, asConfig, hconfig, Except.map]
      · simp [Json.required]

/-- An object is read by the kind that its only tag names. -/
theorem ofJson_object {members rest : List (List Char × Json)} {key : List Char} {k : JobKind}
    (hkeep : Keepable 4 (.object members)) (htag : members.filter isTag = [(key, Json.text k.name)])
    (hrest : members.filter (!isTag ·) = rest) :
    ofJson (.object members) = ofFields k (.object rest) := by
  have hdepth : ¬ Json.maxDepth ≤ (Json.object members).depth := by
    have := hkeep.depth_le
    simp only [Json.maxDepth]
    omega
  simp only [ofJson, hkeep.storable, Bool.not_true, if_neg hdepth, htag, hrest, asKind_name]
  rfl

/-- A record with the tag first is read by its kind from the members after it. -/
theorem ofJson_record {k : JobKind} {members : List (String × Json)}
    (hkeep : Keepable 4 (Json.record (("kind", Json.text k.name) :: members)))
    (hrest : ∀ m ∈ members, m.1 ≠ "kind") :
    ofJson (Json.record (("kind", Json.text k.name) :: members))
      = ofFields k (Json.record members) := by
  let spell (m : String × Json) : List Char × Json := (Json.escape m.1.toList, m.2)
  have hkind : isTag (spell ("kind", Json.text k.name)) = true := isTag_member _
  have hother : ∀ m ∈ members.map spell, isTag m = false := by
    intro m hm
    obtain ⟨m', hm', rfl⟩ := List.mem_map.1 hm
    exact (isTag_member m').trans (decide_eq_false (hrest m' hm'))
  have htag : (spell ("kind", Json.text k.name) :: members.map spell).filter isTag
      = [spell ("kind", Json.text k.name)] := by
    rw [List.filter_cons_of_pos hkind, List.filter_eq_nil_iff.2 fun m hm => by simp [hother m hm]]
  have hmore : (spell ("kind", Json.text k.name) :: members.map spell).filter (!isTag ·)
      = members.map spell := by
    rw [List.filter_cons_of_neg (by simp [hkind]),
      List.filter_eq_self.2 fun m hm => by simp [hother m hm]]
  exact ofJson_object hkeep htag hmore

/-- The work of a job is read back only if its deployment publishes no ports. -/
theorem ofJson_toJson (w : Work) :
    ofJson w.toJson = if w.config.ports = ∅ then .ok w else .error .shape := by
  have hkeep := w.keepable_toJson
  rw [toJson_eq] at hkeep ⊢
  rw [ofJson_record hkeep fun _ => ne_kind_of_mem_untagged, ofFields_untagged]

end Work

/-! ## Jobs -/

theorem JobStatus.printable_toJson (s : JobStatus) : s.toJson.Printable := by
  apply Json.printable_record
  simp

@[simp] theorem JobStatus.asOption_outcome (o : Option JobOutcome) :
    Json.asOption asOutcome (Json.ofOption (fun o => Json.text o.name) o) = .ok o :=
  Json.asOption_ofOption (fun _ h => by cases h)
    (fun o => Json.asChoice_text (by cases o <;> rfl)) o

@[simp] theorem JobStatus.ofJson_toJson (s : JobStatus) : ofJson s.toJson = .ok s := by
  rw [ofJson, toJson, Json.asRecord_record]
  · simp [Json.Given.get, Json.Given.get?, Json.Given.value?, bind, Except.bind, pure, Except.pure]
  · simp [Json.Fills, Json.required, Json.nullable, Except.map]
  · simp

namespace Job

theorem printable_toJson (j : Job) : j.toJson.Printable := by
  apply Json.printable_record
  simp [Work.printable_toJson, JobStatus.printable_toJson]

theorem ofJson_toJson (j : Job) :
    ofJson j.toJson = if j.config.ports = ∅ then .ok j else .error .shape := by
  have hwork : Work.ofJson j.work.toJson
      = if j.config.ports = ∅ then .ok j.work else .error .shape := j.work.ofJson_toJson
  split at hwork
  case isTrue hnone =>
    rw [if_pos hnone, ofJson, toJson, Json.asRecord_record]
    · simp [Json.Given.get, Json.Given.get?, Json.Given.value?, hwork, bind, Except.bind, pure,
        Except.pure]
    · simp [fields, Json.Fills, Json.required, Json.nullable, hwork, Except.map]
    · simp
  case isFalse hsome =>
    -- the identifier and the namespace before the work are taken
    rw [if_neg hsome, ofJson, toJson, Json.asRecord_faulty 2 rfl rfl ?_ rfl ?_ ?_]
    · rfl
    · simp [fields, Json.Fills, Json.required, Except.map]
    · simp [Json.required, hwork, Except.map]
    · simp [fields, Json.required, Json.nullable]

theorem decode_refused (j : Job) (h : j.config.ports ≠ ∅) :
    Json.decode ofJson j.toJson.render.toList = .error .shape := by
  rw [Json.decode, Json.read_render j.printable_toJson]
  simp only [ofJson_toJson, if_neg h]
  rfl

/-- Every job of a deployment without ports is read back as it was, whatever else it holds, and no
job of a deployment with ports is read back at all. -/
theorem read_back (j : Job) :
    Json.decode ofJson j.toJson.render.toList
      = if j.config.ports = ∅ then .ok j else .error .shape := by
  split
  case isTrue hnone =>
    exact Json.decode_render j.printable_toJson (by rw [ofJson_toJson, if_pos hnone])
  case isFalse hsome => exact j.decode_refused hsome

/-- A rollout of `nginx` that publishes port 80 as 8080. -/
def publishing : Job :=
  Job.create ⟨0⟩ Instant.epoch
    { Deployment.new "api" "nginx" with ports := SortedMap.ofList [(80, 8080)] } 3

/-- The job is lost, although its deployment alone is read back. -/
theorem publishing_lost :
    Json.decode ofJson publishing.toJson.render.toList = .error .shape
    ∧ Json.decode (Deployment.ofJson .direct) publishing.config.toJson.render.toList
      = .ok publishing.config :=
  ⟨publishing.decode_refused (by decide),
    Json.decode_render publishing.config.printable_toJson publishing.config.ofJson_toJson⟩

end Job

end Orchestrator
