import Orchestrator.Deployment.Json
import Orchestrator.Proofs.Json.RoundTrip
import Orchestrator.Proofs.Text.Decimal

/-!
# Records are read as they were written

What the builders of trees make, the typed readers take back. A record whose members stand for all of
its fields gives exactly those members: `asRecord_record`.
-/
namespace Orchestrator.Json

/-! ## Trees that can be printed -/

@[simp] theorem printable_text (s : String) : (text s).Printable := ⟨s.toList, rfl⟩

@[simp] theorem printable_bool (b : Bool) : (Json.bool b).Printable := trivial

@[simp] theorem printable_nat (n : Nat) : (nat n).Printable := ⟨rfl, rfl⟩

@[simp] theorem printable_ofOption {α : Type} {f : α → Json} (hf : ∀ a, (f a).Printable)
    (o : Option α) : (ofOption f o).Printable := by
  cases o with
  | none => trivial
  | some a => exact hf a

theorem printable_array {items : List Json} (h : ∀ j ∈ items, j.Printable) :
    (Json.array items).Printable := by
  show PrintableItems items
  induction items with
  | nil => trivial
  | cons j items ih =>
    exact ⟨h j List.mem_cons_self, ih fun j' hj' => h j' (List.mem_cons_of_mem _ hj')⟩

@[simp] theorem printable_texts (l : List String) : (texts l).Printable := by
  apply printable_array
  intro j hj
  obtain ⟨s, -, rfl⟩ := List.mem_map.1 hj
  exact printable_text s

theorem printable_record {members : List (String × Json)} (h : ∀ m ∈ members, m.2.Printable) :
    (record members).Printable := by
  show PrintableMembers (members.map fun m => (escape m.1.toList, m.2))
  induction members with
  | nil => trivial
  | cons m members ih =>
    exact ⟨⟨m.1.toList, rfl⟩, h m List.mem_cons_self,
      ih fun m' hm' => h m' (List.mem_cons_of_mem _ hm')⟩

/-! ## Values -/

@[simp] theorem asText_text (s : String) : asText (text s) = .ok s := by
  simp [asText, text]

@[simp] theorem asBool_bool (b : Bool) : asBool (.bool b) = .ok b := rfl

theorem asNat_nat {limit n : Nat} (h : n < limit) : asNat limit (nat n) = .ok n := by
  simp [asNat, nat, Number.toNat?, h]

@[simp] theorem asUInt16_nat (n : UInt16) : asUInt16 (nat n.toNat) = .ok n := by
  simp [asUInt16, asNat_nat n.toNat_lt, Except.map]

@[simp] theorem asUInt32_nat (n : UInt32) : asUInt32 (nat n.toNat) = .ok n := by
  simp [asUInt32, asNat_nat n.toNat_lt, Except.map]

theorem asParsed_text {α : Type} {parse? : String → Option α} {s : String} {a : α}
    (h : parse? s = some a) : asParsed parse? (text s) = .ok a := by
  simp only [asParsed, asText_text, bind, Except.bind, h]
  rfl

theorem asOption_ofOption {α : Type} {decode : Json → Decoded α} {f : α → Json}
    (hnull : ∀ a, f a ≠ .null) (hf : ∀ a, decode (f a) = .ok a) (o : Option α) :
    asOption decode (ofOption f o) = .ok o := by
  cases o with
  | none => rfl
  | some a =>
    have h : asOption decode (f a) = (decode (f a)).map some := by
      unfold asOption
      split
      · rename_i h
        exact absurd h (hnull a)
      · rfl
    rw [ofOption, h, hf]
    rfl

theorem mapM_map_ok {α β ε : Type} {f : α → β} {g : β → Except ε α} (h : ∀ a, g (f a) = .ok a)
    (l : List α) : (l.map f).mapM g = .ok l := by
  induction l with
  | nil => rfl
  | cons a l ih =>
    rw [List.map_cons, List.mapM_cons, h, ih]
    rfl

@[simp] theorem asTexts_texts (l : List String) : asTexts (texts l) = .ok l :=
  mapM_map_ok asText_text l

/-! ## Maps -/

theorem entries_map {κ ν : Type} {key : List Char → Decoded κ} {value : Json → Decoded ν}
    {spell : κ → List Char} {tree : ν → Json} (hkey : ∀ k, key (spell k) = .ok k)
    (hvalue : ∀ v, value (tree v) = .ok v) (l : List (κ × ν)) :
    entries key value (l.map fun e => (spell e.1, tree e.2)) = .ok l := by
  induction l with
  | nil => rfl
  | cons e l ih =>
    simp only [List.map_cons, entries, hkey, hvalue, ih]
    rfl

@[simp] theorem keyText_escape (s : String) : keyText (escape s.toList) = .ok s := by
  simp [keyText]

end Orchestrator.Json

namespace Orchestrator.SortedMap

variable {κ ν : Type} [Ord κ] [Std.TransOrd κ]

theorem insertEntry_append {k : κ} {v : ν} {l : List (κ × ν)}
    (h : ∀ e ∈ l, compare e.1 k = .lt) : insertEntry k v l = l ++ [(k, v)] := by
  induction l with
  | nil => rfl
  | cons e l ih =>
    have hgt : compare k e.1 = .gt := Std.OrientedCmp.gt_of_lt (h e List.mem_cons_self)
    simp only [insertEntry, hgt, List.cons_append, ih fun e' he' => h e' (List.mem_cons_of_mem _ he')]

theorem entries_insertAll {m : SortedMap κ ν} {l : List (κ × ν)}
    (h : (m.entries ++ l).Pairwise fun a b => compare a.1 b.1 = .lt) :
    (m.insertAll l).entries = m.entries ++ l := by
  induction l generalizing m with
  | nil => simp [insertAll]
  | cons e l ih =>
    have hinsert : (m.insert e.1 e.2).entries = m.entries ++ [e] := by
      apply insertEntry_append
      intro e' he'
      exact (List.pairwise_append.1 h).2.2 e' he' e List.mem_cons_self
    have hrest := ih (m := m.insert e.1 e.2) (by rw [hinsert]; simpa using h)
    rw [hinsert] at hrest
    simpa [insertAll] using hrest

/-- A map is the map of its own entries. -/
@[simp] theorem ofList_entries (m : SortedMap κ ν) : ofList m.entries = m := by
  apply SortedMap.ext
  exact entries_insertAll (m := ∅) m.sorted

end Orchestrator.SortedMap

namespace Orchestrator.Json

theorem asMap_record {κ ν : Type} [Ord κ] [Std.TransOrd κ] {key : List Char → Decoded κ}
    {value : Json → Decoded ν} {spell : κ → List Char} {tree : ν → Json}
    (hkey : ∀ k, key (spell k) = .ok k) (hvalue : ∀ v, value (tree v) = .ok v)
    (m : SortedMap κ ν) :
    asMap key value (.object (m.entries.map fun e => (spell e.1, tree e.2))) = .ok m := by
  rw [asMap, entries_map hkey hvalue]
  simp [Except.map]

theorem escapeChar_digit {c : Char} (hc : c.isDigit = true) : escapeChar c = [c] := by
  have hrange := Text.toNat_of_isDigit hc
  have hne : ∀ d : Char, d.isDigit = false → c ≠ d := by
    rintro d hd rfl
    rw [hc] at hd
    cases hd
  have hlow : ¬ c.toNat < 0x20 := by omega
  simp [escapeChar, hne '"' rfl, hne '\\' rfl, hne '\n' rfl, hne '\r' rfl, hne '\t' rfl,
    hne '\x08' rfl, hne '\x0c' rfl, hlow]

@[simp] theorem asTextMap_textMapToJson (m : SortedMap String String) :
    asTextMap (Deployment.textMapToJson m) = .ok m := by
  have h := asMap_record keyText_escape asText_text m
  simpa [asTextMap, Deployment.textMapToJson, record, List.map_map, Function.comp_def] using h

@[simp] theorem printable_textMapToJson (m : SortedMap String String) :
    (Deployment.textMapToJson m).Printable := by
  apply printable_record
  intro e he
  obtain ⟨e', -, rfl⟩ := List.mem_map.1 he
  exact printable_text e'.2

/-- Digits are spelled as they are. -/
theorem escape_decimal (n : Nat) : escape (Text.decimal n) = Text.decimal n := by
  have hself : ∀ digits : List Char, (∀ c ∈ digits, c.isDigit = true) → escape digits = digits := by
    intro digits hdigits
    induction digits with
    | nil => rfl
    | cons c digits ih =>
      rw [escape_cons, escapeChar_digit (hdigits c List.mem_cons_self),
        ih fun c' hc' => hdigits c' (List.mem_cons_of_mem _ hc')]
      rfl
  exact hself _ fun c hc => Text.isDigit_of_mem_decimal hc

@[simp] theorem keyUInt16_decimal (n : UInt16) :
    keyUInt16 .direct (escape (Text.decimal n.toNat)) = .ok n := by
  have hread := @readNumber_render ⟨false, n.toNat, [], none⟩ [] ⟨rfl, rfl⟩ fun _ h => nomatch h
  have hrender : Number.render ⟨false, n.toNat, [], none⟩ = Text.decimal n.toNat := by
    simp [Number.render]
  have hvalue := asUInt16_nat n
  rw [hrender, List.append_nil] at hread
  rw [nat] at hvalue
  simp only [keyUInt16, escape_decimal, hread, hvalue]
  rfl

@[simp] theorem asPorts_portMapToJson (m : SortedMap UInt16 UInt16) :
    Deployment.asPorts .direct (Deployment.portMapToJson m) = .ok m := by
  have h := asMap_record keyUInt16_decimal asUInt16_nat m
  simpa [Deployment.asPorts, Deployment.portMapToJson, record, List.map_map, Function.comp_def]
    using h

@[simp] theorem printable_portMapToJson (m : SortedMap UInt16 UInt16) :
    (Deployment.portMapToJson m).Printable := by
  apply printable_record
  intro e he
  obtain ⟨e', -, rfl⟩ := List.mem_map.1 he
  exact printable_nat e'.2.toNat

/-! ## Records -/

/-- The members stand for the fields, one for each in their order, with values the fields take. -/
def Fills : List Field → List (String × Json) → Prop
  | [], [] => True
  | f :: fields, m :: members => f.name = m.1 ∧ f.check m.2 = .ok () ∧ Fills fields members
  | _, _ => False

theorem Fills.names {fields : List Field} {members : List (String × Json)}
    (h : Fills fields members) : fields.map Field.name = members.map Prod.fst := by
  fun_induction Fills fields members with
  | case1 => rfl
  | case2 f fields m members ih => rw [List.map_cons, List.map_cons, h.1, ih h.2.2]
  | case3 => exact h.elim

theorem find?_of_nodup {fields : List Field} (hnodup : (fields.map Field.name).Nodup) {f : Field}
    (hf : f ∈ fields) : fields.find? (fun f' => f'.name = f.name) = some f := by
  induction fields with
  | nil => cases hf
  | cons f' fields ih =>
    have ⟨hfirst, hrest⟩ := List.nodup_cons.1 hnodup
    rcases List.mem_cons.1 hf with rfl | hf
    · simp
    · have hne : f'.name ≠ f.name := fun h => hfirst (h ▸ List.mem_map_of_mem hf)
      simp [hne, ih hrest hf]

theorem Given.value?_eq_none {given : Given} {name : String}
    (h : name ∉ given.map Prod.fst) : given.value? name = none := by
  unfold Given.value?
  rw [Option.map_eq_none_iff, List.find?_eq_none]
  intro g hg hname
  exact h ((of_decide_eq_true hname) ▸ List.mem_map_of_mem hg)

/-- Members are given one after the other. -/
theorem givenByName_fills {all fields : List Field} (hall : (all.map Field.name).Nodup)
    {members : List (String × Json)} (hfills : Fills fields members) (hsub : fields ⊆ all)
    (given : Given) (hnodup : ((given ++ members).map Prod.fst).Nodup)
    (rest : List (List Char × Json)) :
    givenByName all given (members.map (fun m => (escape m.1.toList, m.2)) ++ rest)
      = givenByName all (given ++ members) rest := by
  fun_induction Fills fields members generalizing given with
  | case1 => simp
  | case3 => exact hfills.elim
  | case2 f fields m members ih =>
    obtain ⟨hname, hcheck, hfills⟩ := hfills
    have hfind := find?_of_nodup hall (hsub List.mem_cons_self)
    have hnew : given.value? m.1 = none := by
      apply Given.value?_eq_none
      rw [List.map_append, List.nodup_append] at hnodup
      exact fun h => hnodup.2.2 _ h _ List.mem_cons_self rfl
    have hrest := ih hfills (fun f' hf' => hsub (List.mem_cons_of_mem _ hf')) (given ++ [m])
      (by simpa using hnodup)
    rw [hname] at hfind
    simp only [List.map_cons, List.cons_append, givenByName, unescape_escape, String.ofList_toList,
      hfind, hnew, hcheck]
    simpa using hrest

/-- A record whose members stand for its fields gives those members. -/
theorem asRecord_record {reading : Reading} {fields : List Field} {members : List (String × Json)}
    (hfills : Fills fields members) (hnodup : (members.map Prod.fst).Nodup) :
    asRecord reading fields (record members) = .ok members := by
  have hgiven := givenByName_fills (hfills.names ▸ hnodup) hfills (fun _ h => h) []
    (by simpa using hnodup) []
  have hall : fields.all (fun f => f.absence ≠ .refused || (Given.value? members f.name).isSome)
      = true := by
    rw [List.all_eq_true]
    intro f hf
    have hmem : f.name ∈ members.map Prod.fst := hfills.names ▸ List.mem_map_of_mem hf
    obtain ⟨m, hm, hname⟩ := List.mem_map.1 hmem
    have : (Given.value? members f.name).isSome := by
      unfold Given.value?
      rw [Option.isSome_map, List.find?_isSome]
      exact ⟨m, hm, decide_eq_true hname⟩
    simp [this]
  rw [List.append_nil] at hgiven
  simp only [asRecord, record, hgiven, List.nil_append, givenByName, bind, Except.bind, hall]
  rfl

/-- A record is refused for the first of its fields that does not take its member. -/
theorem asRecord_faulty {reading : Reading} {fields after : List Field} {f : Field}
    {members more : List (String × Json)} {m : String × Json} {fault : Fault} (i : Nat)
    (hfields : fields.drop i = f :: after) (hmembers : members.drop i = m :: more)
    (hfills : Fills (fields.take i) (members.take i)) (hname : f.name = m.1)
    (hfault : f.check m.2 = .error fault) (hnodup : (fields.map Field.name).Nodup) :
    asRecord reading fields (record members) = .error fault := by
  have hsplit : fields.take i ++ f :: after = fields := hfields ▸ List.take_append_drop i fields
  have hnames : ((fields.take i).map Field.name ++ f.name :: after.map Field.name).Nodup := by
    rwa [← List.map_cons, ← List.map_append, hsplit]
  rw [List.nodup_append] at hnames
  have hgiven := givenByName_fills hnodup hfills (List.take_subset i fields) []
    (by simpa [← hfills.names] using hnames.1) ((m :: more).map fun m => (escape m.1.toList, m.2))
  have hfind := find?_of_nodup hnodup (hsplit ▸ List.mem_append_right _ List.mem_cons_self)
  have hnew : Given.value? (members.take i) m.1 = none := by
    apply Given.value?_eq_none
    rw [← hfills.names]
    exact fun h => hnames.2.2 _ h _ List.mem_cons_self hname.symm
  rw [hname] at hfind
  have hstop : givenByName fields [] (members.map fun m => (escape m.1.toList, m.2))
      = .error fault := by
    rw [← List.take_append_drop i members, hmembers, List.map_append, hgiven]
    simp only [List.map_cons, List.nil_append, givenByName, unescape_escape, String.ofList_toList,
      hfind, hnew, hfault]
    rfl
  simp only [asRecord, record, hstop, bind, Except.bind]

end Orchestrator.Json
