import Orchestrator.Http.Target

/-!
# Plain text in a target

A character of one byte is encoded as itself and read back as itself. So text without percent signs
and plus signs stands for itself in the path and in the query of a target.
-/
namespace Orchestrator

namespace Text

/-- A character of one byte that stands for itself in a target. -/
def IsPlain (c : Char) : Prop := c.toNat < 0x80 ∧ c ≠ '%' ∧ c ≠ '+'

instance (c : Char) : Decidable (IsPlain c) := inferInstanceAs (Decidable (_ ∧ _))

theorem utf8EncodeChar_ascii {c : Char} (h : c.toNat < 0x80) :
    String.utf8EncodeChar c = [UInt8.ofNat c.toNat] := by
  have hsize : c.utf8Size = 1 := by
    rw [Char.utf8Size_eq_one_iff, UInt32.le_iff_toNat_le]
    exact Nat.le_of_lt_succ h
  rw [String.utf8EncodeChar_eq_singleton hsize]
  rfl

theorem utf8_ascii {c : Char} (h : c.toNat < 0x80) : utf8 [c] = [UInt8.ofNat c.toNat] := by
  have hbytes : (String.ofList [c]).toUTF8 = [UInt8.ofNat c.toNat].toByteArray := by
    rw [String.toUTF8_eq_toByteArray, String.toByteArray_ofList, List.utf8Encode_singleton,
      utf8EncodeChar_ascii h]
  have hget : [UInt8.ofNat c.toNat].toByteArray.get! 0 = UInt8.ofNat c.toNat := rfl
  rw [utf8, hbytes]
  simp [ByteArray.toList, ByteArray.toList.loop, hget]

theorem percentDecode_plain {s : List Char} (h : ∀ c ∈ s, IsPlain c) :
    percentDecode s = s.map fun c => UInt8.ofNat c.toNat := by
  induction s with
  | nil => simp [percentDecode]
  | cons c s ih =>
    obtain ⟨hascii, hpercent, -⟩ := h c List.mem_cons_self
    have hrest := ih fun c hc => h c (List.mem_cons_of_mem _ hc)
    rw [percentDecode, utf8_ascii hascii, hrest]
    · rfl
    · rintro a b rest heq
      exact absurd heq hpercent

theorem decodeLossy_ascii {s : List Char} (h : ∀ c ∈ s, c.toNat < 0x80) :
    decodeLossy (s.map fun c => UInt8.ofNat c.toNat) = s := by
  induction s with
  | nil => simp [decodeLossy]
  | cons c s ih =>
    have hascii := h c List.mem_cons_self
    have hrest := ih fun c hc => h c (List.mem_cons_of_mem _ hc)
    have hread : ∀ bytes, readChar (UInt8.ofNat c.toNat) bytes = (c, 0) := by
      intro bytes
      have hnat : (UInt8.ofNat c.toNat).toNat = c.toNat := by
        rw [UInt8.toNat_ofNat']
        omega
      unfold readChar
      rw [if_pos (by rw [UInt8.lt_iff_toNat_lt, hnat]; exact hascii), hnat, Char.ofNat_toNat]
    rw [List.map_cons, decodeLossy, hread, List.drop_zero, hrest]

theorem flatMap_ascii {s : List Char} (h : ∀ c ∈ s, c.toNat < 0x80) :
    s.flatMap String.utf8EncodeChar = s.map fun c => UInt8.ofNat c.toNat := by
  induction s with
  | nil => rfl
  | cons c s ih =>
    rw [List.flatMap_cons, utf8EncodeChar_ascii (h c List.mem_cons_self),
      ih fun c hc => h c (List.mem_cons_of_mem _ hc)]
    rfl

theorem toByteArray_ascii {s : String} (h : ∀ c ∈ s.toList, c.toNat < 0x80) :
    s.toByteArray = ⟨(s.toList.map fun c => UInt8.ofNat c.toNat).toArray⟩ := by
  have hbytes : s.toByteArray = s.toList.utf8Encode := by
    rw [← String.toByteArray_ofList, String.ofList_toList]
  rw [hbytes, List.utf8Encode, flatMap_ascii h]
  exact ByteArray.ext (by simp)

end Text

namespace Http

/-- A plain segment of a path stands for itself. -/
theorem segmentText?_plain {s : String} (hs : s.toList.all (fun c => decide (Text.IsPlain c)) = true) :
    Target.segmentText? s = some s := by
  have h : ∀ c ∈ s.toList, Text.IsPlain c := fun c hc => of_decide_eq_true (List.all_eq_true.1 hs c hc)
  rw [Target.segmentText?, Text.percentDecode_plain h, ← Text.toByteArray_ascii fun c hc => (h c hc).1,
    String.fromUTF8?, dif_pos s.isValidUTF8]
  rfl

/-- Plain text in a query stands for itself. -/
theorem queryText_plain {s : List Char} (hs : s.all (fun c => decide (Text.IsPlain c)) = true) :
    Target.queryText s = String.ofList s := by
  have h : ∀ c ∈ s, Text.IsPlain c := fun c hc => of_decide_eq_true (List.all_eq_true.1 hs c hc)
  have hplus : s.map (fun c => if c = '+' then ' ' else c) = s := by
    calc s.map (fun c => if c = '+' then ' ' else c) = s.map id :=
          List.map_congr_left fun c hc => if_neg (h c hc).2.2
      _ = s := List.map_id s
  unfold Target.queryText
  rw [hplus, Text.percentDecode_plain h, Text.decodeLossy_ascii fun c hc => (h c hc).1]

end Http

end Orchestrator
