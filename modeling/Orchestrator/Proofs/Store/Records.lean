import Orchestrator.Proofs.Instant.Written
import Orchestrator.Proofs.Json.Records
import Orchestrator.Store.Typed

/-!
# Stored records are found as they were kept

The bytes that a deployment, a secret or the record of a finished job is kept as are read back as that
deployment, secret or record: `decode_deployment`, `decode_secret`, `decode_activity`.
-/
namespace Orchestrator

/-! ## Identifiers -/

namespace Uuid

theorem length_digits (u : Uuid) : u.digits.length = 32 := by
  have hlen : (Text.hex u.bits.toNat).length ≤ 32 :=
    (Nat.length_toDigits_le_iff (by decide) (by decide)).2 (by simpa using u.bits.isLt)
  rw [digits, Text.hexPadded, List.length_append, List.length_replicate]
  omega

theorem ofDigits?_digits (u : Uuid) : ofDigits? u.digits = some u := by
  rw [ofDigits?, if_pos u.length_digits, digits, Text.ofHex?_hexPadded, Option.map_some,
    BitVec.ofNat_toNat, BitVec.setWidth_eq]

/-- Five groups are read as the digits of all. -/
theorem ofGroups?_groups {a b c d e : List Char} (ha : a.length = 8) (hb : b.length = 4)
    (hc : c.length = 4) (hd : d.length = 4) (he : e.length = 12) :
    ofGroups? (a ++ '-' :: (b ++ '-' :: (c ++ '-' :: (d ++ '-' :: e))))
      = ofDigits? (a ++ b ++ c ++ d ++ e) := by
  unfold ofGroups?
  rw [if_pos (by simp [ha, hb, hc, hd, he])]
  simp (disch := omega) [ha, hb, hc, hd, List.drop_append, List.drop_of_length_le]

/-- The digits are those of the five groups. -/
theorem groups_append (digits : List Char) :
    digits.take 8 ++ (digits.drop 8).take 4 ++ (digits.drop 12).take 4 ++ (digits.drop 16).take 4
      ++ digits.drop 20 = digits := by
  have hfirst := List.take_append_drop 8 digits
  have hsecond := List.take_append_drop 4 (digits.drop 8)
  have hthird := List.take_append_drop 4 (digits.drop 12)
  have hfourth := List.take_append_drop 4 (digits.drop 16)
  simp only [List.drop_drop, Nat.reduceAdd] at hsecond hthird hfourth
  rw [List.append_assoc, List.append_assoc, List.append_assoc, hfourth, hthird, hsecond, hfirst]

/-- An identifier is read as it was written. -/
theorem ofText?_render (u : Uuid) : ofText? u.render = some u := by
  have hlen := u.length_digits
  have htext : u.render.toList = u.digits.take 8 ++ '-' :: ((u.digits.drop 8).take 4 ++ '-' ::
      ((u.digits.drop 12).take 4 ++ '-' :: ((u.digits.drop 16).take 4 ++ '-' ::
        u.digits.drop 20))) := by
    simp [render]
  have hgroups : ofGroups? u.render.toList = some u := by
    rw [htext, ofGroups?_groups (by simp [hlen]) (by simp [hlen]) (by simp [hlen]) (by simp [hlen])
      (by simp [hlen]), groups_append, ofDigits?_digits]
  have hlength : u.render.toList.length = 36 := by
    rw [htext]
    simp [hlen]
  -- the first character is a digit, so the text starts neither with a brace nor as a URN does
  have hfirst : ∀ c ∈ u.render.toList.head?, (Text.hexValue? c).isSome := by
    intro c hc
    have hmem : c ∈ u.digits := by
      cases hdigits : u.digits with
      | nil =>
        rw [hdigits] at hlen
        cases hlen
      | cons d digits =>
        rw [htext, hdigits] at hc
        cases hc
        exact List.mem_cons_self
    exact Text.isSome_hexValue?_of_mem (Text.ofHex?_hexPadded 32 _) hmem
  unfold ofText?
  split
  · rename_i heq
    exact absurd (hfirst _ (by rw [heq]; rfl)) (by decide)
  · rename_i heq
    exact absurd (hfirst _ (by rw [heq]; rfl)) (by decide)
  · rw [if_neg (by omega), hgroups]

end Uuid

/-! ## Records -/

namespace Secret

theorem printable_toJson (s : Secret) : s.toJson.Printable := by
  apply Json.printable_record
  simp

theorem ofJson_toJson (s : Secret) : ofJson s.toJson = .ok s := by
  rw [ofJson, toJson, Json.asRecord_record]
  · simp [Json.Given.get, Json.Given.value?, bind, Except.bind, pure, Except.pure]
  · simp [Json.Fills, Json.required, Except.map]
  · simp

end Secret

namespace Deployment

theorem printable_toJson (d : Deployment) : d.toJson.Printable := by
  apply Json.printable_record
  simp

theorem ofJson_toJson (d : Deployment) : ofJson .direct d.toJson = .ok d := by
  rw [ofJson, toJson, Json.asRecord_record]
  · simp [Json.Given.get, Json.Given.getD, Json.Given.value?, bind, Except.bind, pure, Except.pure]
  · simp [fields, Json.Fills, Json.required, Json.defaulted, Except.map]
  · simp

end Deployment

namespace Activity

theorem printable_toJson (a : Activity) : a.toJson.Printable := by
  apply Json.printable_record
  simp

@[simp] theorem asUuid_text (u : Uuid) : asUuid (Json.text u.render) = .ok u :=
  Json.asParsed_text u.ofText?_render

@[simp] theorem asInstant_text (t : Instant) : Container.asInstant (Json.text t.render) = .ok t :=
  Json.asParsed_text t.ofText?_render

@[simp] theorem asOption_instant (o : Option Instant) :
    Json.asOption Container.asInstant (Json.ofOption (fun t => Json.text t.render) o) = .ok o :=
  Json.asOption_ofOption (fun _ h => by cases h) asInstant_text o

theorem ofJson_toJson (a : Activity) : ofJson a.toJson = .ok a := by
  rw [ofJson, toJson, Json.asRecord_record]
  · simp [Json.Given.get, Json.Given.get?, Json.Given.value?, bind, Except.bind, pure, Except.pure]
  · simp [fields, Json.Fills, Json.required, Json.nullable, Except.map]
  · simp

end Activity

namespace Store

open Orchestrator.Json

/-- What was encoded from a tree that reads as a value is decoded as the value. -/
theorem decode_encode {α : Type} {read : Json → Decoded α} {j : Json} {a : α} (hj : j.Printable)
    (h : read j = .ok a) : decode read (encode j) = .ok a := by
  have htext : String.fromUTF8? (encode j) = some j.render := by
    have hvalid : (encode j).IsValidUTF8 := j.render.isValidUTF8
    rw [String.fromUTF8?, dif_pos hvalid]
    rfl
  have hread : Json.decode read j.render.toList = .ok a := by
    rw [Json.decode, read_render hj]
    simp only [h]
    rfl
  simp only [decode, htext, hread]

theorem decode_secret (s : Secret) : decode Secret.ofJson (encode s.toJson) = .ok s :=
  decode_encode s.printable_toJson s.ofJson_toJson

theorem decode_deployment (d : Deployment) :
    decode (Deployment.ofJson .direct) (encode d.toJson) = .ok d :=
  decode_encode d.printable_toJson d.ofJson_toJson

theorem decode_activity (a : Activity) : decode Activity.ofJson (encode a.toJson) = .ok a :=
  decode_encode a.printable_toJson a.ofJson_toJson

/-- A record that was kept is found under its key. -/
theorem decoded?_recordActivity (s : Store) (a : Activity) :
    (s.recordActivity a).decoded? Activity.ofJson activityCollection a.tableKey = .ok (some a) := by
  have hbytes : (s.recordActivity a).get? activityCollection a.tableKey = some (encode a.toJson) :=
    (get?_put ..).trans (if_pos ⟨rfl, rfl⟩)
  simp only [decoded?, hbytes, decode_activity]
  rfl

/-- Nothing is written under another key. -/
theorem get?_recordActivity_of_ne (s : Store) {a : Activity} {collection key : String}
    (h : (collection, key) ≠ (activityCollection, a.tableKey)) :
    (s.recordActivity a).get? collection key = s.get? collection key :=
  (get?_put ..).trans (if_neg fun heq => h (Prod.ext heq.1 heq.2))

end Store

end Orchestrator
