import Orchestrator.Event.Basic
import Orchestrator.Proofs.Store.Records

/-!
# What is kept or reported is read back as it was

Deployments, secrets, containers and records of finished jobs are read back from the text and from the
bytes they are written as, and an event from the text its followers get, whatever they hold:
`records_survive`.
-/
namespace Orchestrator

/-! ## Names -/

theorem Json.asChoice_text {α : Type} {parse? : String → Option α} {reading : Json.Reading}
    {s : String} {a : α} (h : parse? s = some a) : Json.asChoice parse? reading (Json.text s) = .ok a :=
  Json.asParsed_text h

theorem ContainerState.ofName?_name (s : ContainerState) : ofName? s.name = some s := by
  cases s <;> rfl

theorem Phase.ofName?_name (p : Phase) : ofName? p.name = some p := by
  cases p <;> rfl

/-! ## Records -/

namespace Container

theorem printable_toJson (c : Container) : c.toJson.Printable := by
  apply Json.printable_record
  simp

@[simp] theorem asState_name (reading : Json.Reading) (s : ContainerState) :
    asState reading (Json.text s.name) = .ok s :=
  Json.asChoice_text s.ofName?_name

@[simp] theorem asOption_text (o : Option String) :
    Json.asOption Json.asText (Json.ofOption Json.text o) = .ok o :=
  Json.asOption_ofOption (fun _ h => by cases h) Json.asText_text o

/-- A container is read as it was written, straight from the text or set aside first. -/
theorem ofJson_toJson (reading : Json.Reading) (c : Container) : ofJson reading c.toJson = .ok c := by
  rw [ofJson, toJson, Json.asRecord_record]
  · simp [Json.Given.get, Json.Given.get?, Json.Given.value?, bind, Except.bind, pure, Except.pure]
  · simp [fields, Json.Fills, Json.required, Json.nullable, Except.map]
  · simp

end Container

namespace Event

theorem printable_toJson (e : Event) : e.toJson.Printable := by
  apply Json.printable_record
  simp

@[simp] theorem asPhase_name (p : Phase) : asPhase (Json.text p.name) = .ok p :=
  Json.asChoice_text p.ofName?_name

theorem ofJson_toJson (e : Event) : ofJson e.toJson = .ok e := by
  rw [ofJson, toJson, Json.asRecord_record]
  · simp [Json.Given.get, Json.Given.value?, bind, Except.bind, pure, Except.pure]
  · simp [Json.Fills, Json.required, Except.map]
  · simp

end Event

/-! ## Texts and bytes -/

namespace Json

/-- What was printed from a tree that reads as a value is decoded as the value. -/
theorem decode_render {α : Type} {read : Json → Decoded α} {j : Json} {a : α} (hj : j.Printable)
    (h : read j = .ok a) : decode read j.render.toList = .ok a := by
  rw [decode, read_render hj]
  simp only [h]
  rfl

/-- A value is read back from the text of its tree and from the bytes the tree is kept as. -/
structure Survives {α : Type} (write : α → Json) (read : Json → Decoded α) (a : α) : Prop where
  text : decode read (write a).render.toList = .ok a
  bytes : Store.decode read (Store.encode (write a)) = .ok a

theorem survives {α : Type} {write : α → Json} {read : Json → Decoded α} {a : α}
    (hprint : (write a).Printable) (hread : read (write a) = .ok a) : Survives write read a where
  text := decode_render hprint hread
  bytes := Store.decode_encode hprint hread

end Json

open Json in
/-- Every record that is kept or shown is read back as it was, and so is every event that is sent. -/
theorem records_survive :
    (∀ d : Deployment, Survives Deployment.toJson (Deployment.ofJson .direct) d)
    ∧ (∀ s : Secret, Survives Secret.toJson Secret.ofJson s)
    ∧ (∀ c : Container, Survives Container.toJson (Container.ofJson .direct) c)
    ∧ (∀ a : Activity, Survives Activity.toJson Activity.ofJson a)
    ∧ ∀ e : Event, Json.decode Event.ofJson e.wireText.toList = .ok e :=
  ⟨fun d => survives d.printable_toJson d.ofJson_toJson,
    fun s => survives s.printable_toJson s.ofJson_toJson,
    fun c => survives c.printable_toJson (c.ofJson_toJson .direct),
    fun a => survives a.printable_toJson a.ofJson_toJson,
    fun e => decode_render e.printable_toJson e.ofJson_toJson⟩

end Orchestrator
