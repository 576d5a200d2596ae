import Orchestrator.Proofs.Program.Trace

/-!
# What programs yield

`p.Yields t a`: asked and answered as in the trace `t`, the program `p` comes to its end with `a`. A
program that is put together of two asks what the first asks and then what the second asks
(`Program.yields_bind`, `Task.yields_bind`), so the traces of a program can be told exactly, not only
bounded.

Main statement: `Program.exists_yields`, a program comes to an end whoever answers it.
-/
namespace Orchestrator

namespace Program

variable {α β : Type}

/-- The program has come to its end with a result after a trace. -/
def Yields (p : Program α) (t : Trace) (a : α) : Prop := p.Follows t (.done a)

@[simp] theorem yields_done {a b : α} {t : Trace} :
    (Program.done a).Yields t b ↔ t = [] ∧ b = a := by
  constructor
  · intro h
    cases h
    exact ⟨rfl, rfl⟩
  · rintro ⟨rfl, rfl⟩
    exact .here _

@[simp] theorem yields_pure {a b : α} {t : Trace} :
    (pure a : Program α).Yields t b ↔ t = [] ∧ b = a := yields_done

theorem yields_ask {r : Request} {next : r.Answer → Program α} {t : Trace} {a : α} :
    (Program.ask r next).Yields t a ↔
      ∃ answer u, t = ⟨r, answer⟩ :: u ∧ (next answer).Yields u a := by
  constructor
  · intro h
    cases h with
    | answered h => exact ⟨_, _, rfl, h⟩
  · rintro ⟨answer, u, rfl, h⟩
    exact .answered h

theorem yields_bind {p : Program α} {f : α → Program β} {t : Trace} {b : β} :
    (p >>= f).Yields t b ↔ ∃ a u v, t = u ++ v ∧ p.Yields u a ∧ (f a).Yields v b := by
  induction p generalizing t with
  | done a =>
    constructor
    · intro h
      exact ⟨a, [], t, rfl, .here _, h⟩
    · rintro ⟨a', u, v, rfl, hp, hf⟩
      obtain ⟨rfl, rfl⟩ := yields_done.1 hp
      exact hf
  | ask r next ih =>
    rw [ask_bind, yields_ask]
    constructor
    · rintro ⟨answer, u, rfl, h⟩
      obtain ⟨a, v, w, rfl, hp, hf⟩ := (ih answer).1 h
      exact ⟨a, ⟨r, answer⟩ :: v, w, rfl, .answered hp, hf⟩
    · rintro ⟨a, u, v, rfl, hp, hf⟩
      obtain ⟨answer, w, rfl, hnext⟩ := yields_ask.1 hp
      exact ⟨answer, w ++ v, rfl, (ih answer).2 ⟨a, w, v, rfl, hnext, hf⟩⟩

end Program

/-- Whoever answers does so by what was asked and answered before. -/
def Trace.AnsweredBy (answer : Trace → (r : Request) → r.Answer) (t : Trace) : Prop :=
  ∀ u x v, t = u ++ x :: v → x.answer = answer u x.request

/-- Whoever answers, a program comes to an end. -/
theorem Program.exists_yields {α : Type} (p : Program α)
    (answer : Trace → (r : Request) → r.Answer) :
    ∃ t a, p.Yields t a ∧ t.AnsweredBy answer := by
  induction p generalizing answer with
  | done a => exact ⟨[], a, .here _, fun u x v h => by simp at h⟩
  | ask r next ih =>
    obtain ⟨t, a, hyields, hanswered⟩ := ih (answer [] r) fun u => answer (⟨r, answer [] r⟩ :: u)
    refine ⟨⟨r, answer [] r⟩ :: t, a, .answered hyields, fun u x v h => ?_⟩
    cases u with
    | nil =>
      obtain ⟨rfl, -⟩ := List.cons.inj h
      rfl
    | cons y u =>
      obtain ⟨rfl, ht⟩ := List.cons.inj h
      exact hanswered u x v ht

/-! ## Tasks -/

namespace Task

variable {ε α β : Type}

/-- A task that is put together of two fails with the first, or goes on with the second. -/
theorem yields_bind {x : Task ε α} {f : α → Task ε β} {t : Trace} {r : Except (Failure ε) β} :
    (x >>= f).run.Yields t r ↔
      (∃ e, r = .error e ∧ x.run.Yields t (.error e)) ∨
        ∃ a u v, t = u ++ v ∧ x.run.Yields u (.ok a) ∧ (f a).run.Yields v r := by
  rw [ExceptT.run_bind, Program.yields_bind]
  constructor
  · rintro ⟨e | a, u, v, rfl, hx, hrest⟩
    · obtain ⟨rfl, rfl⟩ := Program.yields_pure.1 hrest
      exact .inl ⟨e, rfl, by rwa [List.append_nil]⟩
    · exact .inr ⟨a, u, v, rfl, hx, hrest⟩
  · rintro (⟨e, rfl, hx⟩ | ⟨a, u, v, rfl, hx, hf⟩)
    · exact ⟨.error e, t, [], (List.append_nil t).symm, hx, Program.yields_pure.2 ⟨rfl, rfl⟩⟩
    · exact ⟨.ok a, u, v, rfl, hx, hf⟩

@[simp] theorem yields_pure {a : α} {t : Trace} {r : Except (Failure ε) α} :
    (pure a : Task ε α).run.Yields t r ↔ t = [] ∧ r = .ok a := Program.yields_done

@[simp] theorem yields_fail {e : ε} {t : Trace} {r : Except (Failure ε) α} :
    (Task.fail e : Task ε α).run.Yields t r ↔ t = [] ∧ r = .error (.error e) := Program.yields_done

/-- A task that asks first goes on with the answer. -/
theorem yields_ask_bind {q : Request} {f : q.Answer → Task ε β} {t : Trace} {r : Except (Failure ε) β} :
    (Task.ask q >>= f).run.Yields t r ↔ ∃ answer u, t = ⟨q, answer⟩ :: u ∧ (f answer).run.Yields u r := by
  have hask : (Task.ask q >>= f).run = .ask q fun answer => (f answer).run := rfl
  rw [hask]
  exact Program.yields_ask

end Task

/-- A task that calls the engine first fails with the call, or goes on with its value. -/
theorem Fleet.yields_call_bind {β : Type} {c : Engine.Call} {f : c.Value → Task ContainerError β}
    {t : Trace} {r : Except (Failure ContainerError) β} :
    (Fleet.call c >>= f).run.Yields t r ↔
      (∃ e, t = [⟨.engine c, .error e⟩] ∧ r = .error (e.map .engine)) ∨
        ∃ v u, t = ⟨.engine c, .ok v⟩ :: u ∧ (f v).run.Yields u r := by
  have hcall : (Fleet.call c >>= f).run = .ask (.engine c) fun (reply : c.Reply) =>
      match reply with
      | .error e => .done (.error (e.map .engine))
      | .ok v => (f v).run := by
    refine congrArg (Program.ask (.engine c)) (funext fun (reply : c.Reply) => ?_)
    cases reply with
    | error e => rfl
    | ok v => rfl
  rw [hcall, Program.yields_ask]
  constructor
  · rintro ⟨e | v, u, rfl, h⟩
    · obtain ⟨rfl, rfl⟩ := Program.yields_done.1 h
      exact .inl ⟨e, rfl, rfl⟩
    · exact .inr ⟨v, u, rfl, h⟩
  · rintro (⟨e, rfl, rfl⟩ | ⟨v, u, rfl, h⟩)
    · exact ⟨.error e, [], rfl, Program.yields_done.2 ⟨rfl, rfl⟩⟩
    · exact ⟨.ok v, u, rfl, h⟩

end Orchestrator
