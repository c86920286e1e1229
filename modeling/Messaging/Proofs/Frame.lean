import Messaging.Proofs.Outcome

/-! What a computation leaves alone. A part of the machine is kept by a computation if it is the same after it,
    however the computation ends; what is put together from computations that keep a part keeps it too. -/

namespace Messaging
namespace Exec
variable {α β γ : Type} {part : Machine → γ} {x : Exec α}

def Keeps (part : Machine → γ) (x : Exec α) : Prop := ∀ s, part (x.outcome s).2 = part s

theorem keeps_pure (a : α) : Keeps part (pure a : Exec α) := fun _ => rfl

theorem keeps_throw (i : Interruption) : Keeps part (throw i : Exec α) := fun _ => rfl

theorem keeps_get : Keeps part (get : Exec Machine) := fun _ => rfl

theorem Keeps.bind {f : α → Exec β} (hx : Keeps part x) (hf : ∀ a, Keeps part (f a)) : Keeps part (x >>= f) := by
  intro s
  have first := hx s
  rw [outcome_bind]
  generalize x.outcome s = ended at first ⊢
  obtain ⟨r, t⟩ := ended
  cases r with
  | ok a => exact (hf a t).trans first
  | error i => exact first

theorem keeps_log (same : ∀ (s : Machine) journal, part { s with journal } = part s) (origin : Log.Origin)
    (level : Log.Level) (text : String) : Keeps part (log origin level text) := fun s => same s _

end Exec
end Messaging
