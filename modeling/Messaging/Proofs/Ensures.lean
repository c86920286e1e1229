import Messaging.Proofs.Outcome

/-! What a computation ensures however it ends: a property of the machine that it leaves, and something more where it
    has a result. What is put together from computations that ensure something ensures it too. -/

namespace Messaging
namespace Exec
variable {α β : Type} {s t : Machine} {x : Exec α} {holds held : Machine → Prop} {P : α → Machine → Prop}
  {Q : β → Machine → Prop}

def Ensures (holds : Machine → Prop) (x : Exec α) (s : Machine) (post : α → Machine → Prop) : Prop :=
  holds (x.outcome s).2 ∧ ∀ a, (x.outcome s).1 = .ok a → post a (x.outcome s).2

/-- What holds before the computation holds after it. -/
def Maintains (holds : Machine → Prop) (x : Exec α) : Prop := ∀ s, holds s → holds (x.outcome s).2

theorem ensures_of_outcome {r : Except Interruption α} (ran : x.outcome s = (r, t)) (left : holds t)
    (post : ∀ a, r = .ok a → P a t) : Ensures holds x s P := by
  unfold Ensures
  rw [ran]
  exact ⟨left, post⟩

/-- Where nothing is asked of the result, only the machine that is left counts. -/
theorem ensures_of_left (left : holds (x.outcome s).2) : Ensures holds x s fun _ _ => True := ⟨left, fun _ _ => trivial⟩

theorem Ensures.left (hx : Ensures holds x s fun _ _ => True) : holds (x.outcome s).2 := hx.1

theorem ensures_pure {a : α} (here : holds s) (post : P a s) : Ensures holds (pure a : Exec α) s P :=
  ensures_of_outcome (outcome_pure a) here (by rintro _ ⟨⟩; exact post)

theorem Ensures.bind {f : α → Exec β} (hx : Ensures holds x s P)
    (hf : ∀ a t, holds t → P a t → Ensures holds (f a) t Q) : Ensures holds (x >>= f) s Q := by
  obtain ⟨left, post⟩ := hx
  rcases ran : x.outcome s with ⟨i | a, t⟩
  · rw [ran] at left
    exact ensures_of_outcome (outcome_bind_error ran) left nofun
  · rw [ran] at left post
    obtain ⟨left, post⟩ := hf a t left (post a rfl)
    unfold Ensures
    rw [outcome_bind_ok ran]
    exact ⟨left, post⟩

theorem Ensures.mono {P' : α → Machine → Prop} (hx : Ensures held x s P) (weaken : ∀ t, held t → holds t)
    (post : ∀ a t, held t → P a t → P' a t) : Ensures holds x s P' :=
  ⟨weaken _ hx.1, fun a ends => post a _ hx.1 (hx.2 a ends)⟩

theorem Ensures.congr {y : Exec α} (hx : Ensures holds x s P) (same : y.outcome s = x.outcome s) : Ensures holds y s P := by
  unfold Ensures
  rw [same]
  exact hx

/-! ### Computations that maintain something -/

theorem Maintains.ensures (hx : Maintains holds x) (here : holds s) : Ensures holds x s fun _ _ => True :=
  ensures_of_left (hx s here)

theorem Ensures.maintains (hx : ∀ s, holds s → Ensures holds x s P) : Maintains holds x := fun s here => (hx s here).1

theorem maintains_pure (a : α) : Maintains holds (pure a : Exec α) := fun _ here => here

theorem maintains_throw (i : Interruption) : Maintains holds (throw i : Exec α) := fun _ here => here

theorem maintains_get : Maintains holds (get : Exec Machine) := fun _ here => here

theorem Maintains.bind {f : α → Exec β} (hx : Maintains holds x) (hf : ∀ a, Maintains holds (f a)) :
    Maintains holds (x >>= f) := fun _ here =>
  ((hx.ensures here).bind fun a _ left _ => (hf a).ensures left).left

theorem Maintains.attempt (hx : Maintains holds x) : Maintains holds (attempt x) := fun s here => hx s here

theorem maintains_forM {l : List α} {f : α → Exec PUnit} (hf : ∀ a, Maintains holds (f a)) :
    Maintains holds (l.forM f) := by
  induction l with
  | nil => exact maintains_pure _
  | cons a rest ih => exact (hf a).bind fun _ => ih

theorem Maintains.ensuring {tidy : Exec Unit} (hx : Maintains holds x) (ht : Maintains holds tidy) :
    Maintains holds (ensuring x tidy) := by
  refine hx.attempt.bind fun r => ?_
  cases r with
  | ok a => exact ht.bind fun _ => maintains_pure a
  | error i =>
    dsimp only
    split
    · exact ht.bind fun _ => maintains_throw i
    · exact maintains_throw i

theorem Maintains.confined (hx : Maintains holds x) : Maintains holds (confined x) := by
  refine hx.attempt.bind fun r => ?_
  cases r with
  | ok a => exact maintains_pure a
  | error i => exact maintains_throw _

end Exec
end Messaging
