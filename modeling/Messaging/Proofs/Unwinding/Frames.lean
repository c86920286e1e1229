import Messaging.Proofs.Memory.Levels
import Messaging.Proofs.Unwinding.Ledgers

/-! The frames of a program. However what runs in a frame ends, the frame gives up what it owns once: a pool releases
    each reference that got into it, and a handle its only one. A guarded region stops a throw and nothing else. -/

namespace Messaging
namespace Unwinding
open Exec

variable {n m : Nat} {α β : Type} {s t u v : Machine} {g h : Address → Nat} {a b : Address}
  {added added' leaked leaked' : List Address} {env : Env n m} {x y : Exec Unit} {i : Interruption}

/-- What interrupts the first of two computations interrupts both. -/
theorem Ended.stop {x : Exec α} {f : α → Exec β} (ran : Ended x s (.error i) u added leaked g) :
    Ended (x >>= f) s (.error i) u added leaked g :=
  .of_error (outcome_bind_error ran.ends) ran.leaves ran.unwinds

/-- What is left by one computation is there for the next. -/
theorem Leaves.then {r : Except Interruption α} {z : Exec α} (left : Leaves s t added leaked h)
    (ran : Ended z t r u added' leaked' (plus (plus g leaked) (flying r))) :
    Leaves s u (added ++ added') (leaked ++ leaked') (plus g (flying r)) := by
  have leaves := ran.leaves
  rw [plus_comm] at leaves
  exact left.trans leaves

/-- Frames are unwound, and in the end gave up the references that they owned and those in their pools. -/
structure Unwinds (ks : List Frame) (u v : Machine) : Prop where
  ends : (unwinding ks).outcome u = (.ok (), v)
  counts : ∀ b, v.memory.count b + (owners ks).count b + u.memory.pools.objects.count b =
    u.memory.count b + v.memory.pools.objects.count b

theorem unwinds_nil (u : Machine) : Unwinds [] u u := ⟨rfl, fun _ => rfl⟩

theorem Unwinds.append {js ks : List Frame} (inner : Unwinds js s t) (outer : Unwinds ks t u) : Unwinds (js ++ ks) s u where
  ends := by
    unfold unwinding
    rw [List.forM_eq_forM, List.forM_append]
    exact (outcome_bind_ok inner.ends).trans outer.ends
  counts b := by
    have first := inner.counts b
    have second := outer.counts b
    simp only [owners, List.flatMap_append, List.count_append] at first second ⊢
    omega

theorem unwinds_singleton {k : Frame} (tidied : k.tidy.outcome u = (.ok (), v))
    (counts : ∀ b, v.memory.count b + (owners [k]).count b + u.memory.pools.objects.count b =
      u.memory.count b + v.memory.pools.objects.count b) : Unwinds [k] u v :=
  ⟨(outcome_bind_ok tidied).trans (outcome_pure _), counts⟩

/-! ### Handles -/

theorem outcome_holding_ok (ran : x.outcome s = (.ok (), t)) : (holding a x y).outcome s = y.outcome t := by
  unfold holding
  rw [outcome_bind_ok (outcome_attempt x), ran]

theorem outcome_holding_error (ran : x.outcome s = (.error i, t)) (unwinds : i.isFatal = false)
    (released : (release a).outcome t = (.ok (), u)) : (holding a x y).outcome s = (.error i, u) := by
  unfold holding
  rw [outcome_bind_ok (outcome_attempt x), ran]
  simp only [unwinds, Bool.not_false, if_true]
  rw [outcome_bind_ok released, outcome_throw]

/-- A frame that is unwound gives up the reference that it owns. -/
theorem Ended.unwound (settled : s.memory.pools.Settled)
    (ran : Ended x s (.error i) t added leaked (plus (plus g [a]) (flying (.error i : Except Interruption Unit)))) :
    ∃ u, Unwinds [.handle a] t u ∧
      Ended (holding a x y) s (.error i) u added leaked (plus g (flying (.error i : Except Interruption Unit))) := by
  have sound := ran.leaves.sound settled
  rw [plus_comm [a], plus_comm [a]] at sound
  obtain ⟨u, released, left⟩ := sound.release
  refine ⟨u, unwinds_singleton released fun b => ?_,
    .of_error (outcome_holding_error ran.ends ran.unwinds released) (left.after ran.leaves) ran.unwinds⟩
  rw [left.balanced.accounts.count, sound.count, left.pools, List.append_nil, plus_nil]
  simp only [plus, owners, List.flatMap_singleton]
  omega

theorem Fate.ends (env : Env n m) (sound : Sound s (plus g [a])) (fate : Fate m) : ∃ r u added leaked,
    Ended (fate.settle env a) s r u added leaked (plus g (flying r)) ∧
    ∀ i, r = .error i → ∃ op, fate.op? env a = some op ∧ op.run.outcome s = (.error i, u) := by
  cases fate with
  | drop =>
    obtain ⟨u, released, left⟩ := sound.release
    exact ⟨.ok (), u, [], [], ⟨released, left, nofun⟩, nofun⟩
  | autorelease =>
    obtain ⟨u, added, leaked, pooled, left, -⟩ := sound.autorelease
    exact ⟨.ok (), u, added, leaked, ⟨pooled, left, nofun⟩, nofun⟩
  | throw =>
    have ready : (Op.throwOwned a).Ready s g := ⟨sound, nofun⟩
    obtain ⟨r, u, added, ended⟩ := ready.ends
    exact ⟨r, u, added, [], ended.toEnded, fun i same => ⟨_, rfl, same ▸ ended.ends⟩⟩
  | handOver scope =>
    have ready : (Op.handOver a (env.scopes scope)).Ready s g := ⟨sound, nofun⟩
    obtain ⟨r, u, added, ended⟩ := ready.ends
    exact ⟨r, u, added, [], ended.toEnded, fun i same => ⟨_, rfl, same ▸ ended.ends⟩⟩

/-! ### Pools -/

theorem Sound.pushed (sound : Sound s g) : Sound (pushed s) g := ⟨sound.balanced.setPools _, PoolStack.settled_push⟩

theorem marks_pushed : (pushed s).memory.pools.marks ≠ [] := List.append_ne_nil_of_right_ne_nil _ (List.cons_ne_nil _ _)

/-- A computation has a pool of its own. However it ends, each reference that got into the pool is released once, the
    newest first, and the pools are as before. -/
def Drained (x : Nat → Exec α) (s : Machine) : Prop :=
  ∃ r u v added, (x s.memory.pools.depth).outcome (pushed s) = (r, u) ∧ (withPool x).outcome s = (r, v) ∧
    u.memory.pools = { (pushed s).memory.pools with objects := s.memory.pools.objects ++ added } ∧
    { u.memory with pools := s.memory.pools }.releaseAll added.reverse = some v.memory ∧
    v.memory.pools = s.memory.pools ∧ ∀ b, v.memory.count b + added.count b = u.memory.count b

theorem Ended.drains {x : Nat → Exec α} {r : Except Interruption α} (settled : s.memory.pools.Settled)
    (ran : Ended (x s.memory.pools.depth) (pushed s) r u added leaked g) : ∃ v,
    Unwinds [.pool s.memory.pools.depth] u v ∧ Ended (withPool x) s r v [] [] g ∧
    { u.memory with pools := s.memory.pools }.releaseAll added.reverse = some v.memory ∧
    ∀ b, v.memory.count b + added.count b = u.memory.count b := by
  have pools : u.memory.pools = { s.memory.pools.push.2 with objects := s.memory.pools.objects ++ added } := ran.leaves.pools
  have cut : u.memory.pools.retire s.memory.pools.depth = (added.reverse, s.memory.pools) := by
    rw [pools]
    exact PoolStack.retire_push settled added
  have balanced := ran.leaves.balanced
  rw [ran.leaves.pooled marks_pushed, plus_nil, pools, plus_append] at balanced
  -- The ledger has a reference for each entry of the pool, so no release can miss its object.
  obtain ⟨k, released, after, -⟩ : ∃ k, { u.memory with pools := s.memory.pools }.releaseAll added.reverse = some k ∧
      k.Balanced (plus g s.memory.pools.objects) ∧ Memory.Later _ k := by
    refine Memory.Balanced.releaseAll ?_
    have cutOff := balanced.setPools s.memory.pools
    rw [← plus_reverse added] at cutOff
    exact cutOff
  have restored : k.pools = s.memory.pools := (Memory.pools_releaseAll released).trans rfl
  obtain ⟨journal, retired⟩ := outcome_retirePool cut released
  have left : Leaves s { u with memory := k, journal } [] [] g := .of_pools restored after
  have counts (b : Address) : k.count b + added.count b = u.memory.count b := by
    rw [after.accounts.count, balanced.accounts.count]
    rfl
  refine ⟨_, unwinds_singleton retired fun b => ?_, ⟨?_, left, ran.harmless⟩, released, counts⟩
  · rw [pools, ← counts b]
    simp only [owners, restored, List.count_append, List.flatMap_singleton, List.count_nil]
    omega
  · unfold withPool
    rw [outcome_bind_ok outcome_pushPool]
    have ends := ran.ends
    cases r with
    | ok a => exact outcome_ensuring_ok ends retired
    | error i => exact outcome_ensuring_error ends (ran.harmless i rfl) retired

theorem Ended.drained {x : Nat → Exec α} {r : Except Interruption α} (settled : s.memory.pools.Settled)
    (ran : Ended (x s.memory.pools.depth) (pushed s) r u added leaked g) : Drained x s := by
  obtain ⟨v, -, ended, released, counts⟩ := ran.drains settled
  have pools := ended.leaves.pools
  rw [List.append_nil] at pools
  exact ⟨r, u, v, added, ran.ends, ended.ends, ran.leaves.pools, released, pools, counts⟩

/-! ### Guarded regions -/

section
variable (region : Region)

theorem outcome_region_ok (ran : x.outcome s = (.ok (), t)) : (region.run x).outcome s = (.ok none, t) := by
  cases region with
  | tryCatch => exact (outcome_bind_ok (outcome_catchThrown_ok ran)).trans (outcome_pure _)
  | guardedCall => exact (outcome_bind_ok (outcome_catchThrown_ok ran)).trans (outcome_pure _)

theorem outcome_region_thrown (ran : x.outcome s = (.error (.thrown a), t)) :
    ∃ journal, (region.run x).outcome s = (.ok (some a), { t with journal }) := by
  obtain ⟨journal, caught⟩ := outcome_catchThrown_thrown ran
  cases region with
  | tryCatch => exact ⟨journal, (outcome_bind_ok caught).trans (outcome_pure _)⟩
  | guardedCall => exact ⟨_, (outcome_bind_ok caught).trans ((outcome_bind_ok (outcome_log _ _ _)).trans (outcome_pure _))⟩

theorem outcome_region_panic {text : String} (ran : x.outcome s = (.error (.panic text), t)) :
    (region.run x).outcome s = (.error (.panic text), t) := by
  have passes : (catchThrown x).outcome s = (.error (.panic text), t) := by
    unfold catchThrown
    rw [outcome_bind_ok (outcome_attempt x), ran]
    rfl
  cases region with
  | tryCatch => exact outcome_bind_error passes
  | guardedCall => exact outcome_bind_error passes

end

/-- A region ends with nothing, with what was thrown in it, or with the panic that went through it. -/
theorem Ended.region {r : Except Interruption Unit} (region : Region) (ran : Ended x s r t added leaked (plus g (flying r))) :
    (r = .ok () ∧ (region.run x).outcome s = (.ok none, t)) ∨
    (∃ a journal, r = .error (.thrown a) ∧ (region.run x).outcome s = (.ok (some a), { t with journal })) ∨
    ∃ text, r = .error (.panic text) ∧ (region.run x).outcome s = (.error (.panic text), t) := by
  cases r with
  | ok x => exact Or.inl ⟨rfl, outcome_region_ok region ran.ends⟩
  | error i =>
    have unwinds := ran.unwinds
    cases i with
    | thrown a =>
      obtain ⟨journal, caught⟩ := outcome_region_thrown region ran.ends
      exact Or.inr (Or.inl ⟨a, journal, rfl, caught⟩)
    | panic text => exact Or.inr (Or.inr ⟨text, rfl, outcome_region_panic region ran.ends⟩)
    | abort => cases unwinds
    | stray a => cases unwinds

end Unwinding
end Messaging
