import Messaging.Proofs.Memory.Accounts
import Messaging.Proofs.Outcome

/-! What the operations on objects and pools do to a machine. Each does to the memory what the operation of
    `Memory` says, may write to the journal, and leaves the rest alone. -/

namespace Messaging
open Exec
variable {s : Machine} {m : Memory} {a : Address}

/-! ### Objects -/

theorem outcome_objectAt {o : Object} (live : s.memory.get? a = some o) : (objectAt a).outcome s = (.ok o, s) := by
  unfold objectAt
  rw [outcome_bind_ok outcome_get]
  simp only [live, outcome_pure]

/-- Nothing lives at the address. -/
theorem outcome_objectAt_stray (free : s.memory.get? a = none) : (objectAt a).outcome s = (.error (.stray a), s) := by
  unfold objectAt
  rw [outcome_bind_ok outcome_get]
  simp only [free, outcome_throw]

theorem outcome_classOf {o : Object} (live : s.memory.get? a = some o) : (classOf a).outcome s = (.ok o.cls, s) := by
  unfold classOf
  rw [outcome_bind_ok (outcome_objectAt live), outcome_pure]

theorem outcome_onObject {op : Memory → Option Memory} (h : op s.memory = some m) :
    (onObject a op).outcome s = (.ok (), { s with memory := m }) := by
  unfold onObject
  rw [outcome_bind_ok outcome_get]
  simp only [h, outcome_set]

theorem outcome_alloc (cls : ClassId) : ∃ journal, (alloc cls).outcome s =
    (.ok s.memory.heap.fresh, { s with memory := s.memory.place s.memory.heap.fresh cls, journal }) :=
  ⟨_, rfl⟩

theorem outcome_retain (h : s.memory.retain a = some m) : (retain a).outcome s = (.ok (), { s with memory := m }) :=
  outcome_onObject h

/-- Announcing that an object goes only writes to the journal. -/
theorem outcome_announceFree (o : Object) : ∃ journal, (announceFree a o).outcome s = (.ok (), { s with journal }) := by
  unfold announceFree
  rw [outcome_bind_ok outcome_get, outcome_bind_ok (outcome_log _ _ _)]
  split
  · dsimp only
    split <;> exact ⟨_, rfl⟩
  · exact ⟨_, rfl⟩

theorem outcome_release (h : s.memory.release a = some m) :
    ∃ journal, (release a).outcome s = (.ok (), { s with memory := m, journal }) := by
  obtain ⟨o, live, -⟩ := Memory.release_eq_some.mp h
  unfold release
  rw [outcome_bind_ok (outcome_objectAt live)]
  split
  · obtain ⟨journal, announced⟩ := outcome_announceFree (s := s) (a := a) o
    rw [outcome_bind_ok announced]
    exact ⟨journal, outcome_onObject h⟩
  · exact ⟨s.journal, outcome_onObject h⟩

theorem outcome_releaseAll {l : List Address} (h : s.memory.releaseAll l = some m) :
    ∃ journal, (l.forM release).outcome s = (.ok (), { s with memory := m, journal }) := by
  induction l generalizing s with
  | nil =>
    cases h
    exact ⟨s.journal, rfl⟩
  | cons a rest ih =>
    obtain ⟨k, hk, h⟩ := Memory.releaseAll_cons_eq_some.mp h
    obtain ⟨journal, first⟩ := outcome_release hk
    obtain ⟨journal, others⟩ := ih (s := { s with memory := k, journal }) h
    exact ⟨journal, (outcome_bind_ok first).trans others⟩

/-- The first object that does not live any more ends the releases. Those before it are done. -/
theorem outcome_releaseAll_stray {done rest : List Address} (h : s.memory.releaseAll done = some m)
    (free : m.get? a = none) :
    ∃ journal, ((done ++ a :: rest).forM release).outcome s = (.error (.stray a), { s with memory := m, journal }) := by
  induction done generalizing s with
  | nil =>
    cases h
    exact ⟨s.journal, outcome_bind_error (outcome_bind_error (outcome_objectAt_stray free))⟩
  | cons b done ih =>
    obtain ⟨k, hk, h⟩ := Memory.releaseAll_cons_eq_some.mp h
    obtain ⟨journal, first⟩ := outcome_release hk
    obtain ⟨journal, others⟩ := ih (s := { s with memory := k, journal }) h
    exact ⟨journal, (outcome_bind_ok first).trans others⟩

/-! ### Weak references -/

theorem outcome_storeWeak {slot : SlotId} {target : Option Address} (h : s.memory.storeWeak slot target = some m) :
    (storeWeak slot target).outcome s = (.ok (), { s with memory := m }) :=
  outcome_onObject h

theorem outcome_loadWeak {slot : SlotId} {target : Option Address} (h : s.memory.loadWeak slot = some (target, m)) :
    (loadWeak slot).outcome s = (.ok target, { s with memory := m }) := by
  unfold loadWeak
  rw [outcome_bind_ok outcome_get]
  simp only [h]
  rfl

/-! ### Pools -/

theorem outcome_pools : pools.outcome s = (.ok s.memory.pools, s) := rfl

theorem outcome_setPools (after : PoolStack) :
    (setPools after).outcome s = (.ok (), { s with memory := { s.memory with pools := after } }) := rfl

theorem outcome_drain {l : List Address} (token : Nat) (h : s.memory.releaseAll l = some m) :
    ∃ journal, (drain token l).outcome s = (.ok (), { s with memory := m, journal }) := by
  have released := fun journal => outcome_releaseAll (s := { s with journal }) h
  unfold drain
  split
  · rw [outcome_bind_ok (outcome_log _ _ _)]
    exact released _
  · exact released s.journal

theorem outcome_drain_stray {done rest : List Address} (token : Nat) (h : s.memory.releaseAll done = some m)
    (free : m.get? a = none) :
    ∃ journal, (drain token (done ++ a :: rest)).outcome s = (.error (.stray a), { s with memory := m, journal }) := by
  have released (journal : Log.Journal) : ∃ journal', ((done ++ a :: rest).forM release).outcome { s with journal } =
      (.error (.stray a), { s with memory := m, journal := journal' }) :=
    outcome_releaseAll_stray (s := { s with journal }) h free
  unfold drain
  split
  · rw [outcome_bind_ok (outcome_log _ _ _)]
    exact released _
  · exact released s.journal

theorem outcome_pushPool : pushPool.outcome s =
    (.ok s.memory.pools.depth, { s with memory := { s.memory with pools := s.memory.pools.push.2 } }) := rfl

/-- Pools that are taken off the stack release what they held. -/
theorem outcome_cutPools {token : Nat} {l : List Address} {after : PoolStack}
    (cut : PoolStack → List Address × PoolStack) (taken : cut s.memory.pools = (l, after))
    (h : { s.memory with pools := after }.releaseAll l = some m) :
    ∃ journal, Exec.outcome (do
      let (objects, after) := cut (← pools)
      setPools after
      drain token objects) s = (.ok (), { s with memory := m, journal }) := by
  rw [outcome_bind_ok outcome_pools]
  simp only [taken]
  rw [outcome_bind_ok (outcome_setPools after)]
  exact outcome_drain (s := { s with memory := { s.memory with pools := after } }) token h

theorem outcome_popPool {token : Nat} {l : List Address} {after : PoolStack}
    (taken : s.memory.pools.pop token = (l, after)) (h : { s.memory with pools := after }.releaseAll l = some m) :
    ∃ journal, (popPool token).outcome s = (.ok (), { s with memory := m, journal }) :=
  outcome_cutPools (fun pools => pools.pop token) taken h

theorem outcome_retirePool {token : Nat} {l : List Address} {after : PoolStack}
    (taken : s.memory.pools.retire token = (l, after)) (h : { s.memory with pools := after }.releaseAll l = some m) :
    ∃ journal, (retirePool token).outcome s = (.ok (), { s with memory := m, journal }) :=
  outcome_cutPools (fun pools => pools.retire token) taken h

theorem outcome_autorelease {after : PoolStack} (h : s.memory.pools.add? a = some after) :
    (autorelease a).outcome s = (.ok (), { s with memory := { s.memory with pools := after } }) := by
  unfold autorelease
  rw [outcome_bind_ok outcome_pools]
  simp only [h, outcome_setPools]

/-- Without a pool the reference is lost, and only the journal knows. -/
theorem outcome_autorelease_leak (h : s.memory.pools.add? a = none) :
    ∃ journal, (autorelease a).outcome s = (.ok (), { s with journal }) := by
  unfold autorelease
  rw [outcome_bind_ok outcome_pools]
  simp only [h]
  exact ⟨_, rfl⟩

theorem outcome_assertInnermost {token : Nat} (h : s.memory.pools.isInnermost token = true) :
    (assertInnermost token).outcome s = (.ok (), s) := by
  unfold assertInnermost
  rw [outcome_bind_ok outcome_pools]
  simp [h]

theorem outcome_assertInnermost_panic {token : Nat} (h : s.memory.pools.isInnermost token = false) :
    ∃ text, (assertInnermost token).outcome s = (.error (.panic text), s) := by
  unfold assertInnermost
  rw [outcome_bind_ok outcome_pools]
  simp [h, panicWith]

theorem outcome_handOver {token : Nat} {after : PoolStack} (innermost : s.memory.pools.isInnermost token = true)
    (h : s.memory.pools.add? a = some after) :
    (handOver a token).outcome s = (.ok (), { s with memory := { s.memory with pools := after } }) := by
  unfold handOver
  rw [outcome_bind_ok (outcome_attempt _), outcome_assertInnermost innermost]
  exact outcome_autorelease h

theorem outcome_handOver_panic {token : Nat} (outer : s.memory.pools.isInnermost token = false)
    (h : s.memory.release a = some m) :
    ∃ text journal, (handOver a token).outcome s = (.error (.panic text), { s with memory := m, journal }) := by
  obtain ⟨text, panics⟩ := outcome_assertInnermost_panic outer
  obtain ⟨journal, released⟩ := outcome_release h
  refine ⟨text, journal, ?_⟩
  unfold handOver
  rw [outcome_bind_ok (outcome_attempt _), panics]
  dsimp only
  rw [outcome_bind_ok released, outcome_throw]

/-- A thrown object must live, since its class is noted. The reference goes with it. -/
theorem outcome_throwObject {α : Type} {o : Object} (live : s.memory.get? a = some o) :
    ∃ journal, (throwObject a : Exec α).outcome s = (.error (.thrown a), { s with journal }) := by
  unfold throwObject
  rw [outcome_bind_ok (outcome_classOf live)]
  exact ⟨_, rfl⟩

end Messaging
