import Messaging.Proofs.Delivery.Events
import Messaging.Proofs.Guards.StackOfPools

/-! What the steps of a run are made by. The built-in methods that make ports and adapters, and all that a thread does
    with its pools, lead from the memory of a stage to that of a stage that the run goes on to. So what holds over a
    whole run holds with these methods, and inside of pools. -/

namespace Messaging
namespace Delivery
open Exec
open PoolStack (PoolOp)

variable {start : Nat} {history : List Moment} {s after : Stage} {t : Machine} {m : Memory} {p a : Address} {o : Object}
  {inv : Invocation} {cls : ClassId}

/-- A run goes on to a stage. -/
def Leads (start : Nat) (history : List Moment) (after : Stage) : Prop := ∃ later, Run start (later ++ history) after

/-- A computation ends with a result, and with the memory of a stage. -/
def Ends {α : Type} (x : Exec α) (t : Machine) (r : α) (after : Stage) : Prop :=
  ∃ u : Machine, u.memory = after.memory ∧ x.outcome t = (.ok r, u)

theorem Leads.refl (run : Run start history s) : Leads start history s := ⟨[], run⟩

theorem Leads.cons {x : Moment} (leads : Leads start (x :: history) after) : Leads start history after := by
  obtain ⟨later, run⟩ := leads
  refine ⟨later ++ [x], ?_⟩
  rw [List.append_assoc]
  exact run

theorem Leads.step {act : Act} (run : Run start history s) (step : Step s act after) : Leads start history after :=
  (Leads.refl (run.step step)).cons

/-! ### Pools -/

theorem owed_release (mem : a ∈ s.owned) (b : Address) :
    s.owed b = ({ s with owned := s.owned.erase a } : Stage).owed b + [a].count b := by
  simp only [Stage.owed, count_of_mem mem]
  omega

/-- What clients own they can release, one after the other. -/
theorem Run.releaseAll {l : List Address} (run : Run start history s) (owned : ∀ a, l.count a ≤ s.owned.count a) :
    ∃ after, Leads start history after ∧ s.memory.releaseAll l = some after.memory := by
  induction l generalizing s history with
  | nil => exact ⟨s, .refl run, rfl⟩
  | cons a rest ih =>
    have mem : a ∈ s.owned := by
      have some := owned a
      rw [List.count_cons_self] at some
      exact List.count_pos_iff.mp (by omega)
    obtain ⟨m, done, -⟩ := (run.sound.balanced.congr (owed_release mem)).release
    obtain ⟨after, leads, others⟩ := ih (run.step (.release a mem done)) fun b => by
      have more := owned b
      rw [count_of_mem mem, List.count_singleton, List.count_cons] at more
      exact Nat.le_of_add_le_add_right more
    exact ⟨after, leads.cons, Memory.releaseAll_cons_eq_some.mpr ⟨m, done, others⟩⟩

/-- Pools that are taken off hand what they held to whoever takes them off, who releases it. -/
theorem Run.cutPools (run : Run start history s) (same : t.memory = s.memory) (token : Nat)
    (cut : PoolStack → List Address × PoolStack)
    (conserves : ∀ pools a, (cut pools).1.count a + (cut pools).2.objects.count a = pools.objects.count a) :
    ∃ after, Leads start history after ∧ Ends (do
      let (objects, after) := cut (← pools)
      setPools after
      drain token objects) t () after := by
  have moved := run.step (.pools (cut s.memory.pools).2 ((cut s.memory.pools).1 ++ s.owned) fun a => by
    have counts := conserves s.memory.pools a
    rw [List.count_append]
    omega)
  obtain ⟨after, leads, released⟩ := moved.releaseAll (l := (cut s.memory.pools).1) fun a => by
    rw [List.count_append]
    omega
  obtain ⟨journal, ends⟩ := outcome_cutPools (s := t) (m := after.memory) cut rfl (by rwa [same])
  exact ⟨after, leads.cons, _, rfl, ends⟩

/-- What is pooled goes from who owns it to the innermost pool, and stays with its owner if there is none. -/
theorem Run.autorelease (run : Run start history s) (same : t.memory = s.memory) (mem : a ∈ s.owned) :
    ∃ after, Leads start history after ∧ after.memory.heap = s.memory.heap ∧ Ends (Messaging.autorelease a) t () after := by
  cases added : t.memory.pools.add? a with
  | none =>
    obtain ⟨journal, leaked⟩ := outcome_autorelease_leak added
    exact ⟨s, .refl run, rfl, { t with journal }, same, leaked⟩
  | some pools =>
    have moved (b : Address) : (s.owned.erase a).count b + pools.objects.count b =
        s.owned.count b + s.memory.pools.objects.count b := by
      obtain ⟨-, rfl⟩ := PoolStack.add?_eq_some.mp added
      rw [same, count_of_mem mem, List.count_append]
      omega
    refine ⟨_, .step run (.pools pools (s.owned.erase a) moved), rfl, _, ?_, outcome_autorelease added⟩
    rw [same]

/-- A run goes on with whatever a thread does with its pools, as long as it pools what it owns. -/
theorem Run.poolOp (run : Run start history s) (same : t.memory = s.memory) (op : PoolOp)
    (owned : ∀ a, op = .autorelease a → a ∈ s.owned) : ∃ after, Leads start history after ∧ Ends op.exec t () after := by
  cases op with
  | push =>
    refine ⟨_, .step run (.pools s.memory.pools.push.2 s.owned fun _ => rfl), _, ?_, outcome_bind_ok outcome_pushPool⟩
    rw [same]
  | pop token => exact run.cutPools same token (fun pools => pools.pop token) fun _ _ => PoolStack.count_pop token
  | retire token => exact run.cutPools same token (fun pools => pools.retire token) fun _ _ => PoolStack.count_retire token
  | autorelease a =>
    obtain ⟨after, leads, -, ends⟩ := run.autorelease same (owned a rfl)
    exact ⟨after, leads, ends⟩

/-! ### Ports and adapters -/

theorem outcome_cls (this : inv.this = .cls cls) : inv.cls.outcome t = (.ok cls, t) := by
  unfold Invocation.cls
  rw [this]
  rfl

theorem outcome_freshPort : freshPort.outcome t =
    (.ok (.port t.memory.newSlot.1 0), { t with memory := t.memory.newSlot.2 }) := rfl

theorem outcome_initialized {payload : Payload} (this : inv.this = .object p) (done : t.memory.attach p payload = some m) :
    (inv.initialized payload).outcome t = (.ok (.object (some p)), { t with memory := m }) := by
  unfold Invocation.initialized
  rw [outcome_bind_ok (outcome_object this), outcome_bind_ok (outcome_attach done), outcome_pure]

theorem exists_attach (live : m.get? p = some o) (payload : Payload) : ∃ n, m.attach p payload = some n :=
  ⟨_, Memory.modify?_eq_some.mpr ⟨o, live, rfl⟩⟩

/-- The method that initializes a port makes the step that does. -/
theorem step_portInit (same : t.memory = s.memory) (code : Code) (this : inv.this = .object p)
    (live : s.memory.get? p = some o) (blank : o.payload = none ∨ ∃ slot, HasSlot s.memory p slot) :
    ∃ after, Step s (.initPort p) after ∧ Ends (BuiltinRoutine.portInit.run code inv) t (.object (some p)) after := by
  obtain ⟨m, done⟩ := exists_attach (m := s.memory.newSlot.2) live (.port s.memory.newSlot.1 0)
  refine ⟨{ s with memory := m }, .initPort p live blank done, { t with memory := m }, rfl, ?_⟩
  rw [← same] at done
  exact (outcome_bind_ok outcome_freshPort).trans
    (outcome_initialized (t := { t with memory := t.memory.newSlot.2 }) this done)

/-- The method that initializes an adapter makes the step that attaches its callbacks. -/
theorem step_adapterInit {table : CallbackTable} (same : t.memory = s.memory) (code : Code) (this : inv.this = .object p)
    (given : inv.arg 0 = .callbacks table) (live : s.memory.get? p = some o) :
    ∃ after, Step s (.attach p (.callbacks table)) after ∧
      Ends (BuiltinRoutine.adapterInit.run code inv) t (.object (some p)) after := by
  obtain ⟨m, done⟩ := exists_attach live (.callbacks table)
  refine ⟨{ s with memory := m }, .attach p _ nofun done, { t with memory := m }, rfl, ?_⟩
  unfold BuiltinRoutine.run
  rw [given]
  exact outcome_initialized this (by rwa [same])

/-- The method that makes a port places an instance, initializes it, and hands it to the innermost pool. -/
theorem Run.portWith (run : Run start history s) (same : t.memory = s.memory) (code : Code) (this : inv.this = .cls cls) :
    ∃ p later after, s.memory.get? p = none ∧ Run start (later ++ history) after ∧ Initialized (later ++ history) p ∧
      Ends (BuiltinRoutine.portWith.run code inv) t (.object (some p)) after := by
  have free := run.sound.balanced.fresh_free
  have placed := run.step (.place s.memory.heap.fresh cls free (Nat.le_refl _))
  have live : (s.memory.place s.memory.heap.fresh cls).get? s.memory.heap.fresh = some ⟨cls, 1, none, false⟩ :=
    (Memory.get?_place cls).trans (if_pos rfl)
  obtain ⟨m, done⟩ := exists_attach (m := (s.memory.place s.memory.heap.fresh cls).newSlot.2) live
    (.port (s.memory.place s.memory.heap.fresh cls).newSlot.1 0)
  have made := placed.step (.initPort s.memory.heap.fresh live (Or.inl rfl) done)
  have slot : HasSlot m s.memory.heap.fresh ⟨s.memory.weak.made⟩ :=
    (hasSlot_initPort live done).mpr (.inr ⟨rfl, rfl, rfl⟩)
  obtain ⟨journal, allocated⟩ := outcome_alloc (s := t) cls
  obtain ⟨after, leads, heap, u, left, ends⟩ :=
    made.autorelease (t := { t with memory := m, journal }) rfl List.mem_cons_self
  obtain ⟨later, pooled⟩ := leads.cons.cons
  refine ⟨s.memory.heap.fresh, later, after, free, pooled, ?_, u, left, ?_⟩
  · exact pooled.initialized_iff.mpr ⟨_, (hasSlot_of_heap heap).mpr slot⟩
  · rw [same] at allocated
    refine (outcome_bind_ok (outcome_cls this)).trans ?_
    refine (outcome_bind_ok allocated).trans ((outcome_bind_ok outcome_freshPort).trans ?_)
    exact (outcome_bind_ok (outcome_attach done)).trans (outcome_bind_ok ends)

end Delivery
end Messaging
