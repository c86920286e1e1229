import Messaging.Proofs.Lifetime
import Messaging.Proofs.Memory.Balance
import Messaging.Proofs.Memory.Pools

/-! Reference counts over whole runs. A reference is owned by a handle, by a pool or by a throw in flight, or it
    leaked; what is done with references moves them between these. In every run the count of an object is the
    number of its references, so it is freed at the step that gives up the last one, and never touched after. -/

namespace Messaging
namespace Conservation
open Exec

/-- What is done with references. A raw reference is one that its owner must give up; a handle gives its own up
    when it is dropped. The guard of a pool is its token. `discard` is what becomes of a throw that a frame
    drops instead of catching it. -/
inductive Deed
  | alloc (cls : ClassId)
  | retain (a : Address)
  | release (a : Address)
  | autorelease (a : Address)
  | push
  | pop (token : Nat)
  | openGuard
  | dropGuard (token : Nat)
  | clone (a : Address)
  | drop (a : Address)
  | intoRaw (a : Address)
  | fromRaw (a : Address)
  | retainRaw (a : Address)
  | handOver (a : Address) (token : Nat)
  | makeWeak
  | storeWeak (slot : SlotId) (target : Option Address)
  | loadWeak (slot : SlotId)
  | dropWeak (slot : SlotId)
  | throwObject (a : Address)
  | catchThrown (a : Address)
  | discard (a : Address)

/-- What is run for a deed. Its result is the object that it brings. -/
def Deed.run : Deed → Exec (Option Address)
  | alloc cls => return some (← Messaging.alloc cls)
  | retain a | clone a | retainRaw a => do
    Messaging.retain a
    pure none
  | release a | drop a | discard a => do
    Messaging.release a
    pure none
  | autorelease a => do
    Messaging.autorelease a
    pure none
  | push | openGuard => do
    let _ ← pushPool
    pure none
  | pop token => do
    popPool token
    pure none
  | dropGuard token => do
    retirePool token
    pure none
  | intoRaw _ | fromRaw _ => pure none
  | handOver a token => do
    Messaging.handOver a token
    pure none
  | makeWeak => do
    let _ ← newSlot
    pure none
  | storeWeak slot target => do
    Messaging.storeWeak slot target
    pure none
  | loadWeak slot => Messaging.loadWeak slot
  | dropWeak slot => do
    Messaging.dropWeak slot
    pure none
  | throwObject a => Messaging.throwObject a
  | catchThrown a => do
    match ← Messaging.catchThrown (throw (.thrown a) : Exec Unit) with
    | .ok () => pure none
    | .error value => pure (some value)

/-- Catching what interrupted a region is all that is left to do once its body has run, so a deed need not
    contain the body. -/
theorem outcome_catchThrown_interrupted {α : Type} {x : Exec α} {s t : Machine} {i : Interruption}
    (interrupted : x.outcome s = (.error i, t)) :
    (Messaging.catchThrown x).outcome s = (Messaging.catchThrown (throw i : Exec α)).outcome t := by
  unfold Messaging.catchThrown
  rw [outcome_bind_ok (outcome_attempt x), outcome_bind_ok (outcome_attempt _), interrupted, outcome_throw]

/-- The references outside the pools, each listed with its owner: raw, in a handle, in flight, or leaked. -/
structure Holdings where
  raw : List Address
  handles : List Address
  flying : List Address
  leaked : List Address

/-- How many references to an object there are. -/
def Holdings.owed (h : Holdings) (pools : PoolStack) (a : Address) : Nat :=
  h.raw.count a + h.handles.count a + pools.objects.count a + h.flying.count a + h.leaked.count a

/-- Who owns what after a deed, by how it ended and by the pools before it. -/
def Holdings.settle (h : Holdings) (pools : PoolStack) : Deed → Except Interruption (Option Address) → Holdings
  | .alloc _, .ok (some a) | .loadWeak _, .ok (some a) | .retain a, .ok _ => { h with raw := a :: h.raw }
  | .release a, .ok _ => { h with raw := h.raw.erase a }
  | .autorelease a, .ok _ =>
    { h with raw := h.raw.erase a, leaked := if pools.marks.isEmpty then a :: h.leaked else h.leaked }
  | .clone a, .ok _ | .retainRaw a, .ok _ => { h with handles := a :: h.handles }
  | .drop a, .ok _ | .handOver a _, _ => { h with handles := h.handles.erase a }
  | .intoRaw a, .ok _ => { h with raw := a :: h.raw, handles := h.handles.erase a }
  | .fromRaw a, .ok _ => { h with raw := h.raw.erase a, handles := a :: h.handles }
  | .throwObject a, .error (.thrown value) => { h with raw := h.raw.erase a, flying := value :: h.flying }
  | .catchThrown a, .ok (some value) => { h with raw := value :: h.raw, flying := h.flying.erase a }
  | .discard a, .ok _ => { h with flying := h.flying.erase a }
  | _, _ => h

structure Stage where
  machine : Machine
  holdings : Holdings

namespace Stage

def memory (s : Stage) : Memory := s.machine.memory

def owed (s : Stage) (a : Address) : Nat := s.holdings.owed s.memory.pools a

/-- What may be done: a reference is given up or handed on only by its owner, and an object is named only while
    it lives. -/
def Permits (s : Stage) : Deed → Prop
  | .release a | .autorelease a | .fromRaw a | .throwObject a => a ∈ s.holdings.raw
  | .clone a | .drop a | .intoRaw a | .handOver a _ => a ∈ s.holdings.handles
  | .catchThrown a | .discard a => a ∈ s.holdings.flying
  | .retain a | .retainRaw a | .storeWeak _ (some a) => (s.memory.get? a).isSome
  | _ => True

def perform (s : Stage) (deed : Deed) : Stage :=
  ⟨(deed.run.outcome s.machine).2, s.holdings.settle s.memory.pools deed (deed.run.outcome s.machine).1⟩

end Stage

/-- A step of a run. -/
structure Moment where
  before : Stage
  deed : Deed

def Moment.after (x : Moment) : Stage := x.before.perform x.deed

/-- A run from a machine without objects, with its steps, the latest first. -/
inductive Run (machine : Machine) : List Moment → Stage → Prop
  | start (start : Nat) (nothing : machine.memory = Memory.empty start) : Run machine [] ⟨machine, ⟨[], [], [], []⟩⟩
  | step {history : List Moment} {s : Stage} (run : Run machine history s) (deed : Deed) (permitted : s.Permits deed) :
      Run machine (⟨s, deed⟩ :: history) (s.perform deed)

/-- An object that lived before and not after. -/
def Freed (s s' : Stage) (a : Address) : Prop := (s.memory.get? a).isSome ∧ s'.memory.get? a = none

variable {machine : Machine} {history : List Moment} {s : Stage} {deed : Deed} {a b : Address} {l : List Address}

/-! ### What a deed does -/

namespace Holdings
variable {h : Holdings} {pools : PoolStack}

theorem owed_takeRaw : { h with raw := a :: h.raw }.owed pools b = h.owed pools b + [a].count b := by
  simp only [owed, List.count_cons, List.count_nil]
  omega

theorem owed_takeRaw_le : { h with raw := a :: h.raw }.owed pools b ≤ h.owed pools b + 1 := by
  rw [owed_takeRaw]
  exact Nat.add_le_add_left List.count_le_length _

theorem owed_takeHandle : { h with handles := a :: h.handles }.owed pools b = h.owed pools b + [a].count b := by
  simp only [owed, List.count_cons, List.count_nil]
  omega

theorem owed_giveRaw (mem : a ∈ h.raw) :
    h.owed pools b = { h with raw := h.raw.erase a }.owed pools b + [a].count b := by
  simp only [owed, List.count_cons, List.count_nil, count_of_mem mem b]
  omega

theorem owed_giveHandle (mem : a ∈ h.handles) :
    h.owed pools b = { h with handles := h.handles.erase a }.owed pools b + [a].count b := by
  simp only [owed, List.count_cons, List.count_nil, count_of_mem mem b]
  omega

theorem owed_giveFlying (mem : a ∈ h.flying) :
    h.owed pools b = { h with flying := h.flying.erase a }.owed pools b + [a].count b := by
  simp only [owed, List.count_cons, List.count_nil, count_of_mem mem b]
  omega

end Holdings

theorem owed_pos (mem : a ∈ s.holdings.raw ∨ a ∈ s.holdings.handles) : 0 < s.owed a := by
  simp only [Stage.owed, Holdings.owed]
  rcases mem with mem | mem
  · have := List.count_pos_iff.mpr mem
    omega
  · have := List.count_pos_iff.mpr mem
    omega

/-- A computation was not cut off: nothing that was freed was touched, and the run goes on. -/
def Harmless : Except Interruption (Option Address) → Prop
  | .ok _ => True
  | .error i => i.isFatal = false

/-- The deed ends in a way that is no accident, and the memory that it leaves is in balance with the references
    as they are then. There is one more to an object than before at most. -/
structure Fair (s : Stage) (deed : Deed) (r : Except Interruption (Option Address)) (m : Memory) : Prop where
  ends : ∃ journal, deed.run.outcome s.machine = (r, { s.machine with memory := m, journal })
  harmless : Harmless r
  later : s.memory.Later m
  balanced : m.Balanced ((s.holdings.settle s.memory.pools deed r).owed m.pools)
  more : ∀ b, (s.holdings.settle s.memory.pools deed r).owed m.pools b ≤ s.owed b + 1

theorem outcome_bringing_nothing {x : Exec Unit} {t u : Machine} (ends : x.outcome t = (.ok (), u)) :
    (do x; pure (none : Option Address)).outcome t = (.ok none, u) :=
  (outcome_bind_ok ends).trans (outcome_pure none)

/-- The deeds that end with a result. -/
theorem Fair.of_ok {x : Exec Unit} {m : Memory} (same : deed.run = do x; pure none)
    (ends : ∃ journal, x.outcome s.machine = (.ok (), { s.machine with memory := m, journal }))
    (later : s.memory.Later m)
    (balanced : m.Balanced ((s.holdings.settle s.memory.pools deed (.ok none)).owed m.pools))
    (more : ∀ b, (s.holdings.settle s.memory.pools deed (.ok none)).owed m.pools b ≤ s.owed b + 1) :
    Fair s deed (.ok none) m := by
  obtain ⟨journal, ends⟩ := ends
  refine ⟨⟨journal, ?_⟩, trivial, later, balanced, more⟩
  rw [same, outcome_bringing_nothing ends]

section
variable (h : s.memory.Balanced s.owed)
include h

/-- A deed that takes a reference to an object that lives. -/
theorem fair_take (live : (s.memory.get? a).isSome) (same : deed.run = do Messaging.retain a; pure none)
    (settled : ∀ pools b,
      (s.holdings.settle pools deed (.ok none)).owed pools b = s.holdings.owed pools b + [a].count b) :
    ∃ r m, Fair s deed r m := by
  obtain ⟨m, done, balanced, later⟩ := h.retain ((h.accounts.isSome_iff a).mp live)
  have taken (b : Address) : (s.holdings.settle s.memory.pools deed (.ok none)).owed m.pools b = s.owed b + [a].count b := by
    rw [Memory.pools_retain done, settled]
    rfl
  refine ⟨_, m, Fair.of_ok same ⟨s.machine.journal, outcome_retain done⟩ later (balanced.congr fun b => (taken b).symm)
    fun b => ?_⟩
  rw [taken]
  exact Nat.add_le_add_left List.count_le_length _

/-- A deed that gives up a reference. -/
theorem fair_giveUp (same : deed.run = do Messaging.release a; pure none)
    (settled : ∀ pools b,
      s.holdings.owed pools b = (s.holdings.settle pools deed (.ok none)).owed pools b + [a].count b) :
    ∃ r m, Fair s deed r m := by
  obtain ⟨m, done, balanced, later⟩ := (h.congr (settled s.memory.pools)).release
  refine ⟨_, m, Fair.of_ok same (outcome_release done) later (balanced.congr fun b => ?_) fun b => ?_⟩
  · rw [Memory.pools_release done]
  · rw [Memory.pools_release done, Stage.owed, settled]
    omega

/-- A deed that takes pools off the stack and gives up what they held. -/
theorem fair_drain {x : Exec Unit} {after : PoolStack} (same : deed.run = do x; pure none)
    (kept : ∀ pools, s.holdings.settle pools deed (.ok none) = s.holdings)
    (cut : ∀ b, l.count b + after.objects.count b = s.memory.pools.objects.count b)
    (ends : ∀ m, { s.memory with pools := after }.releaseAll l = some m →
      ∃ journal, x.outcome s.machine = (.ok (), { s.machine with memory := m, journal })) :
    ∃ r m, Fair s deed r m := by
  have h' : Memory.Balanced { s.memory with pools := after } fun b => s.holdings.owed after b + l.count b :=
    (h.setPools after).congr fun b => by
      have := cut b
      simp only [Stage.owed, Holdings.owed]
      omega
  have cutLater : s.memory.Later { s.memory with pools := after } := .of_heap rfl
  obtain ⟨m, done, balanced, later⟩ := h'.releaseAll
  refine ⟨_, m, Fair.of_ok same (ends m done) (cutLater.trans later) (balanced.congr fun b => ?_) fun b => ?_⟩
  · rw [Memory.pools_releaseAll done, kept]
  · have taken := cut b
    rw [Memory.pools_releaseAll done, kept]
    simp only [Stage.owed, Holdings.owed]
    omega

/-- A deed that at most moves references from one owner to another. -/
theorem fair_move {r : Except Interruption (Option Address)} (pools : PoolStack)
    (ends : ∃ journal, deed.run.outcome s.machine = (r, { s.machine with memory := { s.memory with pools }, journal }))
    (harmless : Harmless r) (settled : ∀ b, (s.holdings.settle s.memory.pools deed r).owed pools b = s.owed b) :
    ∃ r m, Fair s deed r m :=
  ⟨r, _, ends, harmless, Memory.Later.of_heap rfl, (h.setPools pools).congr fun b => (settled b).symm,
    fun b => Nat.le_succ_of_le (Nat.le_of_eq (settled b))⟩

theorem fair_alloc (cls : ClassId) : ∃ r m, Fair s (.alloc cls) r m := by
  obtain ⟨balanced, later⟩ := h.alloc cls
  obtain ⟨journal, ends⟩ := outcome_alloc (s := s.machine) cls
  refine ⟨.ok (some s.memory.heap.fresh), _, ⟨journal, ?_⟩, trivial, later, balanced.congr fun b => ?_, fun b => ?_⟩
  · exact (outcome_bind_ok ends).trans (outcome_pure _)
  · exact Holdings.owed_takeRaw.symm
  · exact Holdings.owed_takeRaw_le

/-- With a pool the reference moves into it; without one it leaks. -/
theorem fair_autorelease (mem : a ∈ s.holdings.raw) : ∃ r m, Fair s (.autorelease a) r m := by
  cases added : s.machine.memory.pools.add? a with
  | none =>
    have bare : s.memory.pools.marks = [] := PoolStack.add?_eq_none.mp added
    obtain ⟨journal, leaks⟩ := outcome_autorelease_leak added
    refine fair_move h s.memory.pools ⟨journal, outcome_bringing_nothing leaks⟩ trivial fun b => ?_
    simp only [Stage.owed, Holdings.owed, Holdings.settle, bare, List.isEmpty_nil, if_true, List.count_cons, List.count_nil,
      count_of_mem mem b]
    omega
  | some after =>
    have pooled := outcome_autorelease added
    obtain ⟨stacked, rfl⟩ := PoolStack.add?_eq_some.mp added
    have stacked := List.isEmpty_eq_false_iff.mpr stacked
    refine fair_move h _ ⟨s.machine.journal, outcome_bringing_nothing pooled⟩ trivial fun b => ?_
    simp only [Stage.owed, Stage.memory, Holdings.owed, Holdings.settle, stacked, Bool.false_eq_true, if_false,
      List.count_append, List.count_cons, List.count_nil, count_of_mem mem b]
    omega

/-- The handle gives up its reference either way: to the pool, or when the panic drops the handle. -/
theorem fair_handOver (mem : a ∈ s.holdings.handles) (token : Nat) : ∃ r m, Fair s (.handOver a token) r m := by
  cases innermost : s.machine.memory.pools.isInnermost token with
  | true =>
    have added : s.machine.memory.pools.add? a = some _ :=
      PoolStack.add?_eq_some.mpr ⟨PoolStack.marks_of_isInnermost innermost, rfl⟩
    have pooled := outcome_handOver innermost added
    refine fair_move h _ ⟨s.machine.journal, outcome_bringing_nothing pooled⟩ trivial fun b => ?_
    simp only [Stage.owed, Stage.memory, Holdings.owed, Holdings.settle, List.count_append, List.count_cons,
      List.count_nil, count_of_mem mem b]
    omega
  | false =>
    obtain ⟨m, done, balanced, later⟩ := (h.congr fun b => Holdings.owed_giveHandle mem).release
    obtain ⟨text, journal, panics⟩ := outcome_handOver_panic innermost done
    refine ⟨.error (.panic text), m, ⟨journal, outcome_bind_error panics⟩, rfl, later, ?_, fun b => ?_⟩
    · rw [Memory.pools_release done]
      exact balanced
    · rw [Memory.pools_release done, Stage.owed, Holdings.owed_giveHandle mem]
      exact Nat.le_succ_of_le (Nat.le_add_right _ _)

theorem target_owed {slot : SlotId} {target : Option Address} (permitted : s.Permits (.storeWeak slot target))
    (x : Address) (same : target = some x) : 0 < s.owed x := by
  subst same
  exact (h.accounts.isSome_iff x).mp permitted

theorem fair_storeWeak {slot : SlotId} {target : Option Address} (permitted : s.Permits (.storeWeak slot target)) :
    ∃ r m, Fair s (.storeWeak slot target) r m := by
  obtain ⟨m, done, balanced, later⟩ := h.storeWeak slot (target_owed h permitted)
  refine ⟨_, m, Fair.of_ok rfl ⟨s.machine.journal, outcome_storeWeak done⟩ later ?_ fun b => ?_⟩
  · rw [Memory.pools_storeWeak done]
    exact balanced
  · rw [Memory.pools_storeWeak done]
    exact Nat.le_succ _

/-- What a load brings is a raw reference. -/
theorem fair_loadWeak (slot : SlotId) : ∃ r m, Fair s (.loadWeak slot) r m := by
  obtain ⟨r, m, done, balanced, later⟩ := h.loadWeak slot
  refine ⟨.ok r, m, ⟨s.machine.journal, outcome_loadWeak done⟩, trivial, later, ?_, fun b => ?_⟩
  · rw [Memory.pools_loadWeak done]
    cases r with
    | none => exact balanced
    | some x => exact balanced.congr fun b => Holdings.owed_takeRaw.symm
  · rw [Memory.pools_loadWeak done]
    cases r with
    | none => exact Nat.le_succ _
    | some x => exact Holdings.owed_takeRaw_le

theorem fair_throwObject (mem : a ∈ s.holdings.raw) : ∃ r m, Fair s (.throwObject a) r m := by
  obtain ⟨o, live⟩ := h.accounts.live (owed_pos (Or.inl mem))
  obtain ⟨journal, thrown⟩ := outcome_throwObject (α := Option Address) live
  refine fair_move h s.memory.pools ⟨journal, thrown⟩ rfl fun b => ?_
  simp only [Stage.owed, Holdings.owed, Holdings.settle, List.count_cons, List.count_nil, count_of_mem mem b]
  omega

theorem fair_catchThrown (mem : a ∈ s.holdings.flying) : ∃ r m, Fair s (.catchThrown a) r m := by
  have thrown : (throw (.thrown a) : Exec Unit).outcome s.machine = (.error (.thrown a), s.machine) := rfl
  obtain ⟨journal, caught⟩ := outcome_catchThrown_thrown thrown
  have ends : (Deed.catchThrown a).run.outcome s.machine = (.ok (some a), _) :=
    (outcome_bind_ok caught).trans (outcome_pure (some a))
  refine fair_move h s.memory.pools ⟨journal, ends⟩ trivial fun b => ?_
  exact Holdings.owed_takeRaw.trans (Holdings.owed_giveFlying mem).symm

/-- Whatever is permitted ends fairly. -/
theorem perform_fair (permitted : s.Permits deed) : ∃ r m, Fair s deed r m := by
  cases deed with
  | alloc cls => exact fair_alloc h cls
  | retain x => exact fair_take h permitted rfl fun _ _ => Holdings.owed_takeRaw
  | clone x =>
    have live := (h.accounts.isSome_iff x).mpr (owed_pos (Or.inr permitted))
    exact fair_take h live rfl fun _ _ => Holdings.owed_takeHandle
  | retainRaw x => exact fair_take h permitted rfl fun _ _ => Holdings.owed_takeHandle
  | release x => exact fair_giveUp h rfl fun _ _ => Holdings.owed_giveRaw permitted
  | drop x => exact fair_giveUp h rfl fun _ _ => Holdings.owed_giveHandle permitted
  | discard x => exact fair_giveUp h rfl fun _ _ => Holdings.owed_giveFlying permitted
  | autorelease x => exact fair_autorelease h permitted
  | handOver x token => exact fair_handOver h permitted token
  | push => exact fair_move h (r := .ok none) s.memory.pools.push.2 ⟨s.machine.journal, rfl⟩ trivial fun b => rfl
  | openGuard => exact fair_move h (r := .ok none) s.memory.pools.push.2 ⟨s.machine.journal, rfl⟩ trivial fun b => rfl
  | pop token =>
    exact fair_drain h rfl (fun _ => rfl) (fun _ => PoolStack.count_pop token) fun _ done => outcome_popPool rfl done
  | dropGuard token =>
    exact fair_drain h rfl (fun _ => rfl) (fun _ => PoolStack.count_retire token) fun _ done =>
      outcome_retirePool rfl done
  | intoRaw x =>
    refine fair_move h (r := .ok none) s.memory.pools ⟨s.machine.journal, rfl⟩ trivial fun b => ?_
    exact Holdings.owed_takeRaw.trans (Holdings.owed_giveHandle permitted).symm
  | fromRaw x =>
    refine fair_move h (r := .ok none) s.memory.pools ⟨s.machine.journal, rfl⟩ trivial fun b => ?_
    exact Holdings.owed_takeHandle.trans (Holdings.owed_giveRaw permitted).symm
  | makeWeak => exact ⟨.ok none, _, ⟨s.machine.journal, rfl⟩, trivial, .of_heap rfl, h.newSlot, fun b => Nat.le_succ _⟩
  | storeWeak slot target => exact fair_storeWeak h permitted
  | loadWeak slot => exact fair_loadWeak h slot
  | dropWeak slot =>
    exact ⟨.ok none, _, ⟨s.machine.journal, rfl⟩, trivial, .of_heap rfl, h.dropWeak slot, fun b => Nat.le_succ _⟩
  | throwObject x => exact fair_throwObject h permitted
  | catchThrown x => exact fair_catchThrown h permitted

end

/-! ### Whole runs -/

theorem perform_of_outcome {r : Except Interruption (Option Address)} {t : Machine}
    (ends : deed.run.outcome s.machine = (r, t)) : s.perform deed = ⟨t, s.holdings.settle s.memory.pools deed r⟩ := by
  rw [Stage.perform, ends]

theorem perform_balanced (h : s.memory.Balanced s.owed) (permitted : s.Permits deed) :
    (s.perform deed).memory.Balanced (s.perform deed).owed ∧ s.memory.Later (s.perform deed).memory ∧
      Harmless (deed.run.outcome s.machine).1 := by
  obtain ⟨r, m, ⟨journal, ends⟩, harmless, later, balanced, -⟩ := perform_fair h permitted
  rw [perform_of_outcome ends, ends]
  exact ⟨balanced, later, harmless⟩

theorem owed_perform (h : s.memory.Balanced s.owed) (permitted : s.Permits deed) : (s.perform deed).owed a ≤ s.owed a + 1 := by
  obtain ⟨r, m, ⟨journal, ends⟩, -, -, -, more⟩ := perform_fair h permitted
  rw [perform_of_outcome ends]
  exact more a

theorem Run.balanced (run : Run machine history s) : s.memory.Balanced s.owed := by
  induction run with
  | start start nothing =>
    have empty := Memory.Balanced.start start
    rw [← nothing] at empty
    refine empty.congr fun a => ?_
    simp only [Stage.owed, Stage.memory, Holdings.owed, nothing]
    rfl
  | step _ deed permitted ih => exact (perform_balanced ih permitted).1

/-- A count is no larger than the number of deeds, so a bound of 2^63 on counts is met only in a run of as many deeds. -/
theorem Run.count_le (run : Run machine history s) (a : Address) : s.memory.count a ≤ history.length := by
  rw [run.balanced.accounts.count]
  induction run with
  | start start nothing =>
    simp only [Stage.owed, Stage.memory, Holdings.owed, nothing]
    exact Nat.le_refl 0
  | step run deed permitted ih => exact (owed_perform run.balanced permitted).trans (Nat.succ_le_succ ih)

/-- What was freed stays gone: its address was given out, and none is given out twice. -/
theorem Run.gone (run : Run machine history s) {x : Moment} (mem : x ∈ history) (freed : Freed x.before x.after a) :
    a.toNat < s.memory.heap.fresh.toNat ∧ s.memory.get? a = none := by
  induction run with
  | start _ _ => cases mem
  | @step history s run deed permitted ih =>
    obtain ⟨-, later, -⟩ := perform_balanced run.balanced permitted
    rcases List.mem_cons.mp mem with rfl | mem
    · obtain ⟨o, live⟩ := Option.isSome_iff_exists.mp freed.1
      exact ⟨Nat.lt_of_lt_of_le (run.balanced.below a o live) later.fresh, freed.2⟩
    · obtain ⟨given, gone⟩ := ih mem
      exact ⟨Nat.lt_of_lt_of_le given later.fresh, later.gone a given gone⟩

theorem Run.freed_once (run : Run machine history s) (a : Address) :
    history.Pairwise fun x y => Freed x.before x.after a → ¬Freed y.before y.after a := by
  induction run with
  | start _ _ => exact List.Pairwise.nil
  | step run deed permitted ih =>
    refine List.Pairwise.cons (fun y mem freed again => ?_) ih
    obtain ⟨-, gone⟩ := run.gone mem again
    have live := freed.1
    rw [gone] at live
    cases live

/-- Pointing a weak reference somewhere changes no count. -/
theorem count_storeWeak (h : s.memory.Balanced s.owed) {slot : SlotId} {target : Option Address}
    (permitted : s.Permits (.storeWeak slot target)) :
    (s.perform (.storeWeak slot target)).memory.count a = s.memory.count a := by
  obtain ⟨m, done, balanced, -⟩ := h.storeWeak slot (target_owed h permitted)
  have ends : (Deed.storeWeak slot target).run.outcome s.machine = (.ok none, { s.machine with memory := m }) :=
    outcome_bringing_nothing (outcome_storeWeak done)
  rw [perform_of_outcome ends]
  show m.count a = s.memory.count a
  rw [balanced.accounts.count, h.accounts.count]

/-- In every run, the count of an object that lives is the number of its references: those that are raw, in a
    handle, in a pool, in flight or leaked. It lives as long as there are any. A permitted deed touches nothing
    that was freed, and frees exactly the objects whose last reference it gives up. No object is freed twice,
    and weak references do not count. -/
theorem references_are_conserved (run : Run machine history s) :
    (∀ a o, s.memory.get? a = some o → o.count = s.owed a) ∧
    (∀ a, (s.memory.get? a).isSome ↔ 0 < s.owed a) ∧
    (∀ deed, s.Permits deed → (∀ i, (deed.run.outcome s.machine).1 = .error i → i.isFatal = false) ∧
      ∀ a, Freed s (s.perform deed) a ↔ 0 < s.owed a ∧ (s.perform deed).owed a = 0) ∧
    (∀ a, history.Pairwise fun x y => Freed x.before x.after a → ¬Freed y.before y.after a) ∧
    (∀ slot target, s.Permits (.storeWeak slot target) → ∀ a,
      (s.perform (.storeWeak slot target)).memory.count a = s.memory.count a) ∧
    ∀ slot a, (s.perform (.dropWeak slot)).memory.count a = s.memory.count a := by
  have balanced := run.balanced
  refine ⟨fun a o live => ?_, balanced.accounts.isSome_iff, fun deed permitted => ?_, run.freed_once,
    fun slot target permitted a => count_storeWeak balanced permitted, fun _ _ => rfl⟩
  · rw [← balanced.accounts.count a, Memory.count_of_get? live]
  · obtain ⟨after, -, harmless⟩ := perform_balanced balanced permitted
    refine ⟨fun i cutOff => ?_, fun a => ?_⟩
    · rw [cutOff] at harmless
      exact harmless
    have gone : (s.perform deed).memory.get? a = none ↔ (s.perform deed).owed a = 0 := by
      rw [← Option.not_isSome_iff_eq_none, after.accounts.isSome_iff, Nat.not_lt, Nat.le_zero]
    rw [Freed, gone, balanced.accounts.isSome_iff]

/-- An object that is in a pool twice, and owned by nobody else, has two references; it is freed when the pool
    is removed. -/
theorem pool_holds_an_object_twice : ∃ history s, Run (Machine.fresh 0 none (.fresh false false)) history s ∧
    (∀ o, s.memory.get? ⟨64⟩ = some o → o.count = 2) ∧ Freed s (s.perform (.pop 0)) ⟨64⟩ := by
  have start : Run (Machine.fresh 0 none (.fresh false false)) [] _ := .start 0 rfl
  have run := ((((start.step (.alloc ⟨0⟩) trivial).step .push trivial).step (.retain ⟨64⟩) rfl).step (.autorelease ⟨64⟩)
    (.head _)).step (.autorelease ⟨64⟩) (.head _)
  obtain ⟨counts, -, frees, -⟩ := references_are_conserved run
  obtain ⟨-, freed⟩ := frees (.pop 0) trivial
  exact ⟨_, _, run, fun o live => (counts _ o live).trans rfl, (freed _).mpr ⟨Nat.two_pos, rfl⟩⟩

end Conservation
end Messaging
