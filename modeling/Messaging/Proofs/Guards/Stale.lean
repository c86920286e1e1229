import Messaging.Proofs.Guards.Runs
import Messaging.Proofs.Memory.Levels

/-! Stale guards. A raw pop may take off the level of a guard that still exists, as long as the guard is not borrowed.
    A guard knows its level by the place in the stack alone. Where nothing stands in that place when the guard is
    dropped, nothing happens; where a pool was pushed there meanwhile, it is that pool that is given up. -/

namespace Messaging
namespace Guards
namespace Stale
open PoolStack Exec
open Conservation (Deed)

/-- What is done beside the drop of a guard is a deed; a guard is borrowed and given back. -/
inductive Act
  | deed (deed : Deed)
  | drop (g : Guard)
  | borrow (g : Guard)
  | giveBack (g : Guard)

/-- The guards are those that were not dropped yet, whether their levels are still there or not. -/
structure Stage where
  base : Conservation.Stage
  guards : List Guard
  borrowed : List Guard
  opened : Nat

namespace Stage

def pools (s : Stage) : PoolStack := s.base.memory.pools

/-- A guard is dropped once, and not while it is borrowed. A raw pop leaves the levels of borrowed guards alone. -/
def Permits (s : Stage) : Act → Prop
  | .deed deed => s.base.Permits deed ∧
    match deed with
    | .dropGuard _ => False
    | .pop token => ∀ g ∈ s.borrowed, g.token < token
    | _ => True
  | .drop g => g ∈ s.guards ∧ g ∉ s.borrowed
  | .borrow g => g ∈ s.guards
  | .giveBack g => g ∈ s.borrowed

def perform (s : Stage) : Act → Stage
  | .deed .openGuard =>
    ⟨s.base.perform .openGuard, ⟨s.opened, s.pools.depth⟩ :: s.guards, s.borrowed, s.opened + 1⟩
  | .deed deed => { s with base := s.base.perform deed }
  | .drop g => { s with base := s.base.perform (.dropGuard g.token), guards := s.guards.erase g }
  | .borrow g => { s with borrowed := g :: s.borrowed }
  | .giveBack g => { s with borrowed := s.borrowed.erase g }

end Stage

structure Moment where
  before : Stage
  act : Act

/-- A run from a machine without objects, with its steps, the latest first. -/
inductive Run (machine : Machine) : List Moment → Stage → Prop
  | start (start : Nat) (nothing : machine.memory = Memory.empty start) :
      Run machine [] ⟨⟨machine, ⟨[], [], [], []⟩⟩, [], [], 0⟩
  | step {history : List Moment} {s : Stage} (run : Run machine history s) (act : Act) (permitted : s.Permits act) :
      Run machine (⟨s, act⟩ :: history) (s.perform act)

/-- A raw pop took the level of the guard off while the guard existed. -/
def Removed (history : List Moment) (g : Guard) : Prop :=
  ∃ x ∈ history, ∃ token ≤ g.token, x.act = .deed (.pop token) ∧ g ∈ x.before.guards ∧ g.token < x.before.pools.depth

/-- The step pushes a pool, which stands at this level then. -/
def Moment.Pushes (x : Moment) (level : Nat) : Prop :=
  (x.act = .deed .push ∨ x.act = .deed .openGuard) ∧ x.before.pools.depth = level

/-- A pool was pushed at the level after the guard had lost it, and has stood there since. -/
def Replaced (history : List Moment) (g : Guard) : Prop :=
  ∃ since x earlier, history = since ++ x :: earlier ∧ Removed earlier g ∧ x.Pushes g.token ∧
    ∀ y ∈ since, g.token < y.before.pools.depth

variable {machine : Machine} {history : List Moment} {s : Stage} {act : Act} {deed : Deed} {g : Guard}
  {pools : PoolStack} {token : Nat}

/-! ### How high the stack is -/

/-- Only a push makes the stack higher, and by one level. -/
theorem depth_stackAfter (pools : PoolStack) (deed : Deed) :
    ((deed = .push ∨ deed = .openGuard) ∧ (stackAfter pools deed).depth = pools.depth + 1) ∨
      (stackAfter pools deed).depth ≤ pools.depth := by
  cases deed with
  | push => exact Or.inl ⟨Or.inl rfl, depth_push⟩
  | openGuard => exact Or.inl ⟨Or.inr rfl, depth_push⟩
  | pop token => exact Or.inr depth_pop_le
  | dropGuard token => exact Or.inr depth_retire_le
  | autorelease a => exact Or.inr (Nat.le_of_eq depth_add?)
  | handOver a token =>
    refine Or.inr (Nat.le_of_eq ?_)
    simp only [stackAfter]
    split
    · exact depth_add?
    · rfl
  | _ => exact Or.inr (Nat.le_refl _)

theorem base_deed : (s.perform (.deed deed)).base = s.base.perform deed := by
  cases deed <;> rfl

theorem pools_deed : (s.perform (.deed deed)).pools = stackAfter s.pools deed := by
  rw [Stage.pools, base_deed]
  exact pools_perform s.base deed

theorem pools_drop : (s.perform (.drop g)).pools = (s.pools.retire g.token).2 := pools_perform s.base (.dropGuard g.token)

theorem depth_perform (s : Stage) (act : Act) :
    ((act = .deed .push ∨ act = .deed .openGuard) ∧ (s.perform act).pools.depth = s.pools.depth + 1) ∨
      (s.perform act).pools.depth ≤ s.pools.depth := by
  cases act with
  | deed deed =>
    rw [pools_deed]
    rcases depth_stackAfter s.pools deed with ⟨pushes, higher⟩ | lower
    · exact Or.inl ⟨pushes.imp (congrArg _) (congrArg _), higher⟩
    · exact Or.inr lower
  | drop g =>
    rw [pools_drop]
    exact Or.inr depth_retire_le
  | borrow g => exact Or.inr (Nat.le_refl _)
  | giveBack g => exact Or.inr (Nat.le_refl _)

/-! ### Whole runs -/

/-- Where a pool stands in the place of a guard that lost its level, it was pushed since. -/
theorem Run.replaced (run : Run machine history s) (removed : Removed history g) (stands : g.token < s.pools.depth) :
    Replaced history g := by
  induction run with
  | start _ _ =>
    obtain ⟨x, mem, -⟩ := removed
    cases mem
  | @step history s _ act _ ih =>
    have height := depth_perform s act
    obtain ⟨x, mem, token, below, pops, lives, stood⟩ := removed
    rcases List.mem_cons.mp mem with rfl | mem
    · -- The level went in this very step, and nothing stands as high now.
      obtain rfl : act = .deed (.pop token) := pops
      have cut : (s.perform (.deed (.pop token))).pools.depth ≤ token := by
        rw [pools_deed]
        exact depth_pop_le_token
      omega
    · have removed : Removed history g := ⟨x, mem, token, below, pops, lives, stood⟩
      rcases Nat.lt_or_ge g.token s.pools.depth with stood | free
      · obtain ⟨since, y, earlier, rfl, rest⟩ := ih removed stood
        refine ⟨⟨s, act⟩ :: since, y, earlier, rfl, rest.1, rest.2.1, fun z mem => ?_⟩
        rcases List.mem_cons.mp mem with rfl | mem
        · exact stood
        · exact rest.2.2 z mem
      · obtain ⟨pushes, higher⟩ : (act = .deed .push ∨ act = .deed .openGuard) ∧ _ := height.resolve_right (by omega)
        have level : s.pools.depth = g.token := by omega
        exact ⟨[], ⟨s, act⟩, history, rfl, removed, ⟨pushes, level⟩, fun _ mem => absurd mem List.not_mem_nil⟩

theorem Run.balanced (run : Run machine history s) : s.base.memory.Balanced s.base.owed := by
  have base : ∃ deeds, Conservation.Run machine deeds s.base := by
    induction run with
    | start start nothing => exact ⟨[], .start start nothing⟩
    | step _ act permitted ih =>
      obtain ⟨deeds, run⟩ := ih
      cases act with
      | deed deed =>
        rw [base_deed]
        exact ⟨_, run.step deed permitted.1⟩
      | drop g => exact ⟨_, run.step (.dropGuard g.token) trivial⟩
      | borrow g => exact ⟨_, run⟩
      | giveBack g => exact ⟨_, run⟩
  obtain ⟨_, run⟩ := base
  exact run.balanced

/-- Where nothing comes off, the drop of a guard is only its own end. -/
theorem perform_drop_of_retire (nothing : s.pools.retire g.token = ([], s.pools)) :
    s.perform (.drop g) = { s with guards := s.guards.erase g } := by
  have retired : (retirePool g.token).outcome s.base.machine = (.ok (), s.base.machine) := by
    have taken : s.base.machine.memory.pools.retire g.token = ([], s.base.machine.memory.pools) := nothing
    unfold retirePool
    rw [outcome_bind_ok outcome_pools, taken, outcome_bind_ok (outcome_setPools _)]
    rfl
  have same : s.base.perform (.dropGuard g.token) = s.base :=
    Conservation.perform_of_outcome (Conservation.outcome_bringing_nothing retired)
  simp only [Stage.perform, same]

/-- A guard has lost its level to a raw pop. When it is dropped nothing changes, unless a pool was pushed meanwhile in
    the place of the level. Then that pool is given up: it comes off the stack or is retired, and what comes off is
    released. So nothing changes exactly if no pool stands there, or if one does that was given up before. -/
theorem stale_guards_are_harmless_unless_replaced (run : Run machine history s) (removed : Removed history g) :
    (¬Replaced history g → s.perform (.drop g) = { s with guards := s.guards.erase g }) ∧
    ((s.perform (.drop g)).base.memory = s.base.memory ↔
      s.pools.depth ≤ g.token ∨ s.pools.Settled ∧ ∃ start, s.pools.marks[g.token]? = some ⟨start, false⟩) ∧
    ((Deed.dropGuard g.token).run.outcome s.base.machine).1 = .ok none ∧
    (∀ mark, (s.perform (.drop g)).pools.marks[g.token]? = some mark → mark.live = false) ∧
    { s.base.memory with pools := (s.perform (.drop g)).pools }.releaseAll (s.pools.retire g.token).1 =
      some (s.perform (.drop g)).base.memory := by
  obtain ⟨ends, emptied, -⟩ := releaseAll_dropGuard run.balanced g.token
  refine ⟨fun free => ?_, ⟨fun same => ?_, fun idle => ?_⟩, ends, fun mark there => ?_, ?_⟩
  · refine perform_drop_of_retire (retire_beyond (Nat.not_lt.mp fun stands => free (run.replaced removed stands)))
  · have pools : (s.perform (.drop g)).pools = s.pools := congrArg Memory.pools same
    rw [pools_drop] at pools
    exact retire_eq_self_iff.mp pools
  · rw [perform_drop_of_retire (retire_eq_self idle)]
  · rw [pools_drop] at there
    exact live_retire there
  · rw [pools_drop]
    exact emptied

/-- A guard is opened above a raw pool and loses its level to a pop. Nothing is pushed after that, so the drop of the
    guard changes nothing, although the raw pool holds an object. -/
theorem stale_guard_is_dropped : ∃ history s, Run (Machine.fresh 0 none (.fresh false false)) history s ∧
    Removed history ⟨0, 1⟩ ∧ s.guards = [⟨0, 1⟩] ∧ s.pools = ⟨[⟨64⟩], [⟨0, true⟩]⟩ ∧
    (s.perform (.drop ⟨0, 1⟩)).base.memory = s.base.memory ∧ (s.perform (.drop ⟨0, 1⟩)).guards = [] := by
  have start : Run (Machine.fresh 0 none (.fresh false false)) [] _ := .start 0 rfl
  have run := (((((start.step (.deed (.alloc ⟨0⟩)) ⟨trivial, trivial⟩).step (.deed .push) ⟨trivial, trivial⟩).step
    (.deed (.autorelease ⟨64⟩)) ⟨.head _, trivial⟩).step (.deed .openGuard) ⟨trivial, trivial⟩).step
    (.deed (.pop 1)) ⟨trivial, nofun⟩)
  obtain ⟨-, idle, -⟩ := stale_guards_are_harmless_unless_replaced run (g := ⟨0, 1⟩)
    ⟨_, List.mem_cons_self, 1, Nat.le_refl _, rfl, .head _, Nat.lt_succ_self 1⟩
  exact ⟨_, _, run, ⟨_, List.mem_cons_self, 1, Nat.le_refl _, rfl, .head _, Nat.lt_succ_self 1⟩, rfl, rfl,
    idle.mpr (Or.inl (Nat.le_refl 1)), rfl⟩

/-- A guard loses its level to a pop, and another guard is opened in the place. The first one is dropped while the second
    is borrowed: the object in the pool of the second goes, and the pool too. -/
theorem replaced_pool_is_drained_by_a_stale_guard : ∃ history s,
    Run (Machine.fresh 0 none (.fresh false false)) history s ∧ Removed history ⟨0, 0⟩ ∧ s.Permits (.drop ⟨0, 0⟩) ∧
    s.borrowed = [⟨1, 0⟩] ∧ s.pools = ⟨[⟨64⟩], [⟨0, true⟩]⟩ ∧ (s.base.memory.get? ⟨64⟩).isSome ∧
    (s.perform (.drop ⟨0, 0⟩)).pools = ⟨[], []⟩ ∧ (s.perform (.drop ⟨0, 0⟩)).base.memory.get? ⟨64⟩ = none := by
  have start : Run (Machine.fresh 0 none (.fresh false false)) [] _ := .start 0 rfl
  have run := ((((((start.step (.deed (.alloc ⟨0⟩)) ⟨trivial, trivial⟩).step (.deed .openGuard) ⟨trivial, trivial⟩).step
    (.deed (.pop 0)) ⟨trivial, nofun⟩).step (.deed .openGuard) ⟨trivial, trivial⟩).step (.borrow ⟨1, 0⟩) (.head _)).step
    (.deed (.autorelease ⟨64⟩)) ⟨.head _, trivial⟩)
  refine ⟨_, _, run, ⟨_, .tail _ (.tail _ (.tail _ (.head _))), 0, Nat.le_refl _, rfl, .head _, Nat.le_refl _⟩,
    ⟨.tail _ (.head _), by decide⟩, rfl, rfl, rfl, rfl, rfl⟩

end Stale
end Guards
end Messaging
