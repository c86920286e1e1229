import Messaging.Proofs.Conservation
import Messaging.Proofs.Frame

/-! Runs with pool guards. Beside what is done with references, a run knows the guards that exist. A guard is
    dropped once, in whatever order, and a raw pool is popped only above the guards that exist. What a deed makes
    of the pools depends on the pools alone. -/

namespace Messaging
namespace Guards
open Exec
open Conservation (Deed)

/-- A guard is known by how many were opened before it; its token is the level of its pool. -/
structure Guard where
  serial : Nat
  token : Nat
deriving DecidableEq

/-- The guards are those that were not dropped yet, the newest first. -/
structure Stage where
  base : Conservation.Stage
  guards : List Guard
  opened : Nat

namespace Stage

def pools (s : Stage) : PoolStack := s.base.memory.pools

def Permits (s : Stage) (deed : Deed) : Prop := s.base.Permits deed ∧
  match deed with
  | .dropGuard token => ∃ g ∈ s.guards, g.token = token
  | .pop token => ∀ g ∈ s.guards, g.token < token
  | _ => True

def perform (s : Stage) (deed : Deed) : Stage :=
  match deed with
  | .openGuard => ⟨s.base.perform deed, ⟨s.opened, s.pools.depth⟩ :: s.guards, s.opened + 1⟩
  | .dropGuard token => ⟨s.base.perform deed, s.guards.filter fun g => decide (g.token ≠ token), s.opened⟩
  | _ => ⟨s.base.perform deed, s.guards, s.opened⟩

end Stage

structure Moment where
  before : Stage
  deed : Deed

def Moment.after (x : Moment) : Stage := x.before.perform x.deed

/-- A run from a machine without objects, with its steps, the latest first. -/
inductive Run (machine : Machine) : List Moment → Stage → Prop
  | start (start : Nat) (nothing : machine.memory = Memory.empty start) :
      Run machine [] ⟨⟨machine, ⟨[], [], [], []⟩⟩, [], 0⟩
  | step {history : List Moment} {s : Stage} (run : Run machine history s) (deed : Deed) (permitted : s.Permits deed) :
      Run machine (⟨s, deed⟩ :: history) (s.perform deed)

variable {machine : Machine} {history : List Moment} {s : Stage} {deed : Deed} {a : Address}

theorem base_perform : (s.perform deed).base = s.base.perform deed := by
  cases deed <;> rfl

theorem Run.balanced (run : Run machine history s) : s.base.memory.Balanced s.base.owed := by
  have base : ∃ deeds, Conservation.Run machine deeds s.base := by
    induction run with
    | start start nothing => exact ⟨[], .start start nothing⟩
    | step _ deed permitted ih =>
      obtain ⟨deeds, run⟩ := ih
      rw [base_perform]
      exact ⟨_, run.step deed permitted.1⟩
  obtain ⟨_, run⟩ := base
  exact run.balanced

/-! ### The pools -/

/-- What a deed makes of the pools. -/
def stackAfter (pools : PoolStack) : Deed → PoolStack
  | .push | .openGuard => pools.push.2
  | .pop token => (pools.pop token).2
  | .dropGuard token => (pools.retire token).2
  | .autorelease a => (pools.add? a).getD pools
  | .handOver a token => if pools.isInnermost token then (pools.add? a).getD pools else pools
  | _ => pools

/-- The part of the machine that the pools are. -/
def poolsOf (s : Machine) : PoolStack := s.memory.pools

theorem keeps_onObject {op : Memory → Option Memory} (same : ∀ m n, op m = some n → n.pools = m.pools) :
    Keeps poolsOf (onObject a op) := by
  intro s
  unfold onObject
  rw [outcome_bind_ok outcome_get]
  cases done : op s.memory with
  | none => rfl
  | some m => exact same _ _ done

theorem keeps_objectAt : Keeps poolsOf (objectAt a) := by
  refine keeps_get.bind fun s => ?_
  cases s.memory.get? a with
  | none => exact keeps_throw _
  | some o => exact keeps_pure _

theorem keeps_retain : Keeps poolsOf (retain a) := keeps_onObject fun _ _ done => Memory.pools_retain done

theorem keeps_release : Keeps poolsOf (release a) := by
  have gives : Keeps poolsOf (onObject a fun m => m.release a) := keeps_onObject fun _ _ done => Memory.pools_release done
  refine keeps_objectAt.bind fun o => ?_
  split
  · refine Keeps.bind (fun s => ?_) fun _ => gives
    obtain ⟨journal, announced⟩ := outcome_announceFree (s := s) (a := a) o
    rw [announced]
    rfl
  · exact gives

theorem keeps_drain (token : Nat) (l : List Address) : Keeps poolsOf (drain token l) := by
  have releases : Keeps poolsOf (l.forM release) := by
    induction l with
    | nil => exact keeps_pure _
    | cons a rest ih => exact keeps_release.bind fun _ => ih
  unfold drain
  split
  · exact (keeps_log (fun _ _ => rfl) _ _ _).bind fun _ => releases
  · exact releases

/-- What takes pools off the stack leaves the stack as it was cut. -/
theorem pools_cut {t : Machine} (token : Nat) (cut : PoolStack → List Address × PoolStack) :
    poolsOf (Exec.outcome (do
      let (objects, after) := cut (← pools)
      setPools after
      drain token objects) t).2 = (cut (poolsOf t)).2 := by
  rw [outcome_bind_ok outcome_pools, outcome_bind_ok (outcome_setPools _), keeps_drain]
  rfl

theorem pools_unit (x : Exec Unit) (t : Machine) :
    poolsOf (Exec.outcome (do x; pure (none : Option Address)) t).2 = poolsOf (x.outcome t).2 := by
  rw [outcome_bind]
  rcases x.outcome t with ⟨_ | _, _⟩ <;> rfl

theorem pools_autorelease {t : Machine} :
    poolsOf ((autorelease a).outcome t).2 = ((poolsOf t).add? a).getD (poolsOf t) := by
  unfold poolsOf
  cases added : t.memory.pools.add? a with
  | none =>
    obtain ⟨journal, leaks⟩ := outcome_autorelease_leak added
    rw [leaks]
    rfl
  | some after =>
    rw [outcome_autorelease added]
    rfl

theorem pools_handOver {t : Machine} {token : Nat} : poolsOf ((handOver a token).outcome t).2 =
    if (poolsOf t).isInnermost token then ((poolsOf t).add? a).getD (poolsOf t) else poolsOf t := by
  unfold handOver
  rw [outcome_bind_ok (outcome_attempt _)]
  cases innermost : (poolsOf t).isInnermost token with
  | true =>
    rw [outcome_assertInnermost innermost]
    exact pools_autorelease
  | false =>
    obtain ⟨text, panics⟩ := outcome_assertInnermost_panic innermost
    rw [panics]
    exact (keeps_release.bind fun _ => keeps_throw _) t

theorem keeps_throwObject {α : Type} : Keeps poolsOf (throwObject a : Exec α) :=
  (keeps_objectAt.bind fun _ => keeps_pure _).bind fun _ => (keeps_get.bind fun _ => keeps_pure _).bind fun _ =>
    (keeps_log (fun _ _ => rfl) _ _ _).bind fun _ => keeps_throw _

theorem keeps_loadWeak {slot : SlotId} : Keeps poolsOf (loadWeak slot) := by
  intro t
  unfold loadWeak
  rw [outcome_bind_ok outcome_get]
  cases done : t.memory.loadWeak slot with
  | none => rfl
  | some loaded => exact Memory.pools_loadWeak done

theorem pools_perform (s : Conservation.Stage) (deed : Deed) :
    (s.perform deed).memory.pools = stackAfter s.memory.pools deed := by
  show poolsOf (deed.run.outcome s.machine).2 = _
  cases deed with
  | retain x | clone x | retainRaw x => exact (pools_unit _ _).trans (keeps_retain _)
  | release x | drop x | discard x => exact (pools_unit _ _).trans (keeps_release _)
  | autorelease x => exact (pools_unit _ _).trans pools_autorelease
  | handOver x token => exact (pools_unit _ _).trans pools_handOver
  | pop token => exact (pools_unit _ _).trans (pools_cut token fun pools => pools.pop token)
  | dropGuard token => exact (pools_unit _ _).trans (pools_cut token fun pools => pools.retire token)
  | storeWeak slot target =>
    exact (pools_unit _ _).trans (keeps_onObject (fun _ _ done => Memory.pools_storeWeak done) _)
  | loadWeak slot => exact keeps_loadWeak _
  | throwObject x => exact keeps_throwObject _
  | alloc _ | push | openGuard | intoRaw _ | fromRaw _ | makeWeak | dropWeak _ | catchThrown _ => rfl

theorem pools_after : (s.perform deed).pools = stackAfter s.pools deed := by
  rw [Stage.pools, base_perform]
  exact pools_perform s.base deed

/-- The drop of a guard releases what comes off the stack with it. -/
theorem releaseAll_dropGuard {s : Conservation.Stage} (h : s.memory.Balanced s.owed) (token : Nat) :
    ((Deed.dropGuard token).run.outcome s.machine).1 = .ok none ∧
    { s.memory with pools := (s.memory.pools.retire token).2 }.releaseAll (s.memory.pools.retire token).1 =
      some (s.perform (.dropGuard token)).memory ∧
    ∀ a, s.memory.count a = (s.perform (.dropGuard token)).memory.count a + (s.memory.pools.retire token).1.count a := by
  have split (b : Address) : s.owed b =
      s.holdings.owed (s.memory.pools.retire token).2 b + (s.memory.pools.retire token).1.count b := by
    have := s.memory.pools.count_retire (a := b) token
    simp only [Conservation.Stage.owed, Conservation.Holdings.owed]
    omega
  obtain ⟨m, done, balanced, -⟩ := ((h.setPools (s.memory.pools.retire token).2).congr split).releaseAll
  obtain ⟨journal, retired⟩ := outcome_retirePool rfl done
  have ends : (Deed.dropGuard token).run.outcome s.machine = (.ok none, _) :=
    Conservation.outcome_bringing_nothing retired
  rw [done, Conservation.perform_of_outcome ends, ends]
  refine ⟨rfl, rfl, fun a => ?_⟩
  rw [h.accounts.count, split a]
  exact congrArg (· + _) (balanced.accounts.count a).symm

end Guards
end Messaging
