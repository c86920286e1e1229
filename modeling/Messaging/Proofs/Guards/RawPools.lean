import Messaging.Proofs.Guards.Tiers

/-! Guards together with raw pools. The guards that exist always stand on live levels of their own. A retired level
    goes with the last guard above it, but a raw pop only cuts the stack: where it uncovers a retired level, that
    level stays on top, and what is autoreleased next goes into it. -/

namespace Messaging
namespace Guards
open PoolStack
open Conservation (Deed)

/-- A pop at this token leaves a retired level on top. -/
def Uncovers (pools : PoolStack) (token : Nat) : Prop :=
  token < pools.depth ∧ ∃ mark, (pools.marks.take token).getLast? = some mark ∧ mark.live = false

/-- When the stack is settled after a deed. -/
def SettledAfter (pools : PoolStack) : Deed → Prop
  | .push | .openGuard | .dropGuard _ => True
  | .pop token => if token < pools.depth then ¬Uncovers pools token else pools.Settled
  | _ => pools.Settled

variable {machine : Machine} {history : List Moment} {s : Stage} {deed : Deed} {ts : List (Tier Address)} {g : Guard}

theorem settled_pop {pools : PoolStack} (token : Nat) : (pools.pop token).2.Settled ↔ SettledAfter pools (.pop token) := by
  simp only [SettledAfter, PoolStack.pop]
  split
  · next beyond =>
    rw [if_neg (by simpa [depth] using beyond)]
  · next mark found =>
    have inside : token < pools.depth := (List.getElem?_eq_some_iff.mp found).1
    rw [if_pos inside]
    constructor
    · rintro live ⟨-, mark, top, retired⟩
      rw [live mark top] at retired
      cases retired
    · intro covered mark top
      rw [← Bool.not_eq_false]
      exact fun retired => covered ⟨inside, mark, top, retired⟩

theorem settled_add? {pools : PoolStack} (a : Address) : ((pools.add? a).getD pools).Settled ↔ pools.Settled := by
  cases added : pools.add? a with
  | none => exact Iff.rfl
  | some after =>
    obtain ⟨-, rfl⟩ := add?_eq_some.mp added
    exact Iff.rfl

namespace Layered

/-- The level of a guard that exists is live. -/
theorem live (h : Layered id s.guards s.pools ts) (mem : g ∈ s.guards) :
    ∃ start, s.pools.marks[g.token]? = some ⟨start, true⟩ := by
  obtain ⟨below, t, above, rfl, length, owner⟩ := h.exists_split mem
  refine ⟨(objectsOf (below.map (Tier.level id s.guards))).length, ?_⟩
  have mark := mark_ofLevels (below.map (Tier.level id s.guards)) (above.map (Tier.level id s.guards))
    (t.level id s.guards)
  have live : (t.level id s.guards).live = true := by simp [Tier.level, Tier.live, owner, mem]
  rw [← List.map_cons, ← List.map_append, ← h.levels, List.length_map, length, live] at mark
  exact mark

theorem autorelease (h : Layered id s.guards s.pools ts) (a : Address) :
    ∃ ts, Layered id s.guards ((s.pools.add? a).getD s.pools) ts := by
  rcases List.eq_nil_or_concat' ts with rfl | ⟨below, t, rfl⟩
  · have bare : s.pools.add? a = none := by
      rw [add?_eq_none, h.levels]
      rfl
    rw [bare]
    exact ⟨[], h⟩
  · obtain ⟨after, added, layered⟩ := h.add a
    have added : s.pools.add? a = some after := added
    rw [added]
    exact ⟨_, layered⟩

theorem perform (h : Layered id s.guards s.pools ts) (permitted : s.Permits deed) :
    ∃ ts, Layered id (s.perform deed).guards (s.perform deed).pools ts := by
  rw [pools_after]
  cases deed with
  | push => exact ⟨_, h.push⟩
  | openGuard => exact ⟨_, h.openGuard s.opened⟩
  | pop token => exact ⟨_, h.pop permitted.2⟩
  | dropGuard token =>
    obtain ⟨-, g, mem, rfl⟩ := permitted
    obtain ⟨kept, -, -, -, layered, -, -⟩ := h.drop mem
    exact ⟨kept, layered⟩
  | autorelease a => exact h.autorelease a
  | handOver a token =>
    simp only [stackAfter]
    split
    · exact h.autorelease a
    · exact ⟨ts, h⟩
  | _ => exact ⟨ts, h⟩

theorem settled_perform (h : Layered id s.guards s.pools ts) (permitted : s.Permits deed) :
    (s.perform deed).pools.Settled ↔ SettledAfter s.pools deed := by
  rw [pools_after]
  cases deed with
  | push | openGuard => exact iff_of_true settled_push trivial
  | pop token => exact settled_pop token
  | dropGuard token =>
    obtain ⟨-, g, mem, rfl⟩ := permitted
    obtain ⟨-, -, -, -, -, settled, -⟩ := h.drop mem
    exact iff_of_true settled trivial
  | autorelease a => exact settled_add? a
  | handOver a token =>
    simp only [stackAfter]
    split
    · exact settled_add? a
    · exact Iff.rfl
  | _ => exact Iff.rfl

end Layered

/-! ### Whole runs -/

theorem Run.layered (run : Run machine history s) : ∃ ts : List (Tier Address), Layered id s.guards s.pools ts := by
  induction run with
  | start start nothing =>
    refine ⟨[], ?_⟩
    show Layered id [] machine.memory.pools []
    rw [nothing]
    exact Layered.empty
  | step _ _ permitted ih =>
    obtain ⟨ts, layered⟩ := ih
    exact layered.perform permitted

theorem Run.settled (run : Run machine history s)
    (covered : ∀ x ∈ history, ∀ token, x.deed = .pop token → ¬Uncovers x.before.pools token) : s.pools.Settled := by
  induction run with
  | start start nothing =>
    show machine.memory.pools.Settled
    rw [nothing]
    exact nofun
  | @step history s run deed permitted ih =>
    obtain ⟨ts, layered⟩ := run.layered
    have before := ih fun x mem => covered x (List.mem_cons_of_mem _ mem)
    rw [layered.settled_perform permitted]
    cases deed with
    | push | openGuard | dropGuard _ => trivial
    | pop token =>
      simp only [SettledAfter]
      split
      · exact covered _ List.mem_cons_self token rfl
      · exact before
    | _ => exact before

/-- The guards that exist stand on live levels, the newer the higher. After a push and after the drop of a guard no
    retired level is on top, and all that came off was released; a pop leaves one on top exactly if it uncovers it,
    and after any other deed there is one if there was one before. So as long as no pop uncovers a retired level
    there is none on top, and what is autoreleased goes into a pool that was not given up. -/
theorem retired_levels_stay_only_where_a_pop_uncovers_them (run : Run machine history s) :
    (∀ g ∈ s.guards, ∃ start, s.pools.marks[g.token]? = some ⟨start, true⟩) ∧
    (s.guards.Pairwise fun newer older => older.token < newer.token) ∧
    (∀ deed, s.Permits deed → ((s.perform deed).pools.Settled ↔ SettledAfter s.pools deed)) ∧
    (∀ g ∈ s.guards, { s.base.memory with pools := (s.perform (.dropGuard g.token)).pools }.releaseAll
      (s.pools.retire g.token).1 = some (s.perform (.dropGuard g.token)).base.memory) ∧
    ((∀ x ∈ history, ∀ token, x.deed = .pop token → ¬Uncovers x.before.pools token) →
      s.pools.Settled ∧ ∀ a after, s.pools.add? a = some after → after.objects = s.pools.objects ++ [a] ∧
        ∃ mark, after.marks.getLast? = some mark ∧ mark.live = true) := by
  obtain ⟨ts, layered⟩ := run.layered
  refine ⟨fun g mem => layered.live mem, layered.decreasing, fun deed permitted => layered.settled_perform permitted,
    fun g mem => ?_, fun covered => ⟨run.settled covered, fun a after added => ?_⟩⟩
  · have pools : (s.perform (.dropGuard g.token)).pools = (s.pools.retire g.token).2 := pools_after
    obtain ⟨-, emptied, -⟩ := releaseAll_dropGuard run.balanced g.token
    rw [pools, base_perform]
    exact emptied
  · obtain ⟨stacked, rfl⟩ := add?_eq_some.mp added
    have top : s.pools.marks.getLast? = some (s.pools.marks.getLast stacked) := List.getLast?_eq_some_getLast stacked
    exact ⟨rfl, _, top, run.settled covered _ top⟩

/-- A guard is dropped under a raw pool and another guard. The retired level is not on top, and does not get there
    when the other guard is dropped. -/
theorem retired_level_is_covered : ∃ history s, Run (Machine.fresh 0 none (.fresh false false)) history s ∧
    s.pools.marks = [⟨0, false⟩, ⟨1, true⟩, ⟨1, true⟩] ∧ s.pools.Settled ∧ (s.perform (.dropGuard 2)).pools.Settled ∧
    s.pools.marks[2]? = some ⟨1, true⟩ := by
  have start : Run (Machine.fresh 0 none (.fresh false false)) [] _ := .start 0 rfl
  have run := (((((start.step (.alloc ⟨0⟩) ⟨trivial, trivial⟩).step .openGuard ⟨trivial, trivial⟩).step
    (.autorelease ⟨64⟩) ⟨.head _, trivial⟩).step .push ⟨trivial, trivial⟩).step .openGuard ⟨trivial, trivial⟩).step
    (.dropGuard 0) ⟨trivial, ⟨0, 0⟩, .tail _ (.head _), rfl⟩
  have deeds : ∀ deed ∈ [Deed.dropGuard 0, .openGuard, .push, .autorelease ⟨64⟩, .openGuard, .alloc ⟨0⟩], ∀ token,
      deed ≠ .pop token := by
    simp
  obtain ⟨live, -, settles, -, covered⟩ := retired_levels_stay_only_where_a_pop_uncovers_them run
  have settled := covered fun x mem token pops => absurd pops (deeds _ (List.mem_map_of_mem (f := Moment.deed) mem) token)
  obtain ⟨start, mark⟩ := live ⟨1, 2⟩ (.head _)
  have dropped := (settles (.dropGuard 2) ⟨trivial, ⟨1, 2⟩, .head _, rfl⟩).mpr trivial
  exact ⟨_, _, run, rfl, settled.1, dropped, mark.trans (by rw [← mark]; rfl)⟩

/-- A guard is dropped under a raw pool, which is then popped: the object handed to the guard is not released, its
    level is on top, and what is autoreleased next goes into it. -/
theorem pop_uncovers_a_retired_level : ∃ history s, Run (Machine.fresh 0 none (.fresh false false)) history s ∧
    s.guards = [] ∧ ¬s.pools.Settled ∧ s.base.memory.count ⟨64⟩ = 2 ∧
    (s.perform (.autorelease ⟨64⟩)).pools = ⟨[⟨64⟩, ⟨64⟩], [⟨0, false⟩]⟩ := by
  have start : Run (Machine.fresh 0 none (.fresh false false)) [] _ := .start 0 rfl
  have run := ((((((start.step (.alloc ⟨0⟩) ⟨trivial, trivial⟩).step (.retain ⟨64⟩) ⟨rfl, trivial⟩).step .openGuard
    ⟨trivial, trivial⟩).step (.autorelease ⟨64⟩) ⟨.head _, trivial⟩).step .push ⟨trivial, trivial⟩).step (.dropGuard 0)
    ⟨trivial, _, .head _, rfl⟩).step (.pop 1) ⟨trivial, nofun⟩
  refine ⟨_, _, run, rfl, fun settled => ?_, rfl, rfl⟩
  have live := settled ⟨0, false⟩ rfl
  cases live

end Guards
end Messaging
