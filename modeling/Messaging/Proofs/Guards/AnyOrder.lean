import Messaging.Proofs.Guards.Tiers

/-! Guards that are dropped in any order, where no pool is raw. A reference that was handed to the pool of a guard
    stays there until its guard is gone and no other guard stands above it. It is released at that moment, so it
    is there as long as the guard is. -/

namespace Messaging
namespace Guards
open PoolStack
open Conservation (Deed)

/-- A reference in the pool of a guard, numbered by the steps before it was handed over. -/
structure Reference where
  number : Nat
  guard : Guard
  object : Address

/-- What a step hands over. It goes to the pool of the newest guard. -/
def Moment.files (x : Moment) (number : Nat) : List Reference :=
  match x.deed with
  | .autorelease a => x.before.guards.head?.toList.map fun g => ⟨number, g, a⟩
  | .handOver a token =>
    (x.before.guards.head?.filter fun g => decide (g.token = token)).toList.map fun g => ⟨number, g, a⟩
  | _ => []

/-- All that was handed over in a run, oldest first. -/
def filings : List Moment → List Reference
  | [] => []
  | x :: history => filings history ++ x.files history.length

/-- The guard is gone, and so are all above it. -/
def Stage.due (s : Stage) (g : Guard) : Bool := decide (g ∉ s.guards ∧ ∀ k ∈ s.guards, k.token ≤ g.token)

/-- The guard of a reference was gone, with all above it, at some moment after it was handed over. -/
def expired : List Moment → Reference → Bool
  | [], _ => false
  | x :: history, r => (decide (r.number ≤ history.length) && x.after.due r.guard) || expired history r

/-- The references that were not given up yet. -/
def waiting (history : List Moment) : List Reference := (filings history).filter fun r => !expired history r

/-- The references that are given up at the last step, oldest first. -/
def givenUp : List Moment → List Reference
  | [] => []
  | x :: history => (filings (x :: history)).filter fun r => expired (x :: history) r && !expired history r

/-- The references that were given up over a run. -/
def released : List Moment → List Reference
  | [] => []
  | x :: history => released history ++ givenUp (x :: history)

/-- Neither pushes nor pops a raw pool. -/
def Guarded : Deed → Prop
  | .push | .pop _ => False
  | _ => True

variable {machine : Machine} {history : List Moment} {s : Stage} {deed : Deed} {x : Moment} {r : Reference} {g k : Guard}
  {ts below : List (Tier Reference)} {t : Tier Reference}

theorem due_iff : s.due g = true ↔ g ∉ s.guards ∧ ∀ k ∈ s.guards, k.token ≤ g.token := by
  simp [Stage.due]

/-! ### What is handed over -/

theorem number_of_files {number : Nat} (mem : r ∈ x.files number) : r.number = number := by
  unfold Moment.files at mem
  split at mem
  · obtain ⟨g, -, rfl⟩ := List.mem_map.mp mem
    rfl
  · obtain ⟨g, -, rfl⟩ := List.mem_map.mp mem
    rfl
  · cases mem

theorem guard_of_files {number : Nat} (mem : r ∈ x.files number) : r.guard ∈ x.before.guards := by
  unfold Moment.files at mem
  split at mem
  · obtain ⟨g, newest, rfl⟩ := List.mem_map.mp mem
    exact List.mem_of_head? (Option.mem_toList.mp newest)
  · obtain ⟨g, newest, rfl⟩ := List.mem_map.mp mem
    exact List.mem_of_head? (Option.mem_filter_iff.mp (Option.mem_toList.mp newest)).1
  · cases mem

theorem number_lt (mem : r ∈ filings history) : r.number < history.length := by
  induction history with
  | nil => cases mem
  | cons x history ih =>
    rw [List.length_cons]
    rcases List.mem_append.mp mem with old | new
    · have := ih old
      omega
    · rw [number_of_files new]
      omega

theorem expired_eq_false (late : history.length ≤ r.number) : expired history r = false := by
  induction history with
  | nil => rfl
  | cons x history ih =>
    rw [List.length_cons] at late
    have ahead : ¬ r.number ≤ history.length := by omega
    simp [expired, ahead, ih (by omega)]

theorem expired_cons (mem : r ∈ filings (x :: history)) :
    expired (x :: history) r = (x.after.due r.guard || expired history r) := by
  have := number_lt mem
  rw [List.length_cons] at this
  simp [expired, Nat.le_of_lt_succ this]

theorem waiting_append : waiting history ++ x.files history.length =
    (filings (x :: history)).filter fun r => !expired history r := by
  have files : ((x.files history.length).filter fun r => !expired history r) = x.files history.length := by
    refine List.filter_eq_self.mpr fun r mem => ?_
    rw [expired_eq_false (Nat.le_of_eq (number_of_files mem).symm)]
    rfl
  rw [filings, List.filter_append, files, waiting]

/-- Of what waits and what is handed over now, a step keeps what is not due after it. -/
theorem waiting_cons : waiting (x :: history) =
    (waiting history ++ x.files history.length).filter fun r => !x.after.due r.guard := by
  rw [waiting_append, List.filter_filter, waiting]
  refine List.filter_congr fun r mem => ?_
  rw [expired_cons mem, Bool.not_or]

theorem givenUp_cons : givenUp (x :: history) =
    (waiting history ++ x.files history.length).filter fun r => x.after.due r.guard := by
  rw [waiting_append, List.filter_filter, givenUp]
  refine List.filter_congr fun r mem => ?_
  rw [expired_cons mem]
  cases x.after.due r.guard <;> cases expired history r <;> rfl

theorem nodup_filings : (filings history).Nodup := by
  induction history with
  | nil => exact List.nodup_nil
  | cons x history ih =>
    have one : (x.files history.length).Nodup := by
      have single (o : Option Guard) (f : Guard → Reference) : (o.toList.map f).Nodup := by
        cases o <;> simp
      unfold Moment.files
      split
      · exact single _ _
      · exact single _ _
      · exact List.nodup_nil
    refine List.nodup_append.mpr ⟨ih, one, fun r old k new same => ?_⟩
    have := number_lt old
    rw [same, number_of_files new] at this
    exact Nat.lt_irrefl _ this

/-- Each reference of a run either waits or was given up once. -/
theorem perm_filings : (filings history).Perm (released history ++ waiting history) := by
  induction history with
  | nil => exact List.Perm.refl _
  | cons x history ih =>
    have parts := List.filter_append_perm (fun r => x.after.due r.guard) (waiting history ++ x.files history.length)
    have grown := ih.append_right (x.files history.length)
    rw [List.append_assoc] at grown
    rw [released, givenUp_cons, waiting_cons, List.append_assoc]
    exact grown.trans (parts.symm.append_left _)

/-! ### What a run keeps -/

/-- Every tier belongs to a guard and holds what was handed over while that guard was the newest. The topmost
    guard exists. -/
structure Sorted (s : Stage) (ts : List (Tier Reference)) : Prop where
  layered : Layered Reference.object s.guards s.pools ts
  settled : s.pools.Settled
  owned : ∀ t ∈ ts, ∃ g, t.owner = some g ∧ ∀ r ∈ t.held, r.guard = g

theorem mem_heldBy {ρ : Type} {ts : List (Tier ρ)} {r : ρ} : r ∈ heldBy ts ↔ ∃ t ∈ ts, r ∈ t.held := List.mem_flatMap

theorem heldBy_append {ρ : Type} (below above : List (Tier ρ)) : heldBy (below ++ above) = heldBy below ++ heldBy above :=
  List.flatMap_append

namespace Sorted

/-- The guard of the topmost tier is the newest one that exists. -/
theorem top (h : Sorted s (below ++ [t])) :
    ∃ g, t.owner = some g ∧ t.live s.guards = true ∧ s.guards.head? = some g ∧ g.token = below.length := by
  obtain ⟨g, owner, -⟩ := h.owned t (List.mem_append_right _ List.mem_cons_self)
  have placed := h.layered.placed.last owner
  have settled := h.settled
  rw [h.layered.levels, List.map_append, List.map_singleton, settled_ofLevels, List.getLast?_concat] at settled
  have live : t.live s.guards = true := settled _ rfl
  have exists_ : g ∈ s.guards := by simpa [Tier.live, owner] using live
  refine ⟨g, owner, live, ?_, placed⟩
  have stands := h.layered.standing
  rw [List.filterMap_append, List.reverse_append, List.filterMap_cons_some owner] at stands
  generalize s.guards = guards at exists_ stands
  cases stands with
  | cons _ lower =>
    obtain ⟨u, there, owner'⟩ := List.mem_filterMap.mp (List.mem_reverse.mp (lower.subset exists_))
    have := h.layered.placed.left.token_lt there owner'
    omega
  | cons_cons _ _ => rfl

theorem guards_eq_nil (h : Sorted s []) : s.guards = [] := List.sublist_nil.mp h.layered.standing

theorem eq_nil (h : Sorted s ts) (bare : s.guards.head? = none) : ts = [] := by
  rcases List.eq_nil_or_concat' ts with rfl | ⟨below, t, rfl⟩
  · rfl
  · obtain ⟨g, -, -, newest, -⟩ := h.top
    rw [bare] at newest
    cases newest

theorem add?_nil (h : Sorted s ts) (bare : s.guards.head? = none) (a : Address) : s.pools.add? a = none := by
  obtain rfl := h.eq_nil bare
  rw [add?_eq_none, h.layered.levels]
  rfl

theorem isInnermost_iff (h : Sorted s ts) (token : Nat) :
    s.pools.isInnermost token = true ↔ ∃ g, s.guards.head? = some g ∧ g.token = token := by
  rcases List.eq_nil_or_concat' ts with rfl | ⟨below, t, rfl⟩
  · have bare : s.pools.isInnermost token = false := by
      rw [h.layered.levels]
      rfl
    simp [bare, h.guards_eq_nil]
  · obtain ⟨g, owner, live, newest, placed⟩ := h.top
    rw [h.layered.levels, List.map_append, List.map_singleton, isInnermost_ofLevels, List.length_map, newest]
    constructor
    · rintro ⟨rfl, -⟩
      exact ⟨g, rfl, placed⟩
    · rintro ⟨k, same, rfl⟩
      cases same
      exact ⟨placed, live⟩

theorem not_due (h : Sorted s ts) (mem : r ∈ heldBy ts) : s.due r.guard = false := by
  obtain ⟨t, there, held⟩ := mem_heldBy.mp mem
  obtain ⟨g, owner, guarded⟩ := h.owned t there
  rw [guarded r held, ← Bool.not_eq_true, due_iff]
  rintro ⟨gone, above⟩
  rcases List.eq_nil_or_concat' ts with rfl | ⟨below, u, rfl⟩
  · cases there
  obtain ⟨k, owner', -, newest, placed⟩ := h.top
  have exists_ := List.mem_of_head? newest
  rcases List.mem_append.mp there with lower | top
  · have := above k exists_
    have := h.layered.placed.left.token_lt lower owner
    omega
  · cases List.mem_singleton.mp top
    rw [owner] at owner'
    cases owner'
    exact gone exists_

/-! ### What a step does -/

theorem of_same {u : Stage} (h : Sorted s ts) (guards : u.guards = s.guards) (pools : u.pools = s.pools) : Sorted u ts where
  layered := by
    rw [guards, pools]
    exact h.layered
  settled := by
    rw [pools]
    exact h.settled
  owned := h.owned

theorem openGuard (h : Sorted s ts) :
    ∃ kept, Sorted (s.perform .openGuard) kept ∧ heldBy kept = heldBy ts := by
  have pools : (s.perform .openGuard).pools = s.pools.push.2 := pools_after
  refine ⟨ts ++ [⟨some ⟨s.opened, s.pools.depth⟩, []⟩], ⟨?_, ?_, fun t mem => ?_⟩, ?_⟩
  · rw [pools]
    exact h.layered.openGuard s.opened
  · rw [pools]
    exact settled_push
  · rcases List.mem_append.mp mem with old | new
    · exact h.owned t old
    · cases List.mem_singleton.mp new
      exact ⟨_, rfl, nofun⟩
  · simp [heldBy]

/-- What is handed over is held by the tier of the newest guard. -/
theorem file (h : Sorted s ts) (newest : s.guards.head? = some r.guard) :
    ∃ after kept, s.pools.add? r.object = some after ∧ heldBy kept = heldBy ts ++ [r] ∧
      ∀ u : Stage, u.guards = s.guards → u.pools = after → Sorted u kept := by
  rcases List.eq_nil_or_concat' ts with rfl | ⟨below, t, rfl⟩
  · rw [h.guards_eq_nil] at newest
    cases newest
  obtain ⟨g, owner, -, newest', -⟩ := h.top
  rw [newest] at newest'
  cases newest'
  obtain ⟨after, added, layered⟩ := h.layered.add r
  refine ⟨after, below ++ [{ t with held := t.held ++ [r] }], added, by simp [heldBy], fun u guards pools =>
    ⟨?_, ?_, fun t' mem => ?_⟩⟩
  · rw [guards, pools]
    exact layered
  · obtain ⟨-, rfl⟩ := add?_eq_some.mp added
    rw [pools]
    exact h.settled
  · rcases List.mem_append.mp mem with lower | top
    · exact h.owned t' (List.mem_append_left _ lower)
    · cases List.mem_singleton.mp top
      refine ⟨_, owner, fun r' held => ?_⟩
      obtain ⟨k, owner', guarded⟩ := h.owned t (List.mem_append_right _ List.mem_cons_self)
      rw [owner] at owner'
      cases owner'
      rcases List.mem_append.mp held with old | new
      · exact guarded r' old
      · rw [List.mem_singleton.mp new]

/-- A step that drops no guard takes nothing off the pools. -/
theorem other (h : Sorted s ts) (guarded : Guarded deed) (keeps : ∀ token, deed ≠ .dropGuard token) (number : Nat) :
    ∃ kept, Sorted (s.perform deed) kept ∧ heldBy kept = heldBy ts ++ (Moment.mk s deed).files number := by
  cases deed with
  | push | pop _ => exact guarded.elim
  | dropGuard token => exact absurd rfl (keeps token)
  | openGuard =>
    obtain ⟨kept, sorted, same⟩ := h.openGuard
    exact ⟨kept, sorted, by rw [same]; exact (List.append_nil _).symm⟩
  | autorelease a =>
    cases newest : s.guards.head? with
    | none =>
      refine ⟨ts, h.of_same rfl ?_, by simp [Moment.files, newest]⟩
      rw [pools_after, stackAfter, h.add?_nil newest]
      rfl
    | some g =>
      obtain ⟨after, kept, added, held, sorted⟩ := h.file (r := ⟨number, g, a⟩) newest
      refine ⟨kept, sorted _ rfl ?_, by simp [Moment.files, newest, held]⟩
      rw [pools_after, stackAfter, added]
      rfl
  | handOver a token =>
    by_cases innermost : s.pools.isInnermost token = true
    · obtain ⟨g, newest, rfl⟩ := (h.isInnermost_iff token).mp innermost
      obtain ⟨after, kept, added, held, sorted⟩ := h.file (r := ⟨number, g, a⟩) newest
      refine ⟨kept, sorted _ rfl ?_, by simp [Moment.files, newest, held, Option.filter]⟩
      rw [pools_after, stackAfter, if_pos innermost, added]
      rfl
    · have nothing : (Moment.mk s (.handOver a token)).files number = [] := by
        cases newest : s.guards.head? with
        | none => simp [Moment.files, newest]
        | some g =>
          have away : g.token ≠ token := fun same => innermost ((h.isInnermost_iff token).mpr ⟨g, newest, same⟩)
          simp [Moment.files, newest, away]
      refine ⟨ts, h.of_same rfl ?_, by rw [nothing, List.append_nil]⟩
      rw [pools_after, stackAfter, if_neg innermost]
  | _ => exact ⟨ts, h.of_same rfl pools_after, (List.append_nil _).symm⟩

/-- What the drop of a guard takes off the pools is due, and is what it releases, the newest first. -/
theorem dropGuard (h : Sorted s ts) (mem : g ∈ s.guards) : ∃ kept gone,
    Sorted (s.perform (.dropGuard g.token)) kept ∧ heldBy ts = heldBy kept ++ heldBy gone ∧
    (∀ r ∈ heldBy gone, (s.perform (.dropGuard g.token)).due r.guard = true) ∧
    (s.pools.retire g.token).1 = ((heldBy gone).map Reference.object).reverse := by
  obtain ⟨kept, gone, rfl, taken, layered, settled, abandoned⟩ := h.layered.drop mem
  refine ⟨kept, gone, ⟨?_, ?_, fun t there => h.owned t (List.mem_append_left _ there)⟩, heldBy_append _ _,
    fun r there => ?_, taken⟩
  · rw [pools_after]
    exact layered
  · rw [pools_after]
    exact settled
  · obtain ⟨t, upper, held⟩ := mem_heldBy.mp there
    obtain ⟨k, owner, gone⟩ := abandoned t upper
    obtain ⟨k', owner', guarded⟩ := h.owned t (List.mem_append_right _ upper)
    rw [owner] at owner'
    cases owner'
    rw [guarded r held, due_iff]
    refine ⟨gone, fun l exists_ => ?_⟩
    have below := h.layered.placed.length_le upper owner
    obtain ⟨u, found, owns⟩ := layered.exists_tier exists_
    have := (List.getElem?_eq_some_iff.mp found).1
    omega

/-- After a step the pools hold what waits then, and what is given up is what the drop of a guard took off. -/
theorem step (h : Sorted s ts) (held : waiting history = heldBy ts) (permitted : s.Permits deed) (guarded : Guarded deed) :
    ∃ kept, Sorted (s.perform deed) kept ∧ waiting (⟨s, deed⟩ :: history) = heldBy kept ∧
      (∀ token, deed = .dropGuard token →
        (s.pools.retire token).1 = ((givenUp (⟨s, deed⟩ :: history)).map Reference.object).reverse) ∧
      ((∀ token, deed ≠ .dropGuard token) → givenUp (⟨s, deed⟩ :: history) = []) := by
  -- What the tiers hold after the step is not due and what came off is, so that tells the two apart.
  have shares (kept gone : List (Tier Reference)) (sorted : Sorted (s.perform deed) kept)
      (parts : heldBy ts ++ (Moment.mk s deed).files history.length = heldBy kept ++ heldBy gone)
      (due : ∀ r ∈ heldBy gone, (s.perform deed).due r.guard = true) :
      waiting (⟨s, deed⟩ :: history) = heldBy kept ∧ givenUp (⟨s, deed⟩ :: history) = heldBy gone := by
    have stays : ∀ r ∈ heldBy kept, (s.perform deed).due r.guard = false := fun r mem => sorted.not_due mem
    rw [waiting_cons, givenUp_cons, held, parts, List.filter_append, List.filter_append]
    constructor
    · rw [List.filter_eq_self.mpr fun r mem => by simp [Moment.after, stays r mem],
        List.filter_eq_nil_iff.mpr fun r mem => by simp [Moment.after, due r mem], List.append_nil]
    · rw [List.filter_eq_nil_iff.mpr fun r mem => by simp [Moment.after, stays r mem],
        List.filter_eq_self.mpr fun r mem => by simp [Moment.after, due r mem], List.nil_append]
  by_cases drops : ∃ token, deed = .dropGuard token
  · obtain ⟨token, rfl⟩ := drops
    obtain ⟨-, g, mem, rfl⟩ := permitted
    obtain ⟨kept, gone, sorted, parts, due, taken⟩ := h.dropGuard mem
    obtain ⟨waits, given⟩ := shares kept gone sorted ((List.append_nil _).trans parts) due
    refine ⟨kept, sorted, waits, fun token same => ?_, fun keeps => absurd rfl (keeps _)⟩
    cases same
    rw [given]
    exact taken
  · have keeps : ∀ token, deed ≠ .dropGuard token := fun token same => drops ⟨token, same⟩
    obtain ⟨kept, sorted, parts⟩ := h.other guarded keeps history.length
    obtain ⟨waits, given⟩ := shares kept [] sorted (by rw [← parts]; exact (List.append_nil _).symm) nofun
    exact ⟨kept, sorted, waits, fun token same => absurd same (keeps token), fun _ => given⟩

end Sorted

/-! ### Whole runs -/

/-- What waits is what the tiers hold. -/
theorem Run.sorted (run : Run machine history s) (guarded : ∀ x ∈ history, Guarded x.deed) :
    ∃ ts, Sorted s ts ∧ waiting history = heldBy ts := by
  induction run with
  | start start nothing =>
    have empty : Layered Reference.object [] machine.memory.pools [] := by
      rw [nothing]
      exact Layered.empty
    refine ⟨[], ⟨empty, ?_, nofun⟩, rfl⟩
    intro mark top
    have top : mark ∈ machine.memory.pools.marks.getLast? := top
    rw [nothing] at top
    cases top
  | @step history s run deed permitted ih =>
    obtain ⟨ts, sorted, held⟩ := ih fun x mem => guarded x (List.mem_cons_of_mem _ mem)
    obtain ⟨kept, sorted, waits, -⟩ := sorted.step held permitted (guarded _ List.mem_cons_self)
    exact ⟨kept, sorted, waits⟩

theorem Run.serial_lt (run : Run machine history s) :
    (∀ g ∈ s.guards, g.serial < s.opened) ∧ ∀ r ∈ filings history, r.guard.serial < s.opened := by
  induction run with
  | start _ _ => exact ⟨nofun, nofun⟩
  | @step history s _ deed _ ih =>
    obtain ⟨guards, filed⟩ := ih
    have later : s.opened ≤ (s.perform deed).opened := by
      cases deed <;> simp [Stage.perform]
    refine ⟨fun g mem => ?_, fun r mem => Nat.lt_of_lt_of_le ?_ later⟩
    · cases deed with
      | openGuard =>
        rcases List.mem_cons.mp mem with rfl | old
        · exact Nat.lt_succ_self _
        · exact Nat.lt_succ_of_lt (guards g old)
      | dropGuard token => exact guards g (List.mem_filter.mp mem).1
      | _ => exact guards g mem
    · rcases List.mem_append.mp mem with old | new
      · exact filed r old
      · exact guards _ (guard_of_files new)

/-- A guard that is gone does not come back, so what was handed over to one that exists never came due. -/
theorem Run.not_expired (run : Run machine history s) (mem : r ∈ filings history) (exists_ : r.guard ∈ s.guards) :
    expired history r = false := by
  induction run with
  | start _ _ => rfl
  | @step history s run deed _ ih =>
    rw [expired_cons mem]
    have now : (Moment.mk s deed).after.due r.guard = false := by
      rw [← Bool.not_eq_true, due_iff]
      exact fun due => due.1 exists_
    rw [now, Bool.false_or]
    rcases List.mem_append.mp mem with old | new
    · refine ih old ?_
      -- A new guard may get the token of one that is gone, but not its serial number.
      have := run.serial_lt.2 r old
      cases deed with
      | openGuard =>
        rcases List.mem_cons.mp exists_ with new | old
        · rw [new] at this
          exact absurd this (Nat.lt_irrefl _)
        · exact old
      | dropGuard token => exact (List.mem_filter.mp exists_).1
      | _ => exact exists_
    · exact expired_eq_false (Nat.le_of_eq (number_of_files new).symm)

/-- Without raw pools, the innermost guard is the newest that exists, whatever the order in which guards are
    dropped. Of what was handed over, the pools hold what did not come due yet; the drop of a guard releases
    exactly what comes due with it, and no other step releases any of it, so each reference is given up once. What
    was handed over to a guard that exists waits and is alive. With the last guard the last pool goes. -/
theorem guards_may_be_dropped_in_any_order (run : Run machine history s) (guarded : ∀ x ∈ history, Guarded x.deed) :
    (∀ g ∈ s.guards, s.pools.isInnermost g.token = true ↔ s.guards.head? = some g) ∧
    s.pools.objects = (waiting history).map Reference.object ∧
    (filings history).Nodup ∧ (filings history).Perm (released history ++ waiting history) ∧
    (∀ g ∈ s.guards, s.Permits (.dropGuard g.token)) ∧
    (∀ deed, s.Permits deed → Guarded deed →
      (∀ token, deed = .dropGuard token →
        (deed.run.outcome s.base.machine).1 = .ok none ∧
        { s.base.memory with pools := (s.perform deed).pools }.releaseAll
          ((givenUp (⟨s, deed⟩ :: history)).map Reference.object).reverse = some (s.perform deed).base.memory ∧
        ∀ a, s.base.memory.count a = (s.perform deed).base.memory.count a +
          ((givenUp (⟨s, deed⟩ :: history)).map Reference.object).count a) ∧
      ((∀ token, deed ≠ .dropGuard token) → givenUp (⟨s, deed⟩ :: history) = [])) ∧
    (∀ r ∈ filings history, r.guard ∈ s.guards → r ∈ waiting history ∧ (s.base.memory.get? r.object).isSome) ∧
    (s.guards = [] → s.pools.depth = 0 ∧ s.pools.pending = 0) := by
  obtain ⟨ts, sorted, held⟩ := run.sorted guarded
  have objects : s.pools.objects = (waiting history).map Reference.object := by rw [sorted.layered.objects, held]
  refine ⟨fun g mem => ?_, objects, nodup_filings, perm_filings, fun g mem => ⟨trivial, g, mem, rfl⟩,
    fun deed permitted guarded => ?_, fun r mem exists_ => ?_, fun bare => ?_⟩
  · rw [sorted.isInnermost_iff]
    constructor
    · rintro ⟨k, newest, same⟩
      rw [newest, sorted.layered.token_inj (List.mem_of_head? newest) mem same]
    · intro newest
      exact ⟨g, newest, rfl⟩
  · obtain ⟨-, -, -, drops, keeps⟩ := sorted.step held permitted guarded
    refine ⟨fun token same => ?_, keeps⟩
    have taken := drops token same
    obtain rfl := same
    have pools : (s.perform (.dropGuard token)).pools = (s.pools.retire token).2 := pools_after
    obtain ⟨ends, emptied, counts⟩ := releaseAll_dropGuard run.balanced token
    rw [pools, ← taken, base_perform]
    refine ⟨ends, emptied, fun a => ?_⟩
    rw [← List.count_reverse, ← taken]
    exact counts a
  · have waits : r ∈ waiting history := List.mem_filter.mpr ⟨mem, by rw [run.not_expired mem exists_]; rfl⟩
    have pooled : r.object ∈ s.pools.objects := objects ▸ List.mem_map_of_mem waits
    refine ⟨waits, (run.balanced.accounts.isSome_iff _).mpr ?_⟩
    have := List.count_pos_iff.mpr pooled
    simp only [Conservation.Stage.owed, Conservation.Holdings.owed]
    exact Nat.lt_of_lt_of_le this (by unfold Stage.pools; omega)
  · obtain rfl := sorted.eq_nil (by rw [bare]; rfl)
    rw [sorted.layered.levels]
    exact ⟨rfl, rfl⟩

/-- The outer of two guards is dropped first. What was handed to it waits until the inner one is dropped, and then
    both objects go. -/
theorem outer_guard_is_dropped_first : ∃ history s, Run (Machine.fresh 0 none (.fresh false false)) history s ∧
    s.guards = [⟨1, 1⟩] ∧ s.pools.isInnermost 1 = true ∧ s.pools.objects = [⟨64⟩, ⟨128⟩] ∧ s.base.memory.count ⟨64⟩ = 1 ∧
    s.base.memory.count ⟨64⟩ = (s.perform (.dropGuard 1)).base.memory.count ⟨64⟩ + 1 ∧
    (s.perform (.dropGuard 1)).pools.depth = 0 := by
  have start : Run (Machine.fresh 0 none (.fresh false false)) [] _ := .start 0 rfl
  have run := ((((((start.step (.alloc ⟨0⟩) ⟨trivial, trivial⟩).step (.alloc ⟨0⟩) ⟨trivial, trivial⟩).step
    .openGuard ⟨trivial, trivial⟩).step (.autorelease ⟨64⟩) ⟨.tail _ (.head _), trivial⟩).step
    .openGuard ⟨trivial, trivial⟩).step (.autorelease ⟨128⟩) ⟨.head _, trivial⟩).step
    (.dropGuard 0) ⟨trivial, ⟨0, 0⟩, .tail _ (.head _), rfl⟩
  have guarded : ∀ deed, deed ∈ [Deed.dropGuard 0, .autorelease ⟨128⟩, .openGuard, .autorelease ⟨64⟩, .openGuard,
      .alloc ⟨0⟩, .alloc ⟨0⟩] → Guarded deed := by
    simp [Guarded]
  obtain ⟨innermost, objects, -, -, permits, drops, -, -⟩ := guards_may_be_dropped_in_any_order run fun x mem =>
    guarded x.deed (List.mem_map_of_mem (f := Moment.deed) mem)
  have newest := innermost ⟨1, 1⟩ (.head _)
  have permitted := permits ⟨1, 1⟩ (.head _)
  obtain ⟨-, -, counts⟩ := (drops _ permitted trivial).1 1 rfl
  exact ⟨_, _, run, rfl, newest.mpr rfl, objects.trans rfl, rfl, (counts ⟨64⟩).trans rfl, rfl⟩

end Guards
end Messaging
