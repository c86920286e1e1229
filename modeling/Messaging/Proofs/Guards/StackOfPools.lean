import Messaging.Proofs.Guards.Runs
import Messaging.Proofs.Guards.Unwound
import Messaging.Proofs.Lifetime

/-! The pools of a thread as a list of pools. The list says what each operation does without an index: it adds a pool,
    gives an object to the last one, or takes some off its end. The one list of objects with its marks does the same,
    whatever was done before and with whatever tokens. -/

namespace Messaging
namespace PoolStack
open Exec

/-- What a thread does with its pools. Any number may be taken for a token. -/
inductive PoolOp
  | push
  | pop (token : Nat)
  | retire (token : Nat)
  | autorelease (a : Address)

/-- The pool with the token is not in use any more. -/
def givenUp (token : Nat) (ls : List Level) : List Level := ls.modify token fun l => { l with live := false }

/-- The last pool gets an object, if there is one. -/
def handed (a : Address) (ls : List Level) : List Level :=
  ls.modify (ls.length - 1) fun l => { l with objects := l.objects ++ [a] }

/-- The pools after an operation. -/
def PoolOp.apply : PoolOp → List Level → List Level
  | push, ls => ls ++ [⟨true, []⟩]
  | pop token, ls => ls.take token
  | retire token, ls => if token < ls.length then (givenUp token ls).rdropWhile Level.retired else ls
  | autorelease a, ls => handed a ls

/-- The pools after some operations, of which the latest comes first. -/
def levelsAfter : List PoolOp → List Level
  | [] => []
  | op :: before => op.apply (levelsAfter before)

/-- An operation on the thread that the machine runs. -/
def PoolOp.exec : PoolOp → Exec Unit
  | push => do let _ ← pushPool
  | pop token => popPool token
  | retire token => retirePool token
  | autorelease a => Messaging.autorelease a

/-- The thread had no pools, and then did these operations, the latest first. What happens in between leaves the pools
    alone. -/
inductive Did : List PoolOp → Machine → Prop
  | start {s : Machine} (bare : s.memory.pools = .empty) : Did [] s
  | op {before : List PoolOp} {s : Machine} (run : Did before s) (op : PoolOp) : Did (op :: before) (op.exec.outcome s).2
  | elsewhere {ops : List PoolOp} {s t : Machine} (run : Did ops s) (same : t.memory.pools = s.memory.pools) : Did ops t

/-- The machine with these pools. -/
def withLevels (s : Machine) (ls : List Level) : Machine := { s with memory := { s.memory with pools := ofLevels ls } }

/-- The stack holds these pools: a mark for each, where the objects of those below it end. -/
structure Holds (s : PoolStack) (ls : List Level) : Prop where
  objects : s.objects = objectsOf ls
  mark : ∀ below l above, ls = below ++ l :: above → s.marks[below.length]? = some ⟨(objectsOf below).length, l.live⟩
  depth : s.depth = ls.length
  pending : s.pending = (objectsOf ls).length

/-- No mark points beyond the objects or below another one, and no object is outside of a pool. -/
structure InRange (s : PoolStack) : Prop where
  ordered : s.marks.Pairwise fun lower upper => lower.start ≤ upper.start
  inside : ∀ m ∈ s.marks, m.start ≤ s.pending
  first : ∀ m ∈ s.marks.head?, m.start = 0
  pooled : s.marks = [] → s.objects = []

/-- A computation takes pools off the thread: `left` are left, and `objects` are released one after the other, each as
    often as it is named. An object that does not live any more ends that, with those before it released. -/
structure TakesOff (x : Exec Unit) (s : Machine) (left : List Level) (objects : List Address) : Prop where
  released : ∀ m, (withLevels s left).memory.releaseAll objects = some m →
    ∃ journal, x.outcome s = (.ok (), { s with memory := m, journal })
  stray : ∀ done a rest m, objects = done ++ a :: rest → (withLevels s left).memory.releaseAll done = some m →
    m.get? a = none → ∃ journal, x.outcome s = (.error (.stray a), { s with memory := m, journal })
  counts : ∀ ledger : Address → Nat, (s.memory.Accounts fun b => ledger b + objects.count b) →
    ∃ t, x.outcome s = (.ok (), t) ∧ t.memory.pools = ofLevels left ∧ t.memory.Accounts ledger

/-- The record about an object that no pool takes. -/
def leakText (a : Address) : String :=
  Log.recordText .warn Log.Origin.pools.path (a.text ++ " autoreleased with no pool in place, just leaking") false

/-- The journal with a leak reported, if the logger lets that through. -/
def reported (a : Address) (j : Log.Journal) : Log.Journal :=
  if j.logger.enabledFor .warn Log.Origin.pools.path then { j with entries := j.entries.push (leakText a) } else j

/-- The thread works on its pools as on the list. -/
structure Works (s : Machine) (ls : List Level) : Prop where
  push : pushPool.outcome s = (.ok ls.length, withLevels s (ls ++ [⟨true, []⟩]))
  pop : ∀ token, token < ls.length → TakesOff (popPool token) s (ls.take token) (objectsOf (ls.drop token)).reverse
  retire : ∀ token, token < ls.length → TakesOff (retirePool token) s ((givenUp token ls).rdropWhile Level.retired)
    (objectsOf ((givenUp token ls).rtakeWhile Level.retired)).reverse
  unknown : ∀ token, ls.length ≤ token →
    (popPool token).outcome s = (.ok (), s) ∧ (retirePool token).outcome s = (.ok (), s)
  autorelease : ∀ a below l, ls = below ++ [l] →
    (Messaging.autorelease a).outcome s = (.ok (), withLevels s (below ++ [{ l with objects := l.objects ++ [a] }]))
  leak : ls = [] → ∀ a, (Messaging.autorelease a).outcome s = (.ok (), { s with journal := reported a s.journal })

variable {ls below above : List Level} {l : Level} {token : Nat} {a : Address} {s : Machine} {op : PoolOp}
  {ops : List PoolOp}

/-! ### Stacks of levels -/

theorem givenUp_eq (below above : List Level) (l : Level) :
    givenUp below.length (below ++ l :: above) = below ++ { l with live := false } :: above := by
  unfold givenUp
  induction below with
  | nil => rfl
  | cons k below ih => simpa using ih

theorem handed_eq (below : List Level) (l : Level) (a : Address) :
    handed a (below ++ [l]) = below ++ [{ l with objects := l.objects ++ [a] }] := by
  unfold handed
  rw [List.length_append, List.length_singleton, Nat.add_sub_cancel]
  induction below with
  | nil => rfl
  | cons k below ih => simpa using ih

theorem retire_eq (inside : token < ls.length) : (ofLevels ls).retire token =
    ((objectsOf ((givenUp token ls).rtakeWhile Level.retired)).reverse,
      ofLevels ((givenUp token ls).rdropWhile Level.retired)) := by
  obtain ⟨below, l, above, rfl, rfl⟩ : ∃ below l above, ls = below ++ l :: above ∧ below.length = token :=
    ⟨ls.take token, ls[token], ls.drop (token + 1), by simp, by simp; omega⟩
  rw [retire_ofLevels, drainRetired_eq, givenUp_eq]

theorem holds_ofLevels (ls : List Level) : Holds (ofLevels ls) ls where
  objects := rfl
  mark below l above split := by
    rw [split]
    exact mark_ofLevels below above l
  depth := depth_ofLevels
  pending := rfl

theorem start_of_mem_marksFrom {start : Nat} {m : PoolMark} (mem : m ∈ marksFrom start ls) :
    start ≤ m.start ∧ m.start ≤ start + (objectsOf ls).length := by
  induction ls generalizing start with
  | nil => cases mem
  | cons l above ih =>
    rw [objectsOf_cons, List.length_append]
    rcases List.mem_cons.mp mem with rfl | mem
    · exact ⟨Nat.le_refl _, Nat.le_add_right _ _⟩
    · have rest := ih mem
      omega

theorem inRange_ofLevels (ls : List Level) : InRange (ofLevels ls) where
  ordered := by
    show (marksFrom 0 ls).Pairwise _
    generalize 0 = start
    induction ls generalizing start with
    | nil => exact .nil
    | cons l above ih =>
      refine .cons (fun m mem => ?_) (ih _)
      exact Nat.le_trans (Nat.le_add_right _ _) (start_of_mem_marksFrom mem).1
  inside m mem := by
    have bound := (start_of_mem_marksFrom mem).2
    rwa [Nat.zero_add] at bound
  first m top := by
    cases ls with
    | nil => cases top
    | cons l above =>
      cases top
      rfl
  pooled bare := by
    cases ls with
    | nil => rfl
    | cons l above => cases bare

/-! ### What the thread does -/

theorem withLevels_self (held : s.memory.pools = ofLevels ls) : withLevels s ls = s := by
  unfold withLevels
  rw [← held]

theorem outcome_popPool_eq (held : s.memory.pools = ofLevels ls) (token : Nat) : (popPool token).outcome s =
    (drain token (objectsOf (ls.drop token)).reverse).outcome (withLevels s (ls.take token)) := by
  unfold popPool
  rw [outcome_bind_ok outcome_pools, held, pop_ofLevels]
  rfl

theorem outcome_retirePool_eq (held : s.memory.pools = ofLevels ls) (inside : token < ls.length) :
    (retirePool token).outcome s = (drain token (objectsOf ((givenUp token ls).rtakeWhile Level.retired)).reverse).outcome
      (withLevels s ((givenUp token ls).rdropWhile Level.retired)) := by
  unfold retirePool
  rw [outcome_bind_ok outcome_pools, held, retire_eq inside]
  rfl

theorem outcome_retirePool_beyond (held : s.memory.pools = ofLevels ls) (beyond : ls.length ≤ token) :
    (retirePool token).outcome s = (.ok (), s) := by
  unfold retirePool
  rw [outcome_bind_ok outcome_pools, retire_beyond (by rwa [held, depth_ofLevels])]
  rfl

/-- Draining releases what was cut off, however the pools were cut. -/
theorem takesOff_of_drain {x : Exec Unit} {left : List Level} {objects : List Address}
    (cut : x.outcome s = (drain token objects).outcome (withLevels s left)) : TakesOff x s left objects where
  released m h := by
    rw [cut]
    exact outcome_drain token h
  stray done a rest m split h free := by
    rw [cut, split]
    exact outcome_drain_stray token h free
  counts ledger accounts := by
    obtain ⟨m, released, left⟩ := (accounts.setPools (ofLevels left)).releaseAll
    obtain ⟨journal, drained⟩ := outcome_drain (s := withLevels s _) token released
    rw [cut]
    exact ⟨_, drained, Memory.pools_releaseAll released, left⟩

theorem outcome_leak (bare : s.memory.pools.marks = []) (a : Address) :
    (Messaging.autorelease a).outcome s = (.ok (), { s with journal := reported a s.journal }) := by
  unfold Messaging.autorelease
  rw [outcome_bind_ok outcome_pools, add?_eq_none.mpr bare]
  exact outcome_log _ _ _

theorem works_of_ofLevels (held : s.memory.pools = ofLevels ls) : Works s ls where
  push := by
    rw [outcome_pushPool, held, push_ofLevels, depth_ofLevels]
    rfl
  pop token _ := takesOff_of_drain (outcome_popPool_eq held token)
  retire token inside := takesOff_of_drain (outcome_retirePool_eq held inside)
  unknown token beyond := by
    refine ⟨?_, outcome_retirePool_beyond held beyond⟩
    rw [outcome_popPool_eq held, List.drop_of_length_le beyond, List.take_of_length_le beyond, withLevels_self held]
    rfl
  autorelease a below l split := by
    rw [split] at held
    have added : (ofLevels (below ++ [l])).add? a = _ := add?_ofLevels a
    rw [← held] at added
    exact outcome_autorelease added
  leak bare a := outcome_leak (by rw [held, bare]; rfl) a

/-! ### Whole runs -/

theorem pools_drain {ls : List Level} (token : Nat) (objects : List Address) :
    ((drain token objects).outcome (withLevels s ls)).2.memory.pools = ofLevels ls :=
  Guards.keeps_drain token objects (withLevels s ls)

theorem pools_exec (held : s.memory.pools = ofLevels ls) (op : PoolOp) :
    (op.exec.outcome s).2.memory.pools = ofLevels (op.apply ls) := by
  have works := works_of_ofLevels held
  cases op with
  | push =>
    simp only [PoolOp.exec]
    rw [outcome_bind_ok works.push]
    rfl
  | pop token =>
    -- The objects are released after the pools were cut, and however that ends the pools stay as they were cut.
    simp only [PoolOp.exec, PoolOp.apply]
    rw [outcome_popPool_eq held, pools_drain]
  | retire token =>
    simp only [PoolOp.exec, PoolOp.apply]
    by_cases inside : token < ls.length
    · rw [if_pos inside, outcome_retirePool_eq held inside, pools_drain]
    · rw [if_neg inside, outcome_retirePool_beyond held (Nat.le_of_not_lt inside), held]
  | autorelease a =>
    simp only [PoolOp.exec, PoolOp.apply]
    rcases List.eq_nil_or_concat' ls with rfl | ⟨below, l, rfl⟩
    · rw [works.leak rfl]
      exact held
    · rw [works.autorelease a below l rfl, handed_eq]
      rfl

theorem Did.pools (run : Did ops s) : s.memory.pools = ofLevels (levelsAfter ops) := by
  induction run with
  | start bare => exact bare
  | op run op ih => exact pools_exec ih op
  | elsewhere run same ih => rw [same, ih]

/-- Whatever a thread did with its pools, its stack holds the pools of the list, with all marks in range, and it goes
    on like the list: a push adds an empty pool and returns how many there were, an object goes to the last pool or
    is reported as leaked if there is none, a pop takes off the pool with the token and those above it, a pool that is
    given up takes all with it that are not in use any more at the end, and what is taken off is released, newest
    first, each object as often as those pools hold it. A token of no pool does nothing. -/
theorem stack_is_a_list_of_pools (run : Did ops s) :
    Holds s.memory.pools (levelsAfter ops) ∧ InRange s.memory.pools ∧ Works s (levelsAfter ops) := by
  have held := run.pools
  refine ⟨?_, ?_, works_of_ofLevels held⟩
  · rw [held]
    exact holds_ofLevels _
  · rw [held]
    exact inRange_ofLevels _

/-- The outer of two pools is given up first and stays under the inner one. When that is given up as well both go, and
    so do the objects that they held. -/
theorem retired_pool_goes_with_the_one_above : ∃ s, Did [.retire 0, .autorelease ⟨128⟩, .push, .autorelease ⟨64⟩, .push] s ∧
    s.memory.pools = ⟨[⟨64⟩, ⟨128⟩], [⟨0, false⟩, ⟨1, true⟩]⟩ ∧ s.memory.count ⟨64⟩ = 1 ∧ s.memory.count ⟨128⟩ = 1 ∧
    ∃ t, (retirePool 1).outcome s = (.ok (), t) ∧ t.memory.pools = .empty ∧
      t.memory.count ⟨64⟩ = 0 ∧ t.memory.count ⟨128⟩ = 0 := by
  have start : Did [] (Machine.fresh 0 none (.fresh false false)) := .start rfl
  have first : Did [] ((alloc ⟨0⟩).outcome (Machine.fresh 0 none (.fresh false false))).2 := start.elsewhere rfl
  have both : Did [] ((alloc ⟨0⟩).outcome ((alloc ⟨0⟩).outcome (Machine.fresh 0 none (.fresh false false))).2).2 :=
    first.elsewhere rfl
  have run := ((((both.op .push).op (.autorelease ⟨64⟩)).op .push).op (.autorelease ⟨128⟩)).op (.retire 0)
  obtain ⟨-, -, works⟩ := stack_is_a_list_of_pools run
  obtain ⟨journal, gone⟩ := (works.retire 1 (by decide)).released _ rfl
  exact ⟨_, run, rfl, rfl, rfl, _, gone, rfl, rfl, rfl⟩

end PoolStack
end Messaging
