import Messaging.Proofs.Memory.Levels
import Messaging.Proofs.Send
import Messaging.TypedCall.Call

/-! Reconciliation. A method declares what it returns and a caller declares what it gets; a typed call makes
    up for the difference. For every method that keeps to its declaration, a call that hands over a reference
    gives exactly one, and gives up the pool that it made for the method; a call with a borrowed result changes no
    count and pools the reference that the method handed over, if it handed one over. -/

namespace Messaging
open Exec
open PoolStack (Level objectsOf kept dropped)

/-- A typed call with an object result, on an object or on a class. -/
def handleCall (code : Code) (r : Receiver) (selector : Selector) (args : List Value) (c : ReturnConvention) :
    Exec (Option Address) :=
  match r with
  | .object a => readCallObject code a selector args c
  | .cls id => classCallObject code (some id) selector args c

theorem handleCall_eq (code : Code) (r : Receiver) (selector : Selector) (args : List Value) (c : ReturnConvention) :
    handleCall code r selector args c = sendObject code r selector args c := by
  cases r <;> rfl

/-- The reference that a result carries for its receiver, if it carries one. -/
def carried : Ownership → Option Address → List Address
  | .retained, result => result.toList
  | .notRetained, _ => []

/-- What a method that keeps to its ownership leaves when it returns: the pools that it found, with the references
    `added` to the innermost of them and with pools of its own, `opened`, on top; `held` references with others; and the
    reference that the result carries if it is retained. A result that is not retained is held by somebody else. -/
structure Honours (native : Ownership) (before after : Memory) (result : Option Address) (added : List Address)
    (opened : List Level) (held : Address → Nat) : Prop where
  pools : after.pools = (before.pools.given added).under opened
  accounts : after.Accounts fun b =>
    held b + added.count b + (objectsOf opened).count b + (carried native result).count b
  alive : native = .notRetained → ∀ a ∈ result, 0 < held a + added.count a + (objectsOf opened).count a

namespace ReturnConvention

/-- The scope of a borrowed result is the innermost pool. -/
def Admits : ReturnConvention → PoolStack → Prop
  | retained, _ => True
  | borrowed scope, pools => pools.isInnermost scope = true

/-- The pools that the method finds: with a retained result the call has one of its own. -/
def within : ReturnConvention → PoolStack → PoolStack
  | retained, pools => pools.push.2
  | borrowed _, pools => pools

end ReturnConvention

section
variable {code : Code} {r : Receiver} {selector : Selector} {args : List Value} {m : Method} {s entry u : Machine}
  {v : Value} {added : List Address} {opened : List Level} {held : Address → Nat}

/-- Taking over a result that is to be retained leaves exactly one reference with it. -/
theorem adopt_retained {native : Ownership} {before : Memory} {a : Address}
    (left : Honours native before u.memory (some a) added opened held) :
    ∃ n, (ReturnConvention.retained.adopt a native).outcome u = (.ok (), { u with memory := n }) ∧
      n.pools = u.memory.pools ∧
      n.Accounts fun b => held b + [a].count b + added.count b + (objectsOf opened).count b := by
  cases native with
  | retained =>
    refine ⟨u.memory, rfl, rfl, left.accounts.congr fun b => ?_⟩
    simp only [carried, Option.toList_some]
    omega
  | notRetained =>
    have alive : 0 < held a + added.count a + (objectsOf opened).count a := left.alive rfl a rfl
    obtain ⟨n, retained, accounts⟩ := left.accounts.retain (a := a) (by simpa [carried] using alive)
    refine ⟨n, outcome_retain retained, Memory.pools_retain retained, accounts.congr fun b => ?_⟩
    simp only [carried, List.count_nil]
    omega

/-- The send of a call that hands over a reference: the result has one of its own, and what the method pooled
    is still in the pools. -/
theorem outcome_sendAdopting_retained
    (sent : (send code r selector .object args).outcome s = (.ok (v, m.ownership), u)) {before : Memory}
    (left : Honours m.ownership before u.memory v.object? added opened held) :
    ∃ n, (sendAdopting code r selector args .retained).outcome s = (.ok v.object?, { u with memory := n }) ∧
      n.pools = u.memory.pools ∧
      n.Accounts fun b => held b + v.object?.toList.count b + added.count b + (objectsOf opened).count b := by
  unfold sendAdopting
  rw [outcome_bind_ok sent]
  dsimp only
  cases result : v.object? with
  | none =>
    rw [result] at left
    refine ⟨u.memory, rfl, rfl, left.accounts.congr fun b => ?_⟩
    cases m.ownership <;> simp [carried]
  | some a =>
    rw [result] at left
    obtain ⟨n, adopted, pools, accounts⟩ := adopt_retained left
    refine ⟨n, ?_, pools, accounts⟩
    dsimp only
    rw [outcome_bind_ok adopted, outcome_pure]

/-- The pool of a call that hands over a reference is given up, with what was pooled, before the call returns. -/
theorem outcome_sendObject_drained {result : Option Address} {ledger : Address → Nat} (settled : s.memory.pools.Settled)
    (adopted : (sendAdopting code r selector args .retained).outcome
      { s with memory := { s.memory with pools := s.memory.pools.push.2 } } = (.ok result, u))
    (pools : u.memory.pools = (s.memory.pools.push.2.given added).under opened)
    (accounts : u.memory.Accounts fun b => ledger b + added.count b + (objectsOf opened).count b) :
    ∃ t, (sendObject code r selector args .retained).outcome s = (.ok result, t) ∧
      t.memory.pools = s.memory.pools.under (kept added opened) ∧
      t.memory.Accounts fun b => ledger b + (objectsOf (kept added opened)).count b := by
  have cut : u.memory.pools.retire s.memory.pools.depth =
      ((dropped added opened).reverse, s.memory.pools.under (kept added opened)) := by
    rw [pools]
    exact PoolStack.retire_covered settled added opened
  have pooled : Memory.Accounts { u.memory with pools := s.memory.pools.under (kept added opened) } fun b =>
      ledger b + (objectsOf (kept added opened)).count b + (dropped added opened).reverse.count b :=
    (accounts.setPools _).congr fun b => by
      rw [List.count_reverse, Nat.add_assoc, Nat.add_assoc, PoolStack.count_kept]
  obtain ⟨k, released, accounts⟩ := pooled.releaseAll
  obtain ⟨journal, retired⟩ := outcome_retirePool (s := u) cut released
  refine ⟨{ u with memory := k, journal }, ?_, (Memory.pools_releaseAll released).trans rfl, accounts⟩
  unfold sendObject
  dsimp only [ReturnConvention.checkScope]
  rw [outcome_bind_ok (outcome_pure _)]
  unfold withPool
  rw [outcome_bind_ok outcome_pushPool]
  exact outcome_ensuring_ok adopted retired

/-- A call that hands over a reference: the result has one of its own, and the pool of the call is given up. -/
theorem outcome_sendObject_retained (settled : s.memory.pools.Settled)
    (sent : (send code r selector .object args).outcome { s with memory := { s.memory with pools := s.memory.pools.push.2 } } =
      (.ok (v, m.ownership), u))
    (left : Honours m.ownership { s.memory with pools := s.memory.pools.push.2 } u.memory v.object? added opened held) :
    ∃ t, (sendObject code r selector args .retained).outcome s = (.ok v.object?, t) ∧
      t.memory.pools = s.memory.pools.under (kept added opened) ∧
      t.memory.Accounts fun b => held b + v.object?.toList.count b + (objectsOf (kept added opened)).count b := by
  obtain ⟨n, adopted, pools, accounts⟩ := outcome_sendAdopting_retained sent left
  exact outcome_sendObject_drained settled adopted (pools.trans left.pools) accounts

/-- A call with a borrowed result pools the reference that the method handed over, and does no more. -/
theorem outcome_sendObject_borrowed {scope : Nat} (innermost : s.memory.pools.isInnermost scope = true)
    (sent : (send code r selector .object args).outcome s = (.ok (v, m.ownership), u))
    (left : Honours m.ownership s.memory u.memory v.object? added opened held) :
    ∃ t, (sendObject code r selector args (.borrowed scope)).outcome s = (.ok v.object?, t) ∧
      t.memory.heap = u.memory.heap ∧
      t.memory.pools = ((s.memory.pools.given added).under opened).given (carried m.ownership v.object?) := by
  unfold sendObject
  dsimp only [ReturnConvention.checkScope]
  rw [outcome_bind_ok (outcome_assertInnermost innermost)]
  unfold sendAdopting
  rw [outcome_bind_ok sent]
  dsimp only
  have pools := left.pools
  cases result : v.object? with
  | none =>
    refine ⟨u, rfl, rfl, ?_⟩
    cases m.ownership <;> simp [carried, pools, PoolStack.given]
  | some a =>
    cases native : m.ownership with
    | notRetained => exact ⟨u, rfl, rfl, by simp [carried, pools, PoolStack.given]⟩
    | retained =>
      have marks : u.memory.pools.marks ≠ [] := by
        rw [pools]
        exact List.append_ne_nil_of_left_ne_nil (PoolStack.marks_of_isInnermost innermost) _
      refine ⟨_, outcome_bind_ok (outcome_autorelease (PoolStack.add?_eq_some.mpr ⟨marks, rfl⟩)), rfl, ?_⟩
      simp only [carried, pools]
      rfl

/-- Take any typed call with an object result, guarded or not, and any method that keeps to its ownership. The
    method is entered with the pools as they were, or with one more if the result is to be retained. The call
    gives nil exactly if the method does. With a retained result the caller owns one reference to it, and the pool of
    the call is given up under those that the method left. If none of them is in use all of them go, every
    reference in them is released once, and the pools are back; otherwise those up to the last one in use stay. With a
    borrowed result no count changes, and the pools hold what the method put there and the reference that it handed
    over. -/
theorem handle_call_reconciles_ownership (code : Code) (c : ReturnConvention) (settled : s.memory.pools.Settled)
    (admitted : c.Admits s.memory.pools) (found : r.Finds s selector m)
    (accepted : m.signature.accepts .object (args.map Value.code) = true)
    (ran : (code m.routine ⟨r, selector, .object, args⟩).outcome
      (r.entered selector { s with memory := { s.memory with pools := c.within s.memory.pools } }) = (.ok v, u))
    (left : Honours m.ownership { s.memory with pools := c.within s.memory.pools } u.memory v.object? added opened held) :
    ∃ t, (handleCall code r selector args c).outcome s = (.ok v.object?, t) ∧
      (catchThrown (handleCall code r selector args c)).outcome s = (.ok (.ok v.object?), t) ∧
      match c with
      | .retained =>
        t.memory.pools = s.memory.pools.under (kept added opened) ∧
          (t.memory.pools = s.memory.pools ↔ ∀ l ∈ opened, l.live = false) ∧
          (t.memory.Accounts fun b =>
            held b + v.object?.toList.count b + (objectsOf (kept added opened)).count b) ∧
          ∀ b, t.memory.count b + (dropped added opened).count b =
            u.memory.count b + if m.ownership = .notRetained then v.object?.toList.count b else 0
      | .borrowed _ =>
        t.memory.heap = u.memory.heap ∧
          t.memory.pools = ((s.memory.pools.given added).under opened).given (carried m.ownership v.object?) := by
  rw [handleCall_eq]
  cases c with
  | retained =>
    have sent := outcome_send code (found.congr (t := { s with memory := { s.memory with pools := s.memory.pools.push.2 } })
      rfl rfl) accepted
    simp only [ReturnConvention.within] at ran
    rw [ran] at sent
    obtain ⟨t, called, pools, accounts⟩ := outcome_sendObject_retained settled sent left
    refine ⟨t, called, outcome_catchThrown_ok called, pools, ?_, accounts, fun b => ?_⟩
    · rw [pools, PoolStack.under_eq_self, PoolStack.kept_eq_nil]
    · have pooled := PoolStack.count_kept added opened b
      rw [accounts.count, left.accounts.count]
      cases m.ownership <;> simp [carried] <;> omega
  | borrowed scope =>
    have sent := outcome_send code found accepted
    simp only [ReturnConvention.within] at ran
    rw [ran] at sent
    obtain ⟨t, called, heap, pools⟩ := outcome_sendObject_borrowed admitted sent left
    exact ⟨t, called, outcome_catchThrown_ok called, heap, pools⟩

end

/-! ### One object, one method -/

namespace Lone

def it : Address := ⟨0x40⟩

def twin : Selector := ⟨0, "twin", 0⟩

/-- The only method, which says that its result is not retained. -/
def method : Method := ⟨twin, .sample .itself, ⟨.object, .object, []⟩, .notRetained⟩

/-- A machine with one class, one instance of it that its maker owns, and the given pools. -/
def machine (pools : PoolStack) : Machine :=
  { Machine.fresh 0 none (.fresh false false) with
    classes := ⟨[{ ClassEntry.fresh ⟨0⟩ "Thing" none with instanceMethods := FiniteMap.empty.insert twin method }], 1⟩
    memory := { (Memory.empty 0).place it ⟨0⟩ with pools } }

def held : Address → Nat := fun b => [it].count b

/-- A method that returns its receiver. -/
def returning : Code := fun _ _ => pure (.object (some it))

/-- A method that returns its receiver, with a reference to it in the innermost pool. -/
def pooling : Code := fun _ _ => do
  retain it
  autorelease it
  pure (.object (some it))

def invocation : Invocation := ⟨.object it, twin, .object, []⟩

/-- The machine on which the method is entered, with one empty pool. -/
def entered : Machine := (Receiver.object it).entered twin (machine PoolStack.empty.push.2)

theorem finds (pools : PoolStack) : (Receiver.object it).Finds (machine pools) twin method :=
  ⟨⟨⟨0⟩, 1, none, false⟩, rfl, rfl⟩

theorem memory_entered : entered.memory = (machine PoolStack.empty.push.2).memory := Messaging.memory_entered (finds _)

theorem accounts (pools : PoolStack) : (machine pools).memory.Accounts held := by
  have empty : (Memory.empty 0).Accounts fun _ => 0 := ⟨fun _ => rfl, fun _ _ live => nomatch live⟩
  exact ((empty.place (a := it) rfl ⟨0⟩).setPools pools).congr fun b => Nat.zero_add _

/-- The method that pools its receiver keeps to its ownership. -/
theorem pooling_honours : ∃ u, (pooling method.routine invocation).outcome entered = (.ok (.object (some it)), u) ∧
    Honours method.ownership (machine PoolStack.empty.push.2).memory u.memory (some it) [it] [] held := by
  obtain ⟨n, retained, owned⟩ := (accounts PoolStack.empty.push.2).retain (a := it) (by decide)
  have pooled : n.pools.add? it = some ⟨[it], [⟨0, true⟩]⟩ := by
    rw [Memory.pools_retain retained]
    rfl
  rw [← memory_entered] at retained
  refine ⟨{ entered with memory := { n with pools := ⟨[it], [⟨0, true⟩]⟩ } }, ?_, rfl, ?_, fun _ a same => ?_⟩
  · unfold pooling
    rw [outcome_bind_ok (outcome_retain retained), outcome_bind_ok (outcome_autorelease pooled), outcome_pure]
  · exact owned.setPools _
  · obtain rfl := Option.mem_some.mp same
    decide

/-- The method that just returns its receiver keeps to its ownership: the maker holds it. -/
theorem returning_honours :
    Honours method.ownership (machine PoolStack.empty.push.2).memory entered.memory (some it) [] [] held := by
  rw [memory_entered]
  refine ⟨rfl, accounts _, fun _ a same => ?_⟩
  obtain rfl := Option.mem_some.mp same
  decide

end Lone

open Lone in
/-- The object comes back with a reference in the pool of the call. In the end its maker and the caller own one
    each. -/
theorem handle_call_hands_over_pooled_result :
    (machine .empty).memory.pools.Settled ∧ (Receiver.object it).Finds (machine .empty) twin method ∧
      ∃ t, (handleCall pooling (.object it) twin [] .retained).outcome (machine .empty) = (.ok (some it), t) ∧
        t.memory.pools = .empty ∧ t.memory.count it = 2 := by
  have settled : (machine .empty).memory.pools.Settled := fun mark top => nomatch top
  obtain ⟨u, ran, left⟩ := pooling_honours
  obtain ⟨t, called, -, pools, -, accounts, -⟩ :=
    handle_call_reconciles_ownership pooling .retained settled trivial (finds .empty) rfl ran left
  exact ⟨settled, finds .empty, t, called, pools, accounts.count it⟩

open Lone in
/-- A borrowed result need not get into the pool of its scope: one that its maker holds is in no pool, and the
    call adds nothing. -/
theorem borrowed_results_are_not_always_pooled :
    ¬∀ (code : Code) (r : Receiver) (selector : Selector) (args : List Value) (m : Method) (s u t : Machine) (v : Value)
        (added : List Address) (opened : List Level) (held : Address → Nat) (scope : Nat),
      s.memory.pools.Settled → (ReturnConvention.borrowed scope).Admits s.memory.pools → r.Finds s selector m →
      m.signature.accepts .object (args.map Value.code) = true →
      (code m.routine ⟨r, selector, .object, args⟩).outcome (r.entered selector s) = (.ok v, u) →
      Honours m.ownership s.memory u.memory v.object? added opened held → v.object? ≠ none →
      (handleCall code r selector args (.borrowed scope)).outcome s = (.ok v.object?, t) →
      ∃ a, t.memory.pools.objects = s.memory.pools.objects ++ added ++ objectsOf opened ++ [a] := by
  intro pooled
  have settled : (machine PoolStack.empty.push.2).memory.pools.Settled := fun mark top => by cases top; rfl
  have sent : (send returning (.object it) twin .object []).outcome (machine PoolStack.empty.push.2) =
      (.ok (.object (some it), method.ownership), entered) :=
    outcome_send returning (finds _) rfl
  have innermost : (machine PoolStack.empty.push.2).memory.pools.isInnermost 0 = true := rfl
  obtain ⟨t, called, -, pools⟩ := outcome_sendObject_borrowed innermost sent returning_honours
  obtain ⟨a, more⟩ := pooled returning (.object it) twin [] method (machine PoolStack.empty.push.2) entered t
    (.object (some it)) [] [] held 0 settled innermost (finds _) rfl rfl returning_honours (by simp [Value.object?]) called
  rw [pools] at more
  cases more

end Messaging
