import Messaging.Proofs.Unwinding.Frames

/-! The calls of a program. A call is interrupted before its send, by the send itself, or by the method, and then
    only its own pool is left to be removed; otherwise the result is taken over as the caller declared. -/

namespace Messaging
namespace Unwinding
open Exec

variable {n m : Nat} {s t u v : Machine} {g h : Address → Nat} {a b : Address} {added leaked : List Address} {env : Env n m}
  {x : Exec Unit} {i : Interruption} {r : Receiver} {target : Target n} {selector : Selector} {args : List Value}
  {how : Convention n m} {method : Method} {code : Code} {o : Ownership}

/-! ### Receivers -/

theorem value_eq (receiver : target.receiver? env = some r) (ret : TypeCode) :
    target.value env code selector ret args = send code r selector ret args >>= fun v => pure v.1 := by
  cases target with
  | object v =>
    cases receiver
    rfl
  | token cls =>
    obtain ⟨id, rfl, rfl⟩ := Option.map_eq_some_iff.mp receiver
    rfl

theorem handle_eq (receiver : target.receiver? env = some r) (c : ReturnConvention) :
    target.handle env code selector args c = sendObject code r selector args c := by
  cases target with
  | object v =>
    cases receiver
    rfl
  | token cls =>
    obtain ⟨id, rfl, rfl⟩ := Option.map_eq_some_iff.mp receiver
    rfl

theorem declared_eq (receiver : target.receiver? env = some r) (found : r.Finds s selector method) :
    target.declared env selector s = method.ownership := by
  obtain ⟨_, _, looked⟩ := outcome_lookup found
  unfold Target.declared
  rw [receiver]
  simp only [Option.bind_some, looked]
  rfl

/-- The code of the method that a call runs. -/
def Convention.callee (env : Env n m) (target : Target n) (selector : Selector) (s : Machine) (x : Exec Unit) :
    Convention n m → Code
  | value ret => fun _ _ => do
    x
    pure (.zero ret)
  | retained result _ | borrowed result _ =>
    methodCode x (result.map (Source.take env)) (target.declared env selector s)

theorem finds_within (found : r.Finds s selector method) (how : Convention n m) :
    r.Finds (how.within s) selector method := by
  cases how with
  | value ret => exact found
  | retained result fate => exact found.congr rfl rfl
  | borrowed result scope => exact found

theorem finds_of_within (found : r.Finds (how.within s) selector method) : r.Finds s selector method := by
  cases how with
  | value ret => exact found
  | retained result fate => exact found.congr rfl rfl
  | borrowed result scope => exact found

theorem Sound.within (sound : Sound s g) (how : Convention n m) : Sound (how.within s) g := by
  cases how with
  | value ret => exact sound
  | retained result fate => exact sound.pushed
  | borrowed result scope => exact sound

/-! ### Calls that are interrupted -/

theorem perform_nullToken (env : Env n m) (selector : Selector) (args : List Value) (how : Convention n m)
    (x : Exec Unit) : ∃ text u,
    (Op.nullToken selector).run.outcome s = (.error (.panic text), u) ∧
    (how.perform env (.token none) selector args x).outcome s = (.error (.panic text), u) ∧ u.memory = s.memory := by
  cases how with
  | value ret => exact ⟨_, _, rfl, rfl, rfl⟩
  | retained result fate => exact ⟨_, _, rfl, rfl, rfl⟩
  | borrowed result scope => exact ⟨_, _, rfl, rfl, rfl⟩

theorem perform_check {result : Option (Source n)} {scope : Fin m} {text : String}
    (receiver : target.receiver? env = some r)
    (panics : (assertInnermost (env.scopes scope)).outcome s = (.error (.panic text), s)) :
    ((Convention.borrowed result scope).perform env target selector args x).outcome s = (.error (.panic text), s) := by
  unfold Convention.perform
  rw [outcome_bind_ok outcome_get]
  simp only [handle_eq receiver]
  exact outcome_bind_error (outcome_bind_error panics)

theorem perform_eq_retained (receiver : target.receiver? env = some r) (selector : Selector) (args : List Value)
    (result : Option (Source n)) (fate : Fate m) :
    ((Convention.retained result fate).perform env target selector args x).outcome s = Exec.outcome (do
      match ← withPool fun _ => sendAdopting ((Convention.retained result fate).callee env target selector s x) r selector
        args .retained with
      | none => pure ()
      | some a => fate.settle env a) s := by
  unfold Convention.perform
  rw [outcome_bind_ok outcome_get]
  simp only [handle_eq receiver]
  rfl

theorem perform_eq_borrowed {result : Option (Source n)} {scope : Fin m} (receiver : target.receiver? env = some r)
    (innermost : s.memory.pools.isInnermost (env.scopes scope) = true) :
    ((Convention.borrowed result scope).perform env target selector args x).outcome s = Exec.outcome (do
      let _ ← sendAdopting ((Convention.borrowed result scope).callee env target selector s x) r selector args
        (.borrowed (env.scopes scope))) s := by
  unfold Convention.perform
  rw [outcome_bind_ok outcome_get]
  simp only [handle_eq receiver]
  unfold sendObject
  dsimp only [ReturnConvention.checkScope]
  rw [outcome_bind, outcome_bind_ok (outcome_assertInnermost innermost), ← outcome_bind]
  rfl

/-- What interrupts the send interrupts the call, once the pool of the call is removed. -/
theorem perform_interrupted (settled : s.memory.pools.Settled) (receiver : target.receiver? env = some r)
    (admitted : how.Admits env s)
    (sent : Ended (send (how.callee env target selector s x) r selector how.ret args) (how.within s) (.error i) u
      added leaked g) :
    ∃ v added' leaked', Unwinds (how.frames s) u v ∧
      Ended (how.perform env target selector args x) s (.error i) v added' leaked' g := by
  cases how with
  | value ret =>
    refine ⟨u, added, leaked, unwinds_nil u, .of_error ?_ sent.leaves sent.unwinds⟩
    unfold Convention.perform
    dsimp only
    rw [value_eq receiver]
    exact outcome_bind_error (outcome_bind_error sent.ends)
  | retained result fate =>
    obtain ⟨v, unwinds, ended, -⟩ := Ended.drains (s := s) (x := fun _ => sendAdopting _ r selector args .retained) settled
      sent.stop
    refine ⟨v, [], [], unwinds, .of_error ?_ ended.leaves sent.unwinds⟩
    rw [perform_eq_retained receiver]
    exact outcome_bind_error ended.ends
  | borrowed result scope =>
    refine ⟨u, added, leaked, unwinds_nil u, .of_error ?_ sent.leaves sent.unwinds⟩
    rw [perform_eq_borrowed receiver admitted]
    exact outcome_bind_error (outcome_bind_error sent.ends)

/-! ### Calls that return -/

/-- What a method returns: nil, or a reference that it hands over or that somebody else holds. -/
theorem methodCode_ends (settled : s.memory.pools.Settled) (owned : ∀ v, 0 < g (env.handles v))
    (ran : Ended x s (.ok ()) t added leaked g) (result : Option (Source n)) (o : Ownership) (routine : Routine)
    (inv : Invocation) : ∃ v u added leaked,
      Ended (methodCode x (result.map (Source.take env)) o routine inv) s (.ok v) u added leaked
        (plus g (carried o v.object?)) ∧
      (o = .notRetained → ∀ a ∈ v.object?, 0 < plus (plus g leaked) u.memory.pools.objects a) := by
  unfold methodCode
  cases result with
  | none =>
    refine ⟨.object none, t, added, leaked, ⟨(outcome_bind_ok ran.ends).trans (outcome_pure _), ?_, nofun⟩, nofun⟩
    cases o <;> exact ran.leaves
  | some source =>
    have sound := ran.leaves.sound settled
    obtain ⟨a, u, taken, left⟩ := source.ends sound fun v => Nat.lt_of_lt_of_le (owned v) (le_plus _ _)
    have sound' := left.sound (by rw [ran.leaves.pools]; exact settled)
    rw [plus_nil] at sound'
    have left' : Leaves s u added leaked (plus g [a]) := by
      rw [plus_comm] at left
      exact left.after ran.leaves
    cases o with
    | retained =>
      exact ⟨.object (some a), u, added, leaked,
        ⟨(outcome_bind_ok ran.ends).trans (outcome_bind_ok taken), left', nofun⟩, nofun⟩
    | notRetained =>
      obtain ⟨w, added', leaked', pooled, left, pos⟩ := sound'.autorelease
      refine ⟨.object (some a), w, _, _, ⟨(outcome_bind_ok ran.ends).trans ((outcome_bind_ok taken).trans
        (outcome_bind_ok pooled)), left'.trans left, nofun⟩, fun _ b same => ?_⟩
      cases same
      rw [plus_append]
      exact pos

/-- The reference that a call keeps of its result. -/
def kept : ReturnConvention → Option Address → List Address
  | .retained, result => result.toList
  | .borrowed _, _ => []

theorem adopt_ends (c : ReturnConvention) (settled : s.memory.pools.Settled)
    (left : Leaves s t added leaked (plus g (carried o (some a))))
    (alive : o = .notRetained → 0 < plus (plus g leaked) t.memory.pools.objects a) : ∃ u added' leaked',
      (c.adopt a o).outcome t = (.ok (), u) ∧ Leaves s u added' leaked' (plus g (kept c (some a))) := by
  have sound := left.sound settled
  cases c with
  | retained =>
    cases o with
    | retained => exact ⟨t, added, leaked, rfl, left⟩
    | notRetained =>
      obtain ⟨u, retained, more⟩ := sound.retain (alive rfl)
      rw [plus_comm] at more
      exact ⟨u, added, leaked, retained, more.after left⟩
  | borrowed scope =>
    cases o with
    | retained =>
      rw [plus_comm] at sound
      obtain ⟨u, added', leaked', pooled, more, -⟩ := sound.autorelease
      exact ⟨u, _, _, pooled, left.trans more⟩
    | notRetained => exact ⟨t, added, leaked, rfl, left⟩

theorem sendAdopting_ends (c : ReturnConvention) (settled : s.memory.pools.Settled) {v : Value}
    (sent : Ended (send code r selector .object args) s (.ok (v, o)) t added leaked (plus g (carried o v.object?)))
    (alive : o = .notRetained → ∀ a ∈ v.object?, 0 < plus (plus g leaked) t.memory.pools.objects a) :
    ∃ u added' leaked', Ended (sendAdopting code r selector args c) s (.ok v.object?) u added' leaked'
      (plus g (kept c v.object?)) := by
  unfold sendAdopting
  cases result : v.object? with
  | none =>
    refine ⟨t, added, leaked, ⟨?_, ?_, nofun⟩⟩
    · rw [outcome_bind_ok sent.ends]
      simp only [result, outcome_pure]
    · have leaves := sent.leaves
      rw [result] at leaves
      cases o <;> cases c <;> exact leaves
  | some a =>
    have leaves := sent.leaves
    rw [result] at leaves
    obtain ⟨u, added', leaked', adopted, left⟩ := adopt_ends c settled leaves fun same => alive same a result
    refine ⟨u, added', leaked', ⟨?_, left, nofun⟩⟩
    rw [outcome_bind_ok sent.ends]
    simp only [result]
    exact outcome_bind_ok adopted

/-- A send of a call that returns. -/
theorem send_ends (how : Convention n m) (sound : Sound s g) (owned : ∀ v, 0 < g (env.handles v))
    (receiver : target.receiver? env = some r) (found : r.Finds s selector method)
    (accepted : method.signature.accepts how.ret (args.map Value.code) = true)
    (ran : Ended x (r.entered selector (how.within s)) (.ok ()) t added leaked g) (objects : how.ret = .object)
    (c : ReturnConvention) (result : Option (Source n))
    (coded : how.callee env target selector s x =
      methodCode x (result.map (Source.take env)) (target.declared env selector s)) :
    ∃ v u added leaked, Ended (sendAdopting (how.callee env target selector s x) r selector args c) (how.within s) (.ok v) u
      added leaked (plus g (kept c v)) := by
  have found' := finds_within found how
  have settled := (sound.within how).settled
  rw [objects] at accepted
  have same := memory_entered found'
  obtain ⟨v, u, added', leaked', ended, alive⟩ := methodCode_ends (by rw [same]; exact settled) owned ran result
    method.ownership method.routine ⟨r, selector, .object, args⟩
  have sent := outcome_send (how.callee env target selector s x) found' accepted
  rw [coded, declared_eq receiver found, ended.ends] at sent
  rw [coded, declared_eq receiver found]
  obtain ⟨w, added'', leaked'', ended⟩ := sendAdopting_ends c settled
    ⟨sent, ended.leaves.of_memory_before same.symm, nofun⟩ alive
  exact ⟨_, w, added'', leaked'', ended⟩

/-- A call that returns may still throw or panic by what its caller does with a reference that was handed over. -/
theorem perform_completed (sound : Sound s g) (owned : ∀ v, 0 < g (env.handles v)) (receiver : target.receiver? env = some r)
    (admitted : how.Admits env s) (found : r.Finds s selector method)
    (accepted : method.signature.accepts how.ret (args.map Value.code) = true)
    (ran : Ended x (r.entered selector (how.within s)) (.ok ()) t added leaked g) : ∃ r' u added leaked,
      Ended (how.perform env target selector args x) s r' u added leaked (plus g (flying r')) ∧
      ∀ i, r' = .error i → ∃ result fate a w op, how = .retained result fate ∧
        (target.handle env (methodCode x (result.map (Source.take env)) (target.declared env selector s)) selector args
          .retained).outcome s = (.ok (some a), w) ∧ fate.op? env a = some op ∧ op.run.outcome w = (.error i, u) := by
  cases how with
  | value ret =>
    have sent := outcome_send (fun _ _ => do x; pure (.zero ret)) found accepted
    have ends : x.outcome (r.entered selector s) = (.ok (), t) := ran.ends
    rw [outcome_bind_ok ends] at sent
    refine ⟨.ok (), t, added, leaked, ⟨?_, ran.leaves.of_memory_before (memory_entered found).symm, nofun⟩, nofun⟩
    unfold Convention.perform
    dsimp only
    rw [value_eq receiver]
    have valued : (send (fun _ _ => do x; pure (.zero ret)) r selector ret args >>= fun v => pure v.1).outcome s =
        (.ok (.zero ret), t) := (outcome_bind_ok sent).trans rfl
    exact (outcome_bind_ok valued).trans (outcome_pure _)
  | borrowed result scope =>
    obtain ⟨v, u, added, leaked, ended⟩ := send_ends (.borrowed result scope) sound owned receiver found accepted ran rfl
      (.borrowed (env.scopes scope)) result rfl
    refine ⟨.ok (), u, added, leaked, ⟨?_, ended.leaves, nofun⟩, nofun⟩
    rw [perform_eq_borrowed receiver admitted]
    exact (outcome_bind_ok ended.ends).trans (outcome_pure _)
  | retained result fate =>
    obtain ⟨v, u, added, leaked, ended⟩ := send_ends (.retained result fate) sound owned receiver found accepted ran
      rfl .retained result rfl
    obtain ⟨w, -, handed, -⟩ := Ended.drains (s := s) (x := fun _ => sendAdopting _ r selector args .retained) sound.settled
      ended
    have performed := perform_eq_retained (s := s) (x := x) receiver selector args result fate
    rw [outcome_bind_ok handed.ends] at performed
    cases v with
    | none => exact ⟨.ok (), w, [], [], ⟨performed, handed.leaves, nofun⟩, nofun⟩
    | some a =>
      obtain ⟨r', w', added', leaked', settled, throws⟩ := fate.ends env (handed.leaves.sound sound.settled)
      refine ⟨r', w', added', leaked', ⟨performed.trans settled.ends, ?_, settled.harmless⟩, fun i same => ?_⟩
      · exact handed.leaves.trans settled.leaves
      · obtain ⟨op, settles, ends⟩ := throws i same
        refine ⟨result, fate, a, w, op, rfl, ?_, settles, ends⟩
        rw [handle_eq receiver]
        exact handed.ends

end Unwinding
end Messaging
