import Messaging.Proofs.Unwinding.Calls

/-! How programs end. By induction on the program: it ends with no result, a throw or a panic, and is never cut off;
    the counts are right and the pools are those of the start, with what was added to the innermost one; and what it
    throws or panics with was raised by an operation in it. -/

namespace Messaging
namespace Unwinding
open Exec

variable {n m : Nat} {s t u v : Machine} {g : Address → Nat} {a : Address} {added leaked : List Address} {env : Env n m}
  {i : Interruption} {fate : Fate m} {op : Op}

/-- A program may be started: the counts are right, and each of its handles names an object that somebody owns. -/
structure Fit (env : Env n m) (s : Machine) (g : Address → Nat) : Prop where
  sound : Sound s g
  owned : ∀ v, 0 < g (env.handles v)

/-- What comes of a program: how it ends, and where it raised what it ends with. -/
structure Comes {n m : Nat} (p : Program n m) (env : Env n m) (s : Machine) (g : Address → Nat)
    (r : Except Interruption Unit) (u : Machine) (added leaked : List Address) : Prop
    extends Ended (p.run env) s r u added leaked (plus g (flying r)) where
  raised : ∀ i, r = .error i → ∃ op t u' ks, Raises ⟨p, env, s⟩ op t i u' ks

/-- A program ends well wherever it may be started. -/
def Ending {n m : Nat} (p : Program n m) : Prop :=
  ∀ (env : Env n m) s g, Fit env s g → ∃ r u added leaked, Comes p env s g r u added leaked

namespace Fit

theorem more (fit : Fit env s g) (l : List Address) (v : Fin n) : 0 < plus g l (env.handles v) :=
  Nat.lt_of_lt_of_le (fit.owned v) (le_plus _ _)

theorem after (fit : Fit env s g) (left : Leaves s t added leaked g) : Fit env t (plus g leaked) :=
  ⟨left.sound fit.sound.settled, fit.more leaked⟩

theorem opened (fit : Fit env s g) (token : Nat) : Fit (env.opened token) s g := ⟨fit.sound, fit.owned⟩

/-- A frame that owns a reference has a handle for it. -/
theorem bind (owned : ∀ v, 0 < g (env.handles v)) (sound : Sound s (plus g [a])) : Fit (env.bind a) s (plus g [a]) := by
  refine ⟨sound, fun v => ?_⟩
  cases v using Fin.cases with
  | zero => exact plus_pos a
  | succ v => exact Nat.lt_of_lt_of_le (owned v) (le_plus _ _)

theorem hold (fit : Fit env s g) {source : Source n} (taken : (source.take env).outcome s = (.ok a, t)) :
    Leaves s t [] [] (plus g [a]) ∧ Fit (env.bind a) t (plus g [a]) := by
  obtain ⟨b, u, took, left⟩ := source.ends fit.sound fit.owned
  rw [took] at taken
  cases taken
  have sound := left.sound fit.sound.settled
  exact ⟨left, bind fit.owned sound⟩

theorem entered (fit : Fit env s g) {r : Receiver} {selector : Selector} {method : Method} (how : Convention n m)
    (found : r.Finds s selector method) : Fit env (r.entered selector (how.within s)) g :=
  ⟨(fit.sound.within how).of_memory (memory_entered (finds_within found how)), fit.owned⟩

theorem act (fit : Fit env s g) (x : Act n m) : (x.op env).Ready s g := by
  cases x with
  | throwKept v | raiseException v command =>
    refine ⟨fit.sound, fun a named => ?_⟩
    obtain rfl := List.mem_singleton.mp named
    exact fit.owned v
  | raise | throwText | panic | check => exact ⟨fit.sound, nofun⟩

theorem receiver (fit : Fit env s g) {target : Target n} {r : Receiver} (receiver : target.receiver? env = some r)
    (a : Address) (same : r = .object a) : 0 < g a := by
  subst same
  cases target with
  | object v =>
    cases receiver
    exact fit.owned v
  | token cls =>
    obtain ⟨id, -, other⟩ := Option.map_eq_some_iff.mp receiver
    cases other

end Fit

theorem frame_ends {body : Program (n + 1) m} (fate : Fate m) (ending : Ending body) (owned : ∀ v, 0 < g (env.handles v))
    (sound : Sound t (plus g [a])) : ∃ r w added leaked,
      Ended (holding a (body.run (env.bind a)) (fate.settle env a)) t r w added leaked (plus g (flying r)) ∧
      ∀ i, r = .error i → (∃ op t' u' ks, Raises ⟨body, env.bind a, t⟩ op t' i u' ks) ∨
        ∃ u op, (body.run (env.bind a)).outcome t = (.ok (), u) ∧ fate.op? env a = some op ∧
          op.run.outcome u = (.error i, w) := by
  obtain ⟨r, u, added, leaked, came⟩ := ending _ _ _ (Fit.bind owned sound)
  cases r with
  | error i =>
    obtain ⟨w, -, ended⟩ := came.toEnded.unwound (y := fate.settle env a) sound.settled
    exact ⟨.error i, w, added, leaked, ended, fun j same => Or.inl (came.raised j same)⟩
  | ok x =>
    -- Whatever the body did, the reference of the frame is there to be settled.
    have after : Sound u (plus (plus g [a]) leaked) := came.leaves.sound sound.settled
    rw [plus_comm] at after
    obtain ⟨r, w, added', leaked', settled, throws⟩ := fate.ends env after
    refine ⟨r, w, _, _, ⟨(outcome_holding_ok came.ends).trans settled.ends, came.leaves.then settled, settled.harmless⟩,
      fun i same => Or.inr ?_⟩
    obtain ⟨op, settles, ends⟩ := throws i same
    exact ⟨u, op, came.ends, settles, ends⟩

theorem ending_skip : Ending (.skip : Program n m) := fun _ s _ fit =>
  ⟨.ok (), s, [], [], ⟨rfl, fit.sound.leaves, nofun⟩, nofun⟩

theorem ending_act (x : Act n m) : Ending (.act x) := by
  intro env s g fit
  obtain ⟨r, u, added, ended⟩ := (fit.act x).ends
  refine ⟨r, u, added, [], ⟨ended.ends, ended.leaves, ended.harmless⟩, fun i same => ?_⟩
  exact ⟨_, _, _, _, .here .act (same ▸ ended.ends)⟩

theorem ending_seq {p q : Program n m} (first : Ending p) (second : Ending q) : Ending (.seq p q) := by
  intro env s g fit
  obtain ⟨r, t, added, leaked, came⟩ := first env s g fit
  cases r with
  | error i =>
    refine ⟨.error i, t, added, leaked, came.toEnded.stop, fun j same => ?_⟩
    obtain ⟨op, t', u', ks, raises⟩ := came.raised j same
    exact ⟨op, t', u', _, .inside .first raises⟩
  | ok x =>
    obtain ⟨r, u, added', leaked', came'⟩ := second env t _ (fit.after came.leaves)
    refine ⟨r, u, _, _, ⟨(outcome_bind_ok came.ends).trans came'.ends, came.leaves.then came'.toEnded, came'.harmless⟩,
      fun i same => ?_⟩
    obtain ⟨op, t', u', ks, raises⟩ := came'.raised i same
    exact ⟨op, t', u', _, .inside (.second came.ends) raises⟩

theorem ending_hold {source : Source n} {body : Program (n + 1) m} (ending : Ending body) :
    Ending (.hold source body fate) := by
  intro env s g fit
  obtain ⟨a, t, taken, left⟩ := source.ends fit.sound fit.owned
  obtain ⟨r, w, added, leaked, ended, raised⟩ := frame_ends fate ending fit.owned (left.sound fit.sound.settled)
  refine ⟨r, w, _, _, ⟨(outcome_bind_ok taken).trans ended.ends, left.then ended, ended.harmless⟩, fun i same => ?_⟩
  rcases raised i same with ⟨op, t', u', ks, raises⟩ | ⟨u, op, done, settles, ends⟩
  · exact ⟨op, t', u', _, .inside (.hold taken) raises⟩
  · exact ⟨op, u, w, _, .here (.hold taken done settles) ends⟩

theorem ending_pool {body : Program n (m + 1)} (ending : Ending body) : Ending (.pool body) := by
  intro env s g fit
  have fit' : Fit (env.opened s.memory.pools.depth) (pushed s) g := ⟨fit.sound.pushed, fit.owned⟩
  obtain ⟨r, u, added, leaked, came⟩ := ending _ _ _ fit'
  obtain ⟨v, -, ended, -⟩ := Ended.drains (x := fun token => body.run (env.opened token)) fit.sound.settled came.toEnded
  refine ⟨r, v, [], [], ended, fun i same => ?_⟩
  obtain ⟨op, t', u', ks, raises⟩ := came.raised i same
  exact ⟨op, t', u', _, .inside .pool raises⟩

/-- What is caught is owned by the frame of the handler. -/
theorem Fit.handler {body : Program n m} (journal : Log.Journal) (fit : Fit env s g)
    (came : Ended (body.run env) s (.error (.thrown a)) t added leaked (plus g [a])) :
    Leaves s { t with journal } added leaked (plus g [a]) ∧ Sound { t with journal } (plus (plus g leaked) [a]) := by
  have left : Leaves s { t with journal } added leaked (plus g [a]) := came.leaves.of_memory rfl
  have sound := left.sound fit.sound.settled
  rw [plus_comm] at sound
  exact ⟨left, sound⟩

theorem ending_guarded {region : Region} {body : Program n m} {handler : Program (n + 1) m} (first : Ending body)
    (second : Ending handler) : Ending (.guarded region body handler fate) := by
  intro env s g fit
  obtain ⟨r, t, added, leaked, came⟩ := first env s g fit
  rcases came.toEnded.region region with ⟨rfl, ends⟩ | ⟨a, journal, rfl, caught⟩ | ⟨text, rfl, passes⟩
  · exact ⟨.ok (), t, added, leaked, ⟨(outcome_bind_ok ends).trans (outcome_pure _), came.leaves, nofun⟩, nofun⟩
  · obtain ⟨left, sound⟩ := fit.handler journal came.toEnded
    obtain ⟨r, w, added', leaked', ended, raised⟩ := frame_ends fate second (fit.more leaked) sound
    refine ⟨r, w, _, _, ⟨(outcome_bind_ok caught).trans ended.ends, left.then ended, ended.harmless⟩, fun i same => ?_⟩
    rcases raised i same with ⟨op, t', u', ks, raises⟩ | ⟨u, op, done, settles, ends⟩
    · exact ⟨op, t', u', _, .inside (.handler caught) raises⟩
    · exact ⟨op, u, w, _, .here (.handler caught done settles) ends⟩
  · refine ⟨.error (.panic text), t, added, leaked, .of_error (outcome_bind_error passes) came.leaves rfl, fun i same => ?_⟩
    obtain ⟨op, t', u', ks, raises⟩ := came.raised _ rfl
    cases same
    exact ⟨op, t', u', ks, .through raises⟩

section
variable {target : Target n} {selector : Selector} {args : List Value} {how : Convention n m} {body : Program n m}
  {r : Receiver}

theorem call_stopped (selector : Selector) (args : List Value) (body : Program n m) (fit : Fit env s g)
    (receiver : target.receiver? env = some r) (stopped : ¬how.Admits env s) : ∃ op text,
      Utters ⟨.call target selector args how body, env, s⟩ op s [] ∧
      op.run.outcome s = (.error (.panic text), s) ∧
      Ended (how.perform env target selector args (body.run env)) s (.error (.panic text)) s [] [] g := by
  cases how with
  | value ret => exact absurd trivial stopped
  | retained result fate => exact absurd trivial stopped
  | borrowed result scope =>
    obtain ⟨text, panics⟩ := outcome_assertInnermost_panic (Bool.eq_false_iff.mpr stopped)
    exact ⟨_, text, .check receiver, panics, .of_error (perform_check receiver panics) fit.sound.leaves rfl⟩

/-- A send that is refused ends like the operation that it is, whatever the methods do. -/
theorem send_refused (how : Convention n m) (fit : Fit env s g) (receiver : target.receiver? env = some r)
    (refused : ∀ method, r.Finds s selector method → method.signature.accepts how.ret (args.map Value.code) = false) :
    ∃ i u, (Op.send r selector how.ret args).run.outcome (how.within s) = (.error i, u) ∧
      ∀ code, Ended (send code r selector how.ret args) (how.within s) (.error i) u [] []
        (plus g (flying (.error i : Except Interruption Unit))) := by
  have sound := fit.sound.within how
  obtain ⟨i, u, raised, sends⟩ := outcome_send_refused (s := how.within s) how.ret args
    (fun a same => sound.live (fit.receiver receiver a same)) fun method found => refused method (finds_of_within found)
  have ended : (Op.send r selector how.ret args).Ends (how.within s) g (.error i) u [] :=
    sound.raised raised (outcome_bind_error (sends _)) id
  exact ⟨i, u, ended.ends, fun code => .of_error (sends code) ended.leaves ended.unwinds⟩

theorem send_interrupted {method : Method} (found : r.Finds s selector method)
    (accepted : method.signature.accepts how.ret (args.map Value.code) = true)
    (ran : Ended (body.run env) (r.entered selector (how.within s)) (.error i) u added leaked g) :
    Ended (send (how.callee env target selector s (body.run env)) r selector how.ret args) (how.within s) (.error i) u added
      leaked g := by
  have found' := finds_within found how
  have sent := outcome_send (how.callee env target selector s (body.run env)) found' accepted
  have interrupted : (how.callee env target selector s (body.run env) method.routine ⟨r, selector, how.ret, args⟩).outcome
      (r.entered selector (how.within s)) = (.error i, u) := by
    cases how with
    | value ret => exact outcome_bind_error ran.ends
    | retained result fate => exact outcome_bind_error ran.ends
    | borrowed result scope => exact outcome_bind_error ran.ends
  rw [interrupted] at sent
  exact .of_error sent (ran.leaves.of_memory_before (memory_entered found').symm) ran.unwinds

theorem call_nullToken (fit : Fit env s g) (receiver : target.receiver? env = none) : ∃ r u added leaked,
    Comes (.call target selector args how body) env s g r u added leaked := by
  obtain rfl : target = .token none := by
    cases target with
    | object v => cases receiver
    | token cls => rw [Option.map_eq_none_iff.mp receiver]
  obtain ⟨text, u, ends, performed, same⟩ := perform_nullToken (s := s) env selector args how (body.run env)
  refine ⟨_, u, [], [], .of_error performed (fit.sound.leaves.of_memory same) rfl, fun i same => ?_⟩
  exact ⟨_, _, _, _, .here .nullToken (same ▸ ends)⟩

/-- A call that reaches its method ends as that does, or with what becomes of the result. -/
theorem call_entered {method : Method} (ending : Ending body) (fit : Fit env s g) (receiver : target.receiver? env = some r)
    (admitted : how.Admits env s) (found : r.Finds s selector method)
    (accepted : method.signature.accepts how.ret (args.map Value.code) = true) : ∃ r u added leaked,
      Comes (.call target selector args how body) env s g r u added leaked := by
  obtain ⟨r', t, added, leaked, came⟩ := ending env _ g (fit.entered how found)
  cases r' with
  | error i =>
    obtain ⟨v, added', leaked', -, performed⟩ := perform_interrupted fit.sound.settled receiver admitted
      (send_interrupted found accepted came.toEnded)
    refine ⟨_, v, _, _, performed, fun j same => ?_⟩
    obtain ⟨op, t', u', ks, raises⟩ := came.raised j same
    exact ⟨op, t', u', _, .inside (.method receiver admitted found accepted) raises⟩
  | ok x =>
    obtain ⟨r', u, added', leaked', performed, throws⟩ := perform_completed fit.sound fit.owned receiver admitted found
      accepted came.toEnded
    refine ⟨r', u, _, _, performed, fun i same => ?_⟩
    obtain ⟨result, fate, a, w, op, rfl, handed, settles, ends⟩ := throws i same
    exact ⟨op, w, u, _, .here (.result handed settles) ends⟩

theorem call_refused (fit : Fit env s g) (receiver : target.receiver? env = some r) (admitted : how.Admits env s)
    (refused : ∀ method, r.Finds s selector method → method.signature.accepts how.ret (args.map Value.code) = false) :
    ∃ r u added leaked, Comes (.call target selector args how body) env s g r u added leaked := by
  obtain ⟨i, u, ends, sent⟩ := send_refused how fit receiver refused
  obtain ⟨v, added, leaked, -, performed⟩ := perform_interrupted fit.sound.settled receiver admitted (sent _)
  refine ⟨_, v, _, _, performed, fun j same => ?_⟩
  exact ⟨_, _, _, _, .here (.send receiver admitted refused) (same ▸ ends)⟩

theorem ending_call (ending : Ending body) : Ending (.call target selector args how body) := by
  intro env s g fit
  cases receiver : target.receiver? env with
  | none => exact call_nullToken fit receiver
  | some r =>
    by_cases admitted : how.Admits env s
    · by_cases accepts : ∃ method, r.Finds s selector method ∧
          method.signature.accepts how.ret (args.map Value.code) = true
      · obtain ⟨method, found, accepted⟩ := accepts
        exact call_entered ending fit receiver admitted found accepted
      · exact call_refused fit receiver admitted fun method found =>
          Bool.eq_false_iff.mpr fun accepted => accepts ⟨method, found, accepted⟩
    · obtain ⟨op, text, utters, ends, performed⟩ := call_stopped selector args body fit receiver admitted
      refine ⟨_, s, [], [], performed, fun i same => ?_⟩
      exact ⟨op, s, s, [], .here utters (same ▸ ends)⟩

/-- The pool of a call with a reference to hand over is removed again. -/
theorem call_drained {result : Option (Source n)} (ending : Ending body) (fit : Fit env s g)
    (receiver : target.receiver? env = some r) :
    Drained (fun _ => sendAdopting ((Convention.retained result fate).callee env target selector s (body.run env)) r selector
      args .retained) s := by
  by_cases accepts : ∃ method, r.Finds s selector method ∧ method.signature.accepts .object (args.map Value.code) = true
  · obtain ⟨method, found, accepted⟩ := accepts
    obtain ⟨r', t, added, leaked, came⟩ := ending env _ g (fit.entered (.retained result fate) found)
    cases r' with
    | error i =>
      have sent : Ended (send ((Convention.retained result fate).callee env target selector s (body.run env)) r selector
          .object args) (pushed s) (.error i) t added leaked (plus g (flying (.error i : Except Interruption Unit))) :=
        send_interrupted found accepted came.toEnded
      exact sent.stop.drained fit.sound.settled
    | ok x =>
      obtain ⟨v, u, added, leaked, ended⟩ := send_ends (.retained result fate) fit.sound fit.owned receiver found
        accepted came.toEnded rfl .retained result rfl
      exact ended.drained fit.sound.settled
  · obtain ⟨i, u, -, sent⟩ := send_refused (.retained result fate) fit receiver fun method found =>
      Bool.eq_false_iff.mpr fun accepted => accepts ⟨method, found, accepted⟩
    exact (sent _).stop.drained fit.sound.settled

end

theorem Program.ending {n m : Nat} (p : Program n m) : Ending p := by
  induction p with
  | skip => exact ending_skip
  | act x => exact ending_act x
  | seq p q first second => exact ending_seq first second
  | hold source body fate ih => exact ending_hold ih
  | pool body ih => exact ending_pool ih
  | guarded region body handler fate first second => exact ending_guarded first second
  | call target selector args how body ih => exact ending_call ih

end Unwinding
end Messaging
