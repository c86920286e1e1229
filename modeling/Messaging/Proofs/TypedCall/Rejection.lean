import Messaging.Proofs.Class.Attempts
import Messaging.Proofs.Delivery.Posts
import Messaging.Proofs.Reachable
import Messaging.Proofs.TypedCall.Reconciliation

/-! Rejected calls. A typed call is checked in four ways before the code of a method is entered: its token must name
    a class, the pool of a borrowed result must be the innermost one, the receiver must know the selector, and the
    types must be those of the method. A call that fails a check leaves everything as it was, but for the exception
    that is thrown about the last two. Where the class of exceptions is missing and cannot be installed there is none to
    throw, and the call ends in the panic of the installation. -/

namespace Messaging
open Exec

/-- The token of a class may be null. -/
inductive TypedCall
  | ofClass (token : Option ClassId) (s : Selector) (ret : TypeCode) (args : List Value)
  | ofClassObject (token : Option ClassId) (s : Selector) (args : List Value) (c : ReturnConvention)
  | read (a : Address) (s : Selector) (ret : TypeCode) (args : List Value)
  | readObject (a : Address) (s : Selector) (args : List Value) (c : ReturnConvention)
  | write (a : Address) (s : Selector) (args : List Value)

/-- Why a call is rejected. -/
inductive Fault
  | nullToken
  | wrongPool (scope : Nat)
  | unrecognized (r : Receiver)
  | mismatch (r : Receiver) (m : Method)

/-- The method under a selector along the receiver's chain. -/
def Receiver.method? (r : Receiver) (s : Machine) (selector : Selector) : Option Method :=
  match r with
  | object a => (s.memory.get? a).bind fun o => s.classes.resolve? o.cls .ofInstances selector
  | cls id => s.classes.resolve? id .ofClass selector

/-- The text that names a message in errors. -/
def Receiver.label (r : Receiver) (s : Machine) (selector : Selector) : String :=
  match r with
  | object a => s!"-[{s.classes.name (((s.memory.get? a).map Object.cls).getD ⟨0⟩)} {selector.name}]"
  | cls id => s!"+[{s.classes.name id} {selector.name}]"

namespace TypedCall

def Result : TypedCall → Type
  | ofClass _ _ _ _ | read _ _ _ _ => Value
  | ofClassObject _ _ _ _ | readObject _ _ _ _ => Option Address
  | write _ _ _ => Unit

def run (code : Code) : (call : TypedCall) → Exec call.Result
  | ofClass token s ret args => classCall code token s ret args
  | ofClassObject token s args c => classCallObject code token s args c
  | read a s ret args => readCall code a s ret args
  | readObject a s args c => readCallObject code a s args c
  | write a s args => writeCall code a s args

def receiver? : TypedCall → Option Receiver
  | ofClass token _ _ _ | ofClassObject token _ _ _ => token.map .cls
  | read a _ _ _ | readObject a _ _ _ | write a _ _ => some (.object a)

def selector : TypedCall → Selector
  | ofClass _ s _ _ | ofClassObject _ s _ _ | read _ s _ _ | readObject _ s _ _ | write _ s _ => s

def ret : TypedCall → TypeCode
  | ofClass _ _ ret _ | read _ _ ret _ => ret
  | ofClassObject _ _ _ _ | readObject _ _ _ _ => .object
  | write _ _ _ => .void

def args : TypedCall → List Value
  | ofClass _ _ _ args | ofClassObject _ _ args _ | read _ _ _ args | readObject _ _ args _ | write _ _ args => args

/-- What is declared about an object result. -/
def convention? : TypedCall → Option ReturnConvention
  | ofClassObject _ _ _ c | readObject _ _ _ c => some c
  | _ => none

/-- The pool that is to hold a borrowed result. -/
def scope? (call : TypedCall) : Option Nat :=
  match call.convention? with
  | some (.borrowed scope) => some scope
  | _ => none

/-- The pools that the method finds: a call that hands over a reference has one of its own. -/
def within (call : TypedCall) (pools : PoolStack) : PoolStack :=
  match call.convention? with
  | some c => c.within pools
  | none => pools

/-- The machine on which the message is sent. -/
def opened (call : TypedCall) (s : Machine) : Machine :=
  { s with memory := { s.memory with pools := call.within s.memory.pools } }

/-- The first check that a call fails. -/
def fault? (call : TypedCall) (s : Machine) : Option Fault :=
  match call.receiver? with
  | none => some .nullToken
  | some r =>
    match call.scope?.filter fun scope => !s.memory.pools.isInnermost scope with
    | some scope => some (.wrongPool scope)
    | none =>
      match r.method? s call.selector with
      | none => some (.unrecognized r)
      | some m => if m.signature.accepts call.ret (call.args.map Value.code) then none else some (.mismatch r m)

/-- What is said about a rejected call, by the panic or the exception. -/
def complaint (call : TypedCall) (s : Machine) : Fault → String
  | .nullToken => s!"`{call.selector.name}` sent" ++ " through an unresolved class token"
  | .wrongPool scope => s!"autorelease pool {scope} is not the innermost pool (depth {s.memory.pools.depth})"
  | .unrecognized r => s!"{r.label s call.selector}: unrecognized selector sent to {r.target}"
  | .mismatch r m =>
    s!"{r.label s call.selector}: sent as `{callSite call.ret (call.args.map Value.code)}` but implemented as `{m.signature.text}`"

/-- A call that passes all checks. -/
structure Accepts (call : TypedCall) (s : Machine) (m : Method) : Prop where
  token : call.receiver? ≠ none
  scope : ∀ scope, call.scope? = some scope → s.memory.pools.isInnermost scope = true
  known : call.receiver?.bind (fun r => r.method? s call.selector) = some m
  types : m.signature.ret = call.ret ∧ m.signature.args = call.args.map Value.code

/-- The call enters the code of a method, with the tables and the objects as they were: code that ends the run there
    ends the call. -/
def Enters (call : TypedCall) (s : Machine) (m : Method) : Prop :=
  ∃ r entry, call.receiver? = some r ∧ entry.classes.bare = s.classes.bare ∧ entry.memory = (call.opened s).memory ∧
    ∀ (code : Code) i u, i.isFatal = true →
      (code m.routine ⟨r, call.selector, call.ret, call.args⟩).outcome entry = (.error i, u) →
      (call.run code).outcome s = (.error i, u)

/-- The call ends in a panic, guarded or not, and touches no object and no pool. -/
def Escapes (call : TypedCall) (s t : Machine) (i : Interruption) : Prop :=
  t.memory = s.memory ∧ ∀ code,
    (call.run code).outcome s = (.error i, t) ∧ (catchThrown (call.run code)).outcome s = (.error i, t)

/-- The call throws an exception, which is the only new object and has one reference. A guarded one returns it. -/
def Throws (call : TypedCall) (s t : Machine) (reason : String) : Prop :=
  ∃ known e, t.setup.builtins = some known ∧ s.memory.get? e = none ∧
    t.memory.get? e = some ⟨known.exception, 1, some (.exception invalidArgumentName reason), false⟩ ∧
    (∀ a, a ≠ e → t.memory.get? a = s.memory.get? a) ∧ ∀ code,
    (call.run code).outcome s = (.error (.thrown e), t) ∧
    ∃ journal, (catchThrown (call.run code)).outcome s = (.ok (.error e), { t with journal })

end TypedCall

/-- The built-in classes are missing, and a name that is taken stops their installation: the names before it are
    registered, and no object is touched. -/
structure Machine.Stopped (s t : Machine) (taken : Attempts.Registration) : Prop where
  extended : s.Extended t
  stops : ∃ done, Attempts.StopsAt s Attempts.reserved done taken ∧
    t.classes.names = (done.filterMap Attempts.Registration.className?).reverse ++ s.classes.names ∧
    t.protocols.names = s.protocols.names ++ done.filterMap Attempts.Registration.protocolName?
  memory : t.memory = s.memory

/-- How a call ends that fails a check. A null token and a wrong pool end it in a panic, which no guarded region stops.
    The other two end it in a thrown exception, if what is built in is installed or can be; if not, they end it in the
    panic of the installation. -/
def TypedCall.EndsIn (call : TypedCall) (s t : Machine) (fault : Fault) : Prop :=
  match fault with
  | .nullToken | .wrongPool _ => call.Escapes s t (.panic (call.complaint s fault))
  | .unrecognized _ | .mismatch _ _ =>
    (s.Ready ∧ call.Throws s t (call.complaint s fault)) ∨
      ¬s.Ready ∧ ∃ taken, s.Stopped t taken ∧ call.Escapes s t (Attempts.failure taken)

/-- No object that lived changed from `s` to `t`, and no weak reference and no pool. -/
structure Machine.Spared (s t : Machine) : Prop extends s.Extended t where
  objects : ∀ a, (s.memory.get? a).isSome → t.memory.get? a = s.memory.get? a
  weak : t.memory.weak = s.memory.weak
  pools : t.memory.pools = s.memory.pools

/-! ### What the receiver knows -/

section
variable {s u : Machine} {r : Receiver} {selector : Selector} {m : Method} {call : TypedCall}

theorem Receiver.finds_iff (current : s.classes.Current) :
    r.Finds s selector m ↔ r.method? s selector = some m := by
  cases r with
  | object a =>
    simp only [Receiver.Finds, Receiver.method?, Option.bind_eq_some_iff, ClassTable.lookup_eq current]
  | cls id => rw [Receiver.Finds, Receiver.method?, ClassTable.lookup_eq current]

/-- Asking for a method gives what the walk finds, and changes caches at most. -/
theorem Receiver.outcome_asked (selector : Selector) (current : s.classes.Current)
    (lives : ∀ a, r = .object a → (s.memory.get? a).isSome) : ∃ classes, classes.bare = s.classes.bare ∧
      (r.lookup selector).outcome s = (.ok (r.method? s selector), { s with classes }) := by
  cases r with
  | object a =>
    obtain ⟨o, live⟩ := Option.isSome_iff_exists.mp (lives a rfl)
    have found : (Receiver.object a).method? s selector = (s.classes.lookup o.cls .ofInstances selector).1 := by
      rw [ClassTable.lookup_eq current, Receiver.method?, live]
      rfl
    refine ⟨(s.classes.lookup o.cls .ofInstances selector).2, ClassTable.bare_lookup, ?_⟩
    rw [found]
    unfold Receiver.lookup
    rw [outcome_bind_ok (outcome_classOf live)]
    exact Delivery.outcome_lookupMethod o.cls .ofInstances selector
  | cls id =>
    have found : (Receiver.cls id).method? s selector = (s.classes.lookup id .ofClass selector).1 :=
      (ClassTable.lookup_eq current).symm
    refine ⟨(s.classes.lookup id .ofClass selector).2, ClassTable.bare_lookup, ?_⟩
    rw [found]
    exact Delivery.outcome_lookupMethod id .ofClass selector

theorem ClassTable.name_of_bare {t u : ClassTable} (same : t.bare = u.bare) (id : ClassId) : t.name id = u.name id := by
  have bare (t : ClassTable) : t.name id = t.bare.name id := by
    unfold ClassTable.name
    rw [get?_bare, Option.map_map]
    rfl
  rw [bare t, bare u, same]

theorem Receiver.outcome_label {classes : ClassTable} (same : classes.bare = s.classes.bare)
    (lives : ∀ a, r = .object a → (s.memory.get? a).isSome) :
    (r.describe selector).outcome { s with classes } = (.ok (r.label s selector), { s with classes }) := by
  cases r with
  | object a =>
    obtain ⟨o, live⟩ := Option.isSome_iff_exists.mp (lives a rfl)
    unfold Receiver.describe
    rw [outcome_bind_ok (outcome_classOf (s := { s with classes }) live)]
    simp only [Receiver.label, live, ← ClassTable.name_of_bare same]
    rfl
  | cls id =>
    simp only [Receiver.label, ← ClassTable.name_of_bare same]
    rfl

/-! ### Sends that are refused -/

/-- A refused send leaves an exception about it. -/
structure Machine.Refused (s t : Machine) (reason : String) : Prop where
  extended : s.Extended t
  left : ∃ known, t.setup.builtins = some known ∧
    t.memory = s.memory.carrying known.exception (.exception invalidArgumentName reason)

/-- How a machine raises an exception of its own: it throws a new one, or cannot make any. -/
inductive Machine.Raises (s : Machine) (reason : String) : Interruption → Machine → Prop
  | thrown {t : Machine} (ready : s.Ready) (refused : s.Refused t reason) : s.Raises reason (.thrown s.memory.heap.fresh) t
  | stopped {t : Machine} {taken : Attempts.Registration} (unready : ¬s.Ready) (stopped : s.Stopped t taken) :
    s.Raises reason (Attempts.failure taken) t

namespace Machine.Raises
variable {reason : String} {i : Interruption}

theorem of_ready (raises : s.Raises reason i u) (ready : s.Ready) :
    i = .thrown s.memory.heap.fresh ∧ s.Refused u reason := by
  cases raises with
  | thrown _ refused => exact ⟨rfl, refused⟩
  | stopped unready _ => exact absurd ready unready

theorem unwinds (raises : s.Raises reason i u) : i.isFatal = false := by
  cases raises <;> rfl

theorem pools (raises : s.Raises reason i u) : u.memory.pools = s.memory.pools := by
  cases raises with
  | thrown _ refused =>
    obtain ⟨known, -, left⟩ := refused.left
    rw [left]
    rfl
  | stopped _ stopped => rw [stopped.memory]

end Machine.Raises

/-- What is or can be installed does not depend on what classes remember. -/
theorem Machine.Ready.congr {t : Machine} (ready : s.Ready) (bare : t.classes.bare = s.classes.bare)
    (protocols : t.protocols = s.protocols) (setup : t.setup = s.setup) : t.Ready := by
  intro absent
  rw [setup] at absent
  obtain ⟨free, protocol⟩ := ready absent
  refine ⟨fun name listed => ?_, by rw [protocols, protocol]⟩
  have same := ClassTable.isSome_named?_of_bare bare name
  rwa [free name listed, Option.isSome_none, Option.isSome_eq_false_iff, Option.isNone_iff_eq_none] at same

/-- Asking for a method changes caches at most, so that makes no difference to whether the exception can be made. -/
theorem outcome_raise_asked {α : Type} {classes : ClassTable} (coherent : s.Coherent)
    (bare : classes.bare = s.classes.bare) (reason : String) : ∃ i t, s.Raises reason i t ∧
      (raiseNamed invalidArgumentName reason : Exec α).outcome { s with classes } = (.error i, t) := by
  have numbered : classes.Numbered := fun c mem => (ClassTable.ordered_of_bare bare coherent.ordered).id_lt mem
  have asked : s.Extended { s with classes } := .of_same bare rfl ⟨rfl, rfl, rfl⟩
  by_cases ready : s.Ready
  · have ready' : Machine.Ready { s with classes } := ready.congr bare rfl rfl
    obtain ⟨known, t, raised, installed, memory, extended⟩ :=
      outcome_raiseNamed_ready (α := α) (s := { s with classes }) ready' numbered invalidArgumentName reason
    exact ⟨_, t, .thrown ready ⟨asked.trans extended, known, installed, memory⟩, raised⟩
  · have unready : ¬Machine.Ready { s with classes } := fun there => ready (there.congr bare.symm rfl rfl)
    obtain ⟨pending, done, taken, t, stops, left, panics⟩ :=
      Attempts.outcome_builtins_unready (s := { s with classes }) numbered unready
    have names : classes.names = s.classes.names := Attempts.names_of_bare bare
    refine ⟨_, t, .stopped ready ⟨asked.trans (left.extended pending), ⟨done, stops.congr names rfl, ?_, left.protocols⟩, ?_⟩,
      outcome_bind_error (outcome_bind_error panics)⟩
    · rw [left.classes, names]
    · obtain ⟨memory, -⟩ := left.rest
      exact memory

theorem outcome_send_unrecognized (coherent : s.Coherent)
    (lives : ∀ a, r = .object a → (s.memory.get? a).isSome) (unknown : r.method? s selector = none)
    (ret : TypeCode) (args : List Value) :
    ∃ i t, s.Raises s!"{r.label s selector}: unrecognized selector sent to {r.target}" i t ∧ ∀ code,
      (send code r selector ret args).outcome s = (.error i, t) := by
  obtain ⟨classes, bare, asked⟩ := Receiver.outcome_asked selector coherent.current lives
  rw [unknown] at asked
  obtain ⟨i, t, raises, raised⟩ := outcome_raise_asked (α := Value × Ownership) coherent bare
    s!"{r.label s selector}: unrecognized selector sent to {r.target}"
  refine ⟨i, t, raises, fun code => ?_⟩
  unfold send
  rw [outcome_bind_ok asked]
  exact (outcome_bind_ok (Receiver.outcome_label bare lives)).trans raised

theorem outcome_send_mismatch (coherent : s.Coherent)
    (lives : ∀ a, r = .object a → (s.memory.get? a).isSome) (found : r.method? s selector = some m)
    {ret : TypeCode} {args : List Value} (refused : m.signature.accepts ret (args.map Value.code) = false) :
    ∃ i t, s.Raises
        s!"{r.label s selector}: sent as `{callSite ret (args.map Value.code)}` but implemented as `{m.signature.text}`" i t ∧
      ∀ code, (send code r selector ret args).outcome s = (.error i, t) := by
  obtain ⟨classes, bare, asked⟩ := Receiver.outcome_asked selector coherent.current lives
  rw [found] at asked
  obtain ⟨i, t, raises, raised⟩ := outcome_raise_asked (α := Value × Ownership) coherent bare
    s!"{r.label s selector}: sent as `{callSite ret (args.map Value.code)}` but implemented as `{m.signature.text}`"
  refine ⟨i, t, raises, fun code => ?_⟩
  unfold send
  rw [outcome_bind_ok asked]
  simp only [refused, Bool.not_false, if_true]
  exact (outcome_bind_ok (Receiver.outcome_label bare lives)).trans raised

/-! ### Calls that are refused -/

/-- What unwinds out of the send unwinds out of the call. The journal that is left is the same whatever the code. -/
theorem outcome_sendObject_error {c : ReturnConvention} {i : Interruption} (r : Receiver) (selector : Selector)
    (args : List Value) (settled : s.memory.pools.Settled) (admitted : c.Admits s.memory.pools) (unwinds : i.isFatal = false)
    (pools : u.memory.pools = c.within s.memory.pools) : ∃ journal, ∀ code,
      (send code r selector .object args).outcome
        { s with memory := { s.memory with pools := c.within s.memory.pools } } = (.error i, u) →
      (sendObject code r selector args c).outcome s =
        (.error i, { u with memory := { u.memory with pools := s.memory.pools }, journal }) := by
  cases c with
  | retained =>
    -- The pool of the call is still empty, and goes alone.
    have cut : u.memory.pools.retire s.memory.pools.depth = ([], s.memory.pools) := by
      rw [pools]
      simpa [ReturnConvention.within, PoolStack.push, PoolStack.given] using PoolStack.retire_push settled []
    obtain ⟨journal, retired⟩ := outcome_retirePool (s := u) cut rfl
    refine ⟨journal, fun code sent => ?_⟩
    unfold sendObject
    dsimp only [ReturnConvention.checkScope]
    rw [outcome_bind_ok (outcome_pure _)]
    unfold withPool
    rw [outcome_bind_ok outcome_pushPool]
    exact outcome_ensuring_error (outcome_bind_error sent) unwinds retired
  | borrowed scope =>
    refine ⟨u.journal, fun code sent => ?_⟩
    have same : s.memory.pools = u.memory.pools := pools.symm
    unfold sendObject
    dsimp only [ReturnConvention.checkScope]
    rw [outcome_bind_ok (outcome_assertInnermost admitted), same]
    exact outcome_bind_error sent

theorem outcome_sendObject_fatal {code : Code} {c : ReturnConvention} {args : List Value} {i : Interruption}
    (admitted : c.Admits s.memory.pools) (fatal : i.isFatal = true)
    (sent : (send code r selector .object args).outcome
      { s with memory := { s.memory with pools := c.within s.memory.pools } } = (.error i, u)) :
    (sendObject code r selector args c).outcome s = (.error i, u) := by
  unfold sendObject
  cases c with
  | retained =>
    dsimp only [ReturnConvention.checkScope]
    rw [outcome_bind_ok (outcome_pure _)]
    unfold withPool
    rw [outcome_bind_ok outcome_pushPool]
    exact outcome_ensuring_fatal (outcome_bind_error sent) fatal
  | borrowed scope =>
    dsimp only [ReturnConvention.checkScope]
    rw [outcome_bind_ok (outcome_assertInnermost admitted)]
    exact outcome_bind_error sent

namespace TypedCall

theorem admits_of_scope {c : ReturnConvention} (convention : call.convention? = some c)
    (scope : ∀ scope, call.scope? = some scope → s.memory.pools.isInnermost scope = true) : c.Admits s.memory.pools := by
  cases c with
  | retained => trivial
  | borrowed token => exact scope token (by rw [scope?, convention])

theorem outcome_run_fatal {code : Code} {i : Interruption} (receiver : call.receiver? = some r)
    (scope : ∀ scope, call.scope? = some scope → s.memory.pools.isInnermost scope = true) (fatal : i.isFatal = true)
    (sent : (send code r call.selector call.ret call.args).outcome (call.opened s) = (.error i, u)) :
    (call.run code).outcome s = (.error i, u) := by
  cases call with
  | ofClass token selector ret args =>
    obtain ⟨id, rfl, rfl⟩ := Option.map_eq_some_iff.mp receiver
    exact (outcome_bind_ok (outcome_pure id)).trans (outcome_bind_error sent)
  | ofClassObject token selector args c =>
    obtain ⟨id, rfl, rfl⟩ := Option.map_eq_some_iff.mp receiver
    exact outcome_sendObject_fatal (admits_of_scope rfl scope) fatal sent
  | read a selector ret args =>
    cases receiver
    exact outcome_bind_error sent
  | readObject a selector args c =>
    cases receiver
    exact outcome_sendObject_fatal (admits_of_scope rfl scope) fatal sent
  | write a selector args =>
    cases receiver
    exact outcome_bind_error (outcome_bind_error sent)

/-! ### The four checks -/

theorem fault?_eq_none : call.fault? s = none ↔ ∃ m, call.Accepts s m := by
  unfold fault?
  constructor
  · intro passes
    cases receiver : call.receiver? with
    | none => simp [receiver] at passes
    | some r =>
      simp only [receiver] at passes
      split at passes
      · cases passes
      · next pool =>
        split at passes
        · cases passes
        · next m found =>
          split at passes
          · next accepted =>
            refine ⟨m, ⟨by simp [receiver], fun scope declared => ?_, by simp [receiver, found], of_decide_eq_true accepted⟩⟩
            simpa [declared] using pool
          · cases passes
  · rintro ⟨m, token, scope, known, types⟩
    obtain ⟨r, receiver, found⟩ := Option.bind_eq_some_iff.mp known
    have pool : call.scope?.filter (fun scope => !s.memory.pools.isInnermost scope) = none := by
      refine Option.filter_eq_none_iff.mpr fun token declared => ?_
      simp [scope token declared]
    simp only [receiver, pool, found]
    exact if_pos (decide_eq_true types)

theorem Accepts.enters (accepts : call.Accepts s m) (current : s.classes.Current) : call.Enters s m := by
  obtain ⟨r, receiver, found⟩ := Option.bind_eq_some_iff.mp accepts.known
  have finds : r.Finds (call.opened s) call.selector m := ((Receiver.finds_iff current).mpr found).congr rfl rfl
  refine ⟨r, r.entered call.selector (call.opened s), receiver, ?_, memory_entered finds, fun code i u fatal ends => ?_⟩
  · obtain ⟨_, id, kind, classes, rfl, entered, -⟩ := entered_eq finds
    rw [entered]
    exact ClassTable.bare_lookup
  · have sent : (send code r call.selector call.ret call.args).outcome (call.opened s) = _ :=
      outcome_send code finds (decide_eq_true accepts.types)
    rw [ends] at sent
    exact outcome_run_fatal receiver accepts.scope fatal sent

section
variable {reason : String} (coherent : s.Coherent) (settled : s.memory.pools.Settled) (receiver : call.receiver? = some r)
  (scope : ∀ scope, call.scope? = some scope → s.memory.pools.isInnermost scope = true)
include settled receiver scope

end

/-- Code is entered only if all checks are passed: a call that fails one does not depend on any code. -/
theorem Enters.accepts (enters : call.Enters s m)
    (rejected : ∀ fault, call.fault? s = some fault → ∃ t, s.Spared t ∧ call.EndsIn s t fault) :
    ∃ m, call.Accepts s m := by
  rw [← fault?_eq_none]
  cases fails : call.fault? s with
  | none => rfl
  | some fault =>
    obtain ⟨t, -, ends⟩ := rejected fault fails
    obtain ⟨r, entry, -, -, -, aborts⟩ := enters
    have aborted := aborts (fun _ _ => throw .abort) .abort entry rfl (outcome_throw _)
    -- Both ways in which the last two faults end a call are the same for all code.
    have late (other : (s.Ready ∧ call.Throws s t (call.complaint s fault)) ∨
        ¬s.Ready ∧ ∃ taken, s.Stopped t taken ∧ call.Escapes s t (Attempts.failure taken)) : False := by
      rcases other with ⟨-, _, e, -, -, -, -, ends⟩ | ⟨-, taken, -, -, ends⟩
      · simp [(ends _).1] at aborted
      · simp [(ends _).1, Attempts.failure] at aborted
    cases fault with
    | nullToken => simp [(ends.2 _).1] at aborted
    | wrongPool scope => simp [(ends.2 _).1] at aborted
    | unrecognized r => exact absurd ends late
    | mismatch r m => exact absurd ends late

end TypedCall

/-! ### Asking first -/

end

/-! ### One object, one method -/

namespace Lone

/-- What leads to a machine with one class, its method, and one instance. -/
def operations : List Operation :=
  [.createClass "Thing" none, .insertMethod ⟨0⟩ .ofInstances method, .alloc ⟨0⟩]

def reached : Machine :=
  operations.foldl (fun s op => (op.run.outcome s).2) (.fresh 0 none (.fresh false false))

theorem reachable : Reachable reached :=
  (((Reachable.fresh 0 none (.fresh false false)).step (.createClass "Thing" none) nofun).step
    (.insertMethod ⟨0⟩ .ofInstances method) rfl).step (.alloc ⟨0⟩) trivial

theorem ready : reached.Ready := fun _ => ⟨by decide, rfl⟩

end Lone

namespace Lone

/-- A class has the name of a built-in one. -/
def shadowed : Machine := ((Operation.createClass "OxString" none).run.outcome (.fresh 0 none (.fresh false false))).2

theorem unready : ¬shadowed.Ready := by
  intro ready
  obtain ⟨free, -⟩ := ready rfl
  exact absurd (free "OxString" (by decide)) (by decide)

def responds : Selector := ⟨1, "respondsToSelector:", 1⟩

end Lone

end Messaging
