import Messaging.Builtin.Routines
import Messaging.Proofs.Class.Lookups
import Messaging.Proofs.Memory.WeakNames
import Messaging.Proofs.Send
import Messaging.Proofs.Unwind

/-! What the sends to ports do on a machine. Naming a delegate stores it in the weak slot of the port. A post
    loads the delegate, enters its handler once if it has one for the event, and gives the loaded reference up
    however the handler ends. -/

namespace Messaging
namespace Delivery
open Exec

inductive Event
  | machMessage
  | portMessage

namespace Event

def post : Event → BuiltinRoutine
  | machMessage => .portPostMachMessage
  | portMessage => .portPostPortMessage

/-- The message that delivers the event to a delegate. -/
def handler : Event → String
  | machMessage => "handleMachMessage:"
  | portMessage => "handlePortMessage:"

def forward : Event → BuiltinRoutine
  | machMessage => .adapterMachMessage
  | portMessage => .adapterPortMessage

/-- The slot of an adapter's table that is for the event. -/
def select : Event → CallbackTable → Option Callback
  | machMessage => CallbackTable.machMessage
  | portMessage => CallbackTable.portMessage

def selector (e : Event) (t : Machine) : Selector := (t.selectors.register e.handler).1

end Event

/-- The code of the built-in methods is the one that is built in; what it sends in turn runs `inner`. -/
def Ties (outer inner : Code) : Prop := ∀ r inv, outer (.builtin r) inv = r.run inner inv

variable {t : Machine} {m : Memory} {p d : Address} {slot : SlotId} {e : Event} {inv : Invocation} {o : Object}

theorem outcome_object (this : inv.this = .object p) : inv.object.outcome t = (.ok p, t) := by
  unfold Invocation.object
  rw [this]
  rfl

theorem outcome_payloadOf (live : t.memory.get? p = some o) : (payloadOf p).outcome t = (.ok o.payload, t) := by
  unfold payloadOf
  rw [outcome_bind_ok (outcome_objectAt live), outcome_pure]

theorem outcome_payload (this : inv.this = .object p) (live : t.memory.get? p = some o) :
    inv.payload.outcome t = (.ok o.payload, t) :=
  (outcome_bind_ok (outcome_object this)).trans (outcome_payloadOf live)

/-! ### The delegate of a port -/

theorem outcome_setDelegate (code : Code) {timeout : UInt64} (this : inv.this = .object p) (live : t.memory.get? p = some o)
    (port : o.payload = some (.port slot timeout)) (done : t.memory.storeWeak slot (inv.arg 0).object? = some m) :
    (BuiltinRoutine.portSetDelegate.run code inv).outcome t = (.ok .void, { t with memory := m }) := by
  unfold BuiltinRoutine.run
  dsimp only
  rw [outcome_bind_ok (outcome_payload this live), port]
  dsimp only [Payload.port?]
  rw [outcome_bind_ok (outcome_storeWeak done), outcome_pure]

theorem outcome_setDelegate_blank (code : Code) (this : inv.this = .object p) (live : t.memory.get? p = some o)
    (blank : Payload.port? o.payload = none) :
    (BuiltinRoutine.portSetDelegate.run code inv).outcome t = (.ok .void, t) := by
  unfold BuiltinRoutine.run
  dsimp only
  rw [outcome_bind_ok (outcome_payload this live), blank]
  rfl

/-! ### What a delegate makes of an event -/

/-- The code that a loaded delegate has for an event is run, if it has any. -/
def respond (code : Code) (d : Address) (handler : String) (v : Value) : Exec Unit := do
  let s ← intern handler
  match ← lookupMethod (← classOf d) .ofInstances s with
  | none => log .builtins .trace s!"{handler} dropped, delegate does not respond"
  | some _ => let _ ← send code (.object d) s .void [v]

/-- The machine once it was found out whether a delegate responds. -/
def asked (t : Machine) (cls : ClassId) (e : Event) : Machine :=
  { t with
    selectors := (t.selectors.register e.handler).2
    classes := (t.classes.lookup cls .ofInstances (e.selector t)).2 }

theorem finds_asked {h : Method} {cls : ClassId} (found : (Receiver.object d).Finds t (e.selector t) h) :
    (Receiver.object d).Finds (asked t cls e) (e.selector t) h := by
  obtain ⟨o, live, found⟩ := found
  exact ⟨o, live, ClassTable.lookup_lookup.trans found⟩

theorem outcome_lookupMethod (id : ClassId) (kind : MethodKind) (s : Selector) : (lookupMethod id kind s).outcome t =
    (.ok (t.classes.lookup id kind s).1, { t with classes := (t.classes.lookup id kind s).2 }) := rfl

theorem outcome_respond {v : Value} (code : Code) (live : t.memory.get? d = some o) :
    (respond code d e.handler v).outcome t =
      (match (t.classes.lookup o.cls .ofInstances (e.selector t)).1 with
        | none => log .builtins .trace s!"{e.handler} dropped, delegate does not respond"
        | some _ => do let _ ← send code (.object d) (e.selector t) .void [v] : Exec Unit).outcome (asked t o.cls e) := by
  have interned : (intern e.handler).outcome t =
      (.ok (e.selector t), { t with selectors := (t.selectors.register e.handler).2 }) := rfl
  have cls := outcome_classOf (s := { t with selectors := (t.selectors.register e.handler).2 }) live
  unfold respond
  rw [outcome_bind_ok interned, outcome_bind_ok cls, outcome_bind_ok (outcome_lookupMethod _ _ _)]
  rfl

theorem outcome_respond_none {v : Value} (live : t.memory.get? d = some o)
    (lacks : (t.classes.lookup o.cls .ofInstances (e.selector t)).1 = none) :
    ∃ u : Machine, u.memory = t.memory ∧ ∀ code, (respond code d e.handler v).outcome t = (.ok (), u) := by
  obtain ⟨journal, logged⟩ : ∃ journal, (log .builtins .trace s!"{e.handler} dropped, delegate does not respond").outcome
      (asked t o.cls e) = (.ok (), { asked t o.cls e with journal }) := ⟨_, rfl⟩
  refine ⟨{ asked t o.cls e with journal }, rfl, fun code => ?_⟩
  rw [outcome_respond code live, lacks]
  exact logged

/-- A method with the types of the event is entered once, on a machine with the same memory. -/
theorem outcome_respond_accepted {v : Value} {h : Method} (found : (Receiver.object d).Finds t (e.selector t) h)
    (accepted : h.signature.accepts .void [v.code] = true) : ∃ begun : Machine, begun.memory = t.memory ∧ ∀ code,
      (respond code d e.handler v).outcome t =
        match (code h.routine ⟨.object d, e.selector t, .void, [v]⟩).outcome begun with
        | (.ok _, u) => (.ok (), u)
        | (.error i, u) => (.error i, u) := by
  obtain ⟨o, live, looked⟩ := id found
  have found' : (Receiver.object d).Finds (asked t o.cls e) (e.selector t) h := finds_asked found
  refine ⟨(Receiver.object d).entered (e.selector t) (asked t o.cls e), memory_entered found', fun code => ?_⟩
  rw [outcome_respond code live, looked]
  dsimp only
  rw [outcome_bind, outcome_send code found' accepted]
  generalize (code h.routine _).outcome _ = ended
  rcases ended with ⟨_ | _, u⟩ <;> rfl

/-- A method with other types is not entered: an exception is thrown. -/
theorem outcome_respond_refused {v : Value} {h : Method} {known : Builtins}
    (found : (Receiver.object d).Finds t (e.selector t) h) (refused : h.signature.accepts .void [v.code] = false)
    (installed : t.setup.builtins = some known) : ∃ (u : Machine) (name reason : String),
      u.memory = t.memory.carrying known.exception (.exception name reason) ∧ ∀ code,
        (respond code d e.handler v).outcome t = (.error (.thrown t.memory.heap.fresh), u) := by
  obtain ⟨o, live, looked⟩ := id found
  have found' : (Receiver.object d).Finds (asked t o.cls e) (e.selector t) h := finds_asked found
  obtain ⟨-, -, -, classes, -, -, lookup, -⟩ := entered_eq found'
  obtain ⟨text, described⟩ := outcome_describe classes (e.selector t) found'.lives
  obtain ⟨reason, told⟩ : ∃ reason,
      reason = s!"{text}: sent as `{callSite .void [v.code]}` but implemented as `{h.signature.text}`" := ⟨_, rfl⟩
  obtain ⟨journal, raised⟩ := outcome_raiseNamed (α := Value × Ownership) (s := { asked t o.cls e with classes }) installed
    invalidArgumentName reason
  refine ⟨{ asked t o.cls e with
    classes, journal, memory := t.memory.carrying known.exception (.exception invalidArgumentName reason) },
    _, _, rfl, fun code => ?_⟩
  rw [outcome_respond code live, looked]
  refine outcome_bind_error ?_
  unfold send
  rw [outcome_bind_ok lookup]
  simp only [List.map_cons, List.map_nil, refused, Bool.not_false, if_true]
  rw [outcome_bind_ok described]
  subst told
  exact raised

/-! ### Posts -/

/-- What becomes of a delivery once the delegate has responded. -/
def delivery (code : Code) (d : Address) (handler : String) (v : Value) : Exec Value := do
  ensuring (respond code d handler v) (release d)
  pure .void

theorem outcome_notify_none (this : inv.this = .object p) (live : t.memory.get? p = some o)
    (named : ∀ slot timeout, o.payload = some (.port slot timeout) → t.memory.weak.target? slot = none) :
    ∃ journal, ∀ code, (notifyDelegate code inv e.handler).outcome t = (.ok .void, { t with journal }) := by
  obtain ⟨journal, logged⟩ : ∃ journal, (log .builtins .trace s!"{e.handler} dropped, port {p.text} has no delegate").outcome
      t = (.ok (), { t with journal }) := ⟨_, rfl⟩
  refine ⟨journal, fun code => ?_⟩
  unfold notifyDelegate
  rw [outcome_bind_ok (outcome_object this), outcome_bind_ok (outcome_payloadOf live)]
  dsimp only
  unfold Payload.port?
  split
  · next slot timeout port =>
    split at port
    · next payload =>
      cases port
      rw [outcome_bind_ok (outcome_loadWeak (Memory.loadWeak_of_none (named _ _ payload)))]
      exact (outcome_bind_ok logged).trans (outcome_pure Value.void)
    · cases port
  · rw [outcome_bind_ok (outcome_pure _)]
    exact (outcome_bind_ok logged).trans (outcome_pure Value.void)

theorem outcome_notify_some {timeout : UInt64} (code : Code) (this : inv.this = .object p)
    (live : t.memory.get? p = some o) (port : o.payload = some (.port slot timeout))
    (loaded : t.memory.loadWeak slot = some (some d, m)) : (notifyDelegate code inv e.handler).outcome t =
      (delivery code d e.handler (inv.arg 0)).outcome { t with memory := m } := by
  unfold notifyDelegate
  rw [outcome_bind_ok (outcome_object this), outcome_bind_ok (outcome_payloadOf live), port]
  dsimp only [Payload.port?]
  rw [outcome_bind_ok (outcome_loadWeak loaded)]
  rfl

/-! ### Adapters -/

/-- How the call of a callback ends, out of which nothing unwinds. -/
def sealed (r : Except Interruption Value) : Except Interruption Value :=
  (r.mapError fun i => if i.isFatal then i else .abort).map fun _ => .void

/-- An adapter calls what is in its slot for the event, once. -/
theorem outcome_forward_some {code inner : Code} (ties : Ties code inner) (this : inv.this = .object d)
    (live : t.memory.get? d = some o) {c : Callback} (filled : e.select (Payload.callbackTable o.payload) = some c)
    {r : Except Interruption Value} {u : Machine} (called : (inner (.callback c) inv).outcome t = (r, u)) :
    (code (.builtin e.forward) inv).outcome t = (sealed r, u) := by
  have forwards (slot : Nat) : (forwardEvent inner inv slot e.select).outcome t = (sealed r, u) := by
    unfold forwardEvent
    rw [outcome_bind_ok (outcome_object this), outcome_bind_ok (outcome_payloadOf live), filled]
    dsimp only
    rw [outcome_bind, outcome_confined called]
    cases r <;> rfl
  rw [ties]
  cases e with
  | machMessage => exact forwards 0
  | portMessage => exact forwards 1

theorem outcome_forward_none (this : inv.this = .object d) (live : t.memory.get? d = some o)
    (empty : e.select (Payload.callbackTable o.payload) = none) : ∃ journal, ∀ code inner, Ties code inner →
      (code (.builtin e.forward) inv).outcome t = (.ok .void, { t with journal }) := by
  have forwards (slot : Nat) : ∃ journal, ∀ inner,
      (forwardEvent inner inv slot e.select).outcome t = (.ok .void, { t with journal }) := by
    obtain ⟨journal, logged⟩ : ∃ journal,
        (log .adapter .trace s!"adapter {d.text}: slot {slot} is empty, event {eventText (inv.arg 0)} dropped").outcome t =
          (.ok (), { t with journal }) := ⟨_, rfl⟩
    refine ⟨journal, fun inner => ?_⟩
    unfold forwardEvent
    rw [outcome_bind_ok (outcome_object this), outcome_bind_ok (outcome_payloadOf live), empty]
    exact (outcome_bind_ok logged).trans (outcome_pure Value.void)
  cases e with
  | machMessage =>
    obtain ⟨journal, ends⟩ := forwards 0
    exact ⟨journal, fun code inner ties => by rw [ties]; exact ends inner⟩
  | portMessage =>
    obtain ⟨journal, ends⟩ := forwards 1
    exact ⟨journal, fun code inner ties => by rw [ties]; exact ends inner⟩

end Delivery
end Messaging
