import Messaging.Proofs.Delivery.Posts
import Messaging.Proofs.Delivery.Runs

/-! Events reach the delegate that was named last. On every machine that a run leads to, a post enters the handler of
    the delegate once, or no code at all; the delegate is kept alive until its handler has ended, and loses the
    reference that kept it however that was. -/

namespace Messaging
namespace Delivery
open Exec

variable {start : Nat} {history : List Moment} {s s' : Stage} {t u : Machine} {m : Memory} {p d : Address} {slot : SlotId}
  {e : Event} {v : Value} {sel : Selector} {method h : Method} {outer inner inmost : Code}

/-- A built-in method of an object is found, and takes these arguments. -/
structure Answers (t : Machine) (a : Address) (sel : Selector) (r : BuiltinRoutine) (args : List Value) (method : Method) :
    Prop where
  found : (Receiver.object a).Finds t sel method
  routine : method.routine = .builtin r
  accepted : method.signature.accepts .void (args.map Value.code) = true

/-- What a delegate's handler is called with. -/
def Event.message (e : Event) (t : Machine) (d : Address) (v : Value) : Invocation :=
  ⟨.object d, e.selector t, .void, [v]⟩

/-! ### Machines that differ in what lookups do not see -/

theorem finds_iff : (Receiver.object d).Finds t sel h ↔
    ∃ cls, (t.memory.get? d).map Object.cls = some cls ∧ (t.classes.lookup cls .ofInstances sel).1 = some h := by
  constructor
  · rintro ⟨o, live, found⟩
    exact ⟨o.cls, by rw [live]; rfl, found⟩
  · rintro ⟨cls, known, found⟩
    obtain ⟨o, live, rfl⟩ := Option.map_eq_some_iff.mp known
    exact ⟨o, live, found⟩

theorem cls_retain {n : Memory} {a : Address} (done : m.retain d = some n) :
    (n.get? a).map Object.cls = (m.get? a).map Object.cls := by
  obtain ⟨o, live, rfl⟩ := Memory.retain_eq_some.mp done
  rw [Memory.get?_put]
  split
  · next here =>
    subst here
    rw [live]
    rfl
  · rfl

/-- The machine on which a delegate responds: the port's method is entered, and the delegate loaded. -/
def arrived (t : Machine) (p : Address) (sel : Selector) (m : Memory) : Machine :=
  { (Receiver.object p).entered sel t with memory := m }

theorem selector_arrived (found : (Receiver.object p).Finds t sel method) :
    e.selector (arrived t p sel m) = e.selector t := by
  obtain ⟨_, _, _, _, -, eq, -⟩ := entered_eq found
  unfold arrived Event.selector
  rw [eq]

theorem setup_arrived (found : (Receiver.object p).Finds t sel method) : (arrived t p sel m).setup = t.setup := by
  obtain ⟨_, _, _, _, -, eq, -⟩ := entered_eq found
  unfold arrived
  rw [eq]

/-- Finding the port's method and loading the delegate change nothing about the delegate's methods. -/
theorem finds_arrived (found : (Receiver.object p).Finds t sel method) (retained : t.memory.retain d = some m) :
    (Receiver.object d).Finds (arrived t p sel m) (e.selector (arrived t p sel m)) h ↔
      (Receiver.object d).Finds t (e.selector t) h := by
  rw [selector_arrived found, finds_iff, finds_iff]
  obtain ⟨_, id, kind, classes, rfl, eq, -⟩ := entered_eq found
  have lookup (cls : ClassId) (s : Selector) : ((arrived t p sel m).classes.lookup cls .ofInstances s).1 =
      (t.classes.lookup cls .ofInstances s).1 := by
    unfold arrived
    rw [eq]
    exact ClassTable.lookup_lookup
  simp only [lookup]
  rw [show (arrived t p sel m).memory = m from rfl, cls_retain retained]

/-! ### How a post goes on -/

theorem outcome_post (ties : Ties outer inner) (answers : Answers t p sel e.post [v] method) :
    (send outer (.object p) sel .void [v]).outcome t =
      match (notifyDelegate inner ⟨.object p, sel, .void, [v]⟩ e.handler).outcome ((Receiver.object p).entered sel t) with
      | (.ok x, u) => (.ok (x, method.ownership), u)
      | (.error i, u) => (.error i, u) := by
  have built : BuiltinRoutine.run inner e.post ⟨.object p, sel, .void, [v]⟩ =
      notifyDelegate inner ⟨.object p, sel, .void, [v]⟩ e.handler := by
    cases e <;> rfl
  have sent := outcome_send outer answers.found answers.accepted
  rw [answers.routine, ties, built] at sent
  exact sent

/-- How a post ends: the result of a handler is of no interest. -/
def concluded {α : Type} (own : Ownership) : Except Interruption α → Except Interruption (Value × Ownership)
  | .ok _ => .ok (.void, own)
  | .error i => .error i

/-- A post on a port with a delegate ends as the delegate responds, and gives up the reference in the end. -/
theorem outcome_post_some (ties : Ties outer inner) (answers : Answers t p sel e.post [v] method) {o : Object}
    {timeout : UInt64} (live : t.memory.get? p = some o) (port : o.payload = some (.port slot timeout))
    (loaded : t.memory.loadWeak slot = some (some d, m)) {r : Except Interruption Unit}
    (responded : (respond inner d e.handler v).outcome (arrived t p sel m) = (r, u)) :
    (∀ w, (∀ i, r = .error i → i.isFatal = false) → (release d).outcome u = (.ok (), w) →
      (send outer (.object p) sel .void [v]).outcome t = (concluded method.ownership r, w)) ∧
    ∀ i, r = .error i → i.isFatal = true → (send outer (.object p) sel .void [v]).outcome t = (.error i, u) := by
  have memory := memory_entered answers.found
  have notified : (notifyDelegate inner ⟨.object p, sel, .void, [v]⟩ e.handler).outcome
      ((Receiver.object p).entered sel t) = (delivery inner d e.handler v).outcome (arrived t p sel m) :=
    outcome_notify_some (t := (Receiver.object p).entered sel t) inner rfl (by rw [memory]; exact live) port
      (by rw [memory]; exact loaded)
  rw [outcome_post ties answers, notified]
  unfold delivery
  constructor
  · intro w unwinds released
    cases r with
    | ok x =>
      rw [outcome_bind_ok (outcome_ensuring_ok responded released)]
      rfl
    | error i =>
      rw [outcome_bind_error (outcome_ensuring_error responded (unwinds i rfl) released)]
      rfl
  · rintro i rfl fatal
    rw [outcome_bind_error (outcome_ensuring_fatal responded fatal)]

/-! ### What a post may come to -/

/-- A send ends without running any code that is not built in, with the memory of a stage. -/
def PassedOver (post : Code → Exec (Value × Ownership)) (t : Machine) (own : Ownership) (after : Stage) : Prop :=
  ∃ u : Machine, u.memory = after.memory ∧ ∀ outer inner inmost, Ties outer inner → Ties inner inmost →
    (post outer).outcome t = (.ok (.void, own), u)

/-- A post throws a new exception and runs no code that is not built in. -/
def Refused (post : Code → Exec (Value × Ownership)) (t : Machine) (x : Address) (after : Stage) : Prop :=
  ∃ u : Machine, u.memory = after.memory ∧ ∀ outer inner, Ties outer inner →
    (post outer).outcome t = (.error (.thrown x), u)

/-- A delivery that is on its way: its post is made at the stage `before`, and its handler begins at `begun`. -/
structure Underway where
  before : Stage
  begun : Stage
  port : Address
  delegate : Address

def Underway.moment (x : Underway) : Moment := ⟨x.before, .load x.port x.delegate, x.begun⟩

/-- How a post ends whose handler ended with `r` and left the machine `u`. If that cut the run off nothing more is
    done. Otherwise, if what the handler did are steps of the run, the delegate is given up, and no more. -/
def Underway.Concludes (x : Underway) (start : Nat) (history : List Moment) (own : Ownership)
    (r : Except Interruption Value) (u : Machine) (ended : Except Interruption (Value × Ownership) × Machine) : Prop :=
  (∀ i, r = .error i → i.isFatal = true → ended = (.error i, u)) ∧
  ∀ later w, Run start (later ++ x.moment :: history) w → w.memory = u.memory → x.delegate ∈ w.loaded →
    (∀ i, r = .error i → i.isFatal = false) → ∃ after u', Step w (.letGo x.delegate) after ∧ u'.memory = after.memory ∧
      (∀ a, after.memory.count a + x.begun.memory.count a = w.memory.count a + x.before.memory.count a) ∧
      ended = (concluded own r, u')

/-! ### Posts on a port with a delegate -/

theorem Sound.load (h : Sound s) (named : Delegate s.memory p d) : ∃ o timeout slot m, s.memory.get? p = some o ∧
    o.payload = some (.port slot timeout) ∧ s.memory.loadWeak slot = some (some d, m) ∧ s.memory.retain d = some m ∧
    Step s (.load p d) { s with memory := m, loaded := d :: s.loaded } ∧
    ∀ a, m.count a = s.memory.count a + [d].count a := by
  obtain ⟨slot, ⟨o, timeout, live, payload⟩, named⟩ := named
  obtain ⟨m, loaded, -, counts⟩ := h.balanced.names.loadWeak slot
  rw [named] at loaded counts
  exact ⟨o, timeout, slot, m, live, payload, loaded, (Memory.loadWeak_some_eq_some.mp loaded).2,
    .load p d ⟨o, timeout, live, payload⟩ loaded, counts⟩

theorem Sound.letGo (h : Sound s) (mem : d ∈ s.loaded) : ∃ m, s.memory.release d = some m ∧
    Step s (.letGo d) { s with memory := m, loaded := s.loaded.erase d } ∧
    ∀ a, s.memory.count a = m.count a + [d].count a := by
  obtain ⟨m, done, balanced, -⟩ := (h.balanced.congr (owed_letGo mem)).release
  refine ⟨m, done, .letGo d mem done, fun a => ?_⟩
  rw [h.balanced.accounts.count, balanced.accounts.count, Sound.owed_letGo mem a]

theorem lives_loaded {o : Object} (loaded : t.memory.loadWeak slot = some (some d, m)) (live : t.memory.get? d = some o) :
    ∃ o', m.get? d = some o' ∧ o'.payload = o.payload := by
  obtain ⟨x, alive, rfl⟩ := Memory.retain_eq_some.mp (Memory.loadWeak_some_eq_some.mp loaded).2
  rw [live] at alive
  cases alive
  exact ⟨_, (Memory.get?_put _).trans (if_pos rfl), rfl⟩

theorem lives_arrived (loaded : t.memory.loadWeak slot = some (some d, m)) :
    ∃ o, (arrived t p sel m).memory.get? d = some o := by
  obtain ⟨o, -, rfl⟩ := Memory.retain_eq_some.mp (Memory.loadWeak_some_eq_some.mp loaded).2
  exact ⟨_, (Memory.get?_put _).trans (if_pos rfl)⟩

section
variable {o : Object} {timeout : UInt64} (answers : Answers t p sel e.post [v] method) (live : t.memory.get? p = some o)
  (port : o.payload = some (.port slot timeout)) (loaded : t.memory.loadWeak slot = some (some d, m))
include answers live port loaded

theorem post_without_handler (lacks : ∀ h, ¬(Receiver.object d).Finds t (e.selector t) h) {n : Memory}
    (done : m.release d = some n) : ∃ u : Machine, u.memory = n ∧ ∀ outer inner, Ties outer inner →
      (send outer (.object p) sel .void [v]).outcome t = (.ok (.void, method.ownership), u) := by
  have retained := (Memory.loadWeak_some_eq_some.mp loaded).2
  obtain ⟨x, alive⟩ := lives_arrived loaded
  have none : ((arrived t p sel m).classes.lookup x.cls .ofInstances (e.selector (arrived t p sel m))).1 = none := by
    refine Option.eq_none_iff_forall_ne_some.mpr fun h found => ?_
    exact lacks h ((finds_arrived answers.found retained).mp ⟨x, alive, found⟩)
  obtain ⟨u, same, responded⟩ := outcome_respond_none (v := v) alive none
  obtain ⟨journal, released⟩ := outcome_release (s := u) (by rw [same]; exact done)
  refine ⟨{ u with memory := n, journal }, rfl, fun outer inner ties => ?_⟩
  exact (outcome_post_some ties answers live port loaded (responded inner)).1 _ nofun released

theorem post_refused {known : Builtins} (found : (Receiver.object d).Finds t (e.selector t) h)
    (refused : h.signature.accepts .void [v.code] = false) (installed : t.setup.builtins = some known) :
    ∃ name reason, ∀ n, (m.carrying known.exception (.exception name reason)).release d = some n →
      ∃ u : Machine, u.memory = n ∧ ∀ outer inner, Ties outer inner →
        (send outer (.object p) sel .void [v]).outcome t = (.error (.thrown m.heap.fresh), u) := by
  have retained := (Memory.loadWeak_some_eq_some.mp loaded).2
  obtain ⟨u, name, reason, same, responded⟩ := outcome_respond_refused (t := arrived t p sel m)
    ((finds_arrived answers.found retained).mpr found) refused
    ((congrArg Setup.builtins (setup_arrived answers.found)).trans installed)
  refine ⟨name, reason, fun n done => ?_⟩
  obtain ⟨journal, released⟩ := outcome_release (s := u) (by rw [same]; exact done)
  refine ⟨{ u with memory := n, journal }, rfl, fun outer inner ties => ?_⟩
  refine (outcome_post_some ties answers live port loaded (responded inner)).1 _ (fun i same => ?_) released
  cases same
  rfl

/-- A delegate's method is entered once, and the post ends as it does once the delegate is given up. -/
theorem post_handled (found : (Receiver.object d).Finds t (e.selector t) h)
    (accepted : h.signature.accepts .void [v.code] = true) : ∃ entry : Machine, entry.memory = m ∧
      ∀ outer inner, Ties outer inner → ∀ r u, (inner h.routine (e.message t d v)).outcome entry = (r, u) →
        (∀ w, (∀ i, r = .error i → i.isFatal = false) → (release d).outcome u = (.ok (), w) →
          (send outer (.object p) sel .void [v]).outcome t = (concluded method.ownership r, w)) ∧
        ∀ i, r = .error i → i.isFatal = true → (send outer (.object p) sel .void [v]).outcome t = (.error i, u) := by
  have retained := (Memory.loadWeak_some_eq_some.mp loaded).2
  obtain ⟨entry, same, responds⟩ := outcome_respond_accepted (t := arrived t p sel m)
    ((finds_arrived answers.found retained).mpr found) accepted
  refine ⟨entry, same, fun outer inner ties r u ended => ?_⟩
  have responded := responds inner
  have message : (inner h.routine ⟨.object d, e.selector (arrived t p sel m), .void, [v]⟩).outcome entry = (r, u) := by
    rw [selector_arrived answers.found]
    exact ended
  rw [message] at responded
  cases r with
  | ok x =>
    obtain ⟨ends, -⟩ := outcome_post_some ties answers live port loaded responded
    exact ⟨fun w _ released => ends w nofun released, nofun⟩
  | error i =>
    obtain ⟨ends, cut⟩ := outcome_post_some ties answers live port loaded responded
    refine ⟨fun w unwinds released => ends w (fun j same => ?_) released, fun j same fatal => cut j ?_ fatal⟩
    · cases same
      exact unwinds i rfl
    · cases same
      rfl

end

/-! ### Whole runs -/

theorem Run.concludes {x : Underway} {own : Ownership} {r : Except Interruption Value}
    {ended : Except Interruption (Value × Ownership) × Machine}
    (counts : ∀ a, x.begun.memory.count a = x.before.memory.count a + [x.delegate].count a)
    (ends : ∀ w, (∀ i, r = .error i → i.isFatal = false) → (release x.delegate).outcome u = (.ok (), w) →
      ended = (concluded own r, w))
    (cut : ∀ i, r = .error i → i.isFatal = true → ended = (.error i, u)) : x.Concludes start history own r u ended := by
  refine ⟨cut, fun later w run same mem unwinds => ?_⟩
  obtain ⟨n, done, step, fewer⟩ := run.sound.letGo mem
  obtain ⟨journal, released⟩ := outcome_release (s := u) (by rw [← same]; exact done)
  refine ⟨_, { u with memory := n, journal }, step, rfl, fun a => ?_, ends _ unwinds released⟩
  have := counts a
  have := fewer a
  dsimp only
  omega

/-- Naming a delegate for a port is a step of a run, and changes no count. -/
theorem Run.setDelegate (run : Run start history s) (same : t.memory = s.memory) {target : Option Address}
    (answers : Answers t p sel .portSetDelegate [.object target] method)
    (lives : ∀ d, target = some d → (s.memory.get? d).isSome) : ∃ after, Step s (.setDelegate p target) after ∧
      (∀ a, after.memory.count a = s.memory.count a) ∧
      PassedOver (fun code => send code (.object p) sel .void [.object target]) t method.ownership after := by
  have sound := run.sound
  have memory := memory_entered answers.found
  obtain ⟨o, live, -⟩ := answers.found
  have enters (outer inner : Code) (ties : Ties outer inner) {u : Machine}
      (sets : (BuiltinRoutine.portSetDelegate.run inner ⟨.object p, sel, .void, [.object target]⟩).outcome
        ((Receiver.object p).entered sel t) = (.ok .void, u)) :
      (send outer (.object p) sel .void [.object target]).outcome t = (.ok (.void, method.ownership), u) := by
    rw [outcome_send outer answers.found answers.accepted, answers.routine, ties, sets]
  cases port : Payload.port? o.payload with
  | none =>
    have blank (slot : SlotId) : ¬HasSlot s.memory p slot := by
      rintro ⟨o', timeout, live', payload⟩
      rw [← same, live] at live'
      cases live'
      rw [payload] at port
      cases port
    refine ⟨s, .setNothing p target blank, fun _ => rfl, (Receiver.object p).entered sel t, by rw [memory, same],
      fun outer inner _ ties _ => enters outer inner ties ?_⟩
    exact outcome_setDelegate_blank inner rfl (by rw [memory]; exact live) port
  | some known =>
    obtain ⟨slot, timeout⟩ := known
    have payload : o.payload = some (.port slot timeout) := by
      unfold Payload.port? at port
      split at port
      · next payload =>
        cases port
        exact payload
      · cases port
    obtain ⟨m, done, balanced, -⟩ := sound.balanced.storeWeak slot fun a named =>
      (sound.balanced.accounts.isSome_iff a).mp (lives a named)
    refine ⟨{ s with memory := m }, .setDelegate p target ⟨o, timeout, by rw [← same]; exact live, payload⟩ done, fun a => ?_,
      { (Receiver.object p).entered sel t with memory := m }, rfl, fun outer inner _ ties _ => enters outer inner ties ?_⟩
    · show m.count a = s.memory.count a
      rw [balanced.accounts.count, sound.balanced.accounts.count]
    · exact outcome_setDelegate inner rfl (by rw [memory]; exact live) payload (by rw [memory, same]; exact done)

theorem Run.post_dropped (run : Run start history s) (same : t.memory = s.memory)
    (answers : Answers t p sel e.post [v] method) (unnamed : ∀ d, ¬Names history p d) :
    PassedOver (fun code => send code (.object p) sel .void [v]) t method.ownership s := by
  have memory := memory_entered answers.found
  obtain ⟨o, live, -⟩ := answers.found
  obtain ⟨journal, dropped⟩ : ∃ journal, ∀ code, (notifyDelegate code ⟨.object p, sel, .void, [v]⟩ e.handler).outcome
      ((Receiver.object p).entered sel t) = (.ok .void, { (Receiver.object p).entered sel t with journal }) :=
    outcome_notify_none rfl (by rw [memory]; exact live) fun slot timeout payload => by
      rw [memory, same]
      refine Option.eq_none_iff_forall_ne_some.mpr fun d named => unnamed d (run.names_iff.mpr ?_)
      exact ⟨slot, ⟨o, timeout, by rw [← same]; exact live, payload⟩, named⟩
  refine ⟨{ (Receiver.object p).entered sel t with journal }, by rw [← same, ← memory], fun outer inner _ ties _ => ?_⟩
  dsimp only
  rw [outcome_post ties answers, dropped inner]

/-- A refused post throws a new object, which is a new reference for whoever catches it. -/
theorem Run.post_refused {begun : Stage} {known : Builtins} (run : Run start history begun) (mem : d ∈ begun.loaded)
    {post : Code → Exec (Value × Ownership)}
    (ends : ∃ name reason, ∀ n, (begun.memory.carrying known.exception (.exception name reason)).release d = some n →
      ∃ u : Machine, u.memory = n ∧ ∀ outer inner, Ties outer inner →
        (post outer).outcome t = (.error (.thrown begun.memory.heap.fresh), u)) :
    ∃ x after, begun.memory.get? x = none ∧ (∃ later, Run start (later ++ history) after) ∧
      after.owned = x :: begun.owned ∧ after.loaded = begun.loaded.erase d ∧
      after.memory.pools = begun.memory.pools ∧ (∀ a, a ≠ x → begun.memory.count a = after.memory.count a + [d].count a) ∧ Refused post t x after := by
  obtain ⟨name, reason, ends⟩ := ends
  have free := run.sound.balanced.fresh_free
  have placed := run.step (.place begun.memory.heap.fresh known.exception free (Nat.le_refl _))
  have thrown := placed.step (.attach begun.memory.heap.fresh (.exception name reason) nofun (Memory.attach_place _ _))
  obtain ⟨n, done, step, fewer⟩ := thrown.sound.letGo mem
  obtain ⟨u, left, refused⟩ := ends n done
  have pools : n.pools = (begun.memory.carrying known.exception (.exception name reason)).pools :=
    Memory.pools_release done
  refine ⟨begun.memory.heap.fresh, _, free, ⟨[_, _, _], thrown.step step⟩, rfl, rfl, pools, fun a other => ?_, u, left,
    refused⟩
  rw [← fewer a]
  show _ = (begun.memory.carrying _ _).count a
  rw [Memory.carrying, Memory.count_put, Memory.count_place, if_neg (Ne.symm other), if_neg (Ne.symm other)]

/-- On every machine that a run leads to, naming a delegate changes no count. A post on a port comes to nothing if no
    object that lives was the last to be named as its delegate since it was initialized. Otherwise the delegate gets
    a reference, which it loses at the end, and of what it has for the event at most one method is entered, once: a
    method with the types of the event is entered with the event; one with other types is not, and an exception is
    thrown; and where there is none the post comes to nothing. An adapter calls what is in its slot for the event,
    once, or nothing. As long as a handler runs its delegate lives, and when it has ended, also with a throw or a
    panic, all counts differ from those before the post by what the handler did. -/
theorem events_reach_the_named_delegate (run : Run start history s) (same : t.memory = s.memory) :
    (∀ d ∈ s.loaded, (s.memory.get? d).isSome) ∧
    (∀ p target sel method, Answers t p sel .portSetDelegate [.object target] method →
      (∀ d, target = some d → (s.memory.get? d).isSome) → ∃ after, Step s (.setDelegate p target) after ∧
        (∀ a, after.memory.count a = s.memory.count a) ∧
        PassedOver (fun code => send code (.object p) sel .void [.object target]) t method.ownership after) ∧
    ∀ (e : Event) p v sel method, Answers t p sel e.post [v] method →
      ((∀ d, ¬Names history p d) → PassedOver (fun code => send code (.object p) sel .void [v]) t method.ownership s) ∧
      ∀ d, Names history p d → ∃ begun, Step s (.load p d) begun ∧
        (∀ a, begun.memory.count a = s.memory.count a + [d].count a) ∧
        ((∀ h, ¬(Receiver.object d).Finds t (e.selector t) h) → ∃ after, Step begun (.letGo d) after ∧
          (∀ a, after.memory.count a = s.memory.count a) ∧
          PassedOver (fun code => send code (.object p) sel .void [v]) t method.ownership after) ∧
        ∀ h, (Receiver.object d).Finds t (e.selector t) h →
          (h.signature.accepts .void [v.code] = false → ∀ known, t.setup.builtins = some known → ∃ x after,
            begun.memory.get? x = none ∧ (∃ later, Run start (later ++ ⟨s, .load p d, begun⟩ :: history) after) ∧
            after.owned = x :: s.owned ∧ after.loaded = s.loaded ∧ after.memory.pools = s.memory.pools ∧
            (∀ a, a ≠ x → after.memory.count a = s.memory.count a) ∧ Refused (fun code => send code (.object p) sel .void [v]) t x after) ∧
          (h.signature.accepts .void [v.code] = true →
            (∃ entry : Machine, entry.memory = begun.memory ∧ ∀ outer inner, Ties outer inner →
              ∀ r u, (inner h.routine (e.message t d v)).outcome entry = (r, u) →
                (Underway.mk s begun p d).Concludes start history method.ownership r u
                  ((send outer (.object p) sel .void [v]).outcome t)) ∧
            (h.routine = .builtin e.forward → ∀ o, s.memory.get? d = some o →
              (e.select (Payload.callbackTable o.payload) = none → ∃ after, Step begun (.letGo d) after ∧
                (∀ a, after.memory.count a = s.memory.count a) ∧
                PassedOver (fun code => send code (.object p) sel .void [v]) t method.ownership after) ∧
              ∀ c, e.select (Payload.callbackTable o.payload) = some c → ∃ entry : Machine, entry.memory = begun.memory ∧
                ∀ outer inner inmost, Ties outer inner → Ties inner inmost →
                  ∀ r u, (inmost (.callback c) (e.message t d v)).outcome entry = (r, u) →
                    (Underway.mk s begun p d).Concludes start history method.ownership (sealed r) u
                      ((send outer (.object p) sel .void [v]).outcome t))) := by
  have sound := run.sound
  refine ⟨fun d mem => ?_, fun p target sel method answers lives => run.setDelegate same answers lives,
    fun e p v sel method answers => ⟨run.post_dropped same answers, fun d named => ?_⟩⟩
  · refine (sound.balanced.accounts.isSome_iff d).mpr ?_
    have := List.count_pos_iff.mpr mem
    unfold Stage.owed
    omega
  obtain ⟨o, timeout, slot, m, live, port, loaded, retained, step, counts⟩ := sound.load (run.names_iff.mp named)
  rw [← same] at live loaded
  have begun := run.step step
  obtain ⟨n, done, letGo, fewer⟩ := begun.sound.letGo List.mem_cons_self
  -- The reference that the load takes is the one that is given up, so a post without a handler changes no count.
  have restored (a : Address) : n.count a = s.memory.count a := by
    have := counts a
    have : m.count a = n.count a + [d].count a := fewer a
    omega
  refine ⟨_, step, counts, fun lacks => ⟨_, letGo, restored, ?_⟩, fun h found => ⟨fun refused known installed => ?_,
    fun accepted => ⟨?_, fun forwards o' alive => ⟨fun empty => ⟨_, letGo, restored, ?_⟩, fun c filled => ?_⟩⟩⟩⟩
  · -- The delegate does not respond.
    obtain ⟨u, left, passes⟩ := post_without_handler answers live port loaded lacks done
    exact ⟨u, left, fun outer inner _ ties _ => passes outer inner ties⟩
  · -- Its method takes other types.
    obtain ⟨x, after, free, later, owned, rest, pools, others, refuses⟩ := begun.post_refused List.mem_cons_self
      (post_refused answers live port loaded found refused installed)
    refine ⟨x, after, free, later, owned, ?_, pools.trans (Memory.pools_retain retained), fun a other => ?_, refuses⟩
    · rw [rest]
      exact List.erase_cons_head _ _
    · have := others a other
      have := counts a
      dsimp only at *
      omega
  · -- Its method is entered.
    obtain ⟨entry, entered, ends⟩ := post_handled answers live port loaded found accepted
    refine ⟨entry, entered, fun outer inner ties r u ended => ?_⟩
    obtain ⟨goes, cut⟩ := ends outer inner ties r u ended
    exact Run.concludes counts goes cut
  · -- That is the method of adapters, and the slot for the event is empty.
    obtain ⟨entry, entered, ends⟩ := post_handled answers live port loaded found accepted
    obtain ⟨o₁, alive₁, payload⟩ := lives_loaded loaded (by rw [same]; exact alive)
    obtain ⟨journal, forwarded⟩ : ∃ journal, ∀ code inner, Ties code inner →
        (code (.builtin e.forward) (e.message t d v)).outcome entry = (.ok .void, { entry with journal }) :=
      outcome_forward_none rfl (by rw [entered]; exact alive₁) (by rw [payload]; exact empty)
    obtain ⟨journal', released⟩ := outcome_release (s := { entry with journal }) (by rw [← entered] at done; exact done)
    refine ⟨{ entry with memory := n, journal := journal' }, rfl, fun outer inner inmost ties nested => ?_⟩
    obtain ⟨goes, -⟩ := ends outer inner ties (.ok .void) _ (by rw [forwards]; exact forwarded inner inmost nested)
    exact goes _ nofun released
  · -- The slot has a callback, which confines what it throws.
    obtain ⟨entry, entered, ends⟩ := post_handled answers live port loaded found accepted
    obtain ⟨o₁, alive₁, payload⟩ := lives_loaded loaded (by rw [same]; exact alive)
    refine ⟨entry, entered, fun outer inner inmost ties nested r u called => ?_⟩
    have forwarded : (inner (.builtin e.forward) (e.message t d v)).outcome entry = (sealed r, u) :=
      outcome_forward_some nested rfl (by rw [entered]; exact alive₁) (by rw [payload]; exact filled) called
    obtain ⟨goes, cut⟩ := ends outer inner ties (sealed r) u (by rw [forwards]; exact forwarded)
    exact Run.concludes counts goes cut

/-! ### One port, one adapter -/

namespace Pair

def port : Address := ⟨0x40⟩

def adapter : Address := ⟨0x80⟩

def handler : Selector := (SelectorTable.empty.register "handleMachMessage:").1

def posting : Selector := ⟨1, "postMachMessage:", 1⟩

def takes (selector : Selector) (r : BuiltinRoutine) : Method :=
  ⟨selector, .builtin r, .ofInstance .void [.pointer], .notRetained⟩

def classes : ClassTable :=
  ⟨[{ ClassEntry.fresh ⟨1⟩ "Adapter" none with
        instanceMethods := FiniteMap.empty.insert handler (takes handler .adapterMachMessage) },
    { ClassEntry.fresh ⟨0⟩ "Port" none with
        instanceMethods := FiniteMap.empty.insert posting (takes posting .portPostMachMessage) }], 1⟩

def machine (m : Memory) : Machine := { Machine.fresh 0 none (.fresh false false) with classes, memory := m }

theorem posting_found : (classes.lookup ⟨0⟩ .ofInstances posting).1 = some (takes posting .portPostMachMessage) := by
  decide +kernel

theorem handler_found : (classes.lookup ⟨1⟩ .ofInstances handler).1 = some (takes handler .adapterMachMessage) := by
  decide +kernel

/-- The port names the adapter, which has a callback for mach messages. -/
theorem named : ∃ history s, Run 0 history s ∧ Names history port adapter ∧
    (s.memory.get? port).map Object.cls = some ⟨0⟩ ∧
    s.memory.get? adapter = some ⟨⟨1⟩, 1, some (.callbacks ⟨some .first, none⟩), true⟩ := by
  have initialized : Run 0 _ _ := (Run.start.step (.place port ⟨0⟩ rfl (by decide))).step (.initPort port rfl (Or.inl rfl) rfl)
  have made : Run 0 _ _ := (initialized.step (.place adapter ⟨1⟩ rfl (by decide))).step
    (.attach adapter (.callbacks ⟨some .first, none⟩) nofun rfl)
  have run : Run 0 _ _ := made.step (.setDelegate port (some adapter) ⟨_, _, rfl, rfl⟩ rfl)
  refine ⟨_, _, run, names_cons.mpr (Or.inl ⟨rfl, ?_⟩), rfl, rfl⟩
  exact made.initialized_iff.mpr ⟨_, _, _, rfl, rfl⟩

end Pair

open Pair in
/-- The callback is called once, and in the end the maker of the adapter owns its only reference again. -/
theorem adapter_gets_its_event : ∃ history s, Run 0 history s ∧ Names history port adapter ∧ s.memory.count adapter = 1 ∧
    ∃ entry : Machine, entry.memory.count adapter = 2 ∧ ∀ outer inner inmost, Ties outer inner → Ties inner inmost →
      (inmost (.callback .first) ⟨.object adapter, handler, .void, [.pointer 5]⟩).outcome entry = (.ok .void, entry) →
      ∃ u, (send outer (.object port) posting .void [.pointer 5]).outcome (machine s.memory) =
        (.ok (.void, .notRetained), u) ∧ u.memory.count adapter = 1 := by
  obtain ⟨history, s, run, names, cls, alive⟩ := named
  have answers : Answers (machine s.memory) port posting Event.machMessage.post [.pointer 5]
      (takes posting .portPostMachMessage) := ⟨finds_iff.mpr ⟨⟨0⟩, cls, posting_found⟩, rfl, rfl⟩
  have found : (Receiver.object adapter).Finds (machine s.memory) (Event.machMessage.selector (machine s.memory))
      (takes handler .adapterMachMessage) := ⟨_, alive, handler_found⟩
  obtain ⟨-, -, posts⟩ := events_reach_the_named_delegate run (t := machine s.memory) rfl
  obtain ⟨-, delivers⟩ := posts .machMessage port (.pointer 5) posting _ answers
  obtain ⟨begun, step, counts, -, handles⟩ := delivers adapter names
  obtain ⟨-, responds⟩ := handles _ found
  obtain ⟨-, forwards⟩ := responds rfl
  obtain ⟨-, calls⟩ := forwards rfl _ alive
  obtain ⟨entry, entered, concludes⟩ := calls .first rfl
  have once : s.memory.count adapter = 1 := Memory.count_of_get? alive
  have twice : entry.memory.count adapter = 2 := by
    rw [entered, counts, once]
    rfl
  refine ⟨history, s, run, names, once, entry, twice, fun outer inner inmost ties nested called => ?_⟩
  obtain ⟨-, ends⟩ := concludes outer inner inmost ties nested (.ok .void) entry called
  have mem : adapter ∈ begun.loaded := by
    cases step
    exact List.mem_cons_self
  obtain ⟨after, u, -, left, fewer, ended⟩ := ends [] begun (run.step step) entered.symm mem nofun
  refine ⟨u, ended, ?_⟩
  have := fewer adapter
  have := counts adapter
  rw [left]
  dsimp only at *
  omega

end Delivery
end Messaging
