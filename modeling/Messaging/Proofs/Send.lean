import Messaging.Proofs.Lifetime
import Messaging.Send

/-! A send that finds a method and passes the comparison of types enters the code of that method, once, on a
    machine with the same memory. What the code does is then what the send does. -/

namespace Messaging
open Exec
variable {s : Machine} {r : Receiver} {selector : Selector} {m : Method}

/-- The method that a selector finds on a receiver. An object must live to be asked. -/
def Receiver.Finds (r : Receiver) (s : Machine) (selector : Selector) (m : Method) : Prop :=
  match r with
  | object a => ∃ o, s.memory.get? a = some o ∧ (s.classes.lookup o.cls .ofInstances selector).1 = some m
  | cls id => (s.classes.lookup id .ofClass selector).1 = some m

theorem Receiver.Finds.congr {t : Machine} (h : r.Finds s selector m) (heap : t.memory.heap = s.memory.heap)
    (classes : t.classes = s.classes) : r.Finds t selector m := by
  cases r with
  | object a =>
    obtain ⟨o, live, found⟩ := h
    exact ⟨o, by rwa [Memory.get?, heap], classes ▸ found⟩
  | cls id =>
    show (t.classes.lookup id .ofClass selector).1 = some m
    rw [classes]
    exact h

/-- What is found is remembered, and nothing else changes. -/
theorem outcome_lookup (h : r.Finds s selector m) : ∃ id kind, (r.lookup selector).outcome s =
    (.ok (some m), { s with classes := (s.classes.lookup id kind selector).2 }) := by
  cases r with
  | object a =>
    obtain ⟨o, live, found⟩ := h
    refine ⟨o.cls, .ofInstances, ?_⟩
    unfold Receiver.lookup
    rw [outcome_bind_ok (outcome_classOf live), ← found]
    rfl
  | cls id =>
    have found : (s.classes.lookup id .ofClass selector).1 = some m := h
    refine ⟨id, .ofClass, ?_⟩
    rw [← found]
    rfl

theorem Receiver.Finds.lives (h : r.Finds s selector m) (a : Address) (same : r = .object a) :
    ∃ o, s.memory.get? a = some o := by
  subst same
  obtain ⟨o, live, -⟩ := h
  exact ⟨o, live⟩

theorem outcome_describe (classes : ClassTable) (selector : Selector)
    (lives : ∀ a, r = .object a → ∃ o, s.memory.get? a = some o) :
    ∃ text, (r.describe selector).outcome { s with classes } = (.ok text, { s with classes }) := by
  cases r with
  | object a =>
    obtain ⟨o, live⟩ := lives a rfl
    unfold Receiver.describe
    rw [outcome_bind_ok (outcome_classOf (s := { s with classes }) live)]
    exact ⟨_, rfl⟩
  | cls id => exact ⟨_, rfl⟩

/-- An object that lives, or a class, can always be asked for a method. -/
theorem outcome_lookup_or (selector : Selector) (lives : ∀ a, r = .object a → ∃ o, s.memory.get? a = some o) :
    ∃ found classes text, (∀ m, found = some m → r.Finds s selector m) ∧
      (r.lookup selector).outcome s = (.ok found, { s with classes }) ∧
      (r.describe selector).outcome { s with classes } = (.ok text, { s with classes }) := by
  cases r with
  | object a =>
    obtain ⟨o, live⟩ := lives a rfl
    obtain ⟨text, described⟩ := outcome_describe (s.classes.lookup o.cls .ofInstances selector).2 selector lives
    refine ⟨(s.classes.lookup o.cls .ofInstances selector).1, _, text, fun m same => ⟨o, live, same⟩, ?_, described⟩
    unfold Receiver.lookup
    rw [outcome_bind_ok (outcome_classOf live)]
    rfl
  | cls id => exact ⟨_, _, _, fun m found => found, rfl, rfl⟩

/-- The machine on which the code of a method is entered: the lookup is remembered, and the send may be in the
    journal. -/
def Receiver.entered (r : Receiver) (selector : Selector) (s : Machine) : Machine :=
  Exec.outcome (do
    let _ ← r.lookup selector
    log .dispatch .trace s!"send {← r.describe selector}") s |>.2

theorem entered_eq (h : r.Finds s selector m) : ∃ text id kind classes,
    classes = (s.classes.lookup id kind selector).2 ∧
    r.entered selector s =
      { s with classes, journal := s.journal.record .trace Log.Origin.dispatch.path s!"send {text}" } ∧
    (r.lookup selector).outcome s = (.ok (some m), { s with classes }) ∧
    (r.describe selector).outcome { s with classes } = (.ok text, { s with classes }) := by
  obtain ⟨id, kind, looked⟩ := outcome_lookup h
  obtain ⟨text, described⟩ := outcome_describe (s.classes.lookup id kind selector).2 selector h.lives
  refine ⟨text, id, kind, _, rfl, ?_, looked, described⟩
  unfold Receiver.entered
  rw [outcome_bind_ok looked, outcome_bind_ok described, outcome_log]

theorem memory_entered (h : r.Finds s selector m) : (r.entered selector s).memory = s.memory := by
  obtain ⟨_, _, _, _, _, eq, -⟩ := entered_eq h
  rw [eq]

/-- The code of the method is entered, with the memory as it was, and the send ends as the code does. -/
theorem outcome_send (code : Code) {ret : TypeCode} {args : List Value} (found : r.Finds s selector m)
    (accepted : m.signature.accepts ret (args.map Value.code) = true) :
    (send code r selector ret args).outcome s =
      match (code m.routine ⟨r, selector, ret, args⟩).outcome (r.entered selector s) with
      | (.ok v, u) => (.ok (v, m.ownership), u)
      | (.error i, u) => (.error i, u) := by
  obtain ⟨text, _, _, classes, -, eq, looked, described⟩ := entered_eq found
  rw [eq]
  unfold send
  rw [outcome_bind_ok looked]
  simp only [accepted, Bool.not_true, Bool.false_eq_true, if_false]
  rw [outcome_bind_ok described, outcome_bind_ok (outcome_log _ _ _), outcome_bind]
  generalize (code m.routine ⟨r, selector, ret, args⟩).outcome _ = ended
  rcases ended with ⟨_ | _, u⟩ <;> rfl

end Messaging
