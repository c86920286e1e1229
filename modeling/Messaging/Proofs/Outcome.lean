import Messaging.Unwind

/-! Outcomes of computations. A computation is read as a function from the machine it starts on to its
    result, or what interrupted it, and the machine it leaves. The operations on objects and pools only
    touch the memory and the journal, and what they do to the memory is an operation of `Memory`. -/

namespace Messaging
namespace Exec
variable {α β : Type} {s t : Machine}

@[simp] theorem outcome_pure (a : α) : (pure a : Exec α).outcome s = (.ok a, s) := rfl

@[simp] theorem outcome_throw (i : Interruption) : (throw i : Exec α).outcome s = (.error i, s) := rfl

@[simp] theorem outcome_get : (get : Exec Machine).outcome s = (.ok s, s) := rfl

@[simp] theorem outcome_set : (set t : Exec PUnit).outcome s = (.ok ⟨⟩, t) := rfl

theorem outcome_modifyGet (f : Machine → α × Machine) : (modifyGet f : Exec α).outcome s = (.ok (f s).1, (f s).2) := rfl

@[simp] theorem outcome_attempt (x : Exec α) : (attempt x).outcome s = (.ok (x.outcome s).1, (x.outcome s).2) := rfl

theorem outcome_bind (x : Exec α) (f : α → Exec β) :
    (x >>= f).outcome s = match x.outcome s with
      | (.ok a, t) => (f a).outcome t
      | (.error i, t) => (.error i, t) := by
  show (ExceptT.bindCont f (x.outcome s).1).run (x.outcome s).2 = _
  rcases x.outcome s with ⟨_ | _, t⟩ <;> rfl

theorem outcome_bind_ok {x : Exec α} {f : α → Exec β} {a : α} (h : x.outcome s = (.ok a, t)) :
    (x >>= f).outcome s = (f a).outcome t := by
  rw [outcome_bind, h]

theorem outcome_bind_error {x : Exec α} {f : α → Exec β} {i : Interruption} (h : x.outcome s = (.error i, t)) :
    (x >>= f).outcome s = (.error i, t) := by
  rw [outcome_bind, h]

/-- That a result is dropped makes no difference to the machine. -/
theorem machine_dropped (x : Exec α) : ((do let _ ← x : Exec Unit).outcome s).2 = (x.outcome s).2 := by
  rw [outcome_bind]
  generalize x.outcome s = ended
  obtain ⟨r, t⟩ := ended
  cases r <;> rfl

theorem outcome_log (origin : Log.Origin) (level : Log.Level) (text : String) :
    (log origin level text).outcome s = (.ok (), { s with journal := s.journal.record level origin.path text }) := rfl

/-- Nothing adopts a protocol that is not there. -/
theorem outcome_adoptProtocol_none {id : ClassId} {p : ProtocolId} (absent : s.protocols.get? p = none) :
    (adoptProtocol id p).outcome s = (.ok (.ok ()), s) := by
  unfold adoptProtocol
  rw [outcome_modifyGet]
  simp only [absent]

theorem outcome_adoptProtocol_some {id : ClassId} {p : ProtocolId} {protocol : Protocol}
    (found : s.protocols.get? p = some protocol) : (adoptProtocol id p).outcome s =
      (.ok (s.classes.adopt id protocol).1, { s with classes := (s.classes.adopt id protocol).2 }) := by
  unfold adoptProtocol
  rw [outcome_modifyGet]
  simp only [found]

/-- A name that is taken leaves everything as it is. -/
theorem outcome_createClass_taken {name : String} (taken : (s.classes.named? name).isSome) (superclass : Option ClassId) :
    (createClass name superclass).outcome s = (.ok (.error (.classAlreadyExists name)), s) := by
  obtain ⟨e, found⟩ := Option.isSome_iff_exists.mp taken
  unfold createClass ClassTable.create
  rw [outcome_bind_ok outcome_get, found]
  rfl

theorem outcome_createClass_free {name : String} (free : s.classes.named? name = none) (superclass : Option ClassId) :
    (createClass name superclass).outcome s = (.ok (.ok ⟨s.classes.entries.length⟩), { s with classes := { s.classes with
      entries := .fresh ⟨s.classes.entries.length⟩ name superclass :: s.classes.entries } }) := by
  unfold createClass ClassTable.create
  rw [outcome_bind_ok outcome_get, free]
  rfl

theorem outcome_createProtocol (name : String) :
    ∃ r protocols, (createProtocol name).outcome s = (.ok r, { s with protocols }) := by
  unfold createProtocol
  rw [outcome_bind_ok outcome_get]
  split <;> exact ⟨_, _, rfl⟩

/-- What the environment asks for concerns the journal alone. -/
theorem outcome_readEnvironment (s : Machine) : ∃ journal, readEnvironment.outcome s =
    (.ok (), { s with journal, setup := { s.setup with environmentRead := true } }) := by
  unfold readEnvironment
  rw [outcome_bind_ok outcome_get]
  split
  · rw [outcome_bind_ok outcome_set]
    split
    · exact ⟨s.journal, rfl⟩
    · split <;> exact ⟨_, rfl⟩
  · next read =>
    rw [Bool.not_eq_true', Bool.not_eq_false] at read
    exact ⟨s.journal, by rw [← read]; rfl⟩

/-- A computation that ends with a result is tidied up after, and the result stays. -/
theorem outcome_ensuring_ok {x : Exec α} {tidy : Exec Unit} {a : α} {u : Machine} (hx : x.outcome s = (.ok a, t))
    (ht : tidy.outcome t = (.ok (), u)) : (ensuring x tidy).outcome s = (.ok a, u) := by
  unfold ensuring
  rw [outcome_bind_ok (outcome_attempt x), hx]
  dsimp only
  rw [outcome_bind_ok ht, outcome_pure]

/-- What unwinds is tidied up after, and goes on. -/
theorem outcome_ensuring_error {x : Exec α} {tidy : Exec Unit} {i : Interruption} {u : Machine}
    (hx : x.outcome s = (.error i, t)) (unwinds : i.isFatal = false) (ht : tidy.outcome t = (.ok (), u)) :
    (ensuring x tidy).outcome s = (.error i, u) := by
  unfold ensuring
  rw [outcome_bind_ok (outcome_attempt x), hx]
  simp only [unwinds, Bool.not_false, if_true]
  rw [outcome_bind_ok ht, outcome_throw]

theorem outcome_ensuring_fatal {x : Exec α} {tidy : Exec Unit} {i : Interruption} (hx : x.outcome s = (.error i, t))
    (fatal : i.isFatal = true) : (ensuring x tidy).outcome s = (.error i, t) := by
  unfold ensuring
  rw [outcome_bind_ok (outcome_attempt x), hx]
  simp only [fatal]
  rfl

/-- Nothing unwinds out of a confined frame. -/
theorem outcome_confined {x : Exec α} {r : Except Interruption α} (hx : x.outcome s = (r, t)) : (confined x).outcome s =
    (r.mapError fun i => if i.isFatal then i else .abort, t) := by
  unfold confined
  rw [outcome_bind_ok (outcome_attempt x), hx]
  cases r <;> rfl

theorem outcome_catchThrown_ok {x : Exec α} {a : α} (hx : x.outcome s = (.ok a, t)) :
    (catchThrown x).outcome s = (.ok (.ok a), t) := by
  unfold catchThrown
  rw [outcome_bind_ok (outcome_attempt x), hx]
  rfl

/-- What is thrown in a guarded region is its result. -/
theorem outcome_catchThrown_thrown {x : Exec α} {a : Address} (hx : x.outcome s = (.error (.thrown a), t)) :
    ∃ journal, (catchThrown x).outcome s = (.ok (.error a), { t with journal }) := by
  unfold catchThrown
  rw [outcome_bind_ok (outcome_attempt x), hx]
  dsimp only
  rw [outcome_bind_ok (outcome_log _ _ _)]
  exact ⟨_, rfl⟩

end Exec
end Messaging
