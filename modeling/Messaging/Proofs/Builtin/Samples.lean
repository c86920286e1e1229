import Messaging.Proofs.Builtin.Programs
import Messaging.Scenario.Samples

/-! The routines that scenarios put behind methods and into event slots are clients: whatever one of them does comes
    down to operations, new strings and new exceptions. So the code that scenarios run is the code of a program. -/

namespace Messaging
namespace Clients
open Exec Scenario

variable {code : Code} {s t : Machine} {inv : Invocation} {p : Payload}

theorem lasting_leads (code : Code) (s : Machine) : Lasting (Leads code s) where
  record origin level text _ led := led.tail (.operate (.modifyJournal fun j => j.record level origin.path text) trivial)
  retain _ led := led.tail (.operate (.retain _) trivial)
  release _ led := led.tail (.operate (.release _) trivial)
  autorelease _ led := led.tail (.operate (.autorelease _) trivial)
  attach plain _ led := led.tail (.operate (.attach _ _) (Machine.fits_of_none plain))
  setPayload plain _ led := led.tail (.operate (.setPayload _ _) (Machine.fits_of_none plain))
  newString contents _ led := led.tail (.newString contents)
  newException name reason _ led := led.tail (.newException name reason)

theorem maintains_modifyClient (change : Client → Client) : Maintains (Leads code s) (modifyClient change) :=
  fun _ led => led.tail (.operate (.modifyClient change) trivial)

/-! ### Samples -/

theorem maintains_noteEvent (what : String) (receiver event : Value) :
    Maintains (Leads code s) (noteEvent what receiver event) :=
  maintains_get.bind fun _ => maintains_modifyClient _

theorem maintains_releaseOwned (a : Address) : Maintains (Leads code s) (releaseOwned a) := by
  refine maintains_get.bind fun u => ?_
  dsimp only
  split
  · exact (maintains_modifyClient _).bind fun _ => (lasting_leads code s).release
  · exact maintains_pure _

/-- The receiver's number is read and nothing changes, or something is raised. -/
theorem ensures_state (led : Leads code s t) : Ensures (Leads code s) inv.state t fun _ u => u = t := by
  refine ((lasting_leads code s).ensures_payload led).bind fun payload u led same => ?_
  split
  · exact ensures_pure led same
  · exact (lasting_leads code s).ensures_raiseNamed led _ _

theorem maintains_setState (n : Int64) : Maintains (Leads code s) (inv.setState n) := by
  have lasting := lasting_leads code s
  refine Maintains.bind (fun _ led => (ensures_state led).1) fun _ => lasting.object.bind fun _ => ?_
  exact (lasting.setPayload rfl).bind fun _ => maintains_pure _

theorem leads_alloc {cls : ClassId} (led : Leads code s t) (there : (t.classes.get? cls).isSome) :
    Leads code s ((alloc cls).outcome t).2 := by
  have step : Step code t _ := .operate (.alloc cls) there
  rw [Operation.run, machine_dropped] at step
  exact led.tail step

/-- A child is of the class of the receiver, which is there. -/
theorem leads_child (knows : Knows s inv.this) : Ensures (Leads code s) inv.child s fun _ _ => True := by
  have lasting := lasting_leads code s
  refine (lasting.ensures_object .refl).bind fun a t led this => ?_
  obtain ⟨-, rfl⟩ := this
  refine (ensures_classOf led).bind fun cls u led asked => ?_
  obtain ⟨rfl, o, live, rfl⟩ := asked
  refine (ensures_state led).bind fun n v led same => ?_
  obtain rfl := same
  refine (ensures_of_left (leads_alloc led (knows.1 a o live))).bind fun b w led _ => ?_
  exact ((lasting.attach rfl).bind fun _ => maintains_pure _).ensures led

theorem leads_pooledInstance (knows : Knows s inv.this) (plain : Payload.text? (some p) = none) :
    Leads code s ((inv.pooledInstance (pure p)).outcome s).2 := by
  have lasting := lasting_leads code s
  refine Ensures.left ?_
  refine (lasting.ensures_cls .refl).bind fun id t led this => ?_
  obtain ⟨this, rfl⟩ := this
  refine (ensures_of_left (leads_alloc led (knows.2 id this))).bind fun a u led _ => ?_
  exact ((lasting.attach plain).bind fun _ => lasting.autorelease.bind fun _ => maintains_pure _).ensures led

/-- What a sample does comes down to steps of a program. -/
theorem leads_sample (knows : Knows s inv.this) (r : SampleRoutine) : Leads code s ((r.run inv).outcome s).2 := by
  have lasting := lasting_leads code s
  have start : Leads code s s := .refl
  have raising (name reason : String) {α : Type} : Maintains (Leads code s) (raiseNamed name reason : Exec α) :=
    lasting.raiseNamed name reason
  cases r with
  | noop | one | two | sum | nothing | echo | mix => exact start
  | pack | setValue => exact maintains_setState _ s start
  | initSum => exact lasting.initialized rfl s start
  | initNil => exact (lasting.object.bind fun _ => lasting.release.bind fun _ => maintains_pure _) s start
  | initReplace =>
    exact (lasting.object.bind fun _ => lasting.release.bind fun _ => (lasting.newString _).bind fun _ => maintains_pure _)
      s start
  | value => exact ((ensures_state start).bind (Q := fun _ _ => True) fun _ _ led _ => ensures_pure led trivial).1
  | makeChild =>
    exact ((leads_child knows).bind fun _ _ led _ => (lasting.autorelease.bind fun _ => maintains_pure _).ensures led).1
  | newChild => exact ((leads_child knows).bind (Q := fun _ _ => True) fun _ _ led _ => ensures_pure led trivial).1
  | itself => exact (lasting.object.bind fun _ => maintains_pure _) s start
  | commandName => exact lasting.pooledString _ s start
  | fail => exact ((Lasting.argText 0).bind fun _ => raising _ _) s start
  | throwArgument =>
    unfold SampleRoutine.run
    dsimp only
    split
    · exact (lasting.retain.bind fun _ => lasting.throwObject) s start
    · exact raising _ _ s start
  | panic => exact start
  | onEvent => exact ((maintains_noteEvent _ _ _).bind fun _ => maintains_pure _) s start
  | onEventRaise => exact ((maintains_noteEvent _ _ _).bind fun _ => raising _ _) s start
  | withValue => exact leads_pooledInstance knows rfl
  | offset =>
    unfold SampleRoutine.run
    dsimp only
    split <;> exact start
  | failAfterStoring => exact ((maintains_setState _).bind fun _ => raising _ _) s start

theorem leads_callback (c : Callback) (inv : Invocation) : Leads code s ((c.run inv).outcome s).2 := by
  have noting : Leads code s (Exec.outcome (do
      noteEvent c.name inv.thisValue (inv.arg 0)
      pure .void : Exec Value) s).2 := ((maintains_noteEvent _ _ _).bind fun _ => maintains_pure _) s .refl
  cases c with
  | raising => exact (lasting_leads code s).raiseNamed _ _ s .refl
  | letGo =>
    refine ((maintains_noteEvent _ _ _).bind fun _ => ?_) s .refl
    dsimp only
    split
    · exact (maintains_releaseOwned _).bind fun _ => maintains_pure _
    · exact maintains_pure _
  | first | second => exact noting

/-- What scenarios run is a program. -/
theorem program_codeWithin (depth : Nat) : Program (codeWithin depth) := by
  induction depth with
  | zero => exact .flat
  | succ depth ih =>
    refine .nested ih (fun _ _ => rfl) fun routine inv s client knows => ?_
    cases routine with
    | builtin b => exact absurd rfl (client b)
    | sample r => exact leads_sample knows r
    | callback c => exact leads_callback c inv

end Clients
end Messaging
