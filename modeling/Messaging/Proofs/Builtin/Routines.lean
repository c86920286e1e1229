import Messaging.Proofs.Builtin.Contents
import Messaging.Proofs.Delivery.Posts

/-! What the built-in routines do to what objects carry. Only two of them give an object a text, and a message to an
    object that is compared by its identity never finds either. So a send keeps a machine regular if the code that it
    may enter does. -/

namespace Messaging
open Exec
open Machine (lasting_regular)

variable {s t : Machine} {known : Builtins} {id above : ClassId} {kind : MethodKind} {selector : Selector} {m : Method}
  {r : Receiver} {a : Address}

/-! ### What is found -/

/-- The class that is asked for the method. -/
def Receiver.IsOf (r : Receiver) (s : Machine) (id : ClassId) : Prop :=
  match r with
  | .object a => ∃ o, s.memory.get? a = some o ∧ o.cls = id
  | .cls c => c = id

/-- The routines that give their receiver, or a new instance of it, a text. -/
def Routine.givesText (r : Routine) : Bool := r = .builtin .textWith || r = .builtin .textInit

theorem ClassTable.known_of_resolve? {t : ClassTable} (found : t.resolve? id kind selector = some m) (h : Ordered t.entries) :
    (t.get? id).isSome := by
  unfold resolve? at found
  rw [chain_eq h] at found
  cases known : t.get? id with
  | none =>
    rw [known] at found
    cases found
  | some c => rfl

/-- What a message finds is in the tables of its class, or is found above. -/
theorem Machine.Defines.of_resolve? {upper : Option ClassId} {specs : List MethodSpec} (defines : s.Defines id upper specs)
    (h : ClassTable.Ordered s.classes.entries) (found : s.classes.resolve? id kind selector = some m) :
    (∃ spec ∈ specs, spec.Gives m) ∨ ∃ above, upper = some above ∧ s.classes.resolve? above kind selector = some m := by
  rw [ClassTable.resolve?_eq h] at found
  rcases Option.or_eq_some_iff.mp found with own | ⟨-, inherited⟩
  · obtain ⟨spec, mem, -, -, gives⟩ := defines.only kind selector m own
    exact Or.inl ⟨spec, mem, gives⟩
  · rw [defines.superclass] at inherited
    exact Or.inr (Option.bind_eq_some_iff.mp inherited)

/-- What a message to an object finds that is compared by its identity gives no text. -/
theorem Builtins.Stand.not_givesText (stand : known.Stand s) (h : ClassTable.Ordered s.classes.entries)
    (plain : id ∈ known.plain) (found : s.classes.resolve? id kind selector = some m) : m.routine.givesText = false := by
  have ofGives {specs : List MethodSpec} (gives : ∃ spec ∈ specs, spec.Gives m)
      (none : ∀ spec ∈ specs, spec.routine.givesText = false) : m.routine.givesText = false := by
    obtain ⟨spec, mem, gives⟩ := gives
    rw [gives.routine]
    exact none spec mem
  have inObject (found : s.classes.resolve? known.object kind selector = some m) : m.routine.givesText = false := by
    rcases stand.object.of_resolve? h found with gives | ⟨_, up, -⟩
    · exact ofGives gives (by decide)
    · cases up
  have below {specs : List MethodSpec} (defines : s.Defines id (some known.object) specs)
      (none : ∀ spec ∈ specs, spec.routine.givesText = false) : m.routine.givesText = false := by
    rcases defines.of_resolve? h found with gives | ⟨above, up, found⟩
    · exact ofGives gives none
    · obtain rfl := Option.some.inj up
      exact inObject found
  simp only [Builtins.plain, List.mem_cons, List.not_mem_nil, or_false] at plain
  rcases plain with rfl | rfl | rfl | rfl
  · exact inObject found
  · exact below stand.number (by decide)
  · exact below stand.exception (by decide)
  · exact below stand.port (by decide)

/-! ### Where a routine is entered -/

/-- What holds where a routine is entered. -/
structure Routine.Enters (routine : Routine) (inv : Invocation) (s : Machine) : Prop where
  there : ∀ id, inv.this = .cls id → (s.classes.get? id).isSome
  texts : routine.givesText = true → ∀ known, s.setup.builtins = some known → ∀ id, inv.this.IsOf s id → id ∉ known.plain

theorem Routine.Enters.congr {routine : Routine} {inv : Invocation} (enters : routine.Enters inv s)
    (bare : t.classes.bare = s.classes.bare) (memory : t.memory = s.memory) (setup : t.setup = s.setup) :
    routine.Enters inv t where
  there id this := by
    rw [ClassTable.isSome_get?_of_bare bare]
    exact enters.there id this
  texts gives known installed id isOf := by
    rw [setup] at installed
    refine enters.texts gives known installed id ?_
    unfold Receiver.IsOf at isOf ⊢
    rwa [memory] at isOf

theorem enters_of_finds (h : s.Regular) (finds : r.Finds s selector m) (ret : TypeCode) (args : List Value) :
    m.routine.Enters ⟨r, selector, ret, args⟩ s := by
  have resolved {id : ClassId} (isOf : r.IsOf s id) : ∃ kind, s.classes.resolve? id kind selector = some m := by
    cases r with
    | object a =>
      obtain ⟨o, live, found⟩ := finds
      obtain ⟨p, here, rfl⟩ := isOf
      obtain rfl := Option.some.inj (live.symm.trans here)
      exact ⟨_, (ClassTable.lookup_eq h.current).symm.trans found⟩
    | cls c =>
      obtain rfl : c = id := isOf
      exact ⟨_, (ClassTable.lookup_eq h.current).symm.trans finds⟩
  refine ⟨?_, fun gives known installed id isOf plain => ?_⟩
  · rintro id rfl
    obtain ⟨kind, found⟩ := resolved (show (Receiver.cls id).IsOf s id from rfl)
    exact ClassTable.known_of_resolve? found h.ordered
  · obtain ⟨kind, found⟩ := resolved isOf
    rw [(h.stand known installed).not_givesText h.ordered plain found] at gives
    cases gives

/-! ### Sends -/

/-- Code that keeps machines regular. -/
def Code.Decent (code : Code) : Prop := ∀ (routine : Routine) inv s, s.Regular → routine.Enters inv s →
  ((code routine inv).outcome s).2.Regular

section
variable {α : Type} {code : Code} {inv : Invocation} {ret : TypeCode} {args : List Value}

theorem maintains_describe {holds : Machine → Prop} : Maintains holds (r.describe selector) := by
  cases r with
  | object a => exact maintains_classOf.bind fun _ => maintains_className.bind fun _ => maintains_pure _
  | cls id => exact maintains_className.bind fun _ => maintains_pure _

theorem ensures_lookup (h : s.Regular) (ret : TypeCode) (args : List Value) :
    Ensures Machine.Regular (r.lookup selector) s fun found t => ∀ m, found = some m →
      m.routine.Enters ⟨r, selector, ret, args⟩ t := by
  have enters {m : Method} {id : ClassId} {kind : MethodKind} (finds : r.Finds s selector m) :
      m.routine.Enters ⟨r, selector, ret, args⟩ { s with classes := (s.classes.lookup id kind selector).2 } :=
    (enters_of_finds h finds ret args).congr ClassTable.bare_lookup rfl rfl
  cases r with
  | object a =>
    refine (ensures_classOf h).bind fun id t h asked => ?_
    obtain ⟨rfl, o, live, rfl⟩ := asked
    refine ensures_of_outcome rfl (maintains_lookupMethod t h) ?_
    rintro _ ends m rfl
    exact enters ⟨o, live, Except.ok.inj ends⟩
  | cls id =>
    refine ensures_of_outcome rfl (maintains_lookupMethod s h) ?_
    rintro _ ends m rfl
    exact enters (Except.ok.inj ends)

/-- A send keeps a machine regular, also where it is refused. -/
theorem maintains_send (decent : code.Decent) : Maintains Machine.Regular (send code r selector ret args) := by
  refine Ensures.maintains (P := fun _ _ => True) fun s h => ?_
  refine (ensures_lookup h ret args).bind fun found t h enters => ?_
  cases found with
  | none => exact (maintains_describe.bind fun _ => lasting_regular.raiseNamed _ _).ensures h
  | some m =>
    dsimp only
    split
    · exact (maintains_describe.bind fun _ => lasting_regular.raiseNamed _ _).ensures h
    · -- What holds where the routine is entered is known of `t`, so it has to be said that nothing changes till then.
      have described : Ensures Machine.Regular (r.describe selector) t fun _ u => u = t :=
        ⟨maintains_describe t h, fun _ _ => (maintains_describe : Maintains (· = t) _) t rfl⟩
      refine described.bind fun text u h same => ?_
      subst same
      refine Ensures.bind (P := fun _ v => m.routine.Enters ⟨r, selector, ret, args⟩ v)
        ⟨maintains_record _ _ _ u h, fun _ _ => (enters m rfl).congr rfl rfl rfl⟩ fun _ v h enters => ?_
      exact (ensures_of_left (decent m.routine _ v h enters)).bind fun _ _ h _ => ensures_pure h trivial

/-! ### What routines do -/

/-- A class makes a new instance that is given what fits it. -/
theorem regular_pooledInstance {p : Exec Payload} (h : s.Regular)
    (there : ∀ id, inv.this = .cls id → (s.classes.get? id).isSome)
    (fits : ∀ id a t, inv.this = .cls id → t.Regular → t.memory.get? a = some ⟨id, 1, none, false⟩ →
      t.setup = s.setup → Ensures Machine.Regular p t fun q u => u.Fits a q) :
    ((inv.pooledInstance p).outcome s).2.Regular := by
  refine Ensures.left ?_
  refine (lasting_regular.ensures_cls h).bind fun id t h this => ?_
  obtain ⟨this, rfl⟩ := this
  refine (ensures_alloc h (there id this)).bind fun a u h made => ?_
  obtain ⟨live, setup⟩ := made
  refine (fits id a u this h live setup).bind fun q v h fits => ?_
  refine (ensures_of_left (regular_attach h fits)).bind fun _ w h _ => ?_
  exact (maintains_autorelease.bind fun _ => maintains_pure _).ensures h

/-- What is no text fits any new instance. -/
theorem regular_pooledInstance_plain {p : Exec Payload} (h : s.Regular)
    (there : ∀ id, inv.this = .cls id → (s.classes.get? id).isSome)
    (plain : ∀ t, t.Regular → Ensures Machine.Regular p t fun q _ => Payload.text? (some q) = none) :
    ((inv.pooledInstance p).outcome s).2.Regular :=
  regular_pooledInstance h there fun _ _ t _ h _ _ =>
    (plain t h).mono (fun _ => id) fun _ _ _ plain => Machine.fits_of_none plain

theorem ensures_freshPort (h : s.Regular) :
    Ensures Machine.Regular freshPort s fun q _ => Payload.text? (some q) = none :=
  (maintains_newSlot.ensures h).bind fun _ _ h _ => ensures_pure h rfl

theorem maintains_notifyDelegate (decent : code.Decent) (name : String) :
    Maintains Machine.Regular (notifyDelegate code inv name) := by
  refine lasting_regular.object.bind fun port => maintains_payloadOf.bind fun payload => ?_
  dsimp only
  split
  · refine maintains_loadWeak.bind fun loaded => ?_
    cases loaded with
    | none => exact (maintains_record _ _ _).bind fun _ => maintains_pure _
    | some delegate =>
      refine Maintains.bind (Maintains.ensuring ?_ maintains_release) fun _ => maintains_pure _
      refine maintains_intern.bind fun _ => maintains_classOf.bind fun _ => maintains_lookupMethod.bind fun found => ?_
      cases found with
      | none => exact maintains_record _ _ _
      | some _ => exact (maintains_send decent).bind fun _ => maintains_pure _
  · exact (maintains_record _ _ _).bind fun _ => maintains_pure _

theorem regular_forwardEvent (decent : code.Decent) (h : s.Regular) (slot : Nat)
    (select : CallbackTable → Option Callback) : ((forwardEvent code inv slot select).outcome s).2.Regular := by
  refine Ensures.left ?_
  refine (lasting_regular.ensures_object h).bind fun a t h this => (maintains_payloadOf.ensures h).bind fun payload t h _ => ?_
  obtain ⟨this, -⟩ := this
  dsimp only
  split
  · next c _ =>
    -- The receiver is an object, so there is nothing to say of a class, and a callback is no routine of strings.
    have enters (t : Machine) : (Routine.callback c).Enters inv t := by
      refine ⟨fun id here => ?_, nofun⟩
      rw [this] at here
      cases here
    have entered : Maintains Machine.Regular (code (.callback c) inv) := fun t h => decent _ inv t h (enters t)
    exact (entered.confined.bind fun _ => maintains_pure _).ensures h
  · exact ((maintains_record _ _ _).bind fun _ => maintains_pure _).ensures h

/-- Where a string is initialized, the class is none whose objects are compared by their identity. -/
theorem regular_textInit (h : s.Regular) (enters : (Routine.builtin .textInit).Enters inv s) (contents : String) :
    ((inv.initialized (.text contents)).outcome s).2.Regular := by
  refine Ensures.left ?_
  refine (lasting_regular.ensures_object h).bind fun a t h this => ?_
  obtain ⟨this, rfl⟩ := this
  have fits : t.Fits a (.text contents) := by
    intro known o installed live _
    refine enters.texts rfl known installed o.cls ?_
    rw [this]
    exact ⟨o, live, rfl⟩
  exact (ensures_of_left (regular_attach h fits)).bind fun _ _ h _ => ensures_pure h trivial

theorem regular_textWith (h : s.Regular) (enters : (Routine.builtin .textWith).Enters inv s) (contents : String) :
    ((inv.pooledInstance (pure (.text contents))).outcome s).2.Regular := by
  refine regular_pooledInstance h enters.there fun id a t this h live setup => ensures_pure h ?_
  intro known o installed here _
  obtain rfl := Option.some.inj (live.symm.trans here)
  rw [setup] at installed
  refine enters.texts rfl known installed id ?_
  rw [this]
  rfl

/-- A built-in routine keeps a machine regular where a send enters it. -/
theorem BuiltinRoutine.regular_run (decent : code.Decent) (h : s.Regular) {b : BuiltinRoutine}
    (enters : (Routine.builtin b).Enters inv s) : ((b.run code inv).outcome s).2.Regular := by
  cases b with
  | alloc =>
    refine Ensures.left ?_
    refine (lasting_regular.ensures_cls h).bind fun id t h this => ?_
    obtain ⟨this, rfl⟩ := this
    exact (ensures_alloc h (enters.there id this)).bind fun _ _ h _ => ensures_pure h trivial
  | new =>
    refine Ensures.left ?_
    refine (lasting_regular.ensures_cls h).bind fun id t h this => ?_
    obtain ⟨this, rfl⟩ := this
    refine (ensures_alloc h (enters.there id this)).bind fun _ _ h _ => ?_
    exact (maintains_intern.bind fun _ => (maintains_send decent).bind fun _ => maintains_pure _).ensures h
  | init => exact (lasting_regular.object.bind fun _ => maintains_pure _) s h
  | retain | textCopy => exact (lasting_regular.object.bind fun _ => maintains_retain.bind fun _ => maintains_pure _) s h
  | release => exact (lasting_regular.object.bind fun _ => maintains_release.bind fun _ => maintains_pure _) s h
  | autorelease => exact (lasting_regular.object.bind fun _ => maintains_autorelease.bind fun _ => maintains_pure _) s h
  | textDescription =>
    exact (lasting_regular.object.bind fun _ => maintains_retain.bind fun _ => maintains_autorelease.bind fun _ =>
      maintains_pure _) s h
  | retainCount => exact (lasting_regular.object.bind fun _ => (maintains_objectAt.bind fun _ => maintains_pure _).bind fun _ =>
      maintains_pure _) s h
  | cls => exact (lasting_regular.object.bind fun _ => maintains_classOf.bind fun _ => maintains_pure _) s h
  | description =>
    exact (lasting_regular.object.bind fun _ => maintains_classOf.bind fun _ => maintains_className.bind fun _ =>
      lasting_regular.pooledString _) s h
  | respondsTo =>
    unfold BuiltinRoutine.run
    dsimp only
    split
    · exact h
    · exact (lasting_regular.object.bind fun _ => maintains_classOf.bind fun _ => maintains_lookupMethod.bind fun _ =>
        maintains_pure _) s h
  | isKindOf =>
    unfold BuiltinRoutine.run
    dsimp only
    split
    · exact h
    · exact (lasting_regular.object.bind fun _ => maintains_classOf.bind fun _ => maintains_get.bind fun _ =>
        maintains_pure _) s h
  | identityHash | isIdentical => exact (lasting_regular.object.bind fun _ => maintains_pure _) s h
  | textWith => exact regular_textWith h enters _
  | textInit => exact regular_textInit h enters _
  | textLength | textContents | textHash | numberValue | portTimeout | adapterCallbacks =>
    exact (lasting_regular.payload.bind fun _ => maintains_pure _) s h
  | textIsEqual => exact (lasting_regular.payload.bind fun _ => (Lasting.argPayload 0).bind fun _ => maintains_pure _) s h
  | numberWith => exact regular_pooledInstance_plain h enters.there fun _ h => ensures_pure h rfl
  | numberInit => exact lasting_regular.initialized rfl s h
  | numberDescription | exceptionName | exceptionReason | exceptionDescription =>
    exact (lasting_regular.payload.bind fun _ => lasting_regular.pooledString _) s h
  | exceptionWith =>
    refine regular_pooledInstance_plain h enters.there fun _ h => ?_
    exact ((Lasting.argText 0).ensures h).bind fun _ _ h _ => ((Lasting.argText 1).ensures h).bind fun _ _ h _ =>
      ensures_pure h rfl
  | exceptionInit =>
    exact ((Lasting.argText 0).bind fun _ => (Lasting.argText 1).bind fun _ => lasting_regular.initialized rfl) s h
  | exceptionCallStack => exact h
  | exceptionRaise =>
    exact (lasting_regular.object.bind fun _ => maintains_retain.bind fun _ => lasting_regular.throwObject) s h
  | portWith => exact regular_pooledInstance_plain h enters.there fun _ h => ensures_freshPort h
  | portInit =>
    refine Ensures.left ?_
    exact (ensures_freshPort h).bind fun _ _ h plain => (lasting_regular.initialized plain).ensures h
  | portDelegate =>
    refine lasting_regular.payload.bind (fun payload => ?_) s h
    dsimp only
    split
    · exact maintains_pure _
    · refine maintains_loadWeak.bind fun loaded => ?_
      cases loaded with
      | none => exact maintains_pure _
      | some _ => exact maintains_autorelease.bind fun _ => maintains_pure _
  | portSetDelegate =>
    refine lasting_regular.payload.bind (fun payload => ?_) s h
    dsimp only
    split
    · exact maintains_storeWeak.bind fun _ => maintains_pure _
    · exact maintains_pure _
  | portSetTimeout =>
    refine lasting_regular.payload.bind (fun payload => ?_) s h
    dsimp only
    split
    · exact lasting_regular.object.bind fun _ => (maintains_setPayload rfl).bind fun _ => maintains_pure _
    · exact maintains_pure _
  | portPostMachMessage | portPostPortMessage => exact maintains_notifyDelegate decent _ s h
  | adapterInit => exact lasting_regular.initialized rfl s h
  | adapterMachMessage | adapterPortMessage => exact regular_forwardEvent decent h _ _

end
end Messaging
