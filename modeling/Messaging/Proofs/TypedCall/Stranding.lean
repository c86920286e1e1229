import Messaging.Proofs.Class.Growth
import Messaging.Proofs.TypedCall.Construction
import Messaging.Proofs.TypedCall.Rejection

/-! Constructions that fail. An object is allocated, and then the initializing message is refused: the object does not
    know it, or takes it with other types. The exception unwinds through a frame in which nothing has the reference of
    the new object but the code that is left, so the object stays, with a reference that nobody gives up. -/

namespace Messaging
open Exec

/-- Why a message cannot be delivered, in the words of the exception about it. -/
def Receiver.objection? (r : Receiver) (s : Machine) (selector : Selector) (ret : TypeCode) (args : List Value) :
    Option String :=
  match r.method? s selector with
  | none => some s!"{r.label s selector}: unrecognized selector sent to {r.target}"
  | some m =>
    if m.signature.accepts ret (args.map Value.code) then none
    else some s!"{r.label s selector}: sent as `{callSite ret (args.map Value.code)}` but implemented as `{m.signature.text}`"

/-- The machine with a new instance, which has one reference. -/
def Machine.bearing (s : Machine) (cls : ClassId) : Machine :=
  { s with memory := s.memory.place s.memory.heap.fresh cls }

/-- The class gives `a` for the message `alloc`, which leaves the machine `u`. -/
def Allocates (code : Code) (cls : ClassId) (s : Machine) (a : Address) (u : Machine) : Prop :=
  ∃ allocSelector s' v ownership, (baseSelector "alloc").outcome s = (.ok allocSelector, s') ∧
    (send code (.cls cls) allocSelector .object []).outcome s' = (.ok (v, ownership), u) ∧ v.object? = some a

/-- The two kinds of calls that allocate an instance and then initialize it. -/
inductive Construction
  | allocating (selector : Selector) (args : List Value)
  | new (newSelector : Selector) (c : ReturnConvention)

namespace Construction

def run (code : Code) (cls : ClassId) : Construction → Exec (Option Address)
  | allocating selector args => allocInit code (some cls) selector args
  | new newSelector c => classCallObject code (some cls) newSelector [] c

/-- Why the new instance cannot be initialized. -/
def objection? (s : Machine) (cls : ClassId) : Construction → Option String
  | allocating selector args => (Receiver.object s.memory.heap.fresh).objection? (s.bearing cls) selector .object args
  | new _ _ =>
    (Receiver.object s.memory.heap.fresh).objection? (s.bearing cls) (s.selectors.register "init").1 .object []

/-- The class constructs its instances as the root class does. An allocating call resolves its symbols first, which leads
    from `s` to `s'`. -/
def Rooted (s : Machine) (cls : ClassId) (s' : Machine) : Construction → Prop
  | allocating _ _ => ∃ allocSelector m, (baseSelector "alloc").outcome s = (.ok allocSelector, s') ∧
    (Receiver.cls cls).method? s' allocSelector = some m ∧ m.signature.accepts .object [] = true ∧ m.routine = .builtin .alloc
  | new newSelector c => s' = s ∧ c.Admits s.memory.pools ∧ ∃ m, (Receiver.cls cls).method? s newSelector = some m ∧
    m.signature.accepts .object [] = true ∧ m.routine = .builtin .new

end Construction

/-- The computation throws `e`, which a guarded region catches. -/
structure Throws {α : Type} (x : Exec α) (s : Machine) (e : Address) (t : Machine) : Prop where
  thrown : x.outcome s = (.error (.thrown e), t)
  caught : ∃ journal, (catchThrown x).outcome s = (.ok (.error e), { t with journal })

/-- There is one new object, the exception with one reference, and the rest of the memory is `m`. -/
structure Machine.Holds (t : Machine) (m : Memory) (e : Address) (reason : String) : Prop where
  new : m.get? e = none
  exception : ∃ known, t.setup.builtins = some known ∧
    t.memory.get? e = some ⟨known.exception, 1, some (.exception invalidArgumentName reason), false⟩
  others : ∀ b, b ≠ e → t.memory.get? b = m.get? b
  weak : t.memory.weak = m.weak
  pools : t.memory.pools = m.pools

/-- There are two new objects, each with one reference: the exception, and an instance of the class without contents. -/
structure Machine.Strands (s t : Machine) (cls : ClassId) (e : Address) (reason : String) : Prop where
  exception : s.memory.get? e = none ∧ ∃ known, t.setup.builtins = some known ∧
    t.memory.get? e = some ⟨known.exception, 1, some (.exception invalidArgumentName reason), false⟩
  instance_ : ∃ a, s.memory.get? a = none ∧ a ≠ e ∧ t.memory.get? a = some ⟨cls, 1, none, false⟩ ∧
    ∀ b, b ≠ a → b ≠ e → t.memory.get? b = s.memory.get? b
  weak : t.memory.weak = s.memory.weak
  pools : t.memory.pools = s.memory.pools

section
variable {s s' t u : Machine} {r : Receiver} {a e : Address} {cls : ClassId} {selector : Selector} {ret : TypeCode}
  {args : List Value} {reason : String} {code outer inner : Code}

/-! ### Messages that are refused -/

theorem Receiver.objects_iff : (∃ reason, r.objection? s selector ret args = some reason) ↔
    ∀ m, r.method? s selector = some m → m.signature.accepts ret (args.map Value.code) = false := by
  unfold Receiver.objection?
  cases r.method? s selector with
  | none => simp
  | some m =>
    dsimp only
    split
    · next accepted => simp [accepted]
    · next differs => simpa using differs

theorem Receiver.method?_congr (bare : t.classes.bare = s.classes.bare) (heap : t.memory.heap = s.memory.heap)
    (selector : Selector) : r.method? t selector = r.method? s selector := by
  cases r with
  | object a => simp only [Receiver.method?, Memory.get?, heap, ClassTable.resolve?_of_bare bare]
  | cls id => exact ClassTable.resolve?_of_bare bare

theorem Receiver.label_congr (bare : t.classes.bare = s.classes.bare) (heap : t.memory.heap = s.memory.heap)
    (selector : Selector) : r.label t selector = r.label s selector := by
  cases r with
  | object a =>
    unfold Receiver.label Memory.get?
    simp only [heap, ClassTable.name_of_bare bare]
  | cls id => simp only [Receiver.label, ClassTable.name_of_bare bare]

/-- Whether a message is refused depends on the classes, but not on what they remember, and on the objects. -/
theorem Receiver.objection?_congr (bare : t.classes.bare = s.classes.bare) (heap : t.memory.heap = s.memory.heap)
    (selector : Selector) (ret : TypeCode) (args : List Value) :
    r.objection? t selector ret args = r.objection? s selector ret args := by
  unfold Receiver.objection?
  rw [Receiver.method?_congr bare heap, Receiver.label_congr bare heap]

theorem outcome_send_refused (coherent : s.Coherent) (ready : s.Ready)
    (lives : ∀ a, r = .object a → (s.memory.get? a).isSome) (objection : r.objection? s selector ret args = some reason) :
    ∃ t, s.Refused t reason ∧ ∀ code, (send code r selector ret args).outcome s = (.error (.thrown s.memory.heap.fresh), t) := by
  unfold Receiver.objection? at objection
  cases found : r.method? s selector with
  | none =>
    simp only [found, Option.some.injEq] at objection
    subst objection
    obtain ⟨i, t, raises, sent⟩ := outcome_send_unrecognized coherent lives found ret args
    obtain ⟨rfl, refused⟩ := raises.of_ready ready
    exact ⟨t, refused, sent⟩
  | some m =>
    simp only [found] at objection
    split at objection
    · cases objection
    · next differs =>
      cases objection
      obtain ⟨i, t, raises, sent⟩ := outcome_send_mismatch coherent lives found (Bool.eq_false_iff.mpr differs)
      obtain ⟨rfl, refused⟩ := raises.of_ready ready
      exact ⟨t, refused, sent⟩

/-- The refused send of a call is noticed by nobody else: the pools are back, and only the exception is new. -/
theorem outcome_sendObject_refused {c : ReturnConvention} (coherent : s.Coherent) (ready : s.Ready)
    (settled : s.memory.pools.Settled) (admitted : c.Admits s.memory.pools)
    (lives : ∀ a, r = .object a → (s.memory.get? a).isSome)
    (objection : r.objection? s selector .object args = some reason) : ∃ t known, t.setup.builtins = some known ∧
      t.memory = s.memory.carrying known.exception (.exception invalidArgumentName reason) ∧ ∀ code,
      (sendObject code r selector args c).outcome s = (.error (.thrown s.memory.heap.fresh), t) := by
  obtain ⟨t, refused, sent⟩ := outcome_send_refused
    (s := { s with memory := { s.memory with pools := c.within s.memory.pools } }) (coherent.congr rfl rfl) ready lives
    ((Receiver.objection?_congr rfl rfl selector .object args).trans objection)
  obtain ⟨known, installed, left⟩ := refused.left
  obtain ⟨journal, ends⟩ := outcome_sendObject_error r selector args settled admitted (u := t)
    (i := .thrown s.memory.heap.fresh) rfl (by rw [left]; rfl)
  refine ⟨_, known, ?_, ?_, fun code => ends code (sent code)⟩
  · exact installed
  · rw [left]
    rfl

/-! ### What is left in memory -/

theorem holds_of_carrying {m : Memory} {known : Builtins} (below : m.Below) (installed : t.setup.builtins = some known)
    (memory : t.memory = m.carrying known.exception (.exception invalidArgumentName reason)) :
    t.Holds m m.heap.fresh reason := by
  refine ⟨below.fresh_free, ⟨known, installed, ?_⟩, fun b other => ?_, ?_, ?_⟩
  · rw [memory, Memory.get?_carrying, if_pos rfl]
  · rw [memory, Memory.get?_carrying, if_neg other.symm]
  all_goals
    rw [memory]
    rfl

/-- An exception that comes on top of a new instance. -/
theorem Machine.Holds.strands {m : Memory} (holds : t.Holds m e reason) (below : s.memory.Below)
    (heap : m.heap = (s.bearing cls).memory.heap) (weak : m.weak = s.memory.weak) (pools : m.pools = s.memory.pools) :
    s.Strands t cls e reason := by
  have get? (b : Address) : m.get? b = if s.memory.heap.fresh = b then some ⟨cls, 1, none, false⟩ else s.memory.get? b := by
    have same : m.get? b = (s.memory.place s.memory.heap.fresh cls).get? b := by
      unfold Memory.get?
      rw [heap]
      rfl
    rw [same, Memory.get?_place]
  have new := holds.new
  rw [get?] at new
  split at new
  · cases new
  · next other =>
    refine ⟨⟨new, holds.exception⟩, ⟨s.memory.heap.fresh, below.fresh_free, other, ?_, fun b stray thrown => ?_⟩, ?_, ?_⟩
    · rw [holds.others _ other, get?, if_pos rfl]
    · rw [holds.others b thrown, get?, if_neg stray.symm]
    · rw [holds.weak, weak]
    · rw [holds.pools, pools]

/-! ### Allocating calls -/

/-- The initializing message goes to what was allocated. -/
theorem Allocates.outcome_allocInit (allocates : Allocates code cls s a u) (selector : Selector) (args : List Value) :
    (allocInit code (some cls) selector args).outcome s = (sendObject code (.object a) selector args .retained).outcome u := by
  obtain ⟨allocSelector, s', v, ownership, asked, sent, made⟩ := allocates
  unfold allocInit
  refine (outcome_bind_ok (outcome_pure cls)).trans ?_
  rw [outcome_bind_ok asked, outcome_bind_ok sent]
  dsimp only
  rw [made]

/-- What was allocated stays as the allocation left it, whatever method that was. -/
theorem allocInit_refused (allocates : Allocates code cls s a u) (coherent : u.Coherent) (ready : u.Ready)
    (settled : u.memory.pools.Settled) (lives : (u.memory.get? a).isSome)
    (objection : (Receiver.object a).objection? u selector .object args = some reason) :
    ∃ t, Throws (allocInit code (some cls) selector args) s u.memory.heap.fresh t ∧
      t.Holds u.memory u.memory.heap.fresh reason := by
  have lives' (b : Address) (same : Receiver.object a = .object b) : (u.memory.get? b).isSome := by
    cases same
    exact lives
  obtain ⟨t, known, installed, memory, ends⟩ :=
    outcome_sendObject_refused coherent ready settled (c := .retained) trivial lives' objection
  have thrown := (allocates.outcome_allocInit selector args).trans (ends code)
  exact ⟨t, ⟨thrown, outcome_catchThrown_thrown thrown⟩, holds_of_carrying coherent.below installed memory⟩

/-- Resolving symbols may install what is built in, after which everything is still in order. -/
theorem coherent_asked {allocSelector : Selector} (sound : Hierarchy.Sound s) (below : s.memory.Below) (ready : s.Ready)
    (asked : (baseSelector "alloc").outcome s = (.ok allocSelector, s')) :
    s'.Coherent ∧ s'.Ready ∧ s'.memory = s.memory := by
  obtain ⟨later, ends⟩ := Hierarchy.ends_baseSelector sound "alloc"
  rw [asked] at later ends
  have memory : s'.memory = s.memory := memory_asked asked
  refine ⟨⟨later.sound.classes.ordered, later.sound.classes.current, ?_⟩, fun absent => ?_, memory⟩
  · rw [memory]
    exact below
  · rcases ends _ rfl with installed | ⟨classes, protocols, setup⟩
    · have found := installed.builtins
      rw [absent] at found
      cases found
    · rw [classes, protocols]
      exact ready (by rw [← setup, absent])

/-- The root class's `alloc` places the instance, and changes what classes remember at most. -/
theorem allocates_rooted {allocSelector : Selector} {m : Method} (ties : Delivery.Ties outer inner) (coherent : s'.Coherent)
    (ready : s'.Ready) (asked : (baseSelector "alloc").outcome s = (.ok allocSelector, s'))
    (found : (Receiver.cls cls).method? s' allocSelector = some m) (accepted : m.signature.accepts .object [] = true)
    (routine : m.routine = .builtin .alloc) : ∃ u, Allocates outer cls s s'.memory.heap.fresh u ∧ u.Coherent ∧ u.Ready ∧
      u.memory = (s'.bearing cls).memory ∧ u.classes.bare = s'.classes.bare := by
  have finds := (Receiver.finds_iff coherent.current).mpr found
  obtain ⟨_, id, kind, classes, rfl, entered, -⟩ := entered_eq finds
  obtain ⟨journal, ran⟩ := outcome_built_alloc inner cls allocSelector (memory_entered finds)
  have sent : (send outer (.cls cls) allocSelector .object []).outcome s' = _ := outcome_send outer finds accepted
  rw [routine, ties, ran, entered] at sent
  have bare : (s'.classes.lookup id kind allocSelector).2.bare = s'.classes.bare := ClassTable.bare_lookup
  have looked := coherent.perform (show MethodLookup.Permits s'.classes (.lookup id kind allocSelector) from trivial)
  exact ⟨_, ⟨allocSelector, s', _, _, asked, sent, rfl⟩, ⟨looked.ordered, looked.current, coherent.below.place cls⟩,
    ready.congr bare rfl rfl, rfl, bare⟩

/-- An allocating call that fails has nothing to give up the instance with. -/
theorem allocating_refused {allocSelector : Selector} {m : Method} (ties : Delivery.Ties outer inner)
    (sound : Hierarchy.Sound s) (below : s.memory.Below) (ready : s.Ready) (settled : s.memory.pools.Settled)
    (asked : (baseSelector "alloc").outcome s = (.ok allocSelector, s'))
    (found : (Receiver.cls cls).method? s' allocSelector = some m) (accepted : m.signature.accepts .object [] = true)
    (routine : m.routine = .builtin .alloc)
    (objection : (Construction.allocating selector args).objection? s' cls = some reason) :
    ∃ e t, Throws (allocInit outer (some cls) selector args) s e t ∧ s.Strands t cls e reason := by
  obtain ⟨coherent, ready, same⟩ := coherent_asked sound below ready asked
  obtain ⟨u, allocates, coherent, ready, memory, bare⟩ :=
    allocates_rooted ties coherent ready asked found accepted routine
  have objects : u.memory = (s.bearing cls).memory := by
    rw [memory]
    unfold Machine.bearing
    rw [same]
  have lives : (u.memory.get? s'.memory.heap.fresh).isSome := by
    rw [memory]
    exact congrArg Option.isSome ((Memory.get?_place cls).trans (if_pos rfl))
  have objection' := (Receiver.objection?_congr (s := s'.bearing cls) bare (by rw [memory]) _ _ _).trans objection
  obtain ⟨t, throws, holds⟩ := allocInit_refused allocates coherent ready (by rw [objects]; exact settled) lives objection'
  rw [objects] at holds throws
  exact ⟨_, t, throws, holds.strands below rfl rfl rfl⟩

/-! ### Calls of `new` -/

/-- The code of `new` ends in the exception about the initializing message. -/
theorem outcome_new_refused (ties : Delivery.Ties outer inner) (coherent : s.Coherent) (ready : s.Ready)
    {newSelector : Selector} {m : Method} (found : (Receiver.cls cls).method? s newSelector = some m)
    (accepted : m.signature.accepts .object [] = true) (routine : m.routine = .builtin .new)
    (objection : (Construction.new newSelector .retained).objection? s cls = some reason) :
    ∃ t known, t.setup.builtins = some known ∧
      t.memory = (s.bearing cls).memory.carrying known.exception (.exception invalidArgumentName reason) ∧
      (send outer (.cls cls) newSelector .object []).outcome s =
        (.error (.thrown (s.bearing cls).memory.heap.fresh), t) := by
  have finds := (Receiver.finds_iff coherent.current).mpr found
  have memory := memory_entered finds
  obtain ⟨_, id, kind, classes, rfl, entered, -⟩ := entered_eq finds
  have sent : (send outer (.cls cls) newSelector .object []).outcome s = _ := outcome_send outer finds accepted
  rw [routine, ties] at sent
  have bare : (s.classes.lookup id kind newSelector).2.bare = s.classes.bare := ClassTable.bare_lookup
  obtain ⟨journal, made⟩ := outcome_alloc (s := (Receiver.cls cls).entered newSelector s) cls
  rw [memory] at made
  -- The machine on which the instance is to be initialized: it is there, and the selector is interned.
  obtain ⟨w, here⟩ : ∃ w : Machine, w = { (Receiver.cls cls).entered newSelector s with
    memory := (s.bearing cls).memory, journal, selectors := (s.selectors.register "init").2 } := ⟨_, rfl⟩
  have interned : (intern "init").outcome { (Receiver.cls cls).entered newSelector s with
      memory := s.memory.place s.memory.heap.fresh cls, journal } = (.ok (s.selectors.register "init").1, w) := by
    rw [here, entered]
    rfl
  have bare' : w.classes.bare = (s.bearing cls).classes.bare := by
    rw [here, entered]
    exact bare
  have coherent' : w.Coherent := by
    have asked := coherent.perform (show MethodLookup.Permits s.classes (.lookup id kind newSelector) from trivial)
    refine ⟨?_, ?_, ?_⟩
    · rw [here, entered]
      exact asked.ordered
    · rw [here, entered]
      exact asked.current
    · rw [here]
      exact coherent.below.place cls
  have ready' : w.Ready := by
    refine ready.congr bare' ?_ ?_ <;> rw [here, entered]
  have memory' : w.memory = (s.bearing cls).memory := by rw [here]
  have lives (b : Address) (same : Receiver.object s.memory.heap.fresh = .object b) : (w.memory.get? b).isSome := by
    cases same
    rw [memory']
    exact (congrArg Option.isSome ((Memory.get?_place cls).trans (if_pos rfl)))
  obtain ⟨t, refused, initialized⟩ := outcome_send_refused coherent' ready' lives
    ((Receiver.objection?_congr bare' (by rw [memory']) _ _ _).trans objection)
  obtain ⟨known, installed, left⟩ := refused.left
  rw [memory'] at left initialized
  have ran : (BuiltinRoutine.run inner .new ⟨.cls cls, newSelector, .object, []⟩).outcome
      ((Receiver.cls cls).entered newSelector s) = (.error (.thrown (s.bearing cls).memory.heap.fresh), t) :=
    (outcome_bind_ok (outcome_pure cls)).trans ((outcome_bind_ok made).trans
      ((outcome_bind_ok interned).trans (outcome_bind_error (initialized inner))))
  rw [ran] at sent
  exact ⟨t, known, installed, left, sent⟩

/-- A call of `new` that fails has thrown before the caller learns of the instance. -/
theorem new_refused (ties : Delivery.Ties outer inner) (coherent : s.Coherent) (ready : s.Ready)
    (settled : s.memory.pools.Settled) {newSelector : Selector} {c : ReturnConvention} {m : Method}
    (admitted : c.Admits s.memory.pools) (found : (Receiver.cls cls).method? s newSelector = some m)
    (accepted : m.signature.accepts .object [] = true) (routine : m.routine = .builtin .new)
    (objection : (Construction.new newSelector c).objection? s cls = some reason) :
    ∃ e t, Throws (classCallObject outer (some cls) newSelector [] c) s e t ∧ s.Strands t cls e reason := by
  obtain ⟨t, known, installed, left, sent⟩ := outcome_new_refused
    (s := { s with memory := { s.memory with pools := c.within s.memory.pools } }) ties (coherent.congr rfl rfl) ready
    found accepted routine ((Receiver.objection?_congr rfl rfl _ _ _).trans objection)
  obtain ⟨journal, ends⟩ := outcome_sendObject_error (.cls cls) newSelector [] settled admitted
    (u := t) (i := .thrown (s.bearing cls).memory.heap.fresh) rfl (by rw [left]; rfl)
  have thrown : (classCallObject outer (some cls) newSelector [] c).outcome s = _ :=
    (outcome_bind_ok (outcome_pure cls)).trans (ends outer sent)
  refine ⟨_, _, ⟨thrown, outcome_catchThrown_thrown thrown⟩, ?_⟩
  refine (holds_of_carrying (t := { t with memory := { t.memory with pools := s.memory.pools }, journal })
    (m := (s.bearing cls).memory) (coherent.below.place cls) installed ?_).strands coherent.below rfl rfl rfl
  rw [left]
  rfl

/-! ### Failed constructions -/

/-- A construction whose initializing message is refused ends in an exception, which can be caught. If the class
    constructs as the root class does, by `alloc` or by `new`, then the exception is not the only new object: the
    instance is there too, with the reference that `alloc` gave it and that nobody gives up, while all other objects
    have the counts they had. Whatever else allocates, what it left is left, but for the exception. -/
theorem failed_constructions_strand_their_instance (sound : Hierarchy.Sound s) (below : s.memory.Below) (ready : s.Ready)
    (settled : s.memory.pools.Settled) :
    (∀ (outer inner : Code) cls (construction : Construction) s' reason, Delivery.Ties outer inner →
      construction.Rooted s cls s' → construction.objection? s' cls = some reason →
      ∃ e t, Throws (construction.run outer cls) s e t ∧ s.Strands t cls e reason) ∧
    ∀ code cls a u selector args reason, Allocates code cls s a u → u.Coherent → u.Ready → u.memory.pools.Settled →
      (u.memory.get? a).isSome → (Receiver.object a).objection? u selector .object args = some reason →
      ∃ e t, Throws (allocInit code (some cls) selector args) s e t ∧ t.Holds u.memory e reason := by
  refine ⟨fun outer inner cls construction s' reason ties rooted objection => ?_,
    fun code cls a u selector args reason allocates coherent ready settled lives objection =>
      ⟨_, allocInit_refused allocates coherent ready settled lives objection⟩⟩
  cases construction with
  | allocating selector args =>
    obtain ⟨allocSelector, m, asked, found, accepted, routine⟩ := rooted
    exact allocating_refused ties sound below ready settled asked found accepted routine objection
  | new newSelector c =>
    obtain ⟨rfl, admitted, m, found, accepted, routine⟩ := rooted
    have coherent : s'.Coherent := ⟨sound.classes.ordered, sound.classes.current, below⟩
    exact new_refused ties coherent ready settled admitted found accepted routine objection

end

/-! ### A class without initializers -/

namespace Barren
open Lone (twin)
open Unowned (allocation outer inner ties)

def asking : Selector := (SelectorTable.empty.register "alloc").1

/-- A machine with one class, which only allocates, and with its symbols resolved. -/
def machine : Machine :=
  { Machine.fresh 0 none (.fresh false false) with
    classes := ⟨[{ ClassEntry.fresh ⟨0⟩ "Thing" none with classMethods := FiniteMap.empty.insert asking allocation }], 1⟩
    setup := ⟨none, true, none, none, FiniteMap.empty.insert "BaseSymbols" ⟨"BaseSymbols", [], []⟩⟩ }

def asked : Machine := { machine with selectors := (SelectorTable.empty.register "alloc").2 }

theorem sound : Hierarchy.Sound machine where
  classes := ⟨⟨rfl, nofun, trivial⟩, ⟨by simp [machine, ClassEntry.fresh], by simp [machine, ClassEntry.fresh]⟩,
    List.nodup_singleton _⟩
  object := nofun

theorem below : machine.memory.Below := nofun

theorem ready : machine.Ready := fun _ => ⟨by decide, rfl⟩

theorem settled : machine.memory.pools.Settled := fun _ top => nomatch top

theorem rooted : (Construction.allocating twin []).Rooted machine ⟨0⟩ asked := by
  have resolves : (baseSelector "alloc").outcome machine = (.ok asking, asked) :=
    outcome_baseSelector (FiniteMap.get?_insert_self _ _ _) "alloc"
  have found : (Receiver.cls ⟨0⟩).method? asked asking = some allocation := by
    simp [Receiver.method?, asked, machine, ClassTable.resolve?, ClassTable.chain, ClassTable.chainFrom, ClassEntry.fresh,
      ClassEntry.methods]
  exact ⟨asking, allocation, resolves, found, rfl, rfl⟩

/-- No instance knows the initializing message. -/
theorem objects : ∃ reason, (Construction.allocating twin []).objection? asked ⟨0⟩ = some reason := by
  have live : (asked.bearing ⟨0⟩).memory.get? asked.memory.heap.fresh = some ⟨⟨0⟩, 1, none, false⟩ :=
    (Memory.get?_place _).trans (if_pos rfl)
  have unknown : (Receiver.object asked.memory.heap.fresh).method? (asked.bearing ⟨0⟩) twin = none := by
    simp only [Receiver.method?, live]
    rfl
  have refused : ∀ m, (Receiver.object asked.memory.heap.fresh).method? (asked.bearing ⟨0⟩) twin = some m →
      m.signature.accepts .object (([] : List Value).map Value.code) = false := by
    intro m found
    rw [unknown] at found
    cases found
  exact Receiver.objects_iff.mpr refused

end Barren

open Barren Lone Unowned in
/-- The instance is left behind. -/
theorem unknown_initializer_strands_the_instance : Hierarchy.Sound Barren.machine ∧ Barren.machine.memory.pools.Settled ∧
    ∃ reason e t, Throws (allocInit outer (some ⟨0⟩) twin []) Barren.machine e t ∧
      Barren.machine.Strands t ⟨0⟩ e reason := by
  obtain ⟨reason, objection⟩ := objects
  obtain ⟨strands, -⟩ := failed_constructions_strand_their_instance Barren.sound below ready Barren.settled
  exact ⟨Barren.sound, Barren.settled, reason, strands outer inner ⟨0⟩ (.allocating twin []) _ reason ties rooted objection⟩

open Barren Lone Unowned in
/-- What is left after the exception was caught is not always what was there before. -/
theorem failed_constructions_leave_more_than_the_exception :
    ¬∀ (outer inner : Code) (s s' t : Machine) (cls : ClassId) (construction : Construction) (reason : String) (e : Address),
      Hierarchy.Sound s → s.memory.Below → s.Ready → s.memory.pools.Settled → Delivery.Ties outer inner →
      construction.Rooted s cls s' → construction.objection? s' cls = some reason →
      (catchThrown (construction.run outer cls)).outcome s = (.ok (.error e), t) →
      ∀ a, a ≠ e → t.memory.get? a = s.memory.get? a := by
  intro restored
  obtain ⟨reason, objection⟩ := objects
  obtain ⟨allocSelector, m, resolves, found, accepted, routine⟩ := rooted
  obtain ⟨e, t, throws, strands⟩ :=
    allocating_refused ties Barren.sound below ready Barren.settled resolves found accepted routine objection
  obtain ⟨journal, caught⟩ := throws.caught
  obtain ⟨a, new, other, stray, -⟩ := strands.instance_
  have same := restored outer inner _ _ _ ⟨0⟩ (.allocating twin []) reason e Barren.sound below ready Barren.settled ties
    rooted objection caught a other
  rw [new] at same
  exact nomatch stray.symm.trans same

end Messaging
