import Messaging.Proofs.Memory.Balance

/-! Runs over ports and their delegates. A delivery is two steps, the load of the delegate and the end of its
    handler; what a handler does are the steps between. Pools may be pushed, filled and taken off, and a run goes on in
    whatever pools there are. Over a whole run the weak slot of a port names the object
    that was last set as its delegate since the port was initialized, unless that object was freed since. -/

namespace Messaging
namespace Delivery
open Memory

/-- A new object is placed wherever none lives, so also where one was freed before. What is attached to an object
    is a table of callbacks, say, or the text of an exception. -/
inductive Act
  | place (a : Address) (cls : ClassId)
  | attach (a : Address) (payload : Payload)
  | retain (a : Address)
  | release (a : Address)
  | initPort (p : Address)
  | setDelegate (p : Address) (target : Option Address)
  | load (p d : Address)
  | letGo (d : Address)
  | pools (after : PoolStack)

/-- The memory, the references owned by clients, and those that deliveries hold while handlers run. -/
structure Stage where
  memory : Memory
  owned : List Address
  loaded : List Address

/-- The object at an address is a port whose delegate is kept in a slot. -/
def HasSlot (m : Memory) (p : Address) (slot : SlotId) : Prop :=
  ∃ o timeout, m.get? p = some o ∧ o.payload = some (.port slot timeout)

/-- The references to an object: those of clients, of deliveries, and of pools. -/
def Stage.owed (s : Stage) (a : Address) : Nat := s.owned.count a + s.loaded.count a + s.memory.pools.objects.count a

/-- References are given up by those who own them, and an object is initialized as a port or as something else. The
    pools change in any way in which references only go from a client to a pool and back: what is taken off with a
    pool is owned by whoever takes it off, to be released. -/
inductive Step (s : Stage) : Act → Stage → Prop
  | place (a : Address) (cls : ClassId) (free : s.memory.get? a = none) (given : a.toNat ≤ s.memory.heap.fresh.toNat) :
      Step s (.place a cls) { s with memory := s.memory.place a cls, owned := a :: s.owned }
  | attach (a : Address) (payload : Payload) {m : Memory} (other : ∀ slot timeout, payload ≠ .port slot timeout)
      (done : s.memory.attach a payload = some m) : Step s (.attach a payload) { s with memory := m }
  | retain (a : Address) {m : Memory} (done : s.memory.retain a = some m) :
      Step s (.retain a) { s with memory := m, owned := a :: s.owned }
  | release (a : Address) {m : Memory} (mem : a ∈ s.owned) (done : s.memory.release a = some m) :
      Step s (.release a) { s with memory := m, owned := s.owned.erase a }
  | initPort (p : Address) {o : Object} {m : Memory} (live : s.memory.get? p = some o)
      (blank : o.payload = none ∨ ∃ slot, HasSlot s.memory p slot)
      (done : s.memory.newSlot.2.attach p (.port s.memory.newSlot.1 0) = some m) : Step s (.initPort p) { s with memory := m }
  | setDelegate (p : Address) (target : Option Address) {slot : SlotId} {m : Memory} (port : HasSlot s.memory p slot)
      (done : s.memory.storeWeak slot target = some m) : Step s (.setDelegate p target) { s with memory := m }
  | setNothing (p : Address) (target : Option Address) (blank : ∀ slot, ¬HasSlot s.memory p slot) :
      Step s (.setDelegate p target) s
  | load (p d : Address) {slot : SlotId} {m : Memory} (port : HasSlot s.memory p slot)
      (done : s.memory.loadWeak slot = some (some d, m)) : Step s (.load p d) { s with memory := m, loaded := d :: s.loaded }
  | letGo (d : Address) {m : Memory} (mem : d ∈ s.loaded) (done : s.memory.release d = some m) :
      Step s (.letGo d) { s with memory := m, loaded := s.loaded.erase d }
  | pools (after : PoolStack) (owned : List Address) (moved : ∀ a, owned.count a + after.objects.count a =
      s.owned.count a + s.memory.pools.objects.count a) :
      Step s (.pools after) { s with memory := { s.memory with pools := after }, owned }

structure Moment where
  before : Stage
  act : Act
  after : Stage

/-- A run from nothing, with its steps, the latest first. -/
inductive Run (start : Nat) : List Moment → Stage → Prop
  | start : Run start [] ⟨Memory.empty start, [], []⟩
  | step {history s act s'} (run : Run start history s) (step : Step s act s') : Run start (⟨s, act, s'⟩ :: history) s'

/-- The step frees the object at an address. -/
def Moment.Frees (x : Moment) (a : Address) : Prop := (x.before.memory.get? a).isSome ∧ x.after.memory.get? a = none

/-- The port was initialized, and was not freed since. -/
def Initialized (history : List Moment) (p : Address) : Prop :=
  ∃ later x earlier, history = later ++ x :: earlier ∧ x.act = .initPort p ∧ ∀ y ∈ later, ¬y.Frees p

/-- The last object that was named as the delegate of a port since that was initialized is this one, and neither
    was freed since. -/
def Names (history : List Moment) (p d : Address) : Prop :=
  ∃ later x earlier, history = later ++ x :: earlier ∧ x.act = .setDelegate p (some d) ∧ Initialized earlier p ∧
    ∀ y ∈ later, (∀ target, y.act ≠ .setDelegate p target) ∧ ¬y.Frees p ∧ ¬y.Frees d

variable {start : Nat} {history : List Moment} {s s' : Stage} {act : Act} {m n : Memory} {slot : SlotId}
  {a b p q d : Address} {o : Object}

theorem initialized_cons {x : Moment} :
    Initialized (x :: history) p ↔ x.act = .initPort p ∨ ¬x.Frees p ∧ Initialized history p := by
  constructor
  · rintro ⟨later, y, earlier, split, inits, kept⟩
    cases later with
    | nil =>
      cases split
      exact Or.inl inits
    | cons z later =>
      cases split
      exact Or.inr ⟨kept x List.mem_cons_self, later, y, earlier, rfl, inits, fun y hy => kept y (List.mem_cons_of_mem _ hy)⟩
  · rintro (inits | ⟨alive, later, y, earlier, rfl, inits, kept⟩)
    · exact ⟨[], x, history, rfl, inits, nofun⟩
    · exact ⟨x :: later, y, earlier, rfl, inits, List.forall_mem_cons.mpr ⟨alive, kept⟩⟩

theorem names_cons {x : Moment} : Names (x :: history) p d ↔
    x.act = .setDelegate p (some d) ∧ Initialized history p ∨
      ((∀ target, x.act ≠ .setDelegate p target) ∧ ¬x.Frees p ∧ ¬x.Frees d) ∧ Names history p d := by
  constructor
  · rintro ⟨later, y, earlier, split, names, port, kept⟩
    cases later with
    | nil =>
      cases split
      exact Or.inl ⟨names, port⟩
    | cons z later =>
      cases split
      exact Or.inr ⟨kept x List.mem_cons_self, later, y, earlier, rfl, names, port,
        fun y hy => kept y (List.mem_cons_of_mem _ hy)⟩
  · rintro (⟨names, port⟩ | ⟨alive, later, y, earlier, rfl, names, port, kept⟩)
    · exact ⟨[], x, history, rfl, names, port, nofun⟩
    · exact ⟨x :: later, y, earlier, rfl, names, port, List.forall_mem_cons.mpr ⟨alive, kept⟩⟩

/-! ### Slots of ports -/

theorem HasSlot.live (h : HasSlot m p slot) : m.get? p ≠ none := by
  obtain ⟨o, _, live, -⟩ := h
  rw [live]
  exact nofun

theorem HasSlot.unique {slot' : SlotId} (h : HasSlot m p slot) (h' : HasSlot m p slot') : slot = slot' := by
  obtain ⟨o, _, live, payload⟩ := h
  obtain ⟨o', _, live', payload'⟩ := h'
  rw [live] at live'
  cases live'
  rw [payload] at payload'
  cases payload'
  rfl

/-- A change of an object that leaves its payload leaves the slots. -/
theorem hasSlot_put {old : Object} (live : m.get? a = some old) (same : o.payload = old.payload) :
    HasSlot (m.put a o) p slot ↔ HasSlot m p slot := by
  simp only [HasSlot, get?_put]
  by_cases here : a = p
  · subst here
    simp [live, same]
  · simp [here]

theorem hasSlot_free : HasSlot (m.free a o) p slot ↔ a ≠ p ∧ HasSlot m p slot := by
  simp only [HasSlot, get?_free]
  by_cases here : a = p
  · simp [here]
  · simp [here]

theorem hasSlot_place (free : m.get? a = none) (cls : ClassId) : HasSlot (m.place a cls) p slot ↔ HasSlot m p slot := by
  simp only [HasSlot, get?_place]
  by_cases here : a = p
  · subst here
    simp [free]
  · simp [here]

theorem hasSlot_of_heap (same : n.heap = m.heap) : HasSlot n p slot ↔ HasSlot m p slot := by
  simp only [HasSlot, Memory.get?, same]

/-! ### What a step keeps -/

/-- What holds all along a run: the counts are right, and each port has a slot of its own that was made once. -/
structure Sound (s : Stage) : Prop where
  balanced : s.memory.Balanced s.owed
  used : ∀ slot a, s.memory.weak.target? slot = some a → slot.toNat < s.memory.weak.made
  made : ∀ p slot, HasSlot s.memory p slot → slot.toNat < s.memory.weak.made
  apart : ∀ p q slot, HasSlot s.memory p slot → HasSlot s.memory q slot → p = q

theorem made_free (o : Object) : (m.free a o).weak.made = m.weak.made := by
  have cleared : (if o.weaklyNamed then m.weak.clear a else m.weak).made = m.weak.made := by
    split <;> rfl
  unfold Memory.free dropPayload
  dsimp only
  split
  · exact (WeakTable.made_store _).trans cleared
  · exact cleared

/-- What goes takes the slots that name it with it, and a port also the slot of its delegate. -/
theorem target?_free (h : m.Mutual) (live : m.get? a = some o) : (m.free a o).weak.target? slot = some b ↔
    ¬HasSlot m a slot ∧ b ≠ a ∧ m.weak.target? slot = some b := by
  have cleared : (if o.weaklyNamed then m.weak.clear a else m.weak).target? slot = some b ↔
      b ≠ a ∧ m.weak.target? slot = some b := by
    rw [h.target?_freeing live]
    by_cases named : m.weak.target? slot = some a
    · simp [named, eq_comm]
    · rw [if_neg named]
      refine ⟨fun names => ⟨?_, names⟩, And.right⟩
      rintro rfl
      exact named names
  unfold Memory.free dropPayload
  dsimp only
  split
  · next delegate timeout payload =>
    have port : HasSlot m a slot ↔ delegate = slot :=
      ⟨fun other => HasSlot.unique ⟨o, timeout, live, payload⟩ other, fun same => ⟨o, timeout, live, same ▸ payload⟩⟩
    rw [WeakTable.drop, WeakTable.target?_store, port]
    by_cases own : delegate = slot
    · simp [own]
    · rw [if_neg own, cleared]
      simp [own]
  · next other =>
    have plain : ¬HasSlot m a slot := by
      rintro ⟨o', timeout, live', payload⟩
      rw [live] at live'
      cases live'
      exact other _ _ payload
    rw [cleared]
    simp [plain]

namespace Sound

/-- A step that changes neither slots nor what they name. -/
theorem of_same (h : Sound s) (balanced : s'.memory.Balanced s'.owed)
    (weak : s'.memory.weak = s.memory.weak) (slots : ∀ p slot, HasSlot s'.memory p slot ↔ HasSlot s.memory p slot) :
    Sound s' where
  balanced := balanced
  used slot a := by
    rw [weak]
    exact h.used slot a
  made p slot port := by
    rw [weak]
    exact h.made p slot ((slots p slot).mp port)
  apart p q slot port port' := h.apart p q slot ((slots p slot).mp port) ((slots q slot).mp port')

theorem empty (start : Nat) : Sound ⟨Memory.empty start, [], []⟩ where
  balanced := Balanced.start start
  used _ _ names := by simp [Memory.empty, WeakTable.empty, WeakTable.target?] at names
  made p slot port := by
    obtain ⟨o, _, live, -⟩ := port
    cases live
  apart p q slot port := by
    obtain ⟨o, _, live, -⟩ := port
    cases live

theorem owed_letGo (mem : d ∈ s.loaded) (b : Address) :
    s.owed b = ({ s with loaded := s.loaded.erase d } : Stage).owed b + [d].count b := by
  simp only [Stage.owed, count_of_mem mem]
  omega

/-- The ledger of a run has the references of clients, of deliveries and of pools. -/
theorem release (h : Sound s) {owned loaded : List Address} (split : ∀ b, s.owned.count b + s.loaded.count b =
    owned.count b + loaded.count b + [a].count b) (done : s.memory.release a = some m) : Sound ⟨m, owned, loaded⟩ := by
  have ledger (b : Address) : s.owed b = (⟨m, owned, loaded⟩ : Stage).owed b + [a].count b := by
    have counts := split b
    simp only [Stage.owed, pools_release done]
    omega
  obtain ⟨n, done', balanced, -⟩ := (h.balanced.congr ledger).release
  rw [done] at done'
  cases done'
  obtain ⟨o, live, ⟨-, rfl⟩ | ⟨-, rfl⟩⟩ := release_eq_some.mp done
  · refine ⟨balanced, fun slot b names => ?_, fun p slot port => ?_, fun p q slot port port' => ?_⟩
    · rw [made_free]
      exact h.used slot b ((target?_free h.balanced.names live).mp names).2.2
    · rw [made_free]
      exact h.made p slot (hasSlot_free.mp port).2
    · exact h.apart p q slot (hasSlot_free.mp port).2 (hasSlot_free.mp port').2
  · exact h.of_same balanced rfl fun _ _ => hasSlot_put live rfl

theorem retain (h : Sound s) {owned loaded : List Address} (split : ∀ b, owned.count b + loaded.count b =
    s.owned.count b + s.loaded.count b + [a].count b) (done : s.memory.retain a = some m) : Sound ⟨m, owned, loaded⟩ := by
  have ledger (b : Address) : s.owed b + [a].count b = (⟨m, owned, loaded⟩ : Stage).owed b := by
    have counts := split b
    simp only [Stage.owed, pools_retain done]
    omega
  obtain ⟨o, live, rfl⟩ := retain_eq_some.mp done
  have pos := (h.balanced.accounts.isSome_iff a).mp (Option.isSome_iff_exists.mpr ⟨o, live⟩)
  obtain ⟨n, done', balanced, -⟩ := h.balanced.retain pos
  rw [done] at done'
  cases done'
  exact h.of_same (balanced.congr ledger) rfl fun _ _ => hasSlot_put live rfl

end Sound

theorem weak_attach {payload : Payload} (done : m.attach a payload = some n) : n.weak = m.weak := by
  obtain ⟨o, -, rfl⟩ := modify?_eq_some.mp done
  rfl

theorem pools_attach {payload : Payload} (done : m.attach a payload = some n) : n.pools = m.pools := by
  obtain ⟨o, -, rfl⟩ := modify?_eq_some.mp done
  rfl

/-- Where the pools are the same, the same is owed. -/
theorem owed_of_pools (same : m.pools = s.memory.pools) (a : Address) : s.owed a = ({ s with memory := m } : Stage).owed a := by
  unfold Stage.owed
  rw [same]

theorem hasSlot_attach {payload : Payload} (other : ∀ slot timeout, payload ≠ .port slot timeout)
    (done : m.attach a payload = some n) : HasSlot n p slot ↔ HasSlot m p slot := by
  obtain ⟨o, live, rfl⟩ := modify?_eq_some.mp done
  cases blank : o.payload with
  | none =>
    simp only [HasSlot, get?_put]
    by_cases here : a = p
    · subst here
      simp [live, blank, other]
    · simp [here]
  | some old => exact hasSlot_put live (by simp [blank])

theorem hasSlot_storeWeak {target : Option Address} (done : m.storeWeak slot target = some n) {other : SlotId} :
    HasSlot n p other ↔ HasSlot m p other := by
  cases target with
  | none =>
    cases done
    exact hasSlot_of_heap rfl
  | some a =>
    obtain ⟨o, live, rfl⟩ := storeWeak_some_eq_some.mp done
    exact (hasSlot_of_heap rfl).trans (hasSlot_put (o := { o with weaklyNamed := true }) live rfl)

/-- Only the port that is initialized gets a slot. -/
theorem hasSlot_initPort (live : m.get? p = some o) (done : m.newSlot.2.attach p (.port m.newSlot.1 0) = some n) :
    HasSlot n q slot ↔ HasSlot m q slot ∨ q = p ∧ o.payload = none ∧ slot = ⟨m.weak.made⟩ := by
  obtain ⟨o', live', rfl⟩ := modify?_eq_some.mp done
  have live' : m.get? p = some o' := live'
  rw [live] at live'
  cases live'
  simp only [HasSlot, get?_put]
  by_cases here : p = q
  · subst here
    cases blank : o.payload with
    | none =>
      simp only [if_pos, live]
      simp [Memory.newSlot, WeakTable.fresh, blank, eq_comm]
    | some payload => simp [live, blank]
  · rw [if_neg here]
    simp [Ne.symm here]
    rfl

namespace Sound

theorem initPort (h : Sound s) (live : s.memory.get? p = some o)
    (done : s.memory.newSlot.2.attach p (.port s.memory.newSlot.1 0) = some m) : Sound { s with memory := m } := by
  have slots {q : Address} {slot : SlotId} : HasSlot m q slot ↔ _ := hasSlot_initPort live done
  have weak := weak_attach done
  have fresh (q : Address) (port : HasSlot s.memory q ⟨s.memory.weak.made⟩) : False :=
    Nat.lt_irrefl _ (h.made q _ port)
  have pools : m.pools = s.memory.newSlot.2.pools := pools_attach done
  refine ⟨(h.balanced.newSlot.attach done).congr (owed_of_pools pools), fun slot a names => ?_, fun q slot port => ?_,
    fun q q' slot port port' => ?_⟩
  · rw [weak] at names ⊢
    exact Nat.lt_succ_of_lt (h.used slot a names)
  · rw [weak]
    rcases slots.mp port with old | ⟨-, -, rfl⟩
    · exact Nat.lt_succ_of_lt (h.made q slot old)
    · exact Nat.lt_succ_self _
  · rcases slots.mp port with old | ⟨rfl, -, rfl⟩
    · rcases slots.mp port' with old' | ⟨rfl, -, rfl⟩
      · exact h.apart q q' slot old old'
      · exact (fresh q old).elim
    · rcases slots.mp port' with old' | ⟨rfl, -, -⟩
      · exact (fresh q' old').elim
      · rfl

theorem setDelegate (h : Sound s) {target : Option Address} (port : HasSlot s.memory p slot)
    (done : s.memory.storeWeak slot target = some m) : Sound { s with memory := m } := by
  have live : ∀ a, target = some a → 0 < s.owed a := by
    rintro a rfl
    obtain ⟨o, live, -⟩ := storeWeak_some_eq_some.mp done
    exact (h.balanced.accounts.isSome_iff a).mp (Option.isSome_iff_exists.mpr ⟨o, live⟩)
  obtain ⟨n, done', balanced, -⟩ := h.balanced.storeWeak slot live
  rw [done] at done'
  cases done'
  have slots (q : Address) (other : SlotId) : HasSlot m q other ↔ HasSlot s.memory q other := hasSlot_storeWeak done
  have weak := weak_storeWeak done
  refine ⟨balanced.congr (owed_of_pools (pools_storeWeak done)), fun other a names => ?_, fun q other port' => ?_,
    fun q q' other port port' => ?_⟩
  · rw [weak, WeakTable.target?_store] at names
    rw [weak, WeakTable.made_store]
    split at names
    · next same =>
      rw [← same]
      exact h.made p slot port
    · exact h.used other a names
  · rw [weak, WeakTable.made_store]
    exact h.made q other ((slots q other).mp port')
  · exact h.apart q q' other ((slots q other).mp port) ((slots q' other).mp port')

theorem step (h : Sound s) (step : Step s act s') : Sound s' := by
  cases step with
  | place a cls free given =>
    refine h.of_same ((h.balanced.place free given cls).congr fun b => ?_) rfl fun _ _ => hasSlot_place free cls
    simp only [Stage.owed, Memory.place, List.count_cons, List.count_nil]
    omega
  | attach a payload other done =>
    exact h.of_same ((h.balanced.attach done).congr (owed_of_pools (pools_attach done))) (weak_attach done)
      fun _ _ => hasSlot_attach other done
  | retain a done =>
    refine h.retain (fun b => ?_) done
    simp only [List.count_cons, List.count_nil]
    omega
  | release a mem done =>
    refine h.release (fun b => ?_) done
    rw [count_of_mem mem]
    omega
  | initPort p live blank done => exact h.initPort live done
  | setDelegate p target port done => exact h.setDelegate port done
  | setNothing p target blank => exact h
  | load p d port done =>
    refine h.retain (fun b => ?_) (loadWeak_some_eq_some.mp done).2
    simp only [List.count_cons, List.count_nil]
    omega
  | letGo d mem done =>
    refine h.release (fun b => ?_) done
    rw [count_of_mem mem]
    omega
  | pools after owned moved =>
    refine h.of_same ((h.balanced.setPools after).congr fun b => ?_) rfl fun _ _ => hasSlot_of_heap rfl
    have counts := moved b
    simp only [Stage.owed]
    omega

end Sound

/-! ### Delegates -/

/-- The slot of a port names an object. -/
def Delegate (m : Memory) (p d : Address) : Prop := ∃ slot, HasSlot m p slot ∧ m.weak.target? slot = some d

theorem Delegate.live (h : m.Mutual) (names : Delegate m p d) : m.get? p ≠ none ∧ m.get? d ≠ none := by
  obtain ⟨slot, port, named⟩ := names
  exact ⟨port.live, fun free => h.unnamed free slot named⟩

/-- Between two memories a port lost its delegate only if one of them went. -/
def Keeps (m n : Memory) (p d : Address) : Prop := Delegate n p d ↔ Delegate m p d ∧ n.get? p ≠ none ∧ n.get? d ≠ none

theorem keeps_of_same (names : n.Mutual) (slots : ∀ slot, HasSlot n p slot ↔ HasSlot m p slot)
    (weak : ∀ slot, HasSlot m p slot → n.weak.target? slot = m.weak.target? slot) : Keeps m n p d := by
  constructor
  · intro after
    obtain ⟨slot, port, named⟩ := after
    have before := (slots slot).mp port
    exact ⟨⟨slot, before, by rw [← weak slot before, named]⟩, Delegate.live names ⟨slot, port, named⟩⟩
  · rintro ⟨⟨slot, port, named⟩, -⟩
    exact ⟨slot, (slots slot).mpr port, by rw [weak slot port, named]⟩

namespace Sound

theorem keeps_release (h : Sound s) (h' : m.Mutual) (done : s.memory.release a = some m) : Keeps s.memory m p d := by
  obtain ⟨o, live, ⟨-, rfl⟩ | ⟨-, rfl⟩⟩ := release_eq_some.mp done
  · constructor
    · intro after
      obtain ⟨slot, port, named⟩ := after
      have alive := Delegate.live h' ⟨slot, port, named⟩
      exact ⟨⟨slot, (hasSlot_free.mp port).2, ((target?_free h.balanced.names live).mp named).2.2⟩, alive⟩
    · rintro ⟨⟨slot, port, named⟩, here, there⟩
      have away : a ≠ p := by
        rintro rfl
        exact here (by rw [get?_free, if_pos rfl])
      have gone : d ≠ a := by
        rintro rfl
        exact there (by rw [get?_free, if_pos rfl])
      exact ⟨slot, hasSlot_free.mpr ⟨away, port⟩, (target?_free h.balanced.names live).mpr
        ⟨fun own => away (h.apart a p slot own port), gone, named⟩⟩
  · exact keeps_of_same h' (fun _ => hasSlot_put live rfl) fun _ _ => rfl

/-- A step that does not name a delegate for a port leaves it the one that it had, if that and the port live on. -/
theorem keeps_step (h : Sound s) (step : Step s act s') (elsewhere : ∀ target, act ≠ .setDelegate p target) :
    Keeps s.memory s'.memory p d := by
  have h' := (h.step step).balanced.names
  cases step with
  | place a cls free given => exact keeps_of_same h' (fun _ => hasSlot_place free cls) fun _ _ => rfl
  | attach a payload other done =>
    exact keeps_of_same h' (fun _ => hasSlot_attach other done) fun _ _ => by rw [weak_attach done]
  | retain a done =>
    obtain ⟨o, live, rfl⟩ := retain_eq_some.mp done
    exact keeps_of_same h' (fun _ => hasSlot_put live rfl) fun _ _ => rfl
  | release a mem done => exact h.keeps_release h' done
  | @initPort q _ m live blank done =>
    have weak (slot : SlotId) : m.weak.target? slot = s.memory.weak.target? slot := by
      rw [weak_attach done]
      rfl
    constructor
    · rintro ⟨slot, port, named⟩
      have alive := Delegate.live h' ⟨slot, port, named⟩
      rw [weak] at named
      rcases (hasSlot_initPort live done).mp port with old | ⟨-, -, rfl⟩
      · exact ⟨⟨slot, old, named⟩, alive⟩
      · exact absurd (h.used _ _ named) (Nat.lt_irrefl _)
    · rintro ⟨⟨slot, port, named⟩, -⟩
      exact ⟨slot, (hasSlot_initPort live done).mpr (.inl port), by rw [weak, named]⟩
  | setDelegate q target port done =>
    have away : q ≠ p := by
      rintro rfl
      exact elsewhere target rfl
    refine keeps_of_same h' (fun _ => hasSlot_storeWeak done) fun slot own => ?_
    rw [weak_storeWeak done, WeakTable.target?_store, if_neg]
    rintro rfl
    exact away (h.apart q p _ port own)
  | setNothing q target blank => exact keeps_of_same h' (fun _ => Iff.rfl) fun _ _ => rfl
  | load q d port done =>
    obtain ⟨o, live, rfl⟩ := retain_eq_some.mp (loadWeak_some_eq_some.mp done).2
    exact keeps_of_same h' (fun _ => hasSlot_put live rfl) fun _ _ => rfl
  | letGo d mem done => exact h.keeps_release h' done
  | pools after owned moved => exact keeps_of_same h' (fun _ => hasSlot_of_heap rfl) fun _ _ => rfl

end Sound

theorem ports_of_same (slots : ∀ slot, HasSlot n p slot ↔ HasSlot m p slot) :
    (∃ slot, HasSlot n p slot) ↔ (∃ slot, HasSlot m p slot) ∧ n.get? p ≠ none := by
  constructor
  · rintro ⟨slot, port⟩
    exact ⟨⟨slot, (slots slot).mp port⟩, port.live⟩
  · rintro ⟨⟨slot, port⟩, -⟩
    exact ⟨slot, (slots slot).mpr port⟩

theorem ports_release (done : m.release a = some n) :
    (∃ slot, HasSlot n p slot) ↔ (∃ slot, HasSlot m p slot) ∧ n.get? p ≠ none := by
  obtain ⟨o, live, ⟨-, rfl⟩ | ⟨-, rfl⟩⟩ := release_eq_some.mp done
  · simp only [hasSlot_free, get?_free]
    by_cases here : a = p <;> simp [here]
    intro slot port
    exact port.live
  · exact ports_of_same fun _ => hasSlot_put live rfl

theorem ports_step (step : Step s act s') (other : act ≠ .initPort p) :
    (∃ slot, HasSlot s'.memory p slot) ↔ (∃ slot, HasSlot s.memory p slot) ∧ s'.memory.get? p ≠ none := by
  cases step with
  | place a cls free given => exact ports_of_same fun _ => hasSlot_place free cls
  | attach a payload plain done => exact ports_of_same fun _ => hasSlot_attach plain done
  | retain a done =>
    obtain ⟨o, live, rfl⟩ := retain_eq_some.mp done
    exact ports_of_same fun _ => hasSlot_put live rfl
  | release a mem done => exact ports_release done
  | initPort q live blank done =>
    refine ports_of_same fun slot => ?_
    rw [hasSlot_initPort live done, or_iff_left]
    rintro ⟨rfl, -, -⟩
    exact other rfl
  | setDelegate q target port done => exact ports_of_same fun _ => hasSlot_storeWeak done
  | setNothing q target blank => exact ports_of_same fun _ => Iff.rfl
  | load q d port done =>
    obtain ⟨o, live, rfl⟩ := retain_eq_some.mp (loadWeak_some_eq_some.mp done).2
    exact ports_of_same fun _ => hasSlot_put live rfl
  | letGo d mem done => exact ports_release done
  | pools after owned moved => exact ports_of_same fun _ => hasSlot_of_heap rfl

/-! ### Whole runs -/

theorem Run.sound (run : Run start history s) : Sound s := by
  induction run with
  | start => exact Sound.empty start
  | step _ step ih => exact ih.step step

/-- What lives is not freed if it lives after the step. -/
theorem not_frees {x : Moment} (live : x.before.memory.get? a ≠ none) : ¬x.Frees a ↔ x.after.memory.get? a ≠ none := by
  rw [Moment.Frees, Option.isSome_iff_ne_none]
  exact ⟨fun kept free => kept ⟨live, free⟩, fun alive freed => alive freed.2⟩

theorem Run.initialized_iff (run : Run start history s) : Initialized history p ↔ ∃ slot, HasSlot s.memory p slot := by
  induction run with
  | start =>
    constructor
    · rintro ⟨later, _, _, split, -⟩
      cases later <;> cases split
    · rintro ⟨slot, o, _, live, -⟩
      cases live
  | @step history s act s' run step ih =>
    rw [initialized_cons]
    by_cases inits : act = .initPort p
    · subst inits
      refine iff_of_true (Or.inl rfl) ?_
      cases step with
      | initPort _ live blank done =>
        rcases blank with blank | ⟨slot, port⟩
        · exact ⟨_, (hasSlot_initPort live done).mpr (.inr ⟨rfl, blank, rfl⟩)⟩
        · exact ⟨slot, (hasSlot_initPort live done).mpr (.inl port)⟩
    · rw [ports_step step inits, ih, or_iff_right inits, and_comm]
      refine and_congr_right fun ⟨slot, port⟩ => not_frees (x := ⟨s, act, s'⟩) port.live

/-- Over a whole run a port has the delegate that was last set since the port was initialized, if neither was
    freed since. -/
theorem Run.names_iff (run : Run start history s) : Names history p d ↔ Delegate s.memory p d := by
  induction run with
  | start =>
    constructor
    · rintro ⟨later, _, _, split, -⟩
      cases later <;> cases split
    · rintro ⟨slot, ⟨o, _, live, -⟩, -⟩
      cases live
  | @step history s act s' run step ih =>
    rw [names_cons]
    -- Only a step that names a delegate for this port makes a new name; any other keeps the old one or frees one of
    -- the two.
    by_cases sets : ∃ target, act = .setDelegate p target
    · obtain ⟨target, rfl⟩ := sets
      have here : ¬∀ other, (Act.setDelegate p target) ≠ .setDelegate p other := fun away => away target rfl
      rw [run.initialized_iff, or_iff_left fun other => here other.1.1]
      cases step with
      | setDelegate _ _ port done =>
        constructor
        · rintro ⟨same, -⟩
          cases same
          refine ⟨_, (hasSlot_storeWeak done).mpr port, ?_⟩
          rw [weak_storeWeak done, WeakTable.target?_store, if_pos rfl]
        · rintro ⟨slot, port', named⟩
          have same := port.unique ((hasSlot_storeWeak done).mp port')
          rw [weak_storeWeak done, WeakTable.target?_store, if_pos same] at named
          exact ⟨by rw [named], _, port⟩
      | setNothing _ _ blank =>
        constructor
        · rintro ⟨-, slot, port⟩
          exact absurd port (blank slot)
        · rintro ⟨slot, port, -⟩
          exact absurd port (blank slot)
    · have elsewhere : ∀ target, act ≠ .setDelegate p target := fun target same => sets ⟨target, same⟩
      have keeps : Delegate s'.memory p d ↔ _ := run.sound.keeps_step step elsewhere
      rw [keeps, ih, or_iff_right fun other => elsewhere _ other.1]
      constructor
      · rintro ⟨⟨-, here, there⟩, names⟩
        obtain ⟨live, live'⟩ := names.live run.sound.balanced.names
        exact ⟨names, (not_frees live).mp here, (not_frees live').mp there⟩
      · rintro ⟨names, here, there⟩
        obtain ⟨live, live'⟩ := names.live run.sound.balanced.names
        exact ⟨⟨elsewhere, (not_frees (x := ⟨s, act, s'⟩) live).mpr here,
          (not_frees (x := ⟨s, act, s'⟩) live').mpr there⟩, names⟩

end Delivery
end Messaging
