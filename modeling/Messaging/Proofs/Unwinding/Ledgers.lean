import Messaging.Proofs.Memory.Balance
import Messaging.Proofs.Memory.Pools
import Messaging.Proofs.TypedCall.Reconciliation
import Messaging.Proofs.Unwind
import Messaging.Proofs.Unwinding.Raises

/-! What is owned while a program runs. The count of an object is the number of references that frames and others
    own, that pools hold, that leaked, and that is in flight with a throw. Each operation of a program is given what
    it consumes and says what it leaves. -/

namespace Messaging
namespace Unwinding
open Exec

variable {n m : Nat} {α : Type} {s t u v : Machine} {g h : Address → Nat} {a b : Address}
  {l added added' leaked leaked' : List Address} {env : Env n m} {i : Interruption}

/-- A ledger with some more references. -/
def plus (g : Address → Nat) (l : List Address) : Address → Nat := fun b => g b + l.count b

theorem plus_nil : plus g [] = g := rfl

theorem plus_append (l l' : List Address) : plus g (l ++ l') = plus (plus g l) l' :=
  funext fun _ => by simp only [plus, List.count_append, Nat.add_assoc]

theorem plus_comm (l l' : List Address) : plus (plus g l) l' = plus (plus g l') l :=
  funext fun _ => by simp only [plus, Nat.add_right_comm]

theorem plus_reverse (l : List Address) : plus g l.reverse = plus g l :=
  funext fun _ => by simp only [plus, List.count_reverse]

theorem le_plus (l : List Address) (b : Address) : g b ≤ plus g l b := Nat.le_add_right _ _

theorem plus_pos (a : Address) : 0 < plus g [a] a := by
  simp only [plus, List.count_singleton_self]
  omega

/-- A machine whose counts are right; `g` tells the references that are in no pool. -/
structure Sound (s : Machine) (g : Address → Nat) : Prop where
  balanced : s.memory.Balanced (plus g s.memory.pools.objects)
  settled : s.memory.pools.Settled

/-- What a computation leaves: it added references to the innermost pool, or leaked them if there was none, and `g`
    tells those that are neither in a pool nor leaked by it. -/
structure Leaves (s u : Machine) (added leaked : List Address) (g : Address → Nat) : Prop where
  pools : u.memory.pools = { s.memory.pools with objects := s.memory.pools.objects ++ added }
  bare : s.memory.pools.marks = [] → added = []
  pooled : s.memory.pools.marks ≠ [] → leaked = []
  balanced : u.memory.Balanced (plus (plus g leaked) u.memory.pools.objects)

theorem Leaves.of_pools (same : u.memory.pools = s.memory.pools)
    (balanced : u.memory.Balanced (plus g s.memory.pools.objects)) : Leaves s u [] [] g := by
  refine ⟨by rw [List.append_nil, same], fun _ => rfl, fun _ => rfl, ?_⟩
  rw [plus_nil, same]
  exact balanced

theorem Sound.leaves (sound : Sound s g) : Leaves s s [] [] g := .of_pools rfl sound.balanced

theorem Sound.of_memory (sound : Sound s g) (same : t.memory = s.memory) : Sound t g :=
  ⟨same ▸ sound.balanced, same ▸ sound.settled⟩

theorem Leaves.sound (left : Leaves s u added leaked g) (settled : s.memory.pools.Settled) : Sound u (plus g leaked) := by
  refine ⟨left.balanced, ?_⟩
  rw [left.pools]
  exact settled

theorem Leaves.of_memory (left : Leaves s u added leaked g) (same : v.memory = u.memory) : Leaves s v added leaked g :=
  ⟨same ▸ left.pools, left.bare, left.pooled, same ▸ left.balanced⟩

theorem Leaves.of_memory_before (left : Leaves s u added leaked g) (same : t.memory = s.memory) :
    Leaves t u added leaked g :=
  ⟨same ▸ left.pools, same ▸ left.bare, same ▸ left.pooled, left.balanced⟩

theorem Leaves.trans (first : Leaves s t added leaked h) (second : Leaves t u added' leaked' (plus g leaked)) :
    Leaves s u (added ++ added') (leaked ++ leaked') g where
  pools := by rw [second.pools, first.pools, List.append_assoc]
  bare marks := by
    rw [first.bare marks, second.bare (by rw [first.pools]; exact marks)]
    rfl
  pooled marks := by
    rw [first.pooled marks, second.pooled (by rw [first.pools]; exact marks)]
    rfl
  balanced := by
    rw [plus_append]
    exact second.balanced

/-- A step that adds nothing and leaks nothing, after another. -/
theorem Leaves.after (second : Leaves t u [] [] (plus g leaked)) (first : Leaves s t added leaked h) :
    Leaves s u added leaked g := by
  have leaves := first.trans second
  rw [List.append_nil, List.append_nil] at leaves
  exact leaves

theorem Sound.count (sound : Sound s g) (b : Address) : s.memory.count b = g b + s.memory.pools.objects.count b :=
  sound.balanced.accounts.count b

theorem Sound.live (sound : Sound s g) (pos : 0 < g a) : ∃ o, s.memory.get? a = some o :=
  sound.balanced.accounts.live (Nat.lt_of_lt_of_le pos (le_plus _ _))

/-! ### References -/

theorem Sound.retain (sound : Sound s g) (pos : 0 < plus g s.memory.pools.objects a) :
    ∃ u, (retain a).outcome s = (.ok (), u) ∧ Leaves s u [] [] (plus g [a]) := by
  obtain ⟨m, done, balanced, -⟩ := sound.balanced.retain pos
  refine ⟨_, outcome_retain done, .of_pools (Memory.pools_retain done) ?_⟩
  rw [plus_comm]
  exact balanced

theorem Sound.release (sound : Sound s (plus g [a])) : ∃ u, (release a).outcome s = (.ok (), u) ∧ Leaves s u [] [] g := by
  obtain ⟨m, done, balanced, -⟩ : ∃ m, s.memory.release a = some m ∧ m.Balanced (plus g s.memory.pools.objects) ∧
      s.memory.Later m := by
    refine Memory.Balanced.release ?_
    have balanced := sound.balanced
    rw [plus_comm] at balanced
    exact balanced
  obtain ⟨journal, released⟩ := outcome_release done
  exact ⟨_, released, .of_pools (Memory.pools_release done) balanced⟩

theorem Sound.alloc (sound : Sound s g) (cls : ClassId) :
    ∃ a u, (alloc cls).outcome s = (.ok a, u) ∧ Leaves s u [] [] (plus g [a]) := by
  obtain ⟨journal, made⟩ := outcome_alloc (s := s) cls
  obtain ⟨balanced, -⟩ := sound.balanced.alloc cls
  refine ⟨_, _, made, .of_pools rfl ?_⟩
  rw [plus_comm]
  exact balanced

/-- With a pool the reference goes into it; without one it leaks. -/
theorem Sound.autorelease (sound : Sound s (plus g [a])) :
    ∃ u added leaked, (autorelease a).outcome s = (.ok (), u) ∧ Leaves s u added leaked g ∧
      0 < plus (plus g leaked) u.memory.pools.objects a := by
  cases added : s.memory.pools.add? a with
  | none =>
    obtain ⟨journal, leaks⟩ := outcome_autorelease_leak added
    refine ⟨_, [], [a], leaks, ⟨by rw [List.append_nil], fun _ => rfl, fun marks => ?_, sound.balanced⟩, ?_⟩
    · exact absurd (PoolStack.add?_eq_none.mp added) marks
    · exact Nat.lt_of_lt_of_le (plus_pos a) (le_plus _ _)
  | some after =>
    have pooled := outcome_autorelease added
    obtain ⟨marks, rfl⟩ := PoolStack.add?_eq_some.mp added
    refine ⟨_, [a], [], pooled, ⟨rfl, fun none => absurd none marks, fun _ => rfl, ?_⟩, ?_⟩
    · dsimp only
      rw [plus_append, plus_nil, plus_comm]
      exact sound.balanced.setPools _
    · dsimp only
      rw [plus_append]
      exact plus_pos a

theorem Source.ends (sound : Sound s g) (owned : ∀ v, 0 < g (env.handles v)) (source : Source n) :
    ∃ a u, (source.take env).outcome s = (.ok a, u) ∧ Leaves s u [] [] (plus g [a]) := by
  cases source with
  | new cls => exact sound.alloc cls
  | clone v =>
    obtain ⟨u, retained, left⟩ := sound.retain (Nat.lt_of_lt_of_le (owned v) (le_plus _ _))
    exact ⟨_, u, (outcome_bind_ok retained).trans (outcome_pure _), left⟩

/-! ### Throws and panics -/

/-- The reference that an interruption carries. -/
def flying : Except Interruption α → List Address
  | .error (.thrown a) => [a]
  | _ => []

/-- A computation was not cut off. -/
def Harmless (r : Except Interruption α) : Prop := ∀ i, r = .error i → i.isFatal = false

/-- How a computation ends, and what it leaves. -/
structure Ended (x : Exec α) (s : Machine) (r : Except Interruption α) (u : Machine) (added leaked : List Address)
    (g : Address → Nat) : Prop where
  ends : x.outcome s = (r, u)
  leaves : Leaves s u added leaked g
  harmless : Harmless r

theorem Ended.of_error {x : Exec α} (ends : x.outcome s = (.error i, u)) (left : Leaves s u added leaked g)
    (unwinds : i.isFatal = false) : Ended x s (.error i) u added leaked g where
  ends := ends
  leaves := left
  harmless := by
    rintro j ⟨⟩
    exact unwinds

theorem Ended.unwinds {x : Exec α} (ran : Ended x s (.error i) u added leaked g) : i.isFatal = false := ran.harmless i rfl

namespace Op

/-- The references that an operation consumes. -/
def given : Op → List Address
  | throwOwned a | handOver a _ => [a]
  | _ => []

/-- The objects that an operation names without consuming a reference. -/
def named : Op → List Address
  | throwKept a | raiseException a _ => [a]
  | send r _ _ _ => r.object?.toList
  | _ => []

/-- What an operation throws or panics with, and what it does to the counts on its way: a throw that consumes a
    reference takes it along, one that keeps its object takes a reference of its own, and a new object comes with
    the only one that it has. -/
def Effect (m : Memory) (i : Interruption) (n : Memory) : Op → Prop
  | throwOwned a => i = .thrown a ∧ ∀ b, n.count b = m.count b
  | throwKept a | raiseException a _ => i = .thrown a ∧ ∀ b, n.count b = m.count b + [a].count b
  | raise _ _ | throwText _ | send _ _ _ _ =>
    (∃ text, i = .panic text ∧ ∀ b, n.count b = m.count b) ∨
      ∃ x, i = .thrown x ∧ m.get? x = none ∧ ∀ b, n.count b = m.count b + [x].count b
  | panic text => i = .panic text ∧ ∀ b, n.count b = m.count b
  | check _ | nullToken _ => ∃ text, i = .panic text ∧ ∀ b, n.count b = m.count b
  | handOver a _ => ∃ text, i = .panic text ∧ ∀ b, n.count b + [a].count b = m.count b

/-- An operation is run by a program that owns what it consumes, and some reference to what it names. -/
structure Ready (op : Op) (s : Machine) (g : Address → Nat) : Prop where
  sound : Sound s (plus g op.given)
  named : ∀ a ∈ op.named, 0 < g a

/-- How an operation ends. Nothing leaks by it. -/
structure Ends (op : Op) (s : Machine) (g : Address → Nat) (r : Except Interruption Unit) (u : Machine)
    (added : List Address) : Prop extends Ended op.run s r u added [] (plus g (flying r)) where
  effect : ∀ i, r = .error i → op.Effect s.memory i u.memory

theorem Ends.of_error {op : Op} (ends : op.run.outcome s = (.error i, u))
    (left : Leaves s u added [] (plus g (flying (.error i : Except Interruption Unit)))) (unwinds : i.isFatal = false)
    (effect : op.Effect s.memory i u.memory) : op.Ends s g (.error i) u added where
  toEnded := .of_error ends left unwinds
  effect := by
    rintro j ⟨⟩
    exact effect

theorem Ends.of_ok {op : Op} (ends : op.run.outcome s = (.ok (), u)) (left : Leaves s u added [] g) :
    op.Ends s g (.ok ()) u added :=
  ⟨⟨ends, left, nofun⟩, nofun⟩

end Op

theorem count_carrying (sound : Sound s g) (cls : ClassId) (p : Payload) (b : Address) :
    (s.memory.carrying cls p).count b = s.memory.count b + [s.memory.heap.fresh].count b := by
  obtain ⟨balanced, -⟩ := sound.balanced.alloc cls
  rw [(balanced.attach (Memory.attach_place cls p)).accounts.count, sound.balanced.accounts.count]

/-- A new object that is thrown is one more reference, in flight. -/
theorem Sound.raised {op : Op} (sound : Sound s g) (raised : s.memory.Raised u.memory i)
    (ends : op.run.outcome s = (.error i, u))
    (effect : ((∃ text, i = .panic text ∧ ∀ b, u.memory.count b = s.memory.count b) ∨
      ∃ x, i = .thrown x ∧ s.memory.get? x = none ∧ ∀ b, u.memory.count b = s.memory.count b + [x].count b) →
        op.Effect s.memory i u.memory) : op.Ends s g (.error i) u [] := by
  rcases raised with ⟨text, rfl, same⟩ | ⟨cls, p, rfl, made⟩
  · exact .of_error ends (sound.leaves.of_memory same) rfl (effect (Or.inl ⟨text, rfl, fun b => by rw [same]⟩))
  · have pools : u.memory.pools = s.memory.pools := by rw [made]; rfl
    refine .of_error ends (.of_pools pools ?_) rfl (effect (Or.inr ⟨_, rfl, sound.balanced.fresh_free, fun b => ?_⟩))
    · rw [made, flying, plus_comm]
      obtain ⟨balanced, -⟩ := sound.balanced.alloc cls
      exact balanced.attach (Memory.attach_place cls p)
    · rw [made, count_carrying sound]

/-- What cannot be delivered is raised, and runs no code. -/
theorem outcome_send_refused {r : Receiver} {selector : Selector} (ret : TypeCode) (args : List Value)
    (lives : ∀ a, r = .object a → ∃ o, s.memory.get? a = some o)
    (refused : ∀ method, r.Finds s selector method → method.signature.accepts ret (args.map Value.code) = false) :
    ∃ i u, s.memory.Raised u.memory i ∧ ∀ code, (send code r selector ret args).outcome s = (.error i, u) := by
  obtain ⟨found, classes, text, finds, looked, described⟩ := outcome_lookup_or selector lives
  have raises (reason : String) : ∃ i u, s.memory.Raised u.memory i ∧
      (raiseNamed invalidArgumentName reason : Exec (Value × Ownership)).outcome { s with classes } = (.error i, u) :=
    outcome_raiseNamed_or (s := { s with classes }) invalidArgumentName reason
  cases found with
  | none =>
    obtain ⟨i, u, raised, ends⟩ := raises s!"{text}: unrecognized selector sent to {r.target}"
    refine ⟨i, u, raised, fun code => ?_⟩
    unfold send
    rw [outcome_bind_ok looked]
    exact (outcome_bind_ok described).trans ends
  | some method =>
    have mistyped := refused method (finds method rfl)
    obtain ⟨i, u, raised, ends⟩ := raises
      s!"{text}: sent as `{callSite ret (args.map Value.code)}` but implemented as `{method.signature.text}`"
    refine ⟨i, u, raised, fun code => ?_⟩
    unfold send
    rw [outcome_bind_ok looked]
    simp only [mistyped, Bool.not_false, if_true]
    exact (outcome_bind_ok described).trans ends

namespace Op

theorem ends_panic {op : Op} {text : String} (sound : Sound s g) (ends : op.run.outcome s = (.error (.panic text), u))
    (same : u.memory = s.memory) (effect : op.Effect s.memory (.panic text) u.memory) :
    op.Ends s g (.error (.panic text)) u [] :=
  .of_error ends (sound.leaves.of_memory same) rfl effect

/-- A reference that is consumed by a throw goes with it. -/
theorem ends_throw (op : Op) (left : Leaves s t [] [] (plus g [a]))
    (throws : ∀ o, t.memory.get? a = some o → ∃ journal, op.run.outcome s = (.error (.thrown a), { t with journal }))
    (effect : op.Effect s.memory (.thrown a) t.memory) : ∃ u, op.Ends s g (.error (.thrown a)) u [] := by
  obtain ⟨o, live⟩ := left.balanced.accounts.live (a := a) (Nat.lt_of_lt_of_le (plus_pos a) (le_plus _ _))
  obtain ⟨journal, thrown⟩ := throws o live
  exact ⟨{ t with journal }, .of_error thrown (left.of_memory rfl) rfl effect⟩

theorem ends_keeping (op : Op) (sound : Sound s g) (pos : 0 < g a)
    (throws : ∀ t o, (retain a).outcome s = (.ok (), t) → t.memory.get? a = some o →
      ∃ journal, op.run.outcome s = (.error (.thrown a), { t with journal }))
    (effect : ∀ n : Memory, (∀ b, n.count b = s.memory.count b + [a].count b) → op.Effect s.memory (.thrown a) n) :
    ∃ u, op.Ends s g (.error (.thrown a)) u [] := by
  obtain ⟨t, retained, left⟩ := sound.retain (Nat.lt_of_lt_of_le pos (le_plus _ _))
  refine ends_throw op left (fun o live => throws t o retained live) (effect t.memory fun b => ?_)
  rw [left.balanced.accounts.count, sound.balanced.accounts.count, left.pools, List.append_nil, plus_nil, plus_comm]
  rfl

theorem ends_send {r : Receiver} {selector : Selector} {ret : TypeCode} {args : List Value}
    (ready : (send r selector ret args).Ready s g) : ∃ x u, (send r selector ret args).Ends s g x u [] := by
  have sound : Sound s g := ready.sound
  by_cases accepts : ∃ method, r.Finds s selector method ∧ method.signature.accepts ret (args.map Value.code) = true
  · obtain ⟨method, found, accepted⟩ := accepts
    have sent := outcome_send (fun _ _ => pure .void) found accepted
    exact ⟨.ok (), _, .of_ok (outcome_bind_ok sent) (sound.leaves.of_memory (memory_entered found))⟩
  · obtain ⟨i, u, raised, ends⟩ := outcome_send_refused ret args
      (fun a same => sound.live (ready.named a (by rw [same]; exact List.mem_singleton_self a)))
      fun method found => Bool.eq_false_iff.mpr fun accepted => accepts ⟨method, found, accepted⟩
    exact ⟨_, u, sound.raised raised (outcome_bind_error (ends _)) id⟩

/-- A reference that is handed to a pool goes there, or is given up while the panic unwinds. -/
theorem ends_handOver {token : Nat} (sound : Sound s (plus g [a])) :
    ∃ r u added, (handOver a token).Ends s g r u added := by
  cases innermost : s.memory.pools.isInnermost token with
  | true =>
    have marks := PoolStack.marks_of_isInnermost innermost
    have added : s.memory.pools.add? a = some _ := PoolStack.add?_eq_some.mpr ⟨marks, rfl⟩
    refine ⟨.ok (), _, [a], .of_ok (outcome_handOver innermost added) ⟨rfl, fun none => absurd none marks, fun _ => rfl, ?_⟩⟩
    dsimp only
    rw [plus_append, plus_nil, plus_comm]
    exact sound.balanced.setPools _
  | false =>
    obtain ⟨u, released, left⟩ := sound.release
    obtain ⟨text, panics⟩ := outcome_assertInnermost_panic innermost
    have ends : (handOver a token).run.outcome s = (.error (.panic text), u) := by
      show (Messaging.handOver a token).outcome s = _
      unfold Messaging.handOver
      rw [outcome_bind_ok (outcome_attempt _), panics]
      exact (outcome_bind_ok released).trans (outcome_throw _)
    refine ⟨_, u, [], .of_error ends left rfl ⟨text, rfl, fun b => ?_⟩⟩
    rw [left.balanced.accounts.count, sound.balanced.accounts.count, left.pools, List.append_nil, plus_nil, plus_comm]
    rfl

theorem Ready.ends {op : Op} (ready : op.Ready s g) : ∃ r u added, op.Ends s g r u added := by
  have sound := ready.sound
  have named := ready.named
  cases op with
  | raise name reason =>
    obtain ⟨i, u, raised, ends⟩ := outcome_raiseNamed_or (α := Unit) (s := s) name reason
    exact ⟨_, u, [], sound.raised raised ends id⟩
  | throwText contents =>
    obtain ⟨i, u, raised, ends⟩ := outcome_throwText_or (α := Unit) (s := s) contents
    exact ⟨_, u, [], sound.raised raised ends id⟩
  | send r selector ret args =>
    obtain ⟨x, u, ends⟩ := ends_send ready
    exact ⟨x, u, [], ends⟩
  | throwOwned a =>
    obtain ⟨u, ends⟩ := ends_throw (.throwOwned a) sound.leaves (fun o live => outcome_throwObject live)
      ⟨rfl, fun _ => rfl⟩
    exact ⟨_, u, [], ends⟩
  | throwKept a =>
    obtain ⟨u, ends⟩ := ends_keeping (.throwKept a) sound (named a (List.mem_singleton_self a))
      (fun t o retained live => by
        obtain ⟨journal, thrown⟩ := outcome_throwObject (α := Unit) live
        exact ⟨journal, (outcome_bind_ok retained).trans thrown⟩) fun _ counts => ⟨rfl, counts⟩
    exact ⟨_, u, [], ends⟩
  | raiseException a command =>
    obtain ⟨u, ends⟩ := ends_keeping (.raiseException a command) sound (named a (List.mem_singleton_self a))
      (fun t o retained live => by
        obtain ⟨journal, thrown⟩ := outcome_throwObject (α := Value) live
        exact ⟨journal, outcome_bind_error ((outcome_bind_ok retained).trans thrown)⟩) fun _ counts => ⟨rfl, counts⟩
    exact ⟨_, u, [], ends⟩
  | panic text => exact ⟨_, s, [], ends_panic sound rfl rfl ⟨rfl, fun _ => rfl⟩⟩
  | check token =>
    cases innermost : s.memory.pools.isInnermost token with
    | true => exact ⟨.ok (), s, [], .of_ok (outcome_assertInnermost innermost) sound.leaves⟩
    | false =>
      obtain ⟨text, panics⟩ := outcome_assertInnermost_panic innermost
      exact ⟨_, s, [], ends_panic sound panics rfl ⟨text, rfl, fun _ => rfl⟩⟩
  | handOver a token => exact ends_handOver sound
  | nullToken selector => exact ⟨_, _, [], ends_panic sound rfl rfl ⟨_, rfl, fun _ => rfl⟩⟩

end Op

end Unwinding
end Messaging
