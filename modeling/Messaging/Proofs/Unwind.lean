import Messaging.Proofs.Lifetime

/-! New objects that carry something, and what is thrown with them. Where the built-in classes are installed, asking
    for them changes nothing; where they are not it may panic, but no object is made for it. -/

namespace Messaging
open Exec
variable {s : Machine} {m : Memory} {a : Address} {known : Builtins}

theorem outcome_builtins (installed : s.setup.builtins = some known) : builtins.outcome s = (.ok known, s) := by
  unfold builtins
  rw [outcome_bind_ok outcome_get]
  simp only [installed]
  rfl

theorem outcome_attach {p : Payload} (h : s.memory.attach a p = some m) :
    (attach a p).outcome s = (.ok (), { s with memory := m }) :=
  outcome_onObject h

/-- The memory with a new object that carries something. -/
def Memory.carrying (m : Memory) (cls : ClassId) (p : Payload) : Memory :=
  (m.place m.heap.fresh cls).put m.heap.fresh ⟨cls, 1, some p, false⟩

theorem Memory.attach_place (cls : ClassId) (p : Payload) :
    (m.place m.heap.fresh cls).attach m.heap.fresh p = some (m.carrying cls p) := by
  have live : (m.place m.heap.fresh cls).get? m.heap.fresh = some ⟨cls, 1, none, false⟩ := by
    rw [get?_place, if_pos rfl]
  exact modify?_eq_some.mpr ⟨_, live, rfl⟩

theorem Memory.get?_carrying (cls : ClassId) (p : Payload) (b : Address) : (m.carrying cls p).get? b =
    if m.heap.fresh = b then some ⟨cls, 1, some p, false⟩ else m.get? b := by
  rw [carrying, get?_put, get?_place]
  split <;> rfl

/-- A new object with something attached to it. -/
theorem outcome_carrying (cls : ClassId) (p : Payload) : ∃ journal,
    Exec.outcome (do
      let a ← alloc cls
      attach a p
      pure a) s = (.ok s.memory.heap.fresh, { s with memory := s.memory.carrying cls p, journal }) := by
  obtain ⟨journal, made⟩ := outcome_alloc (s := s) cls
  refine ⟨journal, ?_⟩
  rw [outcome_bind_ok made, outcome_bind_ok (outcome_attach (Memory.attach_place cls p)), outcome_pure]

/-- A new object is thrown with the one reference that it has. -/
theorem outcome_throw_made {α : Type} {x : Exec Address} {t : Machine} {cls : ClassId} {p : Payload}
    (made : x.outcome s = (.ok m.heap.fresh, t)) (memory : t.memory = m.carrying cls p) : ∃ journal,
      (x >>= throwObject : Exec α).outcome s = (.error (.thrown m.heap.fresh), { t with journal }) := by
  have live : t.memory.get? m.heap.fresh = some ⟨cls, 1, some p, false⟩ := by
    rw [memory]
    exact (Memory.get?_put _).trans (if_pos rfl)
  obtain ⟨journal, thrown⟩ := outcome_throwObject (α := α) live
  exact ⟨journal, (outcome_bind_ok made).trans thrown⟩

theorem outcome_raiseNamed {α : Type} (installed : s.setup.builtins = some known) (name reason : String) : ∃ journal,
    (raiseNamed name reason : Exec α).outcome s = (.error (.thrown s.memory.heap.fresh),
      { s with memory := s.memory.carrying known.exception (.exception name reason), journal }) := by
  obtain ⟨journal, made⟩ := outcome_carrying (s := s) known.exception (.exception name reason)
  exact outcome_throw_made (x := newException name reason) ((outcome_bind_ok (outcome_builtins installed)).trans made) rfl

/-! ### Installing the built-in classes -/

/-- A computation that always ends with a result, and touches no object and no pool. -/
def Quiet {α : Type} (x : Exec α) : Prop := ∀ s, ∃ a t, x.outcome s = (.ok a, t) ∧ t.memory = s.memory

section
variable {α β : Type}

theorem Quiet.bind {x : Exec α} {f : α → Exec β} (hx : Quiet x) (hf : ∀ a, Quiet (f a)) : Quiet (x >>= f) := by
  intro s
  obtain ⟨a, t, first, same⟩ := hx s
  obtain ⟨b, u, second, same'⟩ := hf a t
  exact ⟨b, u, (outcome_bind_ok first).trans second, same'.trans same⟩

theorem quiet_pure (a : α) : Quiet (pure a : Exec α) := fun s => ⟨a, s, rfl, rfl⟩

theorem quiet_registering {x : Registering α} {f : α → Registering β} (hx : Quiet x.run)
    (hf : ∀ a, Quiet (f a).run) : Quiet (x >>= f).run := by
  refine Quiet.bind hx fun r => ?_
  cases r with
  | ok a => exact hf a
  | error cause => exact quiet_pure _

theorem quiet_lift {x : Exec α} (hx : Quiet x) : Quiet (ExceptT.lift x : Registering α).run :=
  hx.bind fun _ => quiet_pure _

theorem quiet_forM {l : List α} {f : α → Registering PUnit} (hf : ∀ a, Quiet (f a).run) : Quiet (l.forM f).run := by
  induction l with
  | nil => exact quiet_pure _
  | cons a rest ih => exact quiet_registering (hf a) fun _ => ih

end

theorem quiet_defineMethod (id : ClassId) (spec : MethodSpec) : Quiet (defineMethod id spec).run := by
  refine quiet_registering (quiet_lift fun s => ⟨_, _, rfl, rfl⟩) fun selector => ?_
  refine quiet_registering (quiet_pure _) fun m => ?_
  exact quiet_registering (quiet_lift fun s => ⟨_, _, rfl, rfl⟩) fun _ => quiet_pure _

theorem quiet_createClass (name : String) (superclass : Option ClassId) : Quiet (createClass name superclass) := by
  intro s
  unfold createClass
  rw [outcome_bind_ok outcome_get]
  split <;> exact ⟨_, _, rfl, rfl⟩

theorem quiet_createProtocol (name : String) : Quiet (createProtocol name) := by
  intro s
  obtain ⟨r, protocols, ran⟩ := outcome_createProtocol (s := s) name
  exact ⟨r, _, ran, rfl⟩

theorem quiet_defineClass (name : String) (superclass : Option ClassId) (methods : List MethodSpec) :
    Quiet (defineClass name superclass methods).run := by
  refine quiet_registering (quiet_createClass name superclass) fun id => ?_
  exact quiet_registering (quiet_forM fun spec => quiet_defineMethod id spec) fun _ => quiet_pure _

theorem quiet_registerBuiltins : Quiet registerBuiltins.run := by
  refine quiet_registering (quiet_defineClass _ _ _) fun object => ?_
  refine quiet_registering (quiet_defineClass _ _ _) fun string => ?_
  refine quiet_registering (quiet_defineClass _ _ _) fun number => ?_
  refine quiet_registering (quiet_defineClass _ _ _) fun exception => ?_
  refine quiet_registering (quiet_createProtocol _) fun portDelegate => ?_
  refine quiet_registering (quiet_forM fun name => ?_) fun _ => ?_
  · refine quiet_registering (quiet_lift fun s => ⟨_, _, rfl, rfl⟩) fun selector => ?_
    exact quiet_lift fun s => ⟨_, _, rfl, rfl⟩
  refine quiet_registering (quiet_defineClass _ _ _) fun port => ?_
  exact quiet_registering (quiet_lift fun s => ⟨_, _, rfl, rfl⟩) fun _ => quiet_pure _

/-- The built-in classes are there, or the installation panics. -/
theorem outcome_builtins_or (s : Machine) : ∃ t, t.memory = s.memory ∧
    ((∃ known, builtins.outcome s = (.ok known, t)) ∨ ∃ text, builtins.outcome s = (.error (.panic text), t)) := by
  cases found : s.setup.builtins with
  | some known => exact ⟨s, rfl, Or.inl ⟨known, outcome_builtins found⟩⟩
  | none =>
    obtain ⟨made, t, registered, same⟩ := quiet_registerBuiltins s
    cases made with
    | ok known =>
      refine ⟨{ t with setup := { t.setup with builtins := some known } }, same, Or.inl ⟨known, ?_⟩⟩
      unfold builtins
      rw [outcome_bind_ok outcome_get]
      simp only [found]
      exact (outcome_bind_ok registered).trans rfl
    | error cause =>
      -- The text gets a name of its own, since the computation is unfolded below.
      obtain ⟨text, told⟩ : ∃ text, text = "failed to install builtin classes: " ++ cause.message := ⟨_, rfl⟩
      refine ⟨{ t with journal := t.journal.record .error Log.Origin.builtins.path text }, same, Or.inr ⟨text, ?_⟩⟩
      unfold builtins
      rw [outcome_bind_ok outcome_get]
      simp only [found]
      subst told
      exact (outcome_bind_ok registered).trans rfl

/-- Between two memories a new object came about and was thrown, or there was a panic and nothing changed. -/
def Memory.Raised (m n : Memory) (i : Interruption) : Prop :=
  (∃ text, i = .panic text ∧ n = m) ∨ ∃ cls p, i = .thrown m.heap.fresh ∧ n = m.carrying cls p

theorem outcome_throw_carrying {α : Type} (cls : Builtins → ClassId) (p : Payload) : ∃ i t,
    s.memory.Raised t.memory i ∧ Exec.outcome ((do
      let a ← alloc (cls (← builtins))
      attach a p
      pure a) >>= throwObject : Exec α) s = (.error i, t) := by
  obtain ⟨t, same, ⟨known, found⟩ | ⟨text, panics⟩⟩ := outcome_builtins_or s
  · obtain ⟨journal, made⟩ := outcome_carrying (s := t) (cls known) p
    rw [same] at made
    have raised : Exec.outcome (do
        let a ← alloc (cls (← builtins))
        attach a p
        pure a) s = _ := (outcome_bind_ok found).trans made
    obtain ⟨journal, thrown⟩ := outcome_throw_made (α := α) raised rfl
    exact ⟨_, _, Or.inr ⟨cls known, p, rfl, rfl⟩, thrown⟩
  · exact ⟨.panic text, t, Or.inl ⟨text, rfl, same⟩, outcome_bind_error (outcome_bind_error panics)⟩

theorem outcome_raiseNamed_or {α : Type} (name reason : String) : ∃ i t, s.memory.Raised t.memory i ∧
    (raiseNamed name reason : Exec α).outcome s = (.error i, t) :=
  outcome_throw_carrying Builtins.exception (.exception name reason)

theorem outcome_throwText_or {α : Type} (contents : String) : ∃ i t, s.memory.Raised t.memory i ∧
    (throwText contents : Exec α).outcome s = (.error i, t) :=
  outcome_throw_carrying Builtins.string (.text contents)

end Messaging
