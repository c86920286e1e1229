import Messaging.Proofs.Frame
import Messaging.Proofs.Unwind
import Messaging.TypedCall.Symbols

/-! Resolving symbols. It may install what is built in, intern names and write to the journal, and it may panic where
    a name is taken, but it touches no object and no pool. -/

namespace Messaging
open Exec

section
variable {α β : Type}

theorem Quiet.keeps {x : Exec α} (quiet : Quiet x) : Keeps Machine.memory x := by
  intro s
  obtain ⟨a, t, ends, same⟩ := quiet s
  rw [ends]
  exact same

theorem keeps_mapM {x : α → Exec β} (hx : ∀ a, Keeps Machine.memory (x a)) (l : List α) :
    Keeps Machine.memory (l.mapM x) := by
  induction l with
  | nil => exact keeps_pure []
  | cons a rest ih =>
    rw [List.mapM_cons]
    exact (hx a).bind fun b => ih.bind fun bs => keeps_pure _

theorem keeps_registering {x : Registering α} {f : α → Registering β} (hx : Keeps Machine.memory x.run)
    (hf : ∀ a, Keeps Machine.memory (f a).run) : Keeps Machine.memory (x >>= f).run := by
  refine Keeps.bind hx fun r => ?_
  cases r with
  | ok a => exact hf a
  | error cause => exact keeps_pure _

end

theorem keeps_record (origin : Log.Origin) (level : Log.Level) (text : String) :
    Keeps Machine.memory (log origin level text) := keeps_log (fun _ _ => rfl) origin level text

theorem keeps_builtins : Keeps Machine.memory builtins := by
  intro s
  obtain ⟨t, same, ⟨known, ends⟩ | ⟨text, ends⟩⟩ := outcome_builtins_or s
  · rw [ends]
    exact same
  · rw [ends]
    exact same

theorem keeps_adoptProtocol (id : ClassId) (p : ProtocolId) : Keeps Machine.memory (adoptProtocol id p) := by
  intro s
  cases found : s.protocols.get? p with
  | none => rw [outcome_adoptProtocol_none found]
  | some protocol => rw [outcome_adoptProtocol_some found]

theorem keeps_registerAdapter : Keeps Machine.memory registerAdapter.run := by
  refine keeps_registering (keeps_builtins.bind fun _ => keeps_pure _) fun known => ?_
  refine keeps_registering (quiet_defineClass _ _ _).keeps fun id => ?_
  refine keeps_registering (keeps_adoptProtocol id known.portDelegate) fun _ => ?_
  exact keeps_registering ((keeps_record _ _ _).bind fun _ => keeps_pure _) fun _ => keeps_pure _

theorem keeps_adapterClass : Keeps Machine.memory adapterClass := by
  refine keeps_get.bind fun s => ?_
  split
  · exact keeps_pure _
  · refine keeps_registerAdapter.bind fun made => ?_
    cases made with
    | ok id => exact Keeps.bind (fun _ => rfl) fun _ => keeps_pure _
    | error cause => exact (keeps_record _ _ _).bind fun _ => keeps_throw _

theorem keeps_readEnvironment : Keeps Machine.memory readEnvironment := by
  intro s
  obtain ⟨journal, ran⟩ := outcome_readEnvironment s
  rw [ran]

theorem keeps_install : Keeps Machine.memory install :=
  keeps_readEnvironment.bind fun _ => keeps_builtins.bind fun _ => keeps_adapterClass.bind fun _ => keeps_pure _

theorem keeps_resolveClass (name : String) : Keeps Machine.memory (resolveClass name) := by
  refine keeps_install.bind fun _ => keeps_get.bind fun s => ?_
  split
  · exact (keeps_record _ _ _).bind fun _ => keeps_pure _
  · exact (keeps_record _ _ _).bind fun _ => keeps_pure _

theorem keeps_intern (name : String) : Keeps Machine.memory (intern name) := fun _ => rfl

theorem SymbolList.keeps_resolve (l : SymbolList) : Keeps Machine.memory l.resolve := by
  unfold resolve
  refine Keeps.bind (keeps_mapM (fun e => ?_) _) fun classes => Keeps.bind (keeps_mapM (fun e => ?_) _) fun selectors => ?_
  · exact (keeps_resolveClass e.2).bind fun _ => keeps_pure _
  · exact (keeps_intern e.2).bind fun _ => keeps_pure _
  dsimp only
  split
  · exact (keeps_record _ _ _).bind fun _ => keeps_pure _
  · exact (keeps_record _ _ _).bind fun _ => keeps_pure _

theorem SymbolList.keeps_table (l : SymbolList) : Keeps Machine.memory l.table := by
  refine keeps_get.bind fun s => ?_
  split
  · exact keeps_pure _
  · exact l.keeps_resolve.bind fun t => Keeps.bind (fun _ => rfl) fun _ => keeps_pure _

theorem keeps_baseSelector (name : String) : Keeps Machine.memory (baseSelector name) :=
  baseSymbolList.keeps_table.bind fun _ => keeps_intern name

/-- Symbols that are resolved are only looked up. -/
theorem outcome_baseSelector {s : Machine} {table : SymbolTable}
    (resolved : s.setup.symbols.get? baseSymbolList.title = some table) (name : String) : (baseSelector name).outcome s =
      (.ok (s.selectors.register name).1, { s with selectors := (s.selectors.register name).2 }) := by
  have found : baseSymbols.outcome s = (.ok table, s) := by
    unfold baseSymbols SymbolList.table
    rw [outcome_bind_ok outcome_get]
    simp only [resolved]
    rfl
  unfold baseSelector
  rw [outcome_bind_ok found]
  rfl

end Messaging
