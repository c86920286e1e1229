import Messaging.Proofs.Builtin.Samples
import Messaging.TypedCall.Call

/-! Equality of built-in objects. Strings are compared by their contents, and all others by their identity; hashes go
    with that. Equality is symmetric and transitive, nothing is equal to nil, and equal objects have one hash, whatever
    a program did before. It is reflexive but for strings that were never given contents, which are not equal to
    themselves. -/

namespace Messaging
open Exec

variable {s : Machine} {known : Builtins} {id above : ClassId} {kind : MethodKind} {selector : Selector} {name : String}
  {spec : MethodSpec} {specs : List MethodSpec} {a b c : Address} {o : Object}

/-! ### What is found -/

theorem Machine.Defines.resolve?_own {upper : Option ClassId} (defines : s.Defines id upper specs)
    (h : ClassTable.Ordered s.classes.entries) (mem : spec ∈ specs) : ∃ selector m,
    s.selectors.lookup? spec.name = some selector ∧ s.classes.resolve? id spec.kind selector = some m ∧ spec.Gives m := by
  obtain ⟨selector, m, handle, own, gives⟩ := defines.has spec mem
  refine ⟨selector, m, handle, ?_, gives⟩
  rw [ClassTable.resolve?_eq h, own]
  rfl

theorem Machine.Defines.resolve?_above (defines : s.Defines id (some above) specs) (h : ClassTable.Ordered s.classes.entries)
    (handle : s.selectors.lookup? name = some selector) (lacks : (kind, name) ∉ specs.map MethodSpec.message) :
    s.classes.resolve? id kind selector = s.classes.resolve? above kind selector := by
  rcases defines.own?_cases kind handle with ⟨spec, mem, same, -⟩ | ⟨-, none⟩
  · exact absurd (List.mem_map.mpr ⟨spec, mem, same⟩) lacks
  · rw [ClassTable.resolve?_eq h, none, defines.superclass]
    rfl

/-- A message that only the root class and strings know finds the method of the root class, but for strings. -/
theorem Builtins.Stand.resolve?_plain (stand : known.Stand s) (h : ClassTable.Ordered s.classes.entries)
    (plain : id ∈ known.plain) (mem : spec ∈ objectMethods)
    (lacks : ∀ specs ∈ [numberMethods, exceptionMethods, portMethods], spec.message ∉ specs.map MethodSpec.message) :
    ∃ selector m, s.selectors.lookup? spec.name = some selector ∧ s.classes.resolve? id spec.kind selector = some m ∧
      spec.Gives m := by
  obtain ⟨selector, m, handle, found, gives⟩ := stand.object.resolve?_own h mem
  refine ⟨selector, m, handle, ?_, gives⟩
  simp only [List.forall_mem_cons] at lacks
  obtain ⟨numbers, exceptions, ports, -⟩ := lacks
  simp only [Builtins.plain, List.mem_cons, List.not_mem_nil, or_false] at plain
  rcases plain with rfl | rfl | rfl | rfl
  · exact found
  · rw [stand.number.resolve?_above h handle numbers, found]
  · rw [stand.exception.resolve?_above h handle exceptions, found]
  · rw [stand.port.resolve?_above h handle ports, found]

/-! ### Questions -/

/-- Asks an object whether it is equal to another one, or to nil. -/
def askEqual (code : Code) (a : Address) (b : Option Address) : Exec Value := do
  readCall code a (← intern "isEqual:") .bool [.object b]

/-- Asks an object for its hash. -/
def askHash (code : Code) (a : Address) : Exec Value := do readCall code a (← intern "hash") .ulong []

/-- A question is answered, and the memory is as it was. -/
def Machine.Answers (s : Machine) (question : Exec Value) (v : Value) : Prop :=
  ∃ t, question.outcome s = (.ok v, t) ∧ t.memory = s.memory

/-- A question is answered by the routine of the method that it finds. -/
theorem Machine.Regular.answers {code inner : Code} (h : s.Regular) (ties : Delivery.Ties code inner)
    (live : s.memory.get? a = some o)
    (finds : ∃ selector m, s.selectors.lookup? spec.name = some selector ∧
      s.classes.resolve? o.cls .ofInstances selector = some m ∧ spec.Gives m)
    {r : BuiltinRoutine} (routine : spec.routine = .builtin r) {ret : TypeCode} {args : List Value} {v : Value}
    (accepts : ((Signature.read spec.types).toOption.any fun types => types.accepts ret (args.map Value.code)) = true)
    (run : ∀ selector t, t.memory = s.memory →
      (r.run inner ⟨.object a, selector, ret, args⟩).outcome t = (.ok v, t)) :
    s.Answers (do readCall code a (← intern spec.name) ret args) v := by
  obtain ⟨selector, m, handle, resolved, gives⟩ := finds
  have interned : (intern spec.name).outcome s = (.ok selector, s) := by
    unfold intern
    rw [outcome_modifyGet, SelectorTable.register_of_lookup? handle]
  have found : (Receiver.object a).Finds s selector m := ⟨o, live, (ClassTable.lookup_eq h.current).trans resolved⟩
  rw [gives.signature] at accepts
  have sent := outcome_send code found accepts
  rw [gives.routine, routine, ties, run _ _ (memory_entered found)] at sent
  exact ⟨_, (outcome_bind_ok interned).trans (outcome_bind_ok sent), memory_entered found⟩

/-! ### Answers -/

/-- The contents of the object at an address. -/
def Memory.text? (m : Memory) (a : Address) : Option String := (m.get? a).bind fun o => Payload.text? o.payload

namespace Builtins

/-- An object lives and is of a built-in class itself. -/
def Has (known : Builtins) (s : Machine) (a : Address) : Prop := ∃ o, s.memory.get? a = some o ∧ o.cls ∈ known.classes

/-- A string that was not given contents. -/
def Blank (known : Builtins) (s : Machine) (a : Address) : Prop :=
  ∃ o, s.memory.get? a = some o ∧ o.cls = known.string ∧ Payload.text? o.payload = none

/-- What two objects are compared by. -/
def equal (known : Builtins) (s : Machine) (a : Address) (b : Option Address) : Bool :=
  if ((s.memory.get? a).map Object.cls) = some known.string then
    (s.memory.text? a).isSome && s.memory.text? a == b.bind s.memory.text?
  else b == some a

def hash (known : Builtins) (s : Machine) (a : Address) : Value :=
  if ((s.memory.get? a).map Object.cls) = some known.string then .ulong (nameHash ((s.memory.text? a).getD "")) else .place a

theorem string_or_plain (mem : id ∈ known.classes) :
    id = known.string ∨ id ≠ known.string ∧ id ∈ known.plain := by
  by_cases string : id = known.string
  · exact Or.inl string
  · simp only [classes, plain, List.mem_cons, List.not_mem_nil, or_false] at mem ⊢
    exact Or.inr ⟨string, (or_left_comm.mp mem).resolve_left string⟩

end Builtins

section
variable {code inner : Code}

theorem outcome_argPayload {inv : Invocation} {t : Machine} {b : Option Address} (arg : (inv.arg 0).object? = b)
    (lives : ∀ c, b = some c → ∃ o, t.memory.get? c = some o) : ∃ payload, (inv.argPayload 0).outcome t = (.ok payload, t) ∧
      Payload.text? payload = b.bind t.memory.text? := by
  unfold Invocation.argPayload
  rw [arg]
  cases b with
  | none => exact ⟨none, rfl, rfl⟩
  | some c =>
    obtain ⟨o, live⟩ := lives c rfl
    refine ⟨o.payload, Delivery.outcome_payloadOf live, ?_⟩
    rw [Option.bind_some, Memory.text?, live]
    rfl

theorem answers_equal (ties : Delivery.Ties code inner) (h : s.Regular) (installed : s.setup.builtins = some known)
    (has : known.Has s a) {b : Option Address} (lives : ∀ c, b = some c → ∃ o, s.memory.get? c = some o) :
    s.Answers (askEqual code a b) (.bool (known.equal s a b)) := by
  obtain ⟨o, live, mem⟩ := has
  have stand := h.stand known installed
  unfold Builtins.equal Memory.text?
  rw [live, Option.map_some, Option.bind_some]
  -- Strings have a method of their own for the question, and the objects of the other classes find the root class's.
  rcases Builtins.string_or_plain mem with string | ⟨other, plain⟩
  · rw [if_pos (congrArg some string)]
    have finds := stand.string.resolve?_own h.ordered
      (show instanceSpec "isEqual:" .textIsEqual "B@:@" ∈ stringMethods by simp [stringMethods])
    rw [← string] at finds
    refine h.answers ties live finds rfl (by cbv) fun selector t memory => ?_
    rw [← memory] at live lives ⊢
    obtain ⟨right, asked, text⟩ :=
      outcome_argPayload (show (Invocation.arg ⟨.object a, selector, .bool, [.object b]⟩ 0).object? = b from rfl) lives
    refine (outcome_bind_ok (Delivery.outcome_payload rfl live)).trans ((outcome_bind_ok asked).trans ?_)
    rw [text]
    rfl
  · rw [if_neg fun same => other (Option.some.inj same)]
    have finds := stand.resolve?_plain h.ordered plain
      (show instanceSpec "isEqual:" .isIdentical "B@:@" ∈ objectMethods by simp [objectMethods]) (by decide)
    exact h.answers ties live finds rfl (by cbv) fun selector t _ => rfl

theorem answers_hash (ties : Delivery.Ties code inner) (h : s.Regular) (installed : s.setup.builtins = some known)
    (has : known.Has s a) : s.Answers (askHash code a) (known.hash s a) := by
  obtain ⟨o, live, mem⟩ := has
  have stand := h.stand known installed
  unfold Builtins.hash Memory.text?
  rw [live, Option.map_some, Option.bind_some]
  rcases Builtins.string_or_plain mem with string | ⟨other, plain⟩
  · rw [if_pos (congrArg some string)]
    have finds := stand.string.resolve?_own h.ordered
      (show instanceSpec "hash" .textHash "Q@:" ∈ stringMethods by simp [stringMethods])
    rw [← string] at finds
    refine h.answers ties live finds rfl (by cbv) fun selector t memory => ?_
    rw [← memory] at live
    exact outcome_bind_ok (Delivery.outcome_payload rfl live)
  · rw [if_neg fun same => other (Option.some.inj same)]
    have finds := stand.resolve?_plain h.ordered plain
      (show instanceSpec "hash" .identityHash "Q@:" ∈ objectMethods by simp [objectMethods]) (by decide)
    exact h.answers ties live finds rfl (by cbv) fun selector t _ => rfl

end

/-! ### Laws -/

namespace Builtins

/-- Two objects are equal if they are one object of a class that compares by identity, or have the same contents. -/
theorem equal_iff (h : s.Regular) (installed : s.setup.builtins = some known) (has : known.Has s a) :
    known.equal s a (some b) = true ↔ (∃ o, s.memory.get? a = some o ∧ o.cls ∈ known.plain) ∧ a = b ∨
      ∃ contents, s.memory.text? a = some contents ∧ s.memory.text? b = some contents := by
  obtain ⟨o, live, mem⟩ := has
  have stand := h.stand known installed
  have text : s.memory.text? a = Payload.text? o.payload := by rw [Memory.text?, live, Option.bind_some]
  simp only [equal, live, Option.map_some, Option.some.injEq, exists_eq_left', Option.bind_some, text]
  rcases Builtins.string_or_plain mem with string | ⟨other, plain⟩
  · rw [if_pos string, string]
    simp only [stand.string_notMem, false_and, false_or, Bool.and_eq_true, beq_iff_eq, Option.isSome_iff_exists]
    constructor
    · rintro ⟨⟨contents, has⟩, same⟩
      exact ⟨contents, has, same ▸ has⟩
    · rintro ⟨contents, has, has'⟩
      exact ⟨⟨contents, has⟩, has.trans has'.symm⟩
  · have nothing : Payload.text? o.payload = none := by
      by_contra has
      exact h.texts known installed a o live (Option.isSome_iff_ne_none.mpr has) plain
    rw [if_neg other, nothing]
    simp only [plain, true_and, reduceCtorEq, false_and, exists_false, or_false, beq_iff_eq, Option.some.injEq]
    exact eq_comm

/-- What programs can rely on when they compare built-in objects. -/
structure Equality (known : Builtins) (code : Code) (s : Machine) (equal : Address → Address → Bool)
    (hash : Address → Value) : Prop where
  asked : ∀ a b, known.Has s a → known.Has s b → s.Answers (askEqual code a (some b)) (.bool (equal a b))
  hashed : ∀ a, known.Has s a → s.Answers (askHash code a) (hash a)
  nil : ∀ a, known.Has s a → s.Answers (askEqual code a none) (.bool false)
  reflexive : ∀ a, known.Has s a → (equal a a = true ↔ ¬known.Blank s a)
  symmetric : ∀ a b, known.Has s a → known.Has s b → equal a b = equal b a
  transitive : ∀ a b c, known.Has s a → known.Has s b → known.Has s c → equal a b = true → equal b c = true →
    equal a c = true
  hashes : ∀ a b, known.Has s a → known.Has s b → equal a b = true → hash a = hash b

variable {code inner : Code}

theorem equal_none (has : known.Has s a) : known.equal s a none = false := by
  obtain ⟨o, live, -⟩ := has
  unfold equal
  split
  · rw [Option.bind_none]
    cases s.memory.text? a <;> rfl
  · rfl

/-- An object has no contents, unless it is a string that was given some. -/
theorem blank_iff (h : s.Regular) (installed : s.setup.builtins = some known) (has : known.Has s a) :
    known.Blank s a ↔ ¬known.equal s a (some a) = true := by
  have iff := equal_iff (b := a) h installed has
  obtain ⟨o, live, mem⟩ := has
  have stand := h.stand known installed
  rw [iff]
  simp only [Blank, Memory.text?, live, Option.some.injEq, exists_eq_left', Option.bind_some, and_self, and_true, not_or]
  rw [← Option.isSome_iff_exists, Option.not_isSome_iff_eq_none]
  refine and_congr_left fun _ => ⟨?_, fun notPlain => ?_⟩
  · rintro string plain
    exact stand.string_notMem (string ▸ plain)
  · exact (string_or_plain mem).resolve_right fun plain => notPlain plain.2

theorem equal_symm (h : s.Regular) (installed : s.setup.builtins = some known) (has : known.Has s a)
    (has' : known.Has s b) (same : known.equal s a (some b) = true) : known.equal s b (some a) = true := by
  rw [equal_iff h installed has] at same
  rw [equal_iff h installed has']
  rcases same with ⟨plain, rfl⟩ | ⟨contents, left, right⟩
  · exact Or.inl ⟨plain, rfl⟩
  · exact Or.inr ⟨contents, right, left⟩

theorem equal_trans (h : s.Regular) (installed : s.setup.builtins = some known) (has : known.Has s a)
    (has' : known.Has s b) (same : known.equal s a (some b) = true) (same' : known.equal s b (some c) = true) :
    known.equal s a (some c) = true := by
  rw [equal_iff h installed has] at same ⊢
  rw [equal_iff h installed has'] at same'
  rcases same with ⟨plain, rfl⟩ | ⟨contents, left, right⟩
  · exact same'
  · rcases same' with ⟨-, rfl⟩ | ⟨contents', left', right'⟩
    · exact Or.inr ⟨contents, left, right⟩
    · obtain rfl := Option.some.inj (right.symm.trans left')
      exact Or.inr ⟨contents, left, right'⟩

/-- Among built-in objects only strings have contents, which they are hashed by. -/
theorem hash_of_text (h : s.Regular) (installed : s.setup.builtins = some known) (has : known.Has s a) {contents : String}
    (text : s.memory.text? a = some contents) : known.hash s a = .ulong (nameHash contents) := by
  obtain ⟨o, live, mem⟩ := has
  have own : (Payload.text? o.payload).isSome := by
    rw [Memory.text?, live, Option.bind_some] at text
    rw [text]
    rfl
  have string : o.cls = known.string :=
    (string_or_plain mem).resolve_right fun plain => h.texts known installed a o live own plain.2
  unfold hash
  rw [live, Option.map_some, if_pos (congrArg some string), text, Option.getD_some]

theorem hash_of_equal (h : s.Regular) (installed : s.setup.builtins = some known) (has : known.Has s a)
    (has' : known.Has s b) (same : known.equal s a (some b) = true) : known.hash s a = known.hash s b := by
  rw [equal_iff h installed has] at same
  rcases same with ⟨-, rfl⟩ | ⟨contents, left, right⟩
  · rfl
  · rw [hash_of_text h installed has left, hash_of_text h installed has' right]

/-- On every machine that a program leads to, built-in objects keep the contract of equality, but for strings without
    contents: they are not equal to themselves. -/
theorem equality_is_kept_but_for_blank_strings {heapStart : Nat} {environment : Option String} {client : Client}
    (program : Clients.Program code) (ties : Delivery.Ties code inner)
    (run : Clients.Leads code (.fresh heapStart environment client) s) (installed : s.setup.builtins = some known) :
    ∃ equal hash, known.Equality code s equal hash := by
  have h := program.regular run
  refine ⟨fun a b => known.equal s a (some b), known.hash s,
    ⟨?asked, ?hashed, ?nil, ?reflexive, ?symmetric, ?transitive, ?hashes⟩⟩
  case asked =>
    rintro a b has ⟨o, live, -⟩
    exact answers_equal ties h installed has (by rintro _ ⟨⟩; exact ⟨o, live⟩)
  case hashed => exact fun a has => answers_hash ties h installed has
  case nil =>
    intro a has
    rw [← equal_none has]
    exact answers_equal ties h installed has nofun
  case reflexive =>
    intro a has
    rw [blank_iff h installed has, not_not]
  case symmetric =>
    intro a b has has'
    exact Bool.eq_iff_iff.mpr ⟨equal_symm h installed has has', equal_symm h installed has' has⟩
  case transitive => exact fun a b c has has' _ => equal_trans h installed has has'
  case hashes => exact fun a b has has' => hash_of_equal h installed has has'

/-! ### A string without contents -/

/-- A program may ask for a string that is allocated and not initialized. -/
theorem exists_blank (code : Code) : ∃ (known : Builtins) (s : Machine) (a : Address),
    Clients.Leads code (.fresh 0 none (.fresh false false)) s ∧ s.setup.builtins = some known ∧ known.Has s a ∧
      known.Blank s a := by
  have start : Machine.Regular (.fresh 0 none (.fresh false false)) := .fresh _ _ _
  obtain ⟨known, t, asked, installed, -, -⟩ := outcome_builtins_ready (s := .fresh 0 none (.fresh false false))
    (fun _ => ⟨fun _ _ => rfl, rfl⟩) nofun
  have first := @Clients.Step.install code (.fresh 0 none (.fresh false false))
  have h := maintains_builtins _ start
  rw [asked] at first h
  obtain ⟨journal, made⟩ := outcome_alloc (s := t) known.string
  have second := Clients.leads_alloc (.single first) (h.stand known installed).string.known
  rw [made] at second
  have live := (Memory.get?_place (m := t.memory) (a := t.memory.heap.fresh) known.string).trans (if_pos rfl)
  exact ⟨known, _, t.memory.heap.fresh, second, installed, ⟨_, live, by simp [classes]⟩, ⟨_, live, rfl, rfl⟩⟩

/-- Where scenarios run, such a string keeps no more of the contract: it is not equal to itself. -/
theorem blank_string_keeps_the_rest : ∃ (known : Builtins) (s : Machine) (a : Address), Clients.Program Messaging.code ∧
    Clients.Leads Messaging.code (.fresh 0 none (.fresh false false)) s ∧ s.setup.builtins = some known ∧
    known.Has s a ∧ ∃ equal hash, known.Equality Messaging.code s equal hash ∧ equal a a = false := by
  obtain ⟨known, s, a, run, installed, has, blank⟩ := exists_blank Messaging.code
  have program := Clients.program_codeWithin nestingLimit
  have ties : Delivery.Ties Messaging.code (codeWithin 1023) := fun _ _ => rfl
  obtain ⟨equal, hash, kept⟩ := equality_is_kept_but_for_blank_strings program ties run installed
  refine ⟨known, s, a, program, run, installed, has, equal, hash, kept, ?_⟩
  exact Bool.eq_false_iff.mpr fun same => (kept.reflexive a has).mp same blank

/-- Equality is not reflexive. -/
theorem equality_is_not_reflexive : ¬∀ (known : Builtins) (s : Machine) (a : Address),
    Clients.Leads Messaging.code (.fresh 0 none (.fresh false false)) s → s.setup.builtins = some known →
    known.Has s a → s.Answers (askEqual Messaging.code a (some a)) (.bool true) := by
  intro reflexive
  obtain ⟨known, s, a, run, installed, has, blank⟩ := exists_blank Messaging.code
  have h := (Clients.program_codeWithin nestingLimit).regular run
  have ties : Delivery.Ties Messaging.code (codeWithin 1023) := fun _ _ => rfl
  have ⟨o, live, _⟩ := has
  obtain ⟨t, asked, -⟩ := answers_equal ties h installed has (b := some a) (by rintro _ ⟨⟩; exact ⟨o, live⟩)
  obtain ⟨u, asked', -⟩ := reflexive known s a run installed has
  rw [asked] at asked'
  have same : known.equal s a (some a) = true := by
    injection asked' with ends
    injection ends with ends
    injection ends
  exact (blank_iff h installed has).mp blank same

end Builtins
end Messaging
