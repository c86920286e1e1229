import Messaging.Signature

/-! The written form of signatures. A text is a signature if and only if it is put together from tokens, one for each
    type, of which the second is a handle, the third a selector and none after that void. Reading and writing undo
    each other, so that there is one text for each signature that can be written. -/

namespace Messaging
namespace TypeCode
variable {code : TypeCode} {codes : List TypeCode} {c : Char} {cs rest name : List Char}

/-- The characters that stand for a type on their own. -/
def letters : List Char := "vBcCsSiIqQfd@#:^".toList

/-- The written form of one type: a letter, or a name in braces. -/
inductive Token : List Char → Prop
  | letter (c : Char) (mem : c ∈ letters) : Token [c]
  | braces (name : List Char) (nonempty : name ≠ []) (closed : '\x7d' ∉ name) : Token ('\x7b' :: name ++ ['\x7d'])

/-- A structure can be written if its name is not empty and does not close the braces itself. -/
def Nameable : TypeCode → Prop
  | record name => name ≠ "" ∧ '\x7d' ∉ name.toList
  | _ => True

/-! ### One type -/

theorem spelling_of_ofChar? (h : ofChar? c = some code) : code.spelling = [c] ∧ code.Nameable ∧ c ∈ letters := by
  unfold ofChar? at h
  split at h <;> first | (cases h; exact ⟨rfl, trivial, by decide⟩) | cases h

/-- Whatever is no structure is written as one letter, and that letter is read as it. -/
theorem letter_cases (code : TypeCode) :
    (∃ name, code = record name) ∨ ∃ c, code.spelling = [c] ∧ ofChar? c = some code ∧ c ∈ letters ∧ c ≠ '\x7b' := by
  cases code with
  | record name => exact Or.inl ⟨name, rfl⟩
  | integer type => cases type <;> exact Or.inr ⟨_, rfl, rfl, by decide, by decide⟩
  | _ => exact Or.inr ⟨_, rfl, rfl, by decide, by decide⟩

theorem ofChar?_of_mem (mem : c ∈ letters) : ∃ code, ofChar? c = some code ∧ c ≠ '\x7b' := by
  have all : letters.all fun c => (ofChar? c).isSome ∧ c ≠ '\x7b' := by decide
  obtain ⟨read, other⟩ := of_decide_eq_true (List.all_eq_true.mp all c mem)
  obtain ⟨code, read⟩ := Option.isSome_iff_exists.mp read
  exact ⟨code, read, other⟩

/-- The tokens are what types are written as. -/
theorem token_iff : Token cs ↔ ∃ code : TypeCode, code.Nameable ∧ code.spelling = cs := by
  constructor
  · intro token
    cases token with
    | letter c mem =>
      obtain ⟨code, read, -⟩ := ofChar?_of_mem mem
      obtain ⟨spelled, nameable, -⟩ := spelling_of_ofChar? read
      exact ⟨code, nameable, spelled⟩
    | braces name nonempty closed =>
      refine ⟨record (String.ofList name), ⟨?_, ?_⟩, ?_⟩
      · intro empty
        exact nonempty (by simpa using congrArg String.toList empty)
      · rwa [String.toList_ofList]
      · simp [spelling]
  · rintro ⟨code, nameable, rfl⟩
    rcases letter_cases code with ⟨name, rfl⟩ | ⟨c, spelled, -, mem, -⟩
    · obtain ⟨nonempty, closed⟩ := nameable
      exact .braces name.toList (fun empty => nonempty (String.toList_eq_nil_iff.mp empty)) closed
    · rw [spelled]
      exact .letter c mem

/-- A name without a closing brace ends at the first one. -/
theorem closing_append (rest : List Char) (closed : '\x7d' ∉ name) : (name ++ '\x7d' :: rest).takeWhile (· ≠ '\x7d') = name ∧
    (name ++ '\x7d' :: rest).dropWhile (· ≠ '\x7d') = '\x7d' :: rest := by
  have inside : ∀ c ∈ name, decide (c ≠ '\x7d') = true := by
    intro c mem
    refine decide_eq_true ?_
    rintro rfl
    exact closed mem
  rw [List.takeWhile_append_of_pos inside, List.dropWhile_append_of_pos inside]
  simp

/-- What is written for a type is read as that type, whatever comes after it. -/
theorem next?_append (h : code.Nameable) (rest : List Char) : next? (code.spelling ++ rest) = some (code, rest) := by
  rcases letter_cases code with ⟨name, rfl⟩ | ⟨c, spelled, read, -, other⟩
  · obtain ⟨nonempty, closed⟩ := h
    have split : spelling (record name) ++ rest = '\x7b' :: (name.toList ++ '\x7d' :: rest) := by simp [spelling]
    obtain ⟨taken, dropped⟩ := closing_append rest closed
    have kept : name.toList ≠ [] := fun empty => nonempty (String.toList_eq_nil_iff.mp empty)
    rw [split, next?, if_pos rfl]
    simp only [taken, dropped, List.isEmpty_iff, kept, if_false, String.ofList_toList]
  · rw [spelled, List.singleton_append, next?, if_neg other, read]
    rfl

/-- What is read as a type is what is written for it. -/
theorem spelling_of_next? (h : next? cs = some (code, rest)) : cs = code.spelling ++ rest ∧ code.Nameable := by
  cases cs with
  | nil => cases h
  | cons c cs =>
    rw [next?] at h
    split at h
    · next brace =>
      have split := List.takeWhile_append_dropWhile (p := fun x => decide (x ≠ '\x7d')) (l := cs)
      have closed : '\x7d' ∉ cs.takeWhile fun x => decide (x ≠ '\x7d') := by
        intro mem
        simpa using List.all_eq_true.mp List.all_takeWhile _ mem
      dsimp only at h
      generalize cs.takeWhile (fun x => decide (x ≠ '\x7d')) = name at h split closed
      cases dropped : cs.dropWhile fun x => decide (x ≠ '\x7d') with
      | nil =>
        rw [dropped] at h
        cases h
      | cons d more =>
        have last : d = '\x7d' := by
          have stops := List.head?_dropWhile_not (fun x => decide (x ≠ '\x7d')) cs
          rw [dropped] at stops
          simpa using stops
        rw [dropped] at h split
        dsimp only at h
        split at h
        · cases h
        · next nonempty =>
          cases h
          subst brace last
          refine ⟨?_, ?_, ?_⟩
          · simp [spelling, ← split]
          · intro empty
            have none : name = [] := by simpa using congrArg String.toList empty
            exact nonempty (by simp [none])
          · rwa [String.toList_ofList]
    · obtain ⟨d, read, same⟩ := Option.map_eq_some_iff.mp h
      cases same
      obtain ⟨spelled, nameable, -⟩ := spelling_of_ofChar? read
      exact ⟨by rw [spelled]; rfl, nameable⟩

/-! ### Sequences of types -/

theorem spelling_ne_nil (h : code.Nameable) : code.spelling ≠ [] := by
  intro empty
  have read := next?_append h []
  rw [empty] at read
  cases read

/-- By recursion along the reader: each step takes the written form of one type off the text. -/
theorem spellings_of_sequence? (h : sequence? cs = some codes) :
    cs = codes.flatMap spelling ∧ ∀ code ∈ codes, code.Nameable := by
  induction cs using sequence?.induct generalizing codes with
  | case1 cs empty =>
    rw [sequence?, if_pos empty] at h
    cases h
    exact ⟨List.isEmpty_iff.mp empty, nofun⟩
  | case2 cs more fails =>
    rw [sequence?, if_neg more] at h
    split at h
    · cases h
    · next read => rw [fails] at read; cases read
  | case3 cs more code rest read shorter ih =>
    rw [sequence?, if_neg more] at h
    split at h
    · cases h
    · next first others read' =>
      rw [read] at read'
      cases read'
      obtain ⟨later, found, rfl⟩ := Option.map_eq_some_iff.mp h
      obtain ⟨spelled, nameable⟩ := ih found
      obtain ⟨here, name⟩ := spelling_of_next? read
      refine ⟨?_, List.forall_mem_cons.mpr ⟨name, nameable⟩⟩
      rw [here, spelled, List.flatMap_cons]

theorem sequence?_spellings (h : ∀ code ∈ codes, code.Nameable) : sequence? (codes.flatMap spelling) = some codes := by
  induction codes with
  | nil =>
    rw [List.flatMap_nil, sequence?]
    rfl
  | cons code codes ih =>
    obtain ⟨name, h⟩ := List.forall_mem_cons.mp h
    have more : ¬((code :: codes).flatMap spelling).isEmpty = true := by
      simp [spelling_ne_nil name]
    have read : next? ((code :: codes).flatMap spelling) = some (code, codes.flatMap spelling) := by
      rw [List.flatMap_cons]
      exact next?_append name _
    rw [sequence?, if_neg more]
    split
    · next fails => rw [fails] at read; cases read
    · next first others read' =>
      rw [read] at read'
      cases read'
      rw [ih h]
      rfl

theorem sequence?_eq_some_iff :
    sequence? cs = some codes ↔ cs = codes.flatMap spelling ∧ ∀ code ∈ codes, code.Nameable := by
  constructor
  · exact spellings_of_sequence?
  · rintro ⟨rfl, nameable⟩
    exact sequence?_spellings nameable

end TypeCode

namespace Signature
open TypeCode
variable {s : Signature} {text : String} {codes : List TypeCode}

/-- How signatures come about. -/
inductive Made : Signature → Prop
  | ofInstance (ret : TypeCode) (args : List TypeCode) : Made (ofInstance ret args)
  | read {text : String} {s : Signature} (accepted : read text = .ok s) : Made s

/-- The structures of the signature can be written, and no argument is void. -/
structure Writable (s : Signature) : Prop where
  names : ∀ code ∈ s.ret :: s.args, code.Nameable
  arguments : .void ∉ s.args

/-- The text is put together from tokens, of which the second is a handle, the third a selector, and none after that
    void. -/
def WellFormed (text : String) : Prop :=
  ∃ tokens : List (List Char), text.toList = tokens.flatten ∧ (∀ token ∈ tokens, Token token) ∧
    (tokens[1]? = some ['@'] ∨ tokens[1]? = some ['#']) ∧ tokens[2]? = some [':'] ∧ ['v'] ∉ tokens.drop 3

theorem ofTypes?_eq_some_iff :
    ofTypes? codes = some s ↔ codes = s.types ∧ s.receiver.isHandle = true ∧ .void ∉ s.args := by
  constructor
  · intro h
    unfold ofTypes? at h
    split at h
    · next ret receiver args =>
      split at h
      · next shape =>
        cases h
        simpa [types] using shape
      · cases h
    · cases h
  · rintro ⟨rfl, handle, arguments⟩
    simp [ofTypes?, types, handle, arguments]

theorem toList_text (s : Signature) : s.text.toList = s.types.flatMap spelling := by
  simp [text, TypeCode.text, List.flatMap_map]

theorem nameable_types (handle : s.receiver.isHandle = true) :
    (∀ code ∈ s.types, code.Nameable) ↔ ∀ code ∈ s.ret :: s.args, code.Nameable := by
  have plain : s.receiver.Nameable := by
    cases receiver : s.receiver <;> simp_all [isHandle, Nameable]
  have selects : TypeCode.selector.Nameable := trivial
  simp [types, plain, selects]

theorem read_eq_ok_iff : read text = .ok s ↔ text = s.text ∧ s.receiver.isHandle = true ∧ s.Writable := by
  have found : read text = .ok s ↔ ∃ codes, sequence? text.toList = some codes ∧ ofTypes? codes = some s := by
    unfold read
    rw [← Option.bind_eq_some_iff]
    cases (sequence? text.toList).bind ofTypes? <;> simp
  simp only [found, sequence?_eq_some_iff, ofTypes?_eq_some_iff]
  constructor
  · rintro ⟨codes, ⟨spelled, nameable⟩, rfl, handle, arguments⟩
    refine ⟨?_, handle, (nameable_types handle).mp nameable, arguments⟩
    rw [← String.toList_inj, spelled, toList_text]
  · rintro ⟨rfl, handle, names, arguments⟩
    exact ⟨s.types, ⟨toList_text s, (nameable_types handle).mpr names⟩, rfl, handle, arguments⟩

theorem read_cases (text : String) : (∃ s, read text = .ok s) ∨ read text = .error (.invalidEncoding text) := by
  unfold read
  cases (sequence? text.toList).bind ofTypes? with
  | some s => exact Or.inl ⟨s, rfl⟩
  | none => exact Or.inr rfl

theorem Made.isHandle (made : s.Made) : s.receiver.isHandle = true := by
  cases made with
  | ofInstance ret args => rfl
  | read accepted => exact (read_eq_ok_iff.mp accepted).2.1

/-! ### Tokens -/

theorem spelling_eq_letter {code : TypeCode} {c : Char} (spelled : code.spelling = [c]) : ofChar? c = some code := by
  rcases letter_cases code with ⟨name, rfl⟩ | ⟨d, spelled', read, -, -⟩
  · simp [spelling] at spelled
  · rw [spelled'] at spelled
    cases spelled
    exact read

/-- Nameable types behind a list of tokens. -/
theorem exists_codes {tokens : List (List Char)} (h : ∀ token ∈ tokens, Token token) :
    ∃ codes : List TypeCode, (∀ code ∈ codes, code.Nameable) ∧ codes.map spelling = tokens := by
  induction tokens with
  | nil => exact ⟨[], nofun, rfl⟩
  | cons token tokens ih =>
    obtain ⟨here, later⟩ := List.forall_mem_cons.mp h
    obtain ⟨code, nameable, rfl⟩ := token_iff.mp here
    obtain ⟨codes, nameables, rfl⟩ := ih later
    exact ⟨code :: codes, List.forall_mem_cons.mpr ⟨nameable, nameables⟩, rfl⟩

theorem wellFormed_text (handle : s.receiver.isHandle = true) (writable : s.Writable) : WellFormed s.text := by
  refine ⟨s.types.map spelling, ?_, ?_, ?_, rfl, ?_⟩
  · rw [toList_text, List.flatMap_def]
  · intro token mem
    obtain ⟨code, listed, rfl⟩ := List.mem_map.mp mem
    exact token_iff.mpr ⟨code, (nameable_types handle).mpr writable.names code listed, rfl⟩
  · cases receiver : s.receiver <;> simp_all [isHandle, types, spelling, char?]
  · intro mem
    have void : ['v'] ∈ s.args.map spelling := mem
    obtain ⟨code, mem, spelled⟩ := List.mem_map.mp void
    cases spelling_eq_letter spelled
    exact writable.arguments mem

theorem exists_of_wellFormed (h : WellFormed text) :
    ∃ s : Signature, text = s.text ∧ s.receiver.isHandle = true ∧ s.Writable := by
  obtain ⟨tokens, split, tokenized, second, third, rest⟩ := h
  obtain ⟨codes, nameable, rfl⟩ := exists_codes tokenized
  -- The second and the third token are there, so there are three types at least.
  match codes with
  | [] | [_] | [_, _] => simp at third
  | ret :: receiver :: selector :: args =>
    have selects : selector.spelling = [':'] := by simpa using third
    cases spelling_eq_letter selects
    have handle : receiver.isHandle = true := by
      rcases second with second | second
      · cases spelling_eq_letter (show receiver.spelling = ['@'] by simpa using second)
        rfl
      · cases spelling_eq_letter (show receiver.spelling = ['#'] by simpa using second)
        rfl
    have arguments : .void ∉ args := fun mem => rest (List.mem_map_of_mem (f := spelling) mem)
    refine ⟨⟨ret, receiver, args⟩, ?_, handle, (nameable_types (s := ⟨ret, receiver, args⟩) handle).mp nameable, arguments⟩
    rw [← String.toList_inj, split, toList_text, List.flatMap_def]
    rfl

/-- A text is read as a signature if and only if it is well formed, and otherwise refused with the whole text in the
    error. What was read is written as the text that it was read from; what can be written is read back as it was. So
    each well-formed text is that of one signature that can be written, and of no other. -/
theorem texts_are_canonical :
    (∀ text, (∃ s, read text = .ok s) ↔ WellFormed text) ∧
    (∀ text, ¬WellFormed text → read text = .error (.invalidEncoding text)) ∧
    (∀ text s, read text = .ok s → s.text = text) ∧
    (∀ s, s.Made → s.Writable → read s.text = .ok s) ∧
    (∀ text, WellFormed text ↔ ∃ s : Signature, s.Made ∧ s.Writable ∧ s.text = text) ∧
    ∀ s s' : Signature, s.Made → s.Writable → s'.Made → s'.Writable → s.text = s'.text → s = s' := by
  have accepts (text : String) : (∃ s, read text = .ok s) ↔ WellFormed text := by
    constructor
    · rintro ⟨s, accepted⟩
      obtain ⟨rfl, handle, writable⟩ := read_eq_ok_iff.mp accepted
      exact wellFormed_text handle writable
    · intro formed
      obtain ⟨s, shown⟩ := exists_of_wellFormed formed
      exact ⟨s, read_eq_ok_iff.mpr shown⟩
  have back (s : Signature) (made : s.Made) (writable : s.Writable) : read s.text = .ok s :=
    read_eq_ok_iff.mpr ⟨rfl, made.isHandle, writable⟩
  refine ⟨accepts, ?_, ?_, back, ?_, ?_⟩
  · intro text malformed
    rcases read_cases text with accepted | refused
    · exact absurd ((accepts text).mp accepted) malformed
    · exact refused
  · intro text s accepted
    exact (read_eq_ok_iff.mp accepted).1.symm
  · intro text
    constructor
    · intro formed
      obtain ⟨s, accepted⟩ := (accepts text).mpr formed
      obtain ⟨shown, -, writable⟩ := read_eq_ok_iff.mp accepted
      exact ⟨s, .read accepted, writable, shown.symm⟩
    · rintro ⟨s, made, writable, rfl⟩
      exact wellFormed_text made.isHandle writable
  · intro s s' made writable made' writable' same
    have first := back s made writable
    rw [same, back s' made' writable'] at first
    cases first
    rfl

/-- A name may hold an opening brace, and characters that are types elsewhere. -/
def braced : Signature := .ofInstance (.record "a\x7b:@") [.long]

theorem braced_reads_back : braced.Writable ∧ WellFormed "\x7ba\x7b:@\x7d@:q" ∧ read "\x7ba\x7b:@\x7d@:q" = .ok braced := by
  have writable : braced.Writable := ⟨by simp [braced, ofInstance, Nameable], by decide⟩
  have shown : braced.text = "\x7ba\x7b:@\x7d@:q" := rfl
  obtain ⟨accepts, -, -, back, -, -⟩ := texts_are_canonical
  have accepted := back braced (.ofInstance _ _) writable
  rw [shown] at accepted
  exact ⟨writable, (accepts _).mp ⟨braced, accepted⟩, accepted⟩

end Signature
end Messaging
