import Mathlib.Data.List.Infix
import Mathlib.Data.List.TakeWhile
import Messaging.Class.Method
import Messaging.TypedCall.Declaration

/-! Method families. No word of a family begins another, so a name is in one family at most, and the order in which the
    families are tried cannot be told from the answers. The family of a name tells what a method returns as long as
    nothing overrides it, and which tags a review speaks up against. -/

namespace Messaging
namespace MethodFamily

/-- A text of underscores. -/
def underscores (n : Nat) : String := String.ofList (List.replicate n '_')

/-- What remains of a name without its leading underscores. -/
def IsBare (name bare : String) : Prop := (∃ n, name = underscores n ++ bare) ∧ bare.toList.head? ≠ some '_'

/-- A name is in a family if, but for leading underscores, it starts with the word of the family and no lower-case
    letter comes after the word. -/
def InFamily (name : String) (family : MethodFamily) : Prop :=
  ∃ rest, IsBare name (family.word ++ rest) ∧ ∀ c ∈ rest.toList.head?, ¬('a' ≤ c ∧ c ≤ 'z')

/-- The test by which a family takes a name. -/
def takes (name : String) (family : MethodFamily) : Bool :=
  startsWithWord family.word.toList (name.toList.dropWhile (· = '_'))

/-- The first of some families that takes a name. -/
def firstIn (families : List MethodFamily) (name : String) : Option MethodFamily := families.find? (takes name)

variable {name bare : String} {family other : MethodFamily} {families : List MethodFamily}

/-! ### Leading underscores -/

theorem dropWhile_underscores (n : Nat) (name : String) :
    (underscores n ++ name).toList.dropWhile (· = '_') = name.toList.dropWhile (· = '_') := by
  unfold underscores
  rw [String.toList_append, String.toList_ofList]
  exact List.dropWhile_append_of_pos fun c mem => decide_eq_true (List.eq_of_mem_replicate mem)

/-- What comes before the rest of a name is underscores. -/
theorem exists_underscores (same : bare.toList = name.toList.dropWhile (· = '_')) : ∃ n, name = underscores n ++ bare := by
  have leading : ∀ c ∈ name.toList.takeWhile (· = '_'), c = '_' := fun c mem => by simpa using List.mem_takeWhile_imp mem
  refine ⟨(name.toList.takeWhile (· = '_')).length, String.toList_inj.mp ?_⟩
  rw [underscores, String.toList_append, String.toList_ofList, ← List.eq_replicate_of_mem leading, same,
    List.takeWhile_append_dropWhile]

theorem head?_dropWhile_ne (name : List Char) : (name.dropWhile (· = '_')).head? ≠ some '_' := by
  intro first
  have other := List.head?_dropWhile_not (· = '_') name
  rw [first] at other
  cases other

theorem isBare_iff : IsBare name bare ↔ bare.toList = name.toList.dropWhile (· = '_') := by
  constructor
  · rintro ⟨⟨n, rfl⟩, first⟩
    rw [dropWhile_underscores]
    cases cs : bare.toList with
    | nil => rfl
    | cons c rest =>
      rw [cs, List.head?_cons, ne_eq, Option.some.injEq] at first
      exact (List.dropWhile_cons_of_neg (by simpa using first)).symm
  · intro same
    refine ⟨exists_underscores same, ?_⟩
    rw [same]
    exact head?_dropWhile_ne name.toList

/-! ### Words -/

theorem mem_all (family : MethodFamily) : family ∈ all := by cases family <;> decide

theorem isLowercase_iff {c : Char} : isLowercase c = true ↔ 'a' ≤ c ∧ c ≤ 'z' := by
  unfold isLowercase
  rw [Bool.and_eq_true, decide_eq_true_eq, decide_eq_true_eq]

theorem startsWithWord_iff {word name : List Char} : startsWithWord word name = true ↔
    ∃ rest, name = word ++ rest ∧ ∀ c ∈ rest.head?, ¬('a' ≤ c ∧ c ≤ 'z') := by
  have clear (rest : List Char) : (!rest.head?.any isLowercase) = true ↔ ∀ c ∈ rest.head?, ¬('a' ≤ c ∧ c ≤ 'z') := by
    simp only [← isLowercase_iff]
    cases rest <;> simp
  unfold startsWithWord
  rw [Bool.and_eq_true, List.isPrefixOf_iff_prefix, clear]
  constructor
  · rintro ⟨⟨rest, rfl⟩, ends⟩
    rw [List.drop_left] at ends
    exact ⟨rest, rfl, ends⟩
  · rintro ⟨rest, rfl, ends⟩
    rw [List.drop_left]
    exact ⟨List.prefix_append _ _, ends⟩

theorem takes_iff : takes name family = true ↔ InFamily name family := by
  unfold takes
  rw [startsWithWord_iff]
  constructor
  · rintro ⟨rest, split, ends⟩
    refine ⟨String.ofList rest, isBare_iff.mpr ?_, by rwa [String.toList_ofList]⟩
    rw [split, String.toList_append, String.toList_ofList]
  · rintro ⟨rest, isBare, ends⟩
    exact ⟨rest.toList, by rw [← isBare_iff.mp isBare, String.toList_append], ends⟩

/-- No word of a family begins the word of another. -/
theorem eq_of_word_begins (begins : family.word.toList <+: other.word.toList) : family = other := by
  have apart : ∀ f ∈ all, ∀ g ∈ all, f.word.toList <+: g.word.toList → f = g := by decide
  exact apart family (mem_all family) other (mem_all other) begins

/-- The words of two families that take a name both begin it, so one of them begins the other. -/
theorem InFamily.unique (first : InFamily name family) (second : InFamily name other) : family = other := by
  have beginning {family : MethodFamily} (member : InFamily name family) :
      family.word.toList <+: name.toList.dropWhile (· = '_') := by
    obtain ⟨rest, isBare, -⟩ := member
    rw [← isBare_iff.mp isBare, String.toList_append]
    exact List.prefix_append _ _
  rcases List.prefix_or_prefix_of_prefix (beginning first) (beginning second) with begins | begins
  · exact eq_of_word_begins begins
  · exact (eq_of_word_begins begins).symm

/-! ### The family of a name -/

/-- Which families are tried matters, and not in which order. -/
theorem firstIn_eq_some_iff : firstIn families name = some family ↔ family ∈ families ∧ InFamily name family := by
  constructor
  · intro found
    exact ⟨List.mem_of_find?_eq_some found, takes_iff.mp (List.find?_some (p := takes name) found)⟩
  · rintro ⟨mem, member⟩
    have some_taken : (firstIn families name).isSome = true := List.find?_isSome.mpr ⟨family, mem, takes_iff.mpr member⟩
    obtain ⟨first, found⟩ := Option.isSome_iff_exists.mp some_taken
    have taken : InFamily name first := takes_iff.mp (List.find?_some found)
    rwa [taken.unique member] at found

theorem firstIn_perm (perm : families.Perm all) (name : String) : firstIn families name = ofName? name := by
  ext family
  show firstIn families name = some family ↔ firstIn all name = some family
  rw [firstIn_eq_some_iff, firstIn_eq_some_iff, perm.mem_iff]

theorem ofName?_eq_some_iff : ofName? name = some family ↔ InFamily name family := by
  rw [← firstIn_perm (List.Perm.refl _), firstIn_eq_some_iff, and_iff_right (mem_all family)]

theorem ofName?_underscores (n : Nat) (name : String) : ofName? (underscores n ++ name) = ofName? name := by
  unfold ofName?
  rw [dropWhile_underscores]

theorem isSome_ofName?_iff : (ofName? name).isSome = true ↔ ∃ family, InFamily name family := by
  simp only [Option.isSome_iff_exists, ofName?_eq_some_iff]

instance (name : String) : Decidable (∃ family, InFamily name family) := decidable_of_iff _ isSome_ofName?_iff

theorem conventionalOwnership_eq (name : String) :
    conventionalOwnership name = if ∃ family, InFamily name family then .retained else .notRetained := by
  unfold conventionalOwnership
  simp only [isSome_ofName?_iff]

end MethodFamily

/-! ### Declarations under review -/

namespace Declaration
open MethodFamily

/-- What a call returns by convention: an object of the caller's own if it allocates or the selector is in a family. -/
def convention (d : Declaration) : Ownership :=
  if d.shape = .allocate ∨ ∃ family, InFamily d.selector family then .retained else .notRetained

/-- The declaration carries a tag, and not the one that convention asks for. -/
def Deviates (d : Declaration) : Prop := ∃ tag ∈ d.tag, tag ≠ d.convention

instance (d : Declaration) : Decidable d.Deviates := inferInstanceAs (Decidable (∃ tag ∈ d.tag, tag ≠ d.convention))

variable {d : Declaration}

theorem convention_of_ne (shaped : d.shape ≠ .allocate) :
    d.convention = conventionalOwnership d.selector := by
  unfold convention
  rw [conventionalOwnership_eq]
  simp only [shaped, false_or]

theorem expectedTag_eq (d : Declaration) : d.expectedTag = d.convention := by
  by_cases shaped : d.shape = .allocate
  · unfold expectedTag convention
    rw [if_pos (Or.inl shaped), shaped]
  · rw [convention_of_ne shaped]
    unfold expectedTag
    split
    · next allocates => exact absurd allocates shaped
    · rfl

theorem isConventional_iff : d.isConventional = true ↔ ¬d.Deviates := by
  unfold isConventional Deviates
  rw [expectedTag_eq]
  cases d.tag <;> simp

theorem review_eq (table : List Declaration) : review table = table.filter fun d => decide d.Deviates := by
  unfold review
  refine List.filter_congr fun d _ => ?_
  rw [Bool.eq_iff_iff, Bool.not_eq_true', decide_eq_true_eq, ← Bool.not_eq_true, isConventional_iff, not_not]

theorem read_of_convention {s : Selector} (shaped : d.shape ≠ .allocate) (named : s.name = d.selector)
    (routine : Routine) (types : String) : Method.read s routine types =
      (Signature.read types).map fun signature => ⟨s, routine, signature, d.convention⟩ := by
  unfold Method.read
  rw [convention_of_ne shaped, named]

/-- A name is in the family, if there is one, whose word it starts with behind its underscores and goes on with anything
    but a lower-case letter. It is in one family at most, so the order of the families does not matter, and further
    underscores do not either. A review lists the declarations that carry a tag other than the one convention asks
    for, in table order. Unless the declaration allocates, convention asks for what a method of that name returns when
    nothing overrides it. -/
theorem families_tell_what_is_returned (name : String) (table : List Declaration) (d : Declaration) :
    (∀ family, ofName? name = some family ↔ InFamily name family) ∧
    (∀ family other, InFamily name family → InFamily name other → family = other) ∧
    (∀ families, families.Perm all → firstIn families name = ofName? name) ∧
    (∀ n, ofName? (underscores n ++ name) = ofName? name) ∧
    review table = table.filter (fun d => decide d.Deviates) ∧ d.expectedTag = d.convention ∧
    (d.shape ≠ .allocate → ∀ s : Selector, s.name = d.selector → ∀ routine types, Method.read s routine types =
      (Signature.read types).map fun signature => ⟨s, routine, signature, d.convention⟩) :=
  ⟨fun _ => ofName?_eq_some_iff, fun _ _ => InFamily.unique, fun _ perm => firstIn_perm perm name,
    fun n => ofName?_underscores n name, review_eq table, expectedTag_eq d,
    fun shaped _ named => read_of_convention shaped named⟩

/-- A declaration whose selector is in a family, since the letter after the word is not an ASCII one. -/
def borrowedNew : Declaration := ⟨"Note", "_newß", .read, 0, some .notRetained⟩

/-- Declared calls, some of them against convention. -/
def declared : List Declaration :=
  [⟨"Note", "noteWithText:", .ofClass, 1, some .notRetained⟩, borrowedNew, ⟨"Note", "newest", .read, 0, some .notRetained⟩,
   ⟨"Note", "start", .allocate, 0, some .notRetained⟩, ⟨"Note", "length", .read, 0, none⟩,
   ⟨"Note", "noteWithText:", .ofClass, 1, some .retained⟩]

/-- Whatever the order of the families, the selector of the declaration is in one of them. The review lists the
    declaration, with an allocation that borrows its object and a call that hands over what its name does not
    announce, and a method of that selector returns a reference of its own. -/
theorem borrowed_new_is_reviewed : ofName? borrowedNew.selector = some .new ∧
    (∀ other, InFamily borrowedNew.selector other → other = .new) ∧
    firstIn [.init, .mutableCopy, .copy, .new, .alloc] borrowedNew.selector = some .new ∧
    review declared = [borrowedNew, ⟨"Note", "start", .allocate, 0, some .notRetained⟩,
      ⟨"Note", "noteWithText:", .ofClass, 1, some .retained⟩] ∧
    Method.read ⟨0, "_newß", nameHash "_newß"⟩ (.builtin .new) "@@:" =
      .ok ⟨⟨0, "_newß", nameHash "_newß"⟩, .builtin .new, .ofInstance .object [], .retained⟩ := by
  obtain ⟨given, unique, orders, -, reviewed, -, read⟩ :=
    families_tell_what_is_returned borrowedNew.selector declared borrowedNew
  have ends : ∀ c ∈ "ß".toList.head?, ¬('a' ≤ c ∧ c ≤ 'z') := by
    rintro c ⟨⟩
    decide
  have member : InFamily borrowedNew.selector .new := ⟨"ß", ⟨⟨1, by decide⟩, by decide⟩, ends⟩
  have convention : borrowedNew.convention = .retained := by decide
  have signature : Signature.read "@@:" = .ok (.ofInstance .object []) := by cbv
  refine ⟨(given _).mpr member, fun other taken => unique _ _ taken member, ?_, ?_, ?_⟩
  · rw [orders _ (by decide)]
    exact (given _).mpr member
  · rw [reviewed]
    decide
  · rw [read (by decide) _ rfl, convention, signature]
    rfl

end Declaration
end Messaging
