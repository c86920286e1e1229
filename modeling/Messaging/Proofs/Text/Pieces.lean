import Mathlib.Data.List.DropRight
import Mathlib.Data.List.Basic
import Messaging.Text.Blank
import Messaging.Text.Lines

/-! Pieces of texts. A text is cut at a separator in one way only, and what is left of a piece without the blanks around
    it neither begins nor ends with one. -/

namespace Messaging.Text

/-- A text that shows nothing. -/
def Blank (cs : List Char) : Prop := ∀ c ∈ cs, isBlank c = true

/-- What is left of a text without the blanks around it. -/
structure Trims (cs core : List Char) : Prop where
  around : ∃ left right, Blank left ∧ Blank right ∧ cs = left ++ core ++ right
  first : ∀ c ∈ core.head?, isBlank c = false
  last : ∀ c ∈ core.getLast?, isBlank c = false

/-- The pieces of a text that has a separator between them. There is at least one. -/
structure CutAt (sep : Char) (cs : List Char) (pieces : List (List Char)) : Prop where
  some : pieces ≠ []
  clear : ∀ p ∈ pieces, sep ∉ p
  joined : [sep].intercalate pieces = cs

variable {sep : Char} {cs core p : List Char} {pieces : List (List Char)}

/-! ### Trimming -/

theorem trimBlanks_eq (cs : List Char) : trimBlanks cs = (cs.dropWhile isBlank).rdropWhile isBlank := rfl

theorem trims_trimBlanks (cs : List Char) : Trims cs (trimBlanks cs) where
  around := by
    refine ⟨cs.takeWhile isBlank, (cs.dropWhile isBlank).rtakeWhile isBlank, fun c => List.mem_takeWhile_imp,
      fun c => List.mem_rtakeWhile_imp, ?_⟩
    have front := List.takeWhile_append_dropWhile (p := isBlank) (l := cs)
    have back := List.rdropWhile_append_rtakeWhile (p := isBlank) (l := cs.dropWhile isBlank)
    rw [trimBlanks_eq, List.append_assoc, back, front]
  first c top := by
    rw [trimBlanks_eq] at top
    obtain ⟨more, split⟩ := List.rdropWhile_prefix isBlank (l := cs.dropWhile isBlank)
    have shows := List.head?_dropWhile_not isBlank cs
    rw [← split, List.head?_append, top] at shows
    simpa using shows
  last c bottom := by
    rw [trimBlanks_eq] at bottom
    obtain ⟨some, rfl⟩ := List.mem_getLast?_eq_getLast bottom
    simpa using List.rdropWhile_last_not isBlank (cs.dropWhile isBlank) some

theorem trimBlanks_eq_nil_iff : trimBlanks cs = [] ↔ Blank cs := by
  constructor
  · intro none
    obtain ⟨left, right, blank, blank', split⟩ := (trims_trimBlanks cs).around
    rw [none, List.append_nil] at split
    rw [split]
    exact fun c mem => (List.mem_append.mp mem).elim (blank c) (blank' c)
  · intro blank
    unfold trimBlanks
    rw [List.dropWhile_eq_nil_iff.mpr blank]
    rfl

/-- There is one way to take the blanks off. -/
theorem Trims.eq (trims : Trims cs core) : core = trimBlanks cs := by
  obtain ⟨⟨left, right, blank, blank', rfl⟩, first, last⟩ := trims
  -- A core with a first character stops both sides of the trimming; without one all is blank.
  cases core with
  | nil =>
    refine (trimBlanks_eq_nil_iff.mpr fun c mem => ?_).symm
    rw [List.append_nil] at mem
    exact (List.mem_append.mp mem).elim (blank c) (blank' c)
  | cons c rest =>
    have shows : ¬isBlank c = true := Bool.not_eq_true _ ▸ first c rfl
    have front : (left ++ (c :: rest) ++ right).dropWhile isBlank = c :: rest ++ right := by
      rw [List.append_assoc, List.dropWhile_append_of_pos blank, List.cons_append, List.dropWhile_cons_of_neg shows]
    have back : (c :: rest ++ right).rdropWhile isBlank = (c :: rest).rdropWhile isBlank := by
      unfold List.rdropWhile
      rw [List.reverse_append, List.dropWhile_append_of_pos fun c mem => blank' c (List.mem_reverse.mp mem)]
    have ends : (c :: rest).rdropWhile isBlank = c :: rest := by
      refine List.rdropWhile_eq_self_iff.mpr fun some => ?_
      simpa using last _ (List.getLast?_eq_getLast_of_ne_nil some)
    rw [trimBlanks_eq, front, back, ends]

theorem trims_iff : Trims cs core ↔ trimBlanks cs = core :=
  ⟨fun trims => trims.eq.symm, fun same => same ▸ trims_trimBlanks cs⟩

/-! ### Cutting -/

theorem cutAt_of_not_mem (clear : sep ∉ p) : cutAt sep p = [p] := by
  induction p with
  | nil => rfl
  | cons c rest ih =>
    rw [List.mem_cons, not_or] at clear
    rw [cutAt, if_neg (Ne.symm clear.1), ih clear.2]

theorem cutAt_append_cons (clear : sep ∉ p) (rest : List Char) : cutAt sep (p ++ sep :: rest) = p :: cutAt sep rest := by
  induction p with
  | nil => rw [List.nil_append, cutAt, if_pos rfl]
  | cons c p ih =>
    rw [List.mem_cons, not_or] at clear
    rw [List.cons_append, cutAt, if_neg (Ne.symm clear.1), ih clear.2]

/-- There is one way to cut a text. -/
theorem CutAt.eq (cut : CutAt sep cs pieces) : pieces = cutAt sep cs := by
  obtain ⟨some, clear, rfl⟩ := cut
  induction pieces with
  | nil => exact absurd rfl some
  | cons p pieces ih =>
    cases pieces with
    | nil => rw [List.intercalate_singleton, cutAt_of_not_mem (clear p (.head _))]
    | cons q pieces =>
      rw [List.intercalate_cons_cons, List.append_assoc, List.singleton_append, cutAt_append_cons (clear p (.head _)),
        ← ih nofun fun q mem => clear q (List.mem_cons_of_mem _ mem)]

theorem cutAt_cutAt (sep : Char) (cs : List Char) : CutAt sep cs (cutAt sep cs) := by
  induction cs with
  | nil => exact ⟨nofun, by simp [cutAt], rfl⟩
  | cons c rest ih =>
    obtain ⟨some, clear, joined⟩ := ih
    obtain ⟨q, more, cut⟩ := List.exists_cons_of_ne_nil some
    rw [cut] at clear joined
    by_cases here : c = sep
    · rw [cutAt, if_pos here, cut]
      refine ⟨nofun, List.forall_mem_cons.mpr ⟨List.not_mem_nil, clear⟩, ?_⟩
      rw [List.intercalate_cons_cons, joined, here]
      rfl
    · rw [cutAt, if_neg here, cut]
      obtain ⟨first, others⟩ := List.forall_mem_cons.mp clear
      refine ⟨nofun, List.forall_mem_cons.mpr ⟨fun mem => ?_, others⟩, ?_⟩
      · exact (List.mem_cons.mp mem).elim (Ne.symm here) first
      · cases more with
        | nil =>
          rw [List.intercalate_singleton] at joined ⊢
          rw [joined]
        | cons r more =>
          rw [List.intercalate_cons_cons] at joined ⊢
          rw [← joined]
          rfl

end Messaging.Text
