import Messaging.TypeCode
import Messaging.Text.Numeral

/-! Data: the notation in which questions are put and answers given, and how the values of this library
    are read from it. A reading that fails names the field at fault. -/

namespace Messaging

/-- A piece of data. `decimal` is a number with `places` digits after the point. -/
inductive Datum
  | null
  | bool (b : Bool)
  | number (n : Int)
  | decimal (digits : Int) (places : Nat)
  | text (s : String)
  | list (items : List Datum)
  | record (fields : List (String × Datum))
deriving Inhabited

/-- The named parts of a question. -/
abbrev Fields : Type := List (String × Datum)

/-- A field that is missing, of the wrong form or without meaning. -/
structure BadField where
  field : String
deriving DecidableEq

namespace Datum

/-- The text of a datum. -/
def text? : Datum → Option String
  | text s => some s
  | _ => none

/-- The items of a list. -/
def items? : Datum → Option (List Datum)
  | list items => some items
  | _ => none

/-- The parts of a record. -/
def fields? : Datum → Option Fields
  | record fields => some fields
  | _ => none

/-- The whole number that a datum stands for, as a number or as a numeral. -/
def integer? : Datum → Option Int
  | number n => some n
  | text s => Text.integer? s
  | _ => none

/-- A text, or nothing. -/
def ofText? : Option String → Datum
  | some s => text s
  | none => null

/-- A list of texts. -/
def ofTexts (texts : List String) : Datum := list (texts.map text)

/-- A natural number. -/
def ofNat (n : Nat) : Datum := number (Int.ofNat n)

/-- The numeral of a whole number, as a text. -/
def numeral (n : Int) : Datum := text (toString n)

mutual

/-- The texts in a datum, names of parts included. -/
def texts : Datum → List String
  | text s => [s]
  | list items => textsOfItems items
  | record fields => textsOfFields fields
  | _ => []

/-- The texts in the items of a list. -/
def textsOfItems : List Datum → List String
  | [] => []
  | d :: rest => texts d ++ textsOfItems rest

/-- The texts in the parts of a record. -/
def textsOfFields : List (String × Datum) → List String
  | [] => []
  | (name, d) :: rest => name :: texts d ++ textsOfFields rest

end

end Datum

/-- The value, or the fault of a field. -/
def need {α : Type} (value : Option α) (field : String) : Except BadField α :=
  match value with
  | some a => .ok a
  | none => .error ⟨field⟩

/-- Reads a number of a whole-number type. -/
def IntType.read (t : IntType) (d : Datum) : Except BadField Int :=
  match d.integer? with
  | some n => if t.holds n then .ok n else .error ⟨"int"⟩
  | none => .error ⟨"int"⟩

namespace Fields

/-- The field with a given name; null counts as absent. -/
def get? (fields : Fields) (name : String) : Option Datum :=
  match fields.lookup name with
  | none | some .null => none
  | found => found

/-- A text field. -/
def text (fields : Fields) (name : String) : Except BadField String := need ((fields.get? name).bind Datum.text?) name

/-- A text field, if it is there. -/
def text? (fields : Fields) (name : String) : Except BadField (Option String) :=
  match fields.get? name with
  | none => .ok none
  | some d => (need d.text? name).map some

/-- A list field. -/
def items (fields : Fields) (name : String) : Except BadField (List Datum) :=
  need ((fields.get? name).bind Datum.items?) name

/-- A list field; absent is empty. -/
def itemsOrEmpty (fields : Fields) (name : String) : Except BadField (List Datum) :=
  match fields.get? name with
  | none => .ok []
  | some d => need d.items? name

/-- A field with a list of texts. -/
def texts (fields : Fields) (name : String) : Except BadField (List String) := do
  (← fields.items name).mapM fun d => need d.text? name

/-- A flag; absent is false. -/
def flag (fields : Fields) (name : String) : Bool :=
  match fields.get? name with
  | some (.bool b) => b
  | _ => false

end Fields
end Messaging
