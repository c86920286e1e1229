import Messaging.Scenario.Samples
import Messaging.TypedCall.Call

/-! How a scenario writes values: arguments as they are read, results as they are answered. Numbers of 64
    bits are numerals, floating-point numbers are their bits, and objects, classes and selectors go by
    name. -/

namespace Messaging.Scenario

/-- The callback with a given name. -/
def callbackNamed? : String → Option Callback
  | "rec0" => some .first
  | "rec1" => some .second
  | "drop" => some .letGo
  | "raise" => some .raising
  | _ => none

/-- Reads an event slot. -/
def readSlot : Datum → Except BadField (Option Callback)
  | .null => .ok none
  | d => (need (d.text?.bind callbackNamed?) "slot").map some

/-- Reads two event slots. -/
def readSlots : Datum → Except BadField CallbackTable
  | .list [mach, port] => do return ⟨← readSlot mach, ← readSlot port⟩
  | _ => .error ⟨"slots"⟩

/-- Reads a bit pattern of at most `width` digits. -/
def readBits (width : Nat) (field : String) (d : Datum) : Except BadField Nat :=
  need (d.text?.bind fun s => if s.length ≤ width then Text.bits? s else none) field

/-- The class with a given name. -/
def classNamed (name : String) : Act ClassId := do
  match (← get).classes.named? name with
  | some c => pure c.id
  | none => unmet .classKnown

/-- Reads a name that may be null. -/
def readName (d : Datum) (field : String) : Act (Option String) :=
  match d with
  | .null => pure none
  | d => return some (← need d.text? field)

/-- Reads an object by its handle. -/
def readObject (d : Datum) : Act (Option Address) := do
  match ← readName d "handle" with
  | none => pure none
  | some name => return some (← liveHandle name).object

/-- Reads a class by its name. `tokens` says whether names are resolved to tokens, which are null for
    classes that do not exist. -/
def readClass (tokens : Bool) (d : Datum) : Act (Option ClassId) := do
  match ← readName d "class" with
  | none => pure none
  | some name => if tokens then resolveClass name else return some (← classNamed name)

/-- Reads a selector by its name. -/
def readSelector (d : Datum) : Act (Option Selector) := do
  match ← readName d "sel" with
  | none => pure none
  | some name => return some (← intern name)

/-- Reads a value of a given type. -/
def readValue (tokens : Bool) (type : TypeCode) (d : Datum) : Act Value := do
  match type with
  | .void => pure .void
  | .bool =>
    match d with
    | .bool b => pure (.bool b)
    | _ => badField "bool"
  | .integer t => return .integer t (← t.read d)
  | .float => return .float (UInt32.ofNat (← readBits 8 "float" d))
  | .double => return .double (UInt64.ofNat (← readBits 16 "double" d))
  | .object => return .object (← readObject d)
  | .cls => return .cls (← readClass tokens d)
  | .selector => return .selector (← readSelector d)
  | .pointer => return .pointer (UInt64.ofNat (← IntType.uint64.read d).toNat)
  | .record "StrRef" => return .text (← need d.text? "text")
  | .record "OxPoint" =>
    match d with
    | .list [x, y] => return .point (UInt64.ofNat (← readBits 16 "double" x)) (UInt64.ofNat (← readBits 16 "double" y))
    | _ => badField "point"
  | .record "OxCallbackTable" => return .callbacks (← readSlots d)
  | .record name => pure (.record name)

/-! ### Answers -/

/-- Whether bits of double width are not a number. -/
def isNan (bits : UInt64) : Bool := (bits &&& 0x7fffffffffffffff) > 0x7ff0000000000000

/-- The bits of a floating-point number of double width. -/
def doubleDatum (bits : UInt64) : Datum := .text (if isNan bits then "nan" else Text.bitsText 16 bits.toNat)

/-- An event slot. -/
def slotDatum (slot : Option Callback) : Datum := .ofText? (slot.map Callback.name)

/-- How a result that is no object is answered. -/
def valueDatum (classes : ClassTable) : Value → Datum
  | .void | .object _ | .record _ => .null
  | .bool b => .bool b
  | .integer .uint64 n | .integer .int64 n => .numeral n
  | .integer _ n => .number n
  | .place a => .numeral a.toNat
  | .float bits => .text (Text.bitsText 8 bits.toNat)
  | .double bits => doubleDatum bits
  | .cls c => .ofText? (c.map classes.name)
  | .selector s => .ofText? (s.map Selector.name)
  | .pointer n => .numeral n.toNat
  | .text contents => .text contents
  | .point x y => .list [doubleDatum x, doubleDatum y]
  | .callbacks table => .list [slotDatum table.machMessage, slotDatum table.portMessage]

/-- How a result is answered that may be the receiver itself in the form of a word. -/
def resultDatum (classes : ClassTable) (isSelf : Value → Bool) (v : Value) : Datum :=
  if isSelf v then .text "<self>" else valueDatum classes v

/-- The description of a method. -/
def methodDatum : Option Method → Datum
  | some m => .record [("sel", .text m.selector.name), ("types", .text m.signature.text), ("own", .text m.ownership.keyword)]
  | none => .null

/-! ### Fields -/

/-- The class that a field names. -/
def classField (fields : Fields) (field : String) : Act ClassId := do classNamed (← fields.text field)

/-- The selector that a field names. -/
def selectorField (fields : Fields) : Act Selector := do intern (← fields.text "sel")

/-- The receiver of a step: the object in `to`, or the class in `class`. -/
def receiverField (fields : Fields) : Act Receiver := do
  match ← handleField? fields "to" with
  | some h => pure (.object h.object)
  | none => return .cls (← classField fields "class")

/-- The token of the pool that a field names. -/
def poolField (fields : Fields) : Act Nat := do
  let name ← fields.text "pool"
  return (← orUnmet ((← get).client.guard? name) .poolKnown).token

/-- The answer of a step that has nothing to say. -/
def done : Datum := .text "ok"

/-- Checks that a step names one of several equivalent ways, if it names any. -/
def checkVia (fields : Fields) (ways : List String) : Act Unit := do
  if let some via ← fields.text? "via" then
    if !ways.contains via then badField "via"

end Messaging.Scenario
