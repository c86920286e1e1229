import Messaging.Identity
import Messaging.Selector
import Messaging.TypeCode

/-! Values: what crosses a send, one form for each type. -/

namespace Messaging

/-- The callbacks that a client can install for events. `first` and `second` note the event, `letGo`
    notes it and gives up a reference to the adapter, `raising` raises. -/
inductive Callback
  | first | second | letGo | raising
deriving DecidableEq

/-- Two event slots. -/
structure CallbackTable where
  machMessage : Option Callback
  portMessage : Option Callback
deriving DecidableEq

/-- The table without callbacks. -/
def CallbackTable.empty : CallbackTable := ⟨none, none⟩

/-- A value that crosses a send. Floating-point numbers are known by their bits. A structure that nothing
    reads is known by its name. A place is an address in the form of a 64-bit integer without a sign; it stays
    apart from the integers because no client can know where an object is placed. -/
inductive Value
  | void
  | bool (b : Bool)
  | integer (type : IntType) (n : Int)
  | place (a : Address)
  | float (bits : UInt32)
  | double (bits : UInt64)
  | object (o : Option Address)
  | cls (c : Option ClassId)
  | selector (s : Option Selector)
  | pointer (n : UInt64)
  | text (contents : String)
  | point (x y : UInt64)
  | callbacks (table : CallbackTable)
  | record (name : String)
deriving DecidableEq

namespace Value

/-- The structure that carries a text. -/
abbrev textCode : TypeCode := .record "StrRef"

/-- The structure of two coordinates. -/
abbrev pointCode : TypeCode := .record "OxPoint"

/-- The structure of two event slots. -/
abbrev callbacksCode : TypeCode := .record "OxCallbackTable"

/-- The type of a value. -/
def code : Value → TypeCode
  | void => .void
  | bool _ => .bool
  | integer type _ => .integer type
  | place _ => .ulong
  | float _ => .float
  | double _ => .double
  | object _ => .object
  | cls _ => .cls
  | selector _ => .selector
  | pointer _ => .pointer
  | text _ => textCode
  | point _ _ => pointCode
  | callbacks _ => callbacksCode
  | record name => .record name

/-- The value of a type that stands for nothing: zero, nil or empty. -/
def zero : TypeCode → Value
  | .void => void
  | .bool => bool false
  | .integer type => integer type 0
  | .float => float 0
  | .double => double 0
  | .object => object none
  | .cls => cls none
  | .selector => selector none
  | .pointer => pointer 0
  | .record name =>
    if name = "StrRef" then text ""
    else if name = "OxPoint" then point 0 0
    else if name = "OxCallbackTable" then callbacks .empty
    else record name

/-- A 64-bit integer with a sign. -/
abbrev long (n : Int64) : Value := integer .int64 n.toInt

/-- A 64-bit integer without a sign. -/
abbrev ulong (n : UInt64) : Value := integer .uint64 n.toNat

/-- The object that a value names. -/
def object? : Value → Option Address
  | object o => o
  | _ => none

/-- The class that a value names. -/
def cls? : Value → Option ClassId
  | cls c => c
  | _ => none

/-- The selector that a value names. -/
def selector? : Value → Option Selector
  | selector s => s
  | _ => none

/-- The text that a value carries. -/
def contents : Value → String
  | text s => s
  | _ => ""

/-- The integer that a value carries, cut to 64 bits. -/
def int64 : Value → Int64
  | integer _ n => Int64.ofInt n
  | place a => Int64.ofNat a.toNat
  | _ => 0

/-- The bits of a floating-point number of double width. -/
def doubleBits : Value → UInt64
  | double bits => bits
  | _ => 0

/-- The truth value that a value carries. -/
def isTrue : Value → Bool
  | bool b => b
  | _ => false

end Value
end Messaging
