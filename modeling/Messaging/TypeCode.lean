/-! Type codes: the types that may cross a send, each written as one character or as a structure name in
    braces. -/

namespace Messaging

/-- The whole-number types. -/
inductive IntType
  | int8 | uint8 | int16 | uint16 | int32 | uint32 | int64 | uint64
deriving DecidableEq

namespace IntType

/-- The least value of a type. -/
def least : IntType → Int
  | int8 => -0x80
  | int16 => -0x8000
  | int32 => -0x80000000
  | int64 => -0x8000000000000000
  | uint8 | uint16 | uint32 | uint64 => 0

/-- The greatest value of a type. -/
def greatest : IntType → Int
  | int8 => 0x7f
  | uint8 => 0xff
  | int16 => 0x7fff
  | uint16 => 0xffff
  | int32 => 0x7fffffff
  | uint32 => 0xffffffff
  | int64 => 0x7fffffffffffffff
  | uint64 => 0xffffffffffffffff

/-- Whether a number is a value of the type. -/
def holds (t : IntType) (n : Int) : Bool := t.least ≤ n && n ≤ t.greatest

end IntType

/-- A type that may cross a send. A structure is known by its name alone. -/
inductive TypeCode
  | void | bool
  | integer (type : IntType)
  | float | double | object | cls | selector | pointer
  | record (name : String)
deriving DecidableEq

namespace TypeCode

/-- A 64-bit integer with a sign, the number type that most methods use. -/
abbrev long : TypeCode := .integer .int64

/-- A 64-bit integer without a sign. -/
abbrev ulong : TypeCode := .integer .uint64

/-- The character of a type; structures have none. -/
def char? : TypeCode → Option Char
  | void => some 'v'
  | bool => some 'B'
  | integer .int8 => some 'c'
  | integer .uint8 => some 'C'
  | integer .int16 => some 's'
  | integer .uint16 => some 'S'
  | integer .int32 => some 'i'
  | integer .uint32 => some 'I'
  | integer .int64 => some 'q'
  | integer .uint64 => some 'Q'
  | float => some 'f'
  | double => some 'd'
  | object => some '@'
  | cls => some '#'
  | selector => some ':'
  | pointer => some '^'
  | record _ => none

/-- The type that a character stands for. -/
def ofChar? : Char → Option TypeCode
  | 'v' => some void
  | 'B' => some bool
  | 'c' => some (integer .int8)
  | 'C' => some (integer .uint8)
  | 's' => some (integer .int16)
  | 'S' => some (integer .uint16)
  | 'i' => some (integer .int32)
  | 'I' => some (integer .uint32)
  | 'q' => some (integer .int64)
  | 'Q' => some (integer .uint64)
  | 'f' => some float
  | 'd' => some double
  | '@' => some object
  | '#' => some cls
  | ':' => some selector
  | '^' => some pointer
  | _ => none

/-- The characters that spell a type. -/
def spelling : TypeCode → List Char
  | record name => '\x7b' :: name.toList ++ ['\x7d']
  | code => code.char?.toList

/-- The text of a type. -/
def text (code : TypeCode) : String := String.ofList code.spelling

/-- Whether values of the type are handles: objects and classes. -/
def isHandle : TypeCode → Bool
  | object | cls => true
  | _ => false

/-- The name of a type; for structures, with the quoted structure name. -/
def label (quote : String → String) : TypeCode → String
  | void => "Void"
  | bool => "Bool"
  | integer .int8 => "Char"
  | integer .uint8 => "UChar"
  | integer .int16 => "Short"
  | integer .uint16 => "UShort"
  | integer .int32 => "Int"
  | integer .uint32 => "UInt"
  | integer .int64 => "Long"
  | integer .uint64 => "ULong"
  | float => "Float"
  | double => "Double"
  | object => "Object"
  | cls => "Class"
  | selector => "Selector"
  | pointer => "Pointer"
  | record name => "Struct(" ++ quote name ++ ")"

/-- Reads one type off the front of a text. A structure name ends at the first closing brace and is not
    empty. The rest is shorter. -/
def next? : List Char → Option (TypeCode × List Char)
  | [] => none
  | c :: rest =>
    if c = '\x7b' then
      let name := rest.takeWhile (· ≠ '\x7d')
      match rest.dropWhile (· ≠ '\x7d') with
      | _ :: more => if name.isEmpty then none else some (record (String.ofList name), more)
      | [] => none
    else (ofChar? c).map (·, rest)

theorem length_of_next? {cs rest : List Char} {code : TypeCode} (h : next? cs = some (code, rest)) :
    rest.length < cs.length := by
  cases cs with
  | nil => simp [next?] at h
  | cons c cs =>
    simp only [next?] at h
    split at h
    · have shorter := (List.dropWhile_sublist (· ≠ '\x7d') (l := cs)).length_le
      split at h
      · rename_i more found
        rw [found] at shorter
        split at h
        · simp at h
        · simp only [Option.some.injEq, Prod.mk.injEq] at h
          obtain ⟨-, rfl⟩ := h
          simp only [List.length_cons] at shorter ⊢
          omega
      · simp at h
    · obtain ⟨_, _, pair⟩ := Option.map_eq_some_iff.1 h
      simp only [Prod.mk.injEq] at pair
      simp [← pair.2]

/-- Reads a text as a sequence of types, to its end. -/
def sequence? (cs : List Char) : Option (List TypeCode) :=
  if cs.isEmpty then some []
  else match found : next? cs with
    | none => none
    | some (code, rest) =>
      have := length_of_next? found
      (sequence? rest).map (code :: ·)
termination_by cs.length

end TypeCode
end Messaging
