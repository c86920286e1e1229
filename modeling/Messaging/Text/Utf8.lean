/-! Bytes as text. A sequence of bytes is a text if it is a concatenation of well-formed encodings; if
    it is not, the fault says where the first ill-formed part begins and how long it is. -/

namespace Messaging.Text

/-- Why bytes are no text. `length` is the length of the ill-formed part, absent if the bytes end
    before it can be told. -/
structure Utf8Fault where
  start : Nat
  length : Option Nat
deriving DecidableEq

/-- The wording of a fault. -/
def Utf8Fault.message (f : Utf8Fault) : String :=
  match f.length with
  | some n => s!"invalid utf-8 sequence of {n} bytes from index {f.start}"
  | none => s!"incomplete utf-8 byte sequence from index {f.start}"

/-- A byte that may stand after the first of a longer encoding. -/
def isContinuation (b : UInt8) : Bool := 0x80 ≤ b && b ≤ 0xbf

/-- Whether `second` may follow the leading byte `first`. -/
def mayFollow (first second : UInt8) : Bool :=
  if first == 0xe0 then 0xa0 ≤ second && second ≤ 0xbf
  else if first == 0xed then 0x80 ≤ second && second ≤ 0x9f
  else if first == 0xf0 then 0x90 ≤ second && second ≤ 0xbf
  else if first == 0xf4 then 0x80 ≤ second && second ≤ 0x8f
  else isContinuation second

/-- How many bytes an encoding has that starts with `first`. -/
def encodingLength? (first : UInt8) : Option Nat :=
  if first < 0x80 then some 1
  else if 0xc2 ≤ first && first ≤ 0xdf then some 2
  else if 0xe0 ≤ first && first ≤ 0xef then some 3
  else if 0xf0 ≤ first && first ≤ 0xf4 then some 4
  else none

/-- The character spelled by a well-formed encoding. -/
def spelled (first : UInt8) (rest : List UInt8) : Char :=
  let lead := match rest.length with
    | 0 => first.toNat
    | 1 => first.toNat - 0xc0
    | 2 => first.toNat - 0xe0
    | _ => first.toNat - 0xf0
  Char.ofNat (rest.foldl (fun acc b => acc * 64 + (b.toNat - 0x80)) lead)

/-- The bytes after `first` that belong to its encoding of `length` bytes, or the length of the
    ill-formed part. -/
def continuation (first : UInt8) (length : Nat) (rest : List UInt8) : Except (Option Nat) (List UInt8) :=
  match length, rest with
  | 0, _ | 1, _ => .ok []
  | _, [] => .error none
  | n + 2, second :: more =>
    if !mayFollow first second then .error (some 1)
    else
      let tail := (more.take n).takeWhile isContinuation
      if tail.length = n then .ok (second :: tail)
      else if more.length ≤ tail.length then .error none
      else .error (some (tail.length + 2))

/-- Decodes bytes, with `start` bytes before them. `fuel` bounds the number of characters. -/
def decodeFrom : Nat → Nat → List UInt8 → Except Utf8Fault (List Char)
  | 0, _, _ => .ok []
  | _, _, [] => .ok []
  | fuel + 1, start, first :: rest =>
    match encodingLength? first with
    | none => .error ⟨start, some 1⟩
    | some length =>
      match continuation first length rest with
      | .error ill => .error ⟨start, ill⟩
      | .ok tail => do
        let more ← decodeFrom fuel (start + 1 + tail.length) (rest.drop tail.length)
        pure (spelled first tail :: more)

/-- The text that bytes spell. -/
def decode (bytes : List UInt8) : Except Utf8Fault String :=
  (decodeFrom bytes.length 0 bytes).map String.ofList

end Messaging.Text
