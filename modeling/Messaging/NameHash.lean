/-! A fast hash of names. The bytes of a name are folded word by word into a 64-bit state; a word that
    no byte spells ends the name. -/

namespace Messaging

namespace NameHash

/-- Folds one word into the state: rotate by five bits, add the word without carry, multiply. -/
def absorb (state word : UInt64) : UInt64 := ((state <<< 5 ||| state >>> 59) ^^^ word) * 0x517cc1b727220a95

/-- The word that bytes spell, least significant first. -/
def word (bytes : List UInt8) : UInt64 := bytes.foldr (fun b acc => acc <<< 8 ||| b.toUInt64) 0

/-- Folds bytes into the state: words of eight bytes, then one of four if as many remain, then single
    bytes. -/
def absorbBytes : UInt64 → List UInt8 → UInt64
  | state, a :: b :: c :: d :: e :: f :: g :: h :: rest => absorbBytes (absorb state (word [a, b, c, d, e, f, g, h])) rest
  | state, a :: b :: c :: d :: rest => rest.foldl (fun s byte => absorb s byte.toUInt64) (absorb state (word [a, b, c, d]))
  | state, rest => rest.foldl (fun s byte => absorb s byte.toUInt64) state

/-- The word that ends a name. -/
def terminator : UInt64 := 0xff

end NameHash

/-- The hash of a name. -/
def nameHash (name : String) : UInt64 :=
  NameHash.absorb (NameHash.absorbBytes 0 name.toUTF8.toList) NameHash.terminator

end Messaging
