import Messaging.Identity

/-! Where the heap of a run starts. A client cannot know where objects are placed, so a text of its own never
    spells the address of one: the heap starts at the first region of memory whose leading digits stand in
    none of the texts that the client brings along. -/

namespace Messaging.Scenario

/-- Whether a word stands somewhere in a text. -/
def spells (word : List Char) : List Char → Bool
  | [] => word.isEmpty
  | c :: rest => word.isPrefixOf (c :: rest) || spells word rest

/-- How many addresses share their leading digits. -/
def regionSize : Nat := 0x10000000

/-- The first region that a heap can start at. -/
def firstRegion : Nat := 0x7f000

/-- How many regions there are for a heap to start at. -/
def regionCount : Nat := 0x1000

/-- Whether a text may spell an address of a region: its leading digits stand in the text. -/
def mayName (region : Nat) (text : String) : Bool := spells (Text.hex region).toList text.toList

/-- Where the heap starts for a client with given texts. -/
def heapStart (texts : List String) : Nat :=
  let free := ((List.range regionCount).map (firstRegion + ·)).find? fun region => !texts.any (mayName region)
  free.getD firstRegion * regionSize

end Messaging.Scenario
