import Messaging.Ownership

/-! Method families: the naming rule that tells which methods return a reference of their own. -/

namespace Messaging

/-- The families whose methods return an owned reference. -/
inductive MethodFamily
  | alloc | new | copy | mutableCopy | init
deriving DecidableEq

namespace MethodFamily

/-- The families. -/
def all : List MethodFamily := [alloc, new, copy, mutableCopy, init]

/-- The word with which the names of a family start. -/
def word : MethodFamily → String
  | alloc => "alloc"
  | new => "new"
  | copy => "copy"
  | mutableCopy => "mutableCopy"
  | init => "init"

/-- The name of a family. -/
def label : MethodFamily → String
  | alloc => "Alloc"
  | new => "New"
  | copy => "Copy"
  | mutableCopy => "MutableCopy"
  | init => "Init"

/-- An ASCII lower-case letter. -/
def isLowercase (c : Char) : Bool := 'a' ≤ c && c ≤ 'z'

/-- Whether a name without leading underscores starts with `word` as a word of its own: no lower-case
    letter follows. -/
def startsWithWord (word name : List Char) : Bool :=
  word.isPrefixOf name && !((name.drop word.length).head?.any isLowercase)

/-- The family of a selector name. Leading underscores do not matter. -/
def ofName? (name : String) : Option MethodFamily :=
  let bare := name.toList.dropWhile (· = '_')
  all.find? fun family => startsWithWord family.word.toList bare

/-- The ownership that the name of a method announces. -/
def conventionalOwnership (name : String) : Ownership := if (ofName? name).isSome then .retained else .notRetained

end MethodFamily
end Messaging
