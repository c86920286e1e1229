/-! Ownership of a returned object: who has to give up the reference. -/

namespace Messaging

/-- Who owes the release of a returned object. A retained result carries one reference for its receiver;
    a result that is not retained is kept alive by somebody else, such as a pool. -/
inductive Ownership
  | retained | notRetained
deriving DecidableEq

/-- The keyword of an ownership in declarations. -/
def Ownership.keyword : Ownership → String
  | .retained => "retained"
  | .notRetained => "not_retained"

/-- The name of an ownership in the text of a method. -/
def Ownership.label : Ownership → String
  | .retained => "Retained"
  | .notRetained => "NotRetained"

/-- The ownership that a keyword stands for. -/
def Ownership.ofKeyword? : String → Option Ownership
  | "retained" => some .retained
  | "not_retained" => some .notRetained
  | _ => none

end Messaging
