import Messaging.Scenario.Samples
import Messaging.TypedCall.Symbols

/-! The sample class that every scenario finds in place, with its symbols. One of these names a class that
    does not exist. -/

namespace Messaging.Scenario

open SampleRoutine

/-- The name of the sample class. -/
def fixtureName : String := "Fixture"

/-- The methods of the sample class. -/
def fixtureMethods : List MethodSpec :=
  let ofClass (name : String) (r : SampleRoutine) (types : String) : MethodSpec := ⟨.ofClass, name, .sample r, types, none⟩
  let ofInstances (name : String) (r : SampleRoutine) (types : String) : MethodSpec :=
    ⟨.ofInstances, name, .sample r, types, none⟩
  [ofClass "fixtureWithValue:" withValue "@#:q", ofClass "sumA:b:c:d:" sum "q#:qqqq",
   ofInstances "initWithA:b:c:" initSum "@@:qqq", ofInstances "initWithA:b:c:d:" initSum "@@:qqqq",
   ofInstances "initFailing" initNil "@@:", ofInstances "sumA:b:c:" sum "q@:qqq", ofInstances "sumA:b:c:d:" sum "q@:qqqq",
   ofInstances "mix:flag:count:ratio:" mix "d@:iBqd", ofInstances "offset:dx:dy:" offset "\x7bOxPoint\x7d@:\x7bOxPoint\x7ddd",
   ofInstances "value" value "q@:", ofInstances "setValue:" setValue "v@:q", ofInstances "storeA:b:c:d:" pack "v@:qqqq",
   ofInstances "makeChild" makeChild "@@:", ofInstances "newChild" newChild "@@:", ofInstances "nothing" nothing "@@:",
   ofInstances "nilClass" nothing "#@:", ofInstances "fail:" fail "v@:@",
   ofInstances "failAfterStoring:" failAfterStoring "v@:q"]

/-- The symbols of the sample class. -/
def fixtureSymbolList : SymbolList where
  title := "FixtureSymbols"
  classes := [("ghost", "OxGhost"), ("number", "OxNumber")]
  selectors :=
    [("with_value", "fixtureWithValue:"), ("sum_class", "sumA:b:c:d:"), ("init_abc", "initWithA:b:c:"),
     ("init_abcd", "initWithA:b:c:d:"), ("init_failing", "initFailing"), ("sum3", "sumA:b:c:"),
     ("sum4", "sumA:b:c:d:"), ("mix", "mix:flag:count:ratio:"), ("offset", "offset:dx:dy:"), ("value", "value"),
     ("set_value", "setValue:"), ("store4", "storeA:b:c:d:"), ("make_child", "makeChild"), ("new_child", "newChild"),
     ("nothing", "nothing"), ("nil_class", "nilClass"), ("fail", "fail:"), ("fail_after_storing", "failAfterStoring:")]

/-- Sets the sample class up. -/
def installFixture : Exec Unit := do
  preload
  let root ← tokenClass (← baseToken "object")
  match ← (defineClass fixtureName (some root) fixtureMethods).run with
  | .ok _ => pure ()
  | .error cause => panicWith cause.message
  let _ ← fixtureSymbolList.table

/-- The sample class. -/
def fixtureToken : Exec (Option ClassId) := return ((← get).classes.named? fixtureName).map ClassEntry.id

/-- The classes that a scenario may not change unless it has the machine to itself. -/
def builtinNames : List String :=
  ["OxObject", "OxString", "OxNumber", "OxException", "OxPort", adapterName, fixtureName]

/-- Sets everything up that a scenario finds in place. -/
def prepare : Exec Unit := do
  preload
  installFixture

end Messaging.Scenario
