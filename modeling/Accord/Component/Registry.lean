import Accord.Classes.Inference
import Accord.Component.Extraction

namespace Accord

abbrev Registry := Named Component

namespace Registry

def rootName : String := "ComponentParser"

/-- Of components with one class the last counts. -/
def ofList (components : List Component) : Registry :=
  Named.ofList (components.map fun c => (c.className, c))

def standard : Registry := ofList Component.all

def classOf (name : String) : ClassDecl :=
  { name := name
    bases := [⟨rootName, []⟩, BaseRef.generic ["_" ++ name ++ "T"]] }

def classes (registry : Registry) (g : ClassGraph) : List ClassDecl :=
  (if g.contains rootName then [] else [{ name := rootName }]) ++ registry.names.map classOf

def declareIn (registry : Registry) (g : ClassGraph) : ClassGraph × Except Failure Unit :=
  g.declareAll (registry.classes g)

/-- The component that a class is: the first registered one in its linear order. -/
def resolve (registry : Registry) (g : ClassGraph) (name : String) : Except Failure Component := do
  let order ← g.order name
  match order.findSome? fun entry => registry.lookup entry with
  | some c => return c
  | none => .error (.misdeclared ("Component " ++ name ++ " is not registered"))

end Registry

/-- A search for the components of a class; classes below `ignored` use components, all others define
them. -/
structure Discovery where
  blueprint : String
  ignored : String
  graph : ClassGraph
  registry : Registry

namespace Discovery

def isDefinition (d : Discovery) (name : String) : Bool :=
  d.graph.isSubclass name Registry.rootName && !d.graph.isSubclass name d.ignored

def isUsage (d : Discovery) (name : String) : Bool :=
  name != Registry.rootName && d.isDefinition name

def usages (d : Discovery) (order : List String) : List BaseRef :=
  (order.filter (!d.isDefinition ·)).flatMap fun name =>
    (d.graph.bases name).filter fun b => d.isUsage b.base

def argSchema (d : Discovery) (b : BaseRef) (inferred : Named Schema) :
    TypeArg → Except Failure Schema
  | .concrete s => .ok s
  | .param name =>
    match inferred.lookup name with
    | some s => .ok s
    | none => .error (.unsolvable ("Cannot solve type annotations for ~" ++ name ++ " of " ++ b.text ++
        " in " ++ d.blueprint))

def specOf (d : Discovery) (b : BaseRef) : Except Failure ComponentSpec := do
  if b.args.isEmpty then
    .error (.unsolvable ("Component " ++ b.base ++ " in " ++ d.blueprint ++
      " must have at least 1 type argument, given 0"))
  else
    let component ← d.registry.resolve d.graph b.base
    let inferred ← Inference.inferBase d.graph d.blueprint b
    return ⟨component, ← b.args.mapM (d.argSchema b inferred)⟩

/-- Adds a usage; of components with one name the first counts. -/
def addUsage (d : Discovery) (specs : List ComponentSpec) (b : BaseRef) :
    Except Failure (List ComponentSpec) := do
  let spec ← d.specOf b
  if specs.any fun known => known.contextName == spec.contextName then return specs
  else return specs ++ [spec]

def components (d : Discovery) : Except Failure (List ComponentSpec) := do
  let order ← d.graph.order d.blueprint
  (d.usages order).foldlM d.addUsage []

end Discovery

end Accord
