import Accord.Classes.Graph

namespace Accord.Inference

abbrev Solution := Named TypeArg

/-- The bases on all ways up from a class, depth first, the class itself excluded; no way is longer
than `fuel`. -/
def basesAbove (g : ClassGraph) : Nat → String → List BaseRef
  | 0, _ => []
  | fuel + 1, name =>
    ((g.bases name).filter fun b => b.base != BaseRef.genericName).flatMap fun b =>
      b :: basesAbove g fuel b.base

/-- Puts in one argument. Only parameters that matter are followed; a parameter that is put in
matters from then on. -/
def putArg (solution : Solution) (param : String) (arg : TypeArg) : Solution :=
  if solution.has param then
    let solution := Named.put param arg solution
    match arg with
    | .param name => Named.put name arg solution
    | .concrete _ => solution
  else solution

def putBase (g : ClassGraph) (solution : Solution) (b : BaseRef) : Solution :=
  ((g.params b.base).zip b.args).foldl (fun solution (param, arg) => putArg solution param arg) solution

def solve (g : ClassGraph) (context : String) (params : List String) : Solution :=
  (basesAbove g (g.entries.length + 1) context).reverse.foldl (putBase g)
    (params.map fun name => (name, .param name))

def stepLimit : Nat := 15

/-- Follows parameters to a schema; fails with the argument that is reached at last. -/
def follow (solution : Solution) : Nat → TypeArg → Except TypeArg Schema
  | _, .concrete s => .ok s
  | 0, arg => .error arg
  | steps + 1, .param name => follow solution steps ((solution.lookup name).getD (.param name))

def schemaOf (solution : Solution) (label name : String) : Except Failure Schema :=
  match follow solution stepLimit (.param name) with
  | .ok s => .ok s
  | .error arg => .error (.unsolvable ("Cannot solve type annotations for " ++ arg.text ++
      ". Is definition for " ++ label ++ " generic? It must be concrete"))

def inferAll (g : ClassGraph) (context label : String) (params : List String) :
    Except Failure (Named Schema) :=
  let solution := solve g context params
  params.mapM fun name => do return (name, ← schemaOf solution label name)

def inferBase (g : ClassGraph) (context : String) (b : BaseRef) : Except Failure (Named Schema) :=
  inferAll g context b.text b.freeParams

def inferParam (g : ClassGraph) (context name : String) : Except Failure Schema :=
  schemaOf (solve g context [name]) ("~" ++ name) name

def inferArg (g : ClassGraph) (context : String) : TypeArg → Except Failure Schema
  | .concrete s => .ok s
  | .param name => inferParam g context name

end Accord.Inference
