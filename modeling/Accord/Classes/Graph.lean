import Accord.Schema.Basic

namespace Accord

/-- What stands for a type parameter of a base: a parameter of the class, or a schema. -/
inductive TypeArg where
  | param (name : String)
  | concrete (schema : Schema)
  deriving Inhabited

namespace TypeArg

def param? : TypeArg → Option String
  | param name => some name
  | concrete _ => none

def text : TypeArg → String
  | param name => "~" ++ name
  | concrete s => s.typeName

end TypeArg

structure BaseRef where
  base : String
  args : List TypeArg := []
  deriving Inhabited

namespace BaseRef

def genericName : String := "Generic"

def generic (params : List String) : BaseRef := ⟨genericName, params.map .param⟩

def freeParams (b : BaseRef) : List String := (b.args.filterMap TypeArg.param?).eraseDups

def isConcrete (b : BaseRef) : Bool := b.freeParams.isEmpty

def text (b : BaseRef) : String :=
  if b.args.isEmpty then b.base
  else b.base ++ "[" ++ Text.join ", " (b.args.map TypeArg.text) ++ "]"

end BaseRef

structure ClassDecl where
  name : String
  params : List String := []
  bases : List BaseRef := []
  deriving Inhabited

structure ClassEntry where
  params : List String
  bases : List BaseRef
  order : List String
  deriving Inhabited

structure ClassGraph where
  entries : Named ClassEntry
  deriving Inhabited

namespace Linear

def next? (sequences : List (List String)) : Option String :=
  (sequences.filterMap List.head?).find? fun head =>
    !sequences.any fun s => s.tail.contains head

def dropHead (head : String) (s : List String) : List String :=
  if s.head? = some head then s.tail else s

def dropHeads (head : String) (sequences : List (List String)) : List (List String) :=
  sequences.map (dropHead head)

def size : List (List String) → Nat
  | [] => 0
  | s :: rest => s.length + size rest

theorem length_dropHead_le (head : String) (s : List String) :
    (dropHead head s).length ≤ s.length := by
  unfold dropHead
  split
  · simp
  · exact Nat.le_refl _

theorem size_dropHeads_le (head : String) (sequences : List (List String)) :
    size (dropHeads head sequences) ≤ size sequences := by
  unfold dropHeads
  induction sequences with
  | nil => exact Nat.le_refl _
  | cons s rest ih =>
    have := length_dropHead_le head s
    simp only [size, List.map_cons] at ih ⊢
    omega

theorem size_dropHeads_lt {head : String} {sequences : List (List String)}
    (h : next? sequences = some head) : size (dropHeads head sequences) < size sequences := by
  unfold dropHeads
  have hm := List.mem_of_find?_eq_some h
  obtain ⟨s, hs, hh⟩ := List.mem_filterMap.mp hm
  clear h hm
  induction sequences with
  | nil => cases hs
  | cons t rest ih =>
    rcases List.mem_cons.mp hs with rfl | hr
    · have hle := size_dropHeads_le head rest
      have hlt : (dropHead head s).length < s.length := by
        cases s with
        | nil => simp at hh
        | cons a s => simp_all [dropHead]
      simp only [dropHeads, size, List.map_cons] at hle ⊢
      omega
    · have hlt := ih hr
      have hle := length_dropHead_le head t
      simp only [size, List.map_cons] at hlt ⊢
      omega

/-- One sequence that keeps the order of all the given ones, if the heads lead to one. -/
def merge? (sequences : List (List String)) : Option (List String) :=
  match _h : next? sequences with
  | some head => (merge? (dropHeads head sequences)).map (head :: ·)
  | none => if sequences.all List.isEmpty then some [] else none
termination_by size sequences
decreasing_by exact size_dropHeads_lt (by assumption)

end Linear

namespace ClassGraph

def initial : ClassGraph := ⟨[(BaseRef.genericName, ⟨[], [], [BaseRef.genericName]⟩)]⟩

def contains (name : String) (g : ClassGraph) : Bool := g.entries.has name

def get? (name : String) (g : ClassGraph) : Option ClassEntry := g.entries.lookup name

def params (name : String) (g : ClassGraph) : List String :=
  ((g.get? name).map ClassEntry.params).getD []

def bases (name : String) (g : ClassGraph) : List BaseRef :=
  ((g.get? name).map ClassEntry.bases).getD []

def order? (name : String) (g : ClassGraph) : Option (List String) :=
  (g.get? name).map ClassEntry.order

def order (name : String) (g : ClassGraph) : Except Failure (List String) :=
  match g.order? name with
  | some order => .ok order
  | none => .error (.misdeclared ("Class " ++ name ++ " is not declared"))

def isSubclass (name base : String) (g : ClassGraph) : Bool :=
  ((g.order? name).getD []).contains base

/-- A base must be declared, and take as many arguments as it has parameters, or none. -/
def checkBase (decl : ClassDecl) (b : BaseRef) (g : ClassGraph) : Except Failure Unit :=
  match g.get? b.base with
  | none => .error (.misdeclared ("Base " ++ b.base ++ " of " ++ decl.name ++ " is not declared"))
  | some entry =>
    let actual := b.args.length
    let expected := entry.params.length
    if b.base = BaseRef.genericName ∨ actual = 0 ∨ actual = expected then .ok ()
    else .error (.misdeclared ("Too " ++ (if expected < actual then "many" else "few") ++
      " arguments for " ++ b.base ++ "; actual " ++ toString actual ++ ", expected " ++
      toString expected))

/-- The parameters that bases bring: those that are listed, if they are, else all that occur. -/
def paramsOfBases (bases : List BaseRef) : List String :=
  match bases.find? fun b => b.base == BaseRef.genericName with
  | some generic => generic.freeParams
  | none => (bases.flatMap BaseRef.freeParams).eraseDups

def declaredParams (decl : ClassDecl) : Except Failure (List String) :=
  let free := paramsOfBases decl.bases
  let listing := fun (params : List String) => Text.join ", " (params.map ("~" ++ ·))
  if decl.params.isEmpty then .ok free
  else
    let missing := free.filter (!decl.params.contains ·)
    if missing.isEmpty then .ok decl.params
    else .error (.misdeclared ("Some type variables (" ++ listing missing ++
      ") are not listed in Generic[" ++ listing decl.params ++ "]"))

def linearize? (decl : ClassDecl) (g : ClassGraph) : Option (List String) :=
  let names := decl.bases.map BaseRef.base
  (Linear.merge? (names.map (fun name => (g.order? name).getD []) ++ [names])).map (decl.name :: ·)

def declare (decl : ClassDecl) (g : ClassGraph) : Except Failure ClassGraph := do
  if g.contains decl.name then
    .error (.misdeclared ("Class " ++ decl.name ++ " is already declared"))
  else
    decl.bases.forM fun b => g.checkBase decl b
    let params ← declaredParams decl
    match g.linearize? decl with
    | some order => .ok ⟨g.entries ++ [(decl.name, ⟨params, decl.bases, order⟩)]⟩
    | none => .error (.misdeclared
        ("Cannot create a consistent method resolution order (MRO) for bases " ++
          Text.join ", " (decl.bases.map BaseRef.base)))

def declareAll (decls : List ClassDecl) (g : ClassGraph) : ClassGraph × Except Failure Unit :=
  match decls with
  | [] => (g, .ok ())
  | decl :: rest =>
    match g.declare decl with
    | .ok g => declareAll rest g
    | .error failure => (g, .error failure)

end ClassGraph

end Accord
