import Accord.Schema.Basic

namespace Accord.Schema

def plainString : Schema := .string none none none

def plainInteger : Schema := .integer none none

def plainNumber : Schema := .number none none

def listOf (items : Schema) : Schema := .array items none none

def withMinLength (n : UInt64) : Schema → Schema
  | string _ hi pattern => string (some n) hi pattern
  | s => s

def withMaxLength (n : UInt64) : Schema → Schema
  | string lo _ pattern => string lo (some n) pattern
  | s => s

/-- The text need not be a pattern; `checkDefinition` tells. -/
def withPattern (source : String) : Schema → Schema
  | string lo hi _ => string lo hi (some source)
  | s => s

def withMinimum (n : Int64) : Schema → Schema
  | integer _ hi => integer (some n) hi
  | s => s

def withMaximum (n : Int64) : Schema → Schema
  | integer lo _ => integer lo (some n)
  | s => s

def withLeast (x : Double) : Schema → Schema
  | number _ hi => number (some x) hi
  | s => s

def withMost (x : Double) : Schema → Schema
  | number lo _ => number lo (some x)
  | s => s

def withMinItems (n : UInt64) : Schema → Schema
  | array items _ hi => array items (some n) hi
  | s => s

def withMaxItems (n : UInt64) : Schema → Schema
  | array items lo _ => array items lo (some n)
  | s => s

end Accord.Schema

namespace Accord.Field

variable {σ : Type}

def asOptional (f : Field σ) : Field σ := { f with required := false }

def withFallback (v : Json) (f : Field σ) : Field σ :=
  { f with required := false, fallback := some v }

def withAlias (name : String) (f : Field σ) : Field σ := { f with alias? := some name }

end Accord.Field

namespace Accord.Model

variable {σ : Type}

def withField (name : String) (f : Field σ) (m : Model σ) : Model σ :=
  { m with fields := Named.put name f m.fields }

def forcingLists (keys : List String) (m : Model σ) : Model σ :=
  { m with forceList := Text.sortedSet (m.forceList ++ keys) }

def withStrict (strict : Bool) (m : Model σ) : Model σ := { m with strict := some strict }

def denyingUnknown (m : Model σ) : Model σ := { m with denyUnknown := true }

def ofSchemas (name : String) (fields : List (String × σ)) : Model σ :=
  { name := name, fields := Named.ofList (fields.map fun (name, s) => (name, { schema := s })) }

end Accord.Model
