import Accord.Json.Reader
import Accord.Settings.Dotenv
import Accord.Settings.Layer
import Accord.Toml.Document

namespace Accord

inductive FileEntry where
  | file (data : Bytes)
  | folder
  deriving Repr, Inhabited

abbrev Files := Named FileEntry

namespace Files

def parts (path : String) : List String :=
  (Text.split '/' path).filter fun part => !part.isEmpty && part != "."

/-- What is found at a path, below the folder of all files; above a file there is a folder. -/
def find? (path : String) (files : Files) : Option FileEntry :=
  let wanted := parts path
  if path.isEmpty || path.startsWith "/" then none
  else match List.find? (fun (known, _) => parts known == wanted) files with
    | some (_, .folder) => some .folder
    | some (_, .file data) => if path.endsWith "/" then none else some (.file data)
    | none =>
      if wanted.isEmpty || files.any fun (known, _) => wanted.isPrefixOf (parts known) then
        some .folder
      else none

/-- What follows the last point in the name of a file, unless the point starts the name. -/
def extension? (path : String) : Option String := do
  let name := ((parts path).getLast?.getD "").toList
  let behind := name.reverse.takeWhile (· != '.')
  if behind.length + 1 < name.length then return String.ofList behind.reverse else none

end Files

inductive Source where
  | defaults
  | development
  | production
  | file (path : String)
  | optionalFile (path : String)
  | text (content format : String)
  /-- The file of variables that need not be there. -/
  | dotenv
  | dotenvFile (path : String)
  /-- Variables whose names start with this one; they override all other sources. -/
  | environment (lead : String)
  deriving Repr, Inhabited

structure Loader where
  files : Files := []
  environment : Environment := []
  settings : Settings := {}
  lead : Option String := none

namespace Loader

open Settings (Fault)

def layerOf (content format : String) : Except Fault Json :=
  match Text.lower format with
  | "toml" => (Toml.read content).elim (.error .malformedToml) .ok
  | "json" => (Json.read (Text.utf8 content)).mapError fun e => .malformed e.message
  | _ => .error (.unknownFormat format)

def addText (content format : String) (l : Loader) : Except Fault Loader := do
  let layer ← layerOf content format
  return { l with settings := ← l.settings.withLayer layer }

/-- Puts the settings of a file on top, whose format is told by its name. -/
def addFile (path : String) (l : Loader) : Except Fault Loader :=
  match l.files.find? path with
  | none => .error (.missingFile path)
  | some .folder => .error (.unreadableFile path)
  | some (.file data) =>
    match Text.ofUtf8? data with
    | none => .error (.unreadableFile path)
    | some content =>
      match Files.extension? path with
      | none => .error (.unknownFormat path)
      | some format => l.addText content (Text.lower format)

def addVariables (entry : Option FileEntry) (l : Loader) : Except Fault Loader :=
  match entry with
  | some (.file data) =>
    match (Text.ofUtf8? data).bind (Dotenv.load l.environment) with
    | some environment => .ok { l with environment := environment }
    | none => .error .malformedEnvironment
  | _ => .error .malformedEnvironment

def add (source : Source) (l : Loader) : Except Fault Loader :=
  match source with
  | .defaults => .ok { l with settings := {} }
  | .development => .ok { l with settings := .development }
  | .production => .ok { l with settings := .production }
  | .file path => l.addFile path
  | .optionalFile path => if (l.files.find? path).isSome then l.addFile path else .ok l
  | .text content format => l.addText content format
  | .dotenv =>
    match l.files.find? ".env" with
    | some (.file data) => l.addVariables (some (.file data))
    | _ => .ok l
  | .dotenvFile path => l.addVariables (l.files.find? path)
  | .environment lead => .ok { l with lead := some (Text.upper lead) }

def load (l : Loader) : Except Fault Settings := do
  let s ← match l.lead with
    | some lead =>
      -- All variables are read, also those that override nothing.
      match l.environment.texts? with
      | some texts => l.settings.withVariables lead texts
      | none => .error .panic
    | none => .ok l.settings
  s.check
  return s

end Loader

end Accord
