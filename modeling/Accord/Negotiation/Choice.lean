import Accord.Body.Renderer
import Accord.Media

namespace Accord

namespace BodyParsers

/-- The parser registered for just this type, by a key without a star; the last of several. -/
def forExactType? (essence : String) (parsers : BodyParsers) : Option BodyParser :=
  (parsers.reverse.find? fun (key, _) =>
    !Text.contains '*' key && (MediaType.read key).essence == essence).map Prod.snd

def byPrecedence (parsers : BodyParsers) : List (MediaType × BodyParser) :=
  ((parsers.map fun (key, p) => (MediaType.read key, p)).filter fun (m, _) =>
    decide (Binary64.zero < m.quality)).mergeSort fun (m, _) (n, _) => m.precedes n

def unsupported (contentType : String) (parsers : BodyParsers) : Failure :=
  .unsupported ("Cannot parse request body with content type '" ++ contentType ++ "', expected=" ++
    Text.showList parsers.names)

/-- The parser for a content type: one registered for just this type, else the first by precedence
whose key fits it. -/
def forType? (essence : String) (parsers : BodyParsers) : Option BodyParser :=
  match parsers.forExactType? essence with
  | some p => some p
  | none =>
    let media := MediaType.read essence
    (parsers.byPrecedence.find? fun (key, _) => key.fits media).map Prod.snd

def choose (parsers : BodyParsers) (r : Request) : Except Failure BodyParser :=
  match r.contentType? with
  | none =>
    match parsers.head? with
    | some (_, p) => .ok p
    | none => .error (parsers.unsupported "<missing>")
  | some essence =>
    match parsers.forType? essence with
    | some p => .ok p
    | none => .error (parsers.unsupported essence)

/-- The parser that reads back a response: the renderer's own, else the one registered for the
content type, else the first. -/
def forRereading? (contentType : Option String) (renderer : Option Renderer)
    (parsers : BodyParsers) : Option BodyParser :=
  match renderer.bind Renderer.rereader? with
  | some p => some p
  | none =>
    match contentType.bind fun c => parsers.lookup (MediaType.read c).essence with
    | some p => some p
    | none => parsers.head?.map Prod.snd

end BodyParsers

namespace Renderers

def default? (renderers : Renderers) : Option Renderer := renderers.head?.map Prod.snd

def choose (renderers : Renderers) (r : Request) : Except Failure Renderer :=
  match renderers.default?.filter fun _ => r.accept?.isNone with
  | some renderer => .ok renderer
  | none =>
    let accepted := r.acceptedTypes
    match (MediaType.preferred? accepted renderers.names).bind (renderers.lookup ·) with
    | some renderer => .ok renderer
    | none => .error (.notAcceptable ("Cannot serialize response body with accepted types " ++
        Text.showList (accepted.map MediaType.text) ++ ", supported=" ++
        Text.showList renderers.names))

end Renderers

end Accord
