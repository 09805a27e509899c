import Accord.Body.Parser
import Accord.Json.Printer

namespace Accord

structure Renderer where
  contentType : String
  render : Json → Except Failure Bytes
  rereader? : Option BodyParser := none

abbrev Renderers := Named Renderer

def Renderer.json : Renderer where
  contentType := "application/json"
  render := fun v => .ok (Text.utf8 v.render)
  rereader? := some .json

end Accord
