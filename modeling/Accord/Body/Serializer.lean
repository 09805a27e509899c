import Accord.Body.Renderer
import Accord.Schema.Check

namespace Accord

structure Serializer where
  check : Json → Schema → Option Bool → Except (List Detail) Json
  present : List Detail → List Detail := id

namespace Serializer

def json : Serializer where
  check := fun v s strict => s.validate v strict

end Serializer

end Accord
