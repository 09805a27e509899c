import Accord.Service.Controller
import Accord.Trial.Draft

namespace Accord.Trial

structure Client (m : Type → Type) where
  controller : Controller m
  defaultHeaders : List (String × String) := []

namespace Client

variable {m : Type → Type}

def prepare (c : Client m) (d : Draft) : Draft :=
  c.defaultHeaders.foldl (fun d (name, value) => d.withHeader name value) d

def send [Monad m] [Deciding m] (c : Client m) (d : Draft) : m (Except Fault Response) :=
  match d.build with
  | .error fault => pure (.error fault)
  | .ok r => do return .ok (← c.controller.dispatch r)

end Client

end Accord.Trial
