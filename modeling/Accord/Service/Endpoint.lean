import Accord.Component.RequestModel
import Accord.Contract.Check

namespace Accord

/-- What a handler is given; an identity if identities are asked for. -/
structure HandlerInput where
  request : Request
  components : ParsedComponents
  identity : Option Json

inductive HandlerOutput where
  | raw (data : Json)
  | response (r : Response)

abbrev Handler (m : Type → Type) := HandlerInput → m (Except Failure HandlerOutput)

/-- The answer to a failure: its envelope as the renderer writes it, or as JSON without one. -/
def Failure.answer (renderer? : Option Renderer) (f : Failure) : Except Failure Response :=
  match renderer? with
  | none => .ok (Response.json f.status f.envelope)
  | some renderer => do
    let body ← renderer.render f.envelope
    Response.withHeader "Content-Type" (Text.utf8 renderer.contentType)
      { status := f.status, body := body }

/-- Offers a failure to handlers one after the other, to each what the one before passes on; the
first response ends this. -/
def ErrorHandler.offer {m : Type → Type} [Monad m] (r : Request) (failure : Failure) :
    List (ErrorHandler m) → m (Except Failure Response)
  | [] => pure (.error failure)
  | handler :: rest => do
    match ← handler r failure with
    | .ok response => return .ok response
    | .error failure => offer r failure rest

def AuthProvider.deciding {m : Type → Type} [Monad m] [Deciding m] (p : AuthProvider m) :
    AuthProvider (StateT Decisions m) where
  identify := fun r => Deciding.step (p.identify r)

def ErrorHandler.deciding {m : Type → Type} [Monad m] [Deciding m] (handler : ErrorHandler m) :
    ErrorHandler (StateT Decisions m) :=
  fun r failure => Deciding.step (handler r failure)

structure Endpoint (m : Type → Type) where
  name : String
  contract : Contract m
  handler : Handler m
  model : RequestModel
  serializer : Serializer
  strictResponses : Bool := true
  sharedErrorHandler : Option (ErrorHandler m) := none

namespace Endpoint

variable {m : Type → Type}

def check (e : Endpoint m) : ResponseCheck m :=
  { contract := e.contract, serializer := e.serializer, strict := e.strictResponses }

def identify [Monad m] [Deciding m] (e : Endpoint m) (r : Request) :
    StateT Decisions m (Except Failure (Option Json)) :=
  match e.contract.auth with
  | none => pure (.ok none)
  | some providers => do return (← authenticate (providers.map AuthProvider.deciding) r).map some

def parse (e : Endpoint m) (r : Request) : Serving ParsedComponents :=
  e.model.parse e.contract.parsers e.serializer r

def respond (e : Endpoint m) (r : Request) (output : HandlerOutput) : Serving Response := do
  let _ ← Serving.renderer e.contract.renderers r
  match output with
  | .raw data =>
    let answer ← e.check.acceptRaw data
    liftM answer.toResponse
  | .response response => e.check.accept r response

def handle [Monad m] [Deciding m] (e : Endpoint m) (input : HandlerInput) :
    StateT Decisions m (Except Failure HandlerOutput) :=
  Deciding.step (e.handler input)

/-- Serves a request for which some things are decided; tells also what is decided then, whether this
fails or not. -/
def run [Monad m] [Deciding m] (e : Endpoint m) (r : Request) (d : Decisions) :
    m (Except Failure Response × Decisions) := do
  match ← (e.identify r).run d with
  | (.error failure, d) => return (.error failure, d)
  | (.ok identity, d) =>
    match (e.parse r).run.run d with
    | (.error failure, d) => return (.error failure, d)
    | (.ok components, d) =>
      match ← (e.handle ⟨r, components, identity⟩).run d with
      | (.error failure, d) => return (.error failure, d)
      | (.ok output, d) => return (e.respond r output).run.run d

/-- Failures are answered by the renderer that is held or chosen, else by the first one. -/
def decideRenderer (e : Endpoint m) (r : Request) (d : Decisions) : Decisions :=
  match (Serving.renderer e.contract.renderers r).run.run d with
  | (.ok _, d) => d
  | (.error _, d) =>
    match e.contract.renderers.default? with
    | some renderer => (d.holdRenderer renderer).2
    | none => d

def errorHandlers (e : Endpoint m) : List (ErrorHandler m) :=
  e.contract.errorHandler.toList ++ e.sharedErrorHandler.toList

/-- The response to a failure; an empty one if not even that can be written. -/
def recover [Monad m] [Deciding m] (e : Endpoint m) (r : Request) (d : Decisions) (failure : Failure) :
    m Response := do
  let handlers := e.errorHandlers.map ErrorHandler.deciding
  match ← (ErrorHandler.offer r failure handlers).run (e.decideRenderer r d) with
  | (.ok response, _) => return response
  | (.error failure, d) =>
    match failure.answer d.renderer? with
    | .ok response => return response
    | .error _ => return { status := .internalError }

def serve [Monad m] [Deciding m] (e : Endpoint m) (r : Request) (d : Decisions := {}) :
    m Response := do
  match ← e.run r d with
  | (.ok response, _) => return response
  | (.error failure, d) => e.recover r d failure

end Endpoint

end Accord
