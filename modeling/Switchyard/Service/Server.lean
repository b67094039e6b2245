import Switchyard.Service.Reply
import Switchyard.Settings.Schema

/-!
# Serving requests

The way of one request through the server: its body must not be too long, it gets an identifier
unless it has one, it is dispatched, and the reply carries the identifier back. A request that is
never answered times out. A panic that gets out of the router takes the connection with it.
-/

namespace Switchyard

open Web (HeaderName HeaderValue Headers Method Status)

/-- A request that was served: the reply, and what it left. -/
structure Served (σ : Type) where
  reply : Reply
  world : σ
  launched : List (Job σ) := []
  /-- was the connection lost? Then nobody gets the reply -/
  aborted : Bool := false

namespace Server

variable {σ : Type}

/-- The request with its identifier, and the identifier; `fresh` is a new one. -/
def identify (fresh : HeaderValue) (request : Request) : Request × HeaderValue :=
  match request.headers.get? .requestId with
  | some id => (request, id)
  | none => ({ request with headers := request.headers.append .requestId fresh }, fresh)

/-- The reply with an identifier, unless it has one. -/
def label (id : HeaderValue) (reply : Reply) : Reply :=
  if reply.headers.contains .requestId then reply
  else { reply with headers := reply.headers.insert .requestId id }

/-- The reply without a body where the method does not allow one: a head has none, nor has the
answer to a connection that was made. -/
def trimBody (method : Method) (reply : Reply) : Reply :=
  if method = .head || (method = .connect && reply.status.isSuccess) then
    { reply with body := .empty }
  else reply

/-- The reply to a request that was dispatched, after its task has ended if it is detached.
Nothing is replied by what panics or never ends. -/
def conclude (router : Router σ) (d : Dispatched σ) : Option Reply × σ :=
  match d.ending with
  | .done (.detached task) =>
    match router.await task d.world with
    | (.done completion, w) => (some (.ofCompletion completion), w)
    | (_, w) => (none, w)
  | .done dispatch => (Reply.ofDispatch d.context dispatch, d.world)
  | _ => (none, d.world)

/-- Is the task the one that the request waits for? -/
def awaited (d : Dispatched σ) : Bool :=
  match d.ending with
  | .done (.detached _) => true
  | _ => false

/-- Did a panic get out of the router? -/
def torn (d : Dispatched σ) : Bool :=
  match d.ending with
  | .panicked _ => true
  | _ => false

/-- The reply to a request whose body is not too long. -/
def answer (router : Router σ) (here : Option Executor) (request : Request) (w : σ) : Served σ :=
  let d := router.dispatch here (.ofRequest request) w
  let (reply, w) := conclude router d
  { reply := reply.getD { status := .requestTimeout }
    world := w
    launched := if awaited d then [] else d.launched
    aborted := torn d }

/-- The reply to a request. -/
def serve (router : Router σ) (limit : Nat) (here : Option Executor) (fresh : HeaderValue)
    (request : Request) (w : σ) : Served σ :=
  let (request, id) := identify fresh request
  let served :=
    if limit < request.body.size then
      { reply := .text .payloadTooLarge "Payload Too Large", world := w }
    else answer router here request w
  { served with reply := trimBody request.method (label id served.reply) }

end Server

end Switchyard
