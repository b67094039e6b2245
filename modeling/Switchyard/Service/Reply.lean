import Switchyard.Router.Dispatch

/-!
# Replies

What is sent back for a request. A failure tells its report only if the request is at fault; any
other failure is answered with the reason phrase of its status alone.

## Main results

* `Reply.ofFailure_of_not_client`: a failure of the server shows nothing but its status.
-/

namespace Switchyard

open Web (HeaderName HeaderValue Headers Method Status)

/-- A reply to a request. -/
structure Reply where
  status : Status
  headers : Headers := {}
  body : ByteArray := .empty

namespace Reply

/-- A reply of plain text. -/
def text (status : Status) (body : String) : Reply :=
  { status
    headers := ({} : Headers).insert .contentType (.ofReadable "text/plain; charset=utf-8")
    body := body.toUTF8 }

/-- A reply with the reason phrase of its status. -/
def reason (status : Status) : Reply :=
  text status (status.reason?.getD "Error")

/-- The reply to a request that failed. -/
def ofFailure (status : Status) (failure : Failure) : Reply :=
  if status.isClientError then text status failure.message else reason status

/-- The reply that a response makes. -/
def ofResponse (r : Response) : Reply :=
  { status := r.status, headers := r.headers, body := r.body }

/-- The reply to a request whose method is not among those of its path. -/
def ofAllowed (allowed : List Method) : Reply :=
  let reply := reason .methodNotAllowed
  match HeaderValue.ofText? (", ".intercalate (allowed.map (·.name))) with
  | some value => { reply with headers := reply.headers.insert .allow value }
  | none => reply

/-- The reply to a detached request. -/
def ofCompletion : Completion → Reply
  | .completed ctx => ofResponse ctx.response
  | .failed status failure _ => ofFailure status failure

/-- The reply to a request, if it is known without waiting for a task. -/
def ofDispatch {σ : Type} (ctx : Context) : Dispatch σ → Option Reply
  | .completed => some (ofResponse ctx.response)
  | .detached _ => none
  | .failed status failure => some (ofFailure status failure)
  | .methodNotAllowed allowed => some (ofAllowed allowed)
  | .favicon => some { status := .notFound }
  | .notFound => some (reason .notFound)
  | .rejected status => some (reason status)

/-! ### Lemmas -/

/-- A failure of the server shows nothing but its status. -/
theorem ofFailure_of_not_client {status : Status} (h : status.isClientError = false)
    (f g : Failure) : ofFailure status f = ofFailure status g := by
  simp [ofFailure, h]

end Reply

end Switchyard
