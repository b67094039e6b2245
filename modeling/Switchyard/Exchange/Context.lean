import Switchyard.Exchange.Scalar
import Switchyard.Exchange.Value
import Switchyard.Table.Bindings
import Switchyard.Table.Route
import Switchyard.Web.Header

/-!
# The context of a request

A context holds a request, the route and the bindings that were found for it, and the response as
far as it is known. A response is committed at most once, by `Context.send`. Every operation that
can fail answers the new context or a failure, so a failure leaves the context as it was.

## Main results

* `Context.send_eq_ok_iff`: a body is sent exactly if none was sent before.
* `Context.setHeader_eq_ok`, `Context.setContentType_eq_ok`: other changes put a header in place.
-/

namespace Switchyard

open Web (HeaderName HeaderValue Headers Method Status)

/-- A request. -/
structure Request where
  method : Method := .get
  path : String := "/"
  headers : Headers := {}
  body : ByteArray := .empty

/-- A response that is being put together. -/
structure Response where
  status : Status := .ok
  headers : Headers := {}
  body : ByteArray := .empty
  /-- has the body been sent? -/
  committed : Bool := false

/-- A request on its way to a response. -/
structure Context where
  request : Request := {}
  route : Option RouteInfo := none
  bindings : Bindings := {}
  response : Response := {}
  /-- what filters and handlers leave for one another -/
  notes : Bindings := {}

namespace Context

instance : Inhabited Context := ⟨{}⟩

/-- The context of a request for which nothing has been done. -/
def ofRequest (request : Request) : Context :=
  { request }

/-- The context with the route that was found. -/
def bind (ctx : Context) (route : RouteInfo) (bindings : Bindings) : Context :=
  { ctx with route := some route, bindings }

/-- The value of a path variable. -/
def param (ctx : Context) (name : String) : Except Failure String :=
  match ctx.bindings.get? name with
  | some value => .ok value
  | none => .error (Cause.missingValue name)

/-- The value of a path variable, read as a value of any type. -/
def paramWith {α : Type} (ctx : Context) (read : String → Except Failure α) (name : String) :
    Except Failure α :=
  match ctx.param name with
  | .error f => .error f
  | .ok value => read value

/-- The value of a path variable as a value of a scalar type. -/
def paramAs (ctx : Context) (type : ScalarType) (name : String) : Except Failure Scalar :=
  ctx.paramWith (fun value => (type.read value).mapError fun c => { cause := c }) name

/-- The first value of a request header, if it is readable text. -/
def header? (ctx : Context) (name : String) : Option String :=
  ctx.request.headers.read? name

def isCommitted (ctx : Context) : Bool :=
  ctx.response.committed

def setStatus (ctx : Context) (status : Status) : Context :=
  { ctx with response := { ctx.response with status } }

/-- The context with a response header in place. -/
def putHeader (ctx : Context) (name : HeaderName) (value : HeaderValue) : Context :=
  { ctx with response := { ctx.response with headers := ctx.response.headers.insert name value } }

def setHeader (ctx : Context) (name value : String) : Except Failure Context :=
  match HeaderName.ofText? name, HeaderValue.ofText? value with
  | none, _ => .error Cause.invalidHeaderName
  | some _, none => .error Cause.invalidHeaderValue
  | some name, some value => .ok (ctx.putHeader name value)

def setContentType (ctx : Context) (value : String) : Except Failure Context :=
  match HeaderValue.ofText? value with
  | none => .error Cause.invalidHeaderValue
  | some value => .ok (ctx.putHeader .contentType value)

/-- The content type put in place unless there is one. -/
def setDefaultContentType (ctx : Context) (value : String) : Except Failure Context :=
  if ctx.response.headers.contains .contentType then .ok ctx else ctx.setContentType value

/-- The response committed with a body. -/
def send (ctx : Context) (body : ByteArray) : Except Failure Context :=
  if ctx.isCommitted then .error Cause.alreadySent
  else .ok { ctx with response := { ctx.response with body, committed := true } }

/-- The response taken out of the context, and a new one in its place. -/
def takeResponse (ctx : Context) : Response × Context :=
  (ctx.response, { ctx with response := {} })

def note? (ctx : Context) (key : String) : Option String :=
  ctx.notes.get? key

def setNote (ctx : Context) (key value : String) : Context :=
  { ctx with notes := ctx.notes.insert key value }

/-! ### Lemmas -/

/-- Putting a header in place is all that setting it can do. -/
theorem setHeader_eq_ok {ctx ctx' : Context} {name value : String}
    (h : ctx.setHeader name value = .ok ctx') : ∃ n v, ctx' = ctx.putHeader n v := by
  rw [setHeader] at h
  split at h
  · cases h
  · cases h
  · next n v _ _ => exact ⟨_, _, (Except.ok.inj h).symm⟩

theorem setContentType_eq_ok {ctx ctx' : Context} {value : String}
    (h : ctx.setContentType value = .ok ctx') : ∃ n v, ctx' = ctx.putHeader n v := by
  rw [setContentType] at h
  split at h
  · cases h
  · exact ⟨_, _, (Except.ok.inj h).symm⟩

theorem setDefaultContentType_eq_ok {ctx ctx' : Context} {value : String}
    (h : ctx.setDefaultContentType value = .ok ctx') :
    ctx' = ctx ∨ ∃ n v, ctx' = ctx.putHeader n v := by
  rw [setDefaultContentType] at h
  split at h
  · exact .inl (Except.ok.inj h).symm
  · exact .inr (setContentType_eq_ok h)

/-- A body is sent exactly if none was sent before. -/
theorem send_eq_ok_iff {ctx ctx' : Context} {body : ByteArray} :
    ctx.send body = .ok ctx' ↔
      ctx.isCommitted = false ∧
        ctx' = { ctx with response := { ctx.response with body, committed := true } } := by
  unfold send
  cases ctx.isCommitted <;> simp [eq_comm]

end Context

end Switchyard
