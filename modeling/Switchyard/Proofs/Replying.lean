import Switchyard.Proofs.Detachment

/-!
# Replies to Failures

What a handler or a filter put into the response before a failure, and what stands behind the
failure, may be secrets of the server. This module shows that they stay with it: the reply to a
request that failed is made of the status alone, and of the text of the failure if the request is
at fault (`Server.conclude_of_failsWith`). As a statement on two runs, any two requests that fail
with one status, on any two routers, get the same reply, whether they fail in place or as tasks,
and whether a task comes back with its context or is lost.

## Main results

* `Server.conclude_of_failsWith`: the reply is that of the status and the failure.
* `Server.conclude_of_status?`: the reply has the status of the outcome.
* `Server.hides_failures`: failures with one status have one reply.
-/

namespace Switchyard

open Web (HeaderName HeaderValue Status)

variable {σ τ : Type}

namespace Router

/-- Did the request that was dispatched fail, at once or as a task? The context of the task may have
been lost. -/
inductive FailsWith (r : Router σ) (d : Dispatched σ) (status : Status) (failure : Failure) :
    Prop where
  | inPlace (ending : d.ending = .done (.failed status failure))
  | asTask {task : Job σ} {context : Option Context} {w : σ}
    (ending : d.ending = .done (.detached task))
    (awaited : r.await task d.world = (.done (.failed status failure context), w))

end Router

namespace Reply

/-- Failures of one status have one reply, if the server is at fault, or if they have one text. -/
theorem ofFailure_congr {status : Status} {failure failure' : Failure}
    (h : status.isClientError = true → failure.message = failure'.message) :
    ofFailure status failure = ofFailure status failure' := by
  cases hclient : status.isClientError with
  | false => exact ofFailure_of_not_client hclient failure failure'
  | true => rw [ofFailure, ofFailure, h hclient]

theorem status_ofFailure (status : Status) (failure : Failure) :
    (ofFailure status failure).status = status := by
  rw [ofFailure]
  split <;> rfl

theorem status_ofAllowed (allowed : List Web.Method) :
    (ofAllowed allowed).status = .methodNotAllowed := by
  rw [ofAllowed]
  split <;> rfl

end Reply

namespace Server

/-- **The reply to a failure is that of its status and its own text.** -/
theorem conclude_of_failsWith {r : Router σ} {d : Dispatched σ} {status : Status}
    {failure : Failure} (h : r.FailsWith d status failure) :
    (conclude r d).1 = some (.ofFailure status failure) := by
  cases h with
  | inPlace ending =>
      rw [conclude, ending]
      rfl
  | asTask ending awaited =>
      obtain ⟨_, ctx, w, launched⟩ := d
      obtain rfl := ending
      rw [Router.conclude_of_await awaited]
      rfl

/-- A request that failed is answered with the reply to its failure. -/
theorem answer_of_failsWith {r : Router σ} {here : Option Executor} {request : Request} {w : σ}
    {status : Status} {failure : Failure}
    (h : r.FailsWith (r.dispatch here (.ofRequest request) w) status failure) :
    (answer r here request w).reply = .ofFailure status failure := by
  have hconclude := conclude_of_failsWith h
  rw [answer]
  dsimp only
  rw [hconclude]
  rfl

/-- A request that two routers fail to answer is served alike. -/
theorem reply_serve_congr (limit : Nat) {r : Router σ} {r' : Router τ}
    {here here' : Option Executor} {fresh : HeaderValue} {request : Request} {w : σ} {w' : τ}
    {status : Status} {failure failure' : Failure}
    (h : r.FailsWith (r.dispatch here (.ofRequest (identify fresh request).1) w) status failure)
    (h' : r'.FailsWith (r'.dispatch here' (.ofRequest (identify fresh request).1) w') status
      failure')
    (hmessage : status.isClientError = true → failure.message = failure'.message) :
    (serve r limit here fresh request w).reply = (serve r' limit here' fresh request w').reply := by
  have hreply := (answer_of_failsWith h).trans
    ((Reply.ofFailure_congr hmessage).trans (answer_of_failsWith h').symm)
  rw [serve, serve]
  dsimp only
  -- a body that is too long is refused before the routers see the request
  split
  · rfl
  · rw [hreply]

/-- **The reply has the status of the outcome**, if the outcome has one. -/
theorem conclude_of_status? (r : Router σ) {d : Dispatched σ} {dispatch : Dispatch σ}
    {status : Status} (hending : d.ending = .done dispatch)
    (hstatus : dispatch.status? = some status) :
    ∃ reply, (conclude r d).1 = some reply ∧ reply.status = status := by
  rw [conclude, hending]
  cases dispatch with
  | completed => cases hstatus
  | detached task => cases hstatus
  | failed s failure =>
      obtain rfl := Option.some.inj hstatus
      exact ⟨_, rfl, Reply.status_ofFailure s failure⟩
  | methodNotAllowed allowed =>
      obtain rfl := Option.some.inj hstatus
      exact ⟨_, rfl, Reply.status_ofAllowed allowed⟩
  | favicon => exact ⟨_, rfl, Option.some.inj hstatus⟩
  | notFound => exact ⟨_, rfl, Option.some.inj hstatus⟩
  | rejected s => exact ⟨_, rfl, Option.some.inj hstatus⟩

/-- What of two routers' failures is kept from whoever made the requests. The requests, the
contexts and the worlds that they left are arbitrary, and so is what the routes did before they
failed. -/
structure HidesFailures (r : Router σ) (r' : Router τ) : Prop where
  /-- two failures with one status have one reply, unless the requests are at fault and the failures
  have different texts -/
  concluded : ∀ {d : Dispatched σ} {d' : Dispatched τ} {status : Status}
    {failure failure' : Failure}, r.FailsWith d status failure → r'.FailsWith d' status failure' →
      (status.isClientError = true → failure.message = failure'.message) →
        ∃ reply, (conclude r d).1 = some reply ∧ (conclude r' d').1 = some reply
  /-- and a failure of the server has the reply of its status -/
  generic : ∀ {d : Dispatched σ} {status : Status} {failure : Failure},
    r.FailsWith d status failure → status.isClientError = false →
      (conclude r d).1 = some (.reason status)
  /-- so a request that both routers fail to answer is served alike -/
  served : ∀ (limit : Nat) {here here' : Option Executor} {fresh : HeaderValue}
    {request : Request} {w : σ} {w' : τ} {status : Status} {failure failure' : Failure},
    r.FailsWith (r.dispatch here (.ofRequest (identify fresh request).1) w) status failure →
      r'.FailsWith (r'.dispatch here' (.ofRequest (identify fresh request).1) w') status
        failure' →
        (status.isClientError = true → failure.message = failure'.message) →
          (serve r limit here fresh request w).reply = (serve r' limit here' fresh request w').reply
  /-- an outcome with a status is replied with this status -/
  status : ∀ {d : Dispatched σ} {dispatch : Dispatch σ} {status : Status},
    d.ending = .done dispatch → dispatch.status? = some status →
      ∃ reply, (conclude r d).1 = some reply ∧ reply.status = status

/-- **Failures do not leak.** Whatever two routers do with two requests, in place or as tasks: if
both fail with one status, they have one reply, and unless the requests are at fault it is that of
the status alone; if they are, the texts of the two failures have to be the same, and nothing
else. An outcome that has a status is replied with it. -/
theorem hides_failures (r : Router σ) (r' : Router τ) : HidesFailures r r' where
  concluded h h' hmessage := by
    refine ⟨_, conclude_of_failsWith h, ?_⟩
    rw [conclude_of_failsWith h', Reply.ofFailure_congr hmessage]
  generic h hserver := by
    rw [conclude_of_failsWith h, Reply.ofFailure, hserver]
    rfl
  served limit := reply_serve_congr limit
  status := conclude_of_status? r

/-- A handler that sends a secret, with a status of success, and then fails of it. -/
def spilling (secret : String) : Attempt Unit Value := do
  Attempt.edit fun ctx => .ok (ctx.setStatus { code := 201 })
  Attempt.edit fun ctx => ctx.send secret.toUTF8
  Attempt.fail (Cause.plain secret)

/-- The router of a route with this handler. -/
def spills (secret : String) (detached : Bool) : Router Unit :=
  .ofRoute
    { id := 0, method := .only .post, pattern := ⟨[.literal "jobs"]⟩, source := "/jobs", detached
      pipeline := { handler := spilling secret, detached } }

/-- A handler in place and another one as a task spill different secrets into their responses. Both
are answered with the phrase for an internal error. -/
theorem hides_failures_spilled :
    ∃ d d' : Dispatched Unit,
      (spills "first" false).dispatch none Router.posted () = d ∧
      (spills "second" true).dispatch (some .running) Router.posted () = d' ∧
      d.context.response.body = "first".toUTF8 ∧ d.context.isCommitted = true ∧
      (conclude (spills "first" false) d).1 = some (.reason .internalServerError) ∧
      (conclude (spills "second" true) d').1 = some (.reason .internalServerError) := by
  have hinPlace : (spills "first" false).FailsWith
      ((spills "first" false).dispatch none Router.posted ()) .internalServerError
      (Cause.plain "first") := .inPlace rfl
  have hasTask : (spills "second" true).FailsWith
      ((spills "second" true).dispatch (some .running) Router.posted ()) .internalServerError
      (Cause.plain "second") := .asTask rfl rfl
  have hhides := hides_failures (spills "first" false) (spills "second" true)
  obtain ⟨reply, hreply, hreply'⟩ := hhides.concluded hinPlace hasTask fun h => by cases h
  have hgeneric := hhides.generic hinPlace rfl
  refine ⟨_, _, rfl, rfl, rfl, rfl, hgeneric, ?_⟩
  rw [hreply', ← hreply, hgeneric]

end Server

end Switchyard
