import Mathlib.Data.List.DropRight
import Switchyard.Exchange.Context

/-!
# Committing a Response

A response is put together by calls on a context, many of which can fail. In the program a call
works on the context in place: it checks what it is given and writes as it goes, and what is
written stays when a later check fails. `Context.Call.steps` says what each call checks and writes,
in this order. This module shows that every call makes all its checks before its first write
(`Context.Call.run_steps`), so that a call that fails leaves the whole context as it was, and a
sequence of calls comes to what those of them that succeed come to.

What is said about the response holds from one `takeResponse` to the next: at most one `send`
succeeds, and from then on the response is committed, with the body of this `send`, whatever is
called besides.

## Main results

* `Context.Call.run_steps`: a call step by step ends as the operation on contexts does.
* `Context.Call.perform_of_error`: a call that fails leaves the context.
* `Context.after_succeeding`: a sequence of calls comes to what its succeeding calls come to.
* `Context.holds_sent`: a response is committed exactly if a body was sent, and has this body.
* `Context.commits_once`: all of this about every sequence of calls on a context with a fresh
  response.
-/

namespace Switchyard

open Web (HeaderName HeaderValue Status)

variable {α : Type}

/-! ### Calls -/

namespace Context

/-- A call on a context, by code that reads path variables as values of `α`. -/
inductive Call (α : Type) where
  | setStatus (status : Status)
  | setHeader (name value : String)
  | setContentType (value : String)
  | setDefaultContentType (value : String)
  | send (body : ByteArray)
  | param (name : String)
  | paramWith (read : String → Except Failure α) (name : String)
  | header (name : String)
  | takeResponse

/-- What a call that succeeds answers. -/
inductive Answer (α : Type) where
  | done
  | text (value : String)
  | read (value : α)
  | header (value : Option String)
  | response (response : Response)

end Context

open Context (Answer Call)

namespace Context.Call

/-- Is the response taken out of the context? -/
def isTake : Call α → Bool
  | takeResponse => true
  | _ => false

/-- What becomes of a call that changes the context unless it fails. -/
def changed (ctx : Context) : Except Failure Context → Except Failure (Answer α) × Context
  | .ok ctx' => (.ok .done, ctx')
  | .error f => (.error f, ctx)

/-- The answer of a call, and the context behind it. -/
def perform (ctx : Context) : Call α → Except Failure (Answer α) × Context
  | setStatus status => (.ok .done, ctx.setStatus status)
  | setHeader name value => changed ctx (ctx.setHeader name value)
  | setContentType value => changed ctx (ctx.setContentType value)
  | setDefaultContentType value => changed ctx (ctx.setDefaultContentType value)
  | send body => changed ctx (ctx.send body)
  | param name => ((ctx.param name).map .text, ctx)
  | paramWith read name => ((ctx.paramWith read name).map .read, ctx)
  | header name => (.ok (.header (ctx.header? name)), ctx)
  | takeResponse => (.ok (.response ctx.takeResponse.1), ctx.takeResponse.2)

/-! ### A call step by step -/

/-- Steps on a context that is written in place. A failure ends them, and what was written
stays. -/
abbrev Steps (α : Type) := ExceptT Failure (StateM Context) α

/-- The name that a text spells. -/
def headerName (text : String) : Steps HeaderName :=
  (HeaderName.ofText? text).getDM (throw (Cause.invalidHeaderName : Failure))

/-- The value made of a text. -/
def headerValue (text : String) : Steps HeaderValue :=
  (HeaderValue.ofText? text).getDM (throw (Cause.invalidHeaderValue : Failure))

/-- The content type of the response written. -/
def writeContentType (text : String) : Steps Unit := do
  let value ← headerValue text
  modify fun ctx => ctx.putHeader .contentType value

/-- The steps of a call: what it checks and what it writes, one after the other. -/
def steps : Call α → Steps (Answer α)
  | setStatus status => do
    modify fun ctx => ctx.setStatus status
    return .done
  | setHeader name value => do
    let name ← headerName name
    let value ← headerValue value
    modify fun ctx => ctx.putHeader name value
    return .done
  | setContentType value => do
    writeContentType value
    return .done
  | setDefaultContentType value => do
    if !(← get).response.headers.contains .contentType then
      writeContentType value
    return .done
  | send body => do
    if (← get).response.committed then
      throw (Cause.alreadySent : Failure)
    modify fun ctx => { ctx with response := { ctx.response with body } }
    modify fun ctx => { ctx with response := { ctx.response with committed := true } }
    return .done
  | param name => do
    return .text (← ofExcept ((← get).param name))
  | paramWith read name => do
    let value ← ofExcept ((← get).param name)
    return .read (← ofExcept (read value))
  | header name => do
    return .header ((← get).header? name)
  | takeResponse => do
    let response := (← get).response
    modify fun ctx => { ctx with response := {} }
    return .response response

theorem bind_steps {β : Type} (x : Steps α) (f : α → Steps β) (ctx : Context) :
    (x >>= f) ctx =
      match x ctx with
      | (.ok a, ctx) => f a ctx
      | (.error failure, ctx) => (.error failure, ctx) := by
  change (match x ctx with | (r, ctx) => ExceptT.bindCont f r ctx) = _
  cases x ctx with
  | mk r ctx => cases r <;> rfl

theorem ofExcept_steps (r : Except Failure α) (ctx : Context) :
    (ofExcept r : Steps α) ctx = (r, ctx) := by
  cases r <;> rfl

theorem get_steps (ctx : Context) : (get : Steps Context) ctx = (.ok ctx, ctx) := rfl

/-- **A call step by step ends as the operation on contexts does**: with its answer or its failure,
and with its context. -/
theorem run_steps (call : Call α) (ctx : Context) : call.steps ctx = call.perform ctx := by
  cases call with
  | setStatus status => rfl
  | setHeader name value =>
      rw [perform, Context.setHeader]
      simp only [steps, headerName, headerValue]
      cases HeaderName.ofText? name with
      | none => rfl
      | some name => cases HeaderValue.ofText? value <;> rfl
  | setContentType value =>
      rw [perform, Context.setContentType]
      simp only [steps, writeContentType, headerValue]
      cases HeaderValue.ofText? value <;> rfl
  | setDefaultContentType value =>
      rw [perform, Context.setDefaultContentType, Context.setContentType]
      simp only [steps, writeContentType, headerValue, bind_steps, get_steps]
      cases ctx.response.headers.contains .contentType with
      | true => rfl
      | false => cases HeaderValue.ofText? value <;> rfl
  | send body =>
      rw [perform, Context.send, Context.isCommitted]
      simp only [steps, bind_steps, get_steps]
      cases ctx.response.committed <;> rfl
  | param name =>
      rw [perform]
      simp only [steps, bind_steps, get_steps, ofExcept_steps]
      cases ctx.param name <;> rfl
  | paramWith read name =>
      rw [perform, Context.paramWith]
      simp only [steps, bind_steps, get_steps, ofExcept_steps]
      cases ctx.param name with
      | error failure => rfl
      | ok value =>
          dsimp only
          cases read value <;> rfl
  | header name => rfl
  | takeResponse => rfl

/-- **A call that fails leaves the context** exactly as it was. -/
theorem perform_of_error {call : Call α} {ctx : Context} {failure : Failure}
    (h : (call.perform ctx).1 = .error failure) : (call.perform ctx).2 = ctx := by
  have hchanged : ∀ r : Except Failure Context,
      (changed ctx r : Except Failure (Answer α) × Context).1 = .error failure →
        (changed ctx r : Except Failure (Answer α) × Context).2 = ctx := by
    intro r hr
    cases r with
    | ok ctx' => cases hr
    | error f => rfl
  cases call with
  | setStatus status => cases h
  | setHeader name value => exact hchanged _ h
  | setContentType value => exact hchanged _ h
  | setDefaultContentType value => exact hchanged _ h
  | send body => exact hchanged _ h
  | param name => rfl
  | paramWith read name => rfl
  | header name => rfl
  | takeResponse => cases h

/-- The body that a call sends, if it is one that sends and it succeeds. -/
def sentBody? : Call α × Except Failure (Answer α) → Option ByteArray
  | (send body, .ok _) => some body
  | _ => none

end Context.Call

/-! ### Sequences of calls -/

namespace Context

/-- Calls with what became of them, in their order. -/
abbrev CallLog (α : Type) := List (Call α × Except Failure (Answer α))

/-- The bodies that were sent since a response was last taken out. -/
def CallLog.sent (log : CallLog α) : List ByteArray :=
  (log.rtakeWhile fun entry => !entry.1.isTake).filterMap Call.sentBody?

/-- The context behind a sequence of calls. -/
def after (ctx : Context) : List (Call α) → Context
  | [] => ctx
  | call :: calls => (call.perform ctx).2.after calls

/-- The calls of a sequence with what becomes of them. -/
def log (ctx : Context) : List (Call α) → CallLog α
  | [] => []
  | call :: calls => (call, (call.perform ctx).1) :: (call.perform ctx).2.log calls

/-- The calls of a sequence that succeed. -/
def succeeding (ctx : Context) (calls : List (Call α)) : List (Call α) :=
  ((ctx.log calls).filter fun entry => entry.2.isOk).map Prod.fst

theorem after_concat (ctx : Context) (calls : List (Call α)) (call : Call α) :
    ctx.after (calls ++ [call]) = (call.perform (ctx.after calls)).2 := by
  induction calls generalizing ctx with
  | nil => rfl
  | cons first calls ih => exact ih (first.perform ctx).2

theorem log_concat (ctx : Context) (calls : List (Call α)) (call : Call α) :
    ctx.log (calls ++ [call]) =
      ctx.log calls ++ [(call, (call.perform (ctx.after calls)).1)] := by
  induction calls generalizing ctx with
  | nil => rfl
  | cons first calls ih => exact congrArg _ (ih (first.perform ctx).2)

/-- A call that succeeds is the first of those that do. -/
theorem succeeding_cons_of_ok {ctx : Context} {call : Call α} {answer : Answer α}
    (h : (call.perform ctx).1 = .ok answer) (calls : List (Call α)) :
    ctx.succeeding (call :: calls) = call :: (call.perform ctx).2.succeeding calls := by
  rw [succeeding, log, h, List.filter_cons_of_pos rfl, List.map_cons, succeeding]

/-- A call that fails does not count. -/
theorem succeeding_cons_of_error {ctx : Context} {call : Call α} {failure : Failure}
    (h : (call.perform ctx).1 = .error failure) (calls : List (Call α)) :
    ctx.succeeding (call :: calls) = ctx.succeeding calls := by
  have hctx : (call.perform ctx).2 = ctx := Call.perform_of_error h
  rw [succeeding, log, h, List.filter_cons_of_neg Bool.false_ne_true, hctx, succeeding]

/-- **A sequence of calls comes to what its succeeding calls come to.** -/
theorem after_succeeding (ctx : Context) (calls : List (Call α)) :
    ctx.after (ctx.succeeding calls) = ctx.after calls := by
  induction calls generalizing ctx with
  | nil => rfl
  | cons call calls ih =>
      cases hanswer : (call.perform ctx).1 with
      | ok answer =>
          rw [succeeding_cons_of_ok hanswer, after, after]
          exact ih _
      | error failure =>
          rw [succeeding_cons_of_error hanswer, ih, after, Call.perform_of_error hanswer]

/-- The succeeding calls answer alone what they answer among all. -/
theorem log_succeeding (ctx : Context) (calls : List (Call α)) :
    ctx.log (ctx.succeeding calls) = (ctx.log calls).filter fun entry => entry.2.isOk := by
  induction calls generalizing ctx with
  | nil => rfl
  | cons call calls ih =>
      cases hanswer : (call.perform ctx).1 with
      | ok answer =>
          rw [succeeding_cons_of_ok hanswer, log, log, hanswer, List.filter_cons_of_pos rfl, ih]
      | error failure =>
          rw [succeeding_cons_of_error hanswer, ih, log, hanswer,
            List.filter_cons_of_neg Bool.false_ne_true, Call.perform_of_error hanswer]

end Context

open Context (CallLog)

/-! ### What was sent -/

/-- Does the response hold what was sent? At most one body was; the response is committed exactly
if one was, and has this body, and an empty one before. -/
structure Response.Holds (r : Response) (sent : List ByteArray) : Prop where
  once : sent.length ≤ 1
  committed : r.committed = true ↔ sent ≠ []
  body : r.body = sent.head?.getD .empty

theorem Response.holds_fresh : ({} : Response).Holds [] :=
  ⟨Nat.zero_le 1, by simp, rfl⟩

/-- One more call sends a body, or takes the response out, or neither. -/
theorem Context.CallLog.sent_concat (log : CallLog α) (entry : Call α × Except Failure (Answer α)) :
    sent (log ++ [entry]) =
      if entry.1.isTake then [] else log.sent ++ (Call.sentBody? entry).toList := by
  rw [sent, List.rtakeWhile_concat]
  cases entry.1.isTake with
  | true => rfl
  | false => exact List.filterMap_append

/-- Before a body was sent, one can be sent. -/
theorem Response.Holds.perform_send_of_nil {ctx : Context} (h : ctx.response.Holds [])
    (body : ByteArray) :
    (Call.send body : Call α).perform ctx =
      (.ok .done, { ctx with response := { ctx.response with body, committed := true } }) := by
  have hfree : ctx.isCommitted = false := Bool.eq_false_iff.2 fun hc => h.committed.1 hc rfl
  rw [Call.perform, Context.send, hfree]
  rfl

/-- After a body was sent, none can be sent. -/
theorem Response.Holds.perform_send_of_ne_nil {ctx : Context} {sent : List ByteArray}
    (h : ctx.response.Holds sent) (hsent : sent ≠ []) (body : ByteArray) :
    (Call.send body : Call α).perform ctx = (.error Cause.alreadySent, ctx) := by
  have hcommitted : ctx.isCommitted = true := h.committed.2 hsent
  rw [Call.perform, Context.send, hcommitted]
  rfl

/-- A call that changes no more than headers keeps what the response holds. -/
theorem Response.Holds.changed {ctx : Context} {sent : List ByteArray}
    (h : ctx.response.Holds sent) {r : Except Failure Context}
    (hr : ∀ ctx', r = .ok ctx' → ctx' = ctx ∨ ∃ n v, ctx' = ctx.putHeader n v) :
    (Call.changed ctx r : Except Failure (Answer α) × Context).2.response.Holds sent := by
  cases r with
  | error failure => exact h
  | ok ctx' =>
      rcases hr ctx' rfl with rfl | ⟨n, v, rfl⟩
      · exact h
      · exact ⟨h.once, h.committed, h.body⟩

/-- **A call keeps what is known of the response**: it holds what was sent before the call, and
what the call sends. -/
theorem Response.Holds.perform {ctx : Context} {log : CallLog α}
    (h : ctx.response.Holds log.sent) (call : Call α) :
    (call.perform ctx).2.response.Holds
      (CallLog.sent (log ++ [(call, (call.perform ctx).1)])) := by
  rw [CallLog.sent_concat]
  -- all calls but `send` and `takeResponse` add nothing to what was sent
  have hkept : ctx.response.Holds (log.sent ++ (none : Option ByteArray).toList) := by
    rwa [Option.toList_none, List.append_nil]
  cases call with
  | setStatus status => exact ⟨hkept.once, hkept.committed, hkept.body⟩
  | setHeader name value => exact hkept.changed fun ctx' h => .inr (Context.setHeader_eq_ok h)
  | setContentType value => exact hkept.changed fun ctx' h => .inr (Context.setContentType_eq_ok h)
  | setDefaultContentType value =>
      exact hkept.changed fun ctx' h => Context.setDefaultContentType_eq_ok h
  | send body =>
      by_cases hsent : log.sent = []
      · rw [hsent] at h ⊢
        rw [h.perform_send_of_nil body]
        exact ⟨Nat.le_refl 1, by simp [Call.sentBody?, Call.isTake], rfl⟩
      · rw [h.perform_send_of_ne_nil hsent body]
        exact hkept
  | param name => exact hkept
  | paramWith read name => exact hkept
  | header name => exact hkept
  | takeResponse => exact Response.holds_fresh

namespace Context

/-- The response holds what was sent since one was last taken out. -/
theorem holds_sent (start : Context) (h : start.response = {}) (calls : List (Call α)) :
    (start.after calls).response.Holds (start.log calls).sent := by
  -- from the back, as what was sent last depends on the end of the log
  induction calls using List.reverseRecOn with
  | nil =>
      rw [after, h]
      exact Response.holds_fresh
  | append_singleton calls call ih =>
      rw [after_concat, log_concat]
      exact ih.perform call

/-- What a sequence of calls on a context makes of its response, and what the next call does. -/
structure CommitsOnce (start : Context) (calls : List (Call α)) : Prop where
  /-- a call, step by step, ends as the operation on contexts does -/
  run : ∀ call : Call α, call.steps (start.after calls) = call.perform (start.after calls)
  /-- a call that fails leaves the whole context -/
  failed : ∀ (call : Call α) (failure : Failure),
    (call.steps (start.after calls)).1 = .error failure →
      (call.steps (start.after calls)).2 = start.after calls
  /-- the succeeding calls alone come to the same context, and answer the same -/
  succeeding : start.after (start.succeeding calls) = start.after calls ∧
    start.log (start.succeeding calls) = (start.log calls).filter fun entry => entry.2.isOk
  /-- since a response was last taken out, at most one body was sent -/
  once : (start.log calls).sent.length ≤ 1
  committed : (start.after calls).isCommitted = true ↔ (start.log calls).sent ≠ []
  body : (start.after calls).response.body = (start.log calls).sent.head?.getD .empty
  /-- the first body is sent -/
  first : ∀ body, (start.log calls).sent = [] →
    ((.send body : Call α).steps (start.after calls)).1 = .ok .done
  /-- and no other one is -/
  later : ∀ body, (start.log calls).sent ≠ [] →
    ((.send body : Call α).steps (start.after calls)).1 = .error Cause.alreadySent
  /-- the response is handed out as it is, and a new one put in its place -/
  taken : (.takeResponse : Call α).steps (start.after calls) =
    (.ok (.response (start.after calls).response), { start.after calls with response := {} })

/-- **A response commits at most once, and calls that fail change nothing.** On a context with a
new response, after any sequence of calls: a call that fails leaves the whole context, and the
calls that succeeded come alone to the same context. Since a response was last taken out, at most
one body was sent; the response is committed exactly if one was, and has this body, and an empty one
before; every later `send` fails. A response is taken out as it is, and leaves a new one. -/
theorem commits_once (request : Request) (route : Option RouteInfo) (bindings notes : Bindings)
    (calls : List (Call α)) :
    ({ request, route, bindings, notes } : Context).CommitsOnce calls := by
  have hholds := holds_sent { request, route, bindings, notes } rfl calls
  exact {
    run := fun call => call.run_steps _
    failed := fun call failure h => by
      rw [call.run_steps] at h ⊢
      exact Call.perform_of_error h
    succeeding := ⟨after_succeeding _ calls, log_succeeding _ calls⟩
    once := hholds.once
    committed := hholds.committed
    body := hholds.body
    first := fun body hsent => by
      rw [hsent] at hholds
      rw [Call.run_steps, hholds.perform_send_of_nil body]
    later := fun body hsent => by
      rw [Call.run_steps, hholds.perform_send_of_ne_nil hsent body]
    taken := Call.run_steps .takeResponse _ }

/-- A second body is refused, until the response was taken out. -/
example (a b : ByteArray) :
    (({} : Context).log [.send a, .send b, .takeResponse, .send b] : CallLog String).map
      (fun entry => entry.2.isOk) = [true, false, true, true] := rfl

end Context

end Switchyard
