import Switchyard.Pipeline.Filter
import Switchyard.Pipeline.Renderer

/-!
# Pipelines

The pipeline of a route is its handler with filters and renderers. Its inner segment runs the
handler, then the filters on the outcome, the one declared last first, and then renders a value
unless the response is committed. The filters in front stand around the inner segment in the order
in which they were declared. If the route is detached, the inner segment is not run in its place
but left as a task with a context of its own.

A panic of the handler is a failure at once. Any other panic is handed up, past all filters that let
it pass, to the nearest executor boundary.
-/

namespace Switchyard

/-- A handler with filters and renderers, each in the order in which they were declared. -/
structure Pipeline (σ : Type) where
  handler : Handler σ
  befores : List (Before σ) := []
  afters : List (After σ) := []
  renderers : List (Renderer σ) := []
  detached : Bool := false

/-- A segment that waits on an executor with a context of its own. -/
structure Job (σ : Type) where
  executor : Executor
  context : Context
  segment : Attempt σ Value

/-- The end of a task. -/
structure Finished where
  context : Context
  outcome : Outcome

/-- A run of a pipeline: the context and the world, the task that whoever runs the pipeline may
wait for, and all tasks that were left. -/
structure Flow (σ : Type) where
  context : Context
  world : σ
  pending : Option (Job σ) := none
  launched : List (Job σ) := []

namespace Job

variable {σ : Type}

/-- The task brought to its end. Nothing is reported by one that does not start, or that panics
though it is guarded. -/
def finish (t : Job σ) (w : σ) : Ending (Option Finished) × σ :=
  match t.executor with
  | .shutDown => (.done none, w)
  | .running =>
    match Action.guarded t.segment t.context w with
    | ⟨.done outcome, ctx, w⟩ => (.done (some ⟨ctx, outcome⟩), w)
    | ⟨.panicked _, _, w⟩ => (.done none, w)
    | ⟨.stalled, _, w⟩ => (.stalled, w)

end Job

namespace Flow

variable {σ α : Type}

/-- The flow after an action, and how the action ended. -/
def perform (flow : Flow σ) (x : Action σ α) : Ending α × Flow σ :=
  let r := x flow.context flow.world
  (r.ending, { flow with context := r.context, world := r.world })

/-- The flow whose context went down with a segment on another executor. -/
def lost (flow : Flow σ) : Flow σ :=
  { flow with context := {}, pending := none }

/-- The flow with a task that is waited for. -/
def launch (flow : Flow σ) (task : Job σ) : Flow σ :=
  { flow with pending := some task, launched := flow.launched ++ [task] }

end Flow

namespace Pipeline

variable {σ : Type}

/-- The filters in front of the rest, in the order in which they were declared. -/
def beforesOf (filters : List (Filter σ)) : List (Before σ) :=
  filters.filterMap fun
    | .before b => some b
    | .after _ => none

/-- The filters on the outcome, in the order in which they were declared. -/
def aftersOf (filters : List (Filter σ)) : List (After σ) :=
  filters.filterMap fun
    | .before _ => none
    | .after a => some a

/-- A pipeline of filters and renderers in the order in which they were declared. -/
def compose (handler : Handler σ) (filters : List (Filter σ)) (renderers : List (Renderer σ))
    (detached : Bool) : Pipeline σ :=
  { handler, befores := beforesOf filters, afters := aftersOf filters, renderers, detached }

def filterCount (p : Pipeline σ) : Nat :=
  p.befores.length + p.afters.length

def rendererCount (p : Pipeline σ) : Nat :=
  p.renderers.length

/-- The filters on the outcome, one after the other in this order. -/
def applyAfters : List (After σ) → Outcome → Attempt σ Value
  | [], outcome => ExceptT.mk (pure outcome)
  | a :: rest, outcome => ExceptT.mk do (applyAfters rest (← (a outcome).run)).run

/-- A value rendered, unless the response is committed. -/
def renderUnlessCommitted (p : Pipeline σ) (value : Value) : Attempt σ Value := do
  if (← Attempt.read fun ctx => .ok ctx.isCommitted) then return value
  else
    Renderer.render p.renderers value
    return value

/-- The inner segment: the handler, the filters on the outcome, and the rendering of a value. -/
def inner (p : Pipeline σ) : Attempt σ Value := ExceptT.mk do
  let outcome ← Action.guarded p.handler.run
  match ← (applyAfters p.afters.reverse outcome).run with
  | .ok value => (p.renderUnlessCommitted value).run
  | .error f => return .error f

/-- The inner segment left as a task on the executor that runs the flow, if there is one. -/
def detach (p : Pipeline σ) (here : Option Executor) (flow : Flow σ) : Ending Outcome × Flow σ :=
  match here with
  | none => (.done (.error Cause.noExecutor), flow)
  | some executor =>
    (.done (.ok .empty), flow.launch { executor, context := flow.context, segment := p.inner })

/-- The filters `rest` in front and then the inner segment, on the executor `here`. -/
def runFrom (p : Pipeline σ) (here : Option Executor) (flow : Flow σ) :
    List (Before σ) → Ending Outcome × Flow σ
  | [] => if p.detached then p.detach here flow else flow.perform p.inner
  | .around enter :: rest =>
    match flow.perform enter with
    | (.panicked e, flow) => (.panicked e, flow)
    | (.stalled, flow) => (.stalled, flow)
    | (.done (.answer outcome), flow) => (.done outcome, flow)
    | (.done (.watch leave), flow) =>
      let (ending, flow) := p.runFrom here flow rest
      flow.perform (leave ending)
  | .offload .shutDown :: _ => (.done (.error Cause.cancelled), flow.lost)
  | .offload .running :: rest =>
    match p.runFrom (some .running) flow rest with
    | (.done outcome, flow) => (.done outcome, flow)
    | (ending, flow) => (ending.caught, flow.lost)

/-- The whole pipeline on the executor `here`. -/
def run (p : Pipeline σ) (here : Option Executor) (flow : Flow σ) : Ending Outcome × Flow σ :=
  p.runFrom here flow p.befores

end Pipeline

end Switchyard
