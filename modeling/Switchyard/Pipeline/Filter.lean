import Switchyard.Pipeline.Action

/-!
# Handlers and filters

A route has one handler and any number of filters around it. A filter of the kind `after` looks at
the outcome. A filter of the kind `before` stands around all that follows it: it answers at once,
or lets the rest run and then goes on with how that ended; or it moves the rest to another executor.
Most filters look at the outcome of the rest only, and let its panics pass.
-/

namespace Switchyard

/-- A place where segments of pipelines run. One that has been shut down starts nothing. -/
inductive Executor where
  | running
  | shutDown
  deriving Repr, DecidableEq

/-- The code of a route. -/
abbrev Handler (σ : Type) := Attempt σ Value

/-- What is done with an outcome. -/
abbrev After (σ : Type) := Outcome → Attempt σ Value

/-- How a filter around the rest of a pipeline goes on. -/
inductive Entry (σ : Type) where
  /-- the rest is not run -/
  | answer (outcome : Outcome)
  /-- the rest is run, and then the filter is left with how it ended -/
  | watch (leave : Ending Outcome → Attempt σ Value)

/-- The rest is run, and then its outcome is looked at. If it panics, so does the filter. -/
def Entry.proceed {σ : Type} (leave : After σ) : Entry σ :=
  .watch fun
    | .done outcome => leave outcome
    | .panicked p => ExceptT.mk (Action.panic p)
    | .stalled => ExceptT.mk Action.stall

/-- A filter in front of the rest of a pipeline. -/
inductive Before (σ : Type) where
  | around (enter : Action σ (Entry σ))
  /-- the rest runs on another executor, and is waited for -/
  | offload (executor : Executor)

/-- A filter as it is declared. -/
inductive Filter (σ : Type) where
  | before (filter : Before σ)
  | after (filter : After σ)

/-- The kind of a filter in writing. -/
def Filter.kindText {σ : Type} : Filter σ → String
  | .before _ => "Filter::Before"
  | .after _ => "Filter::After"

/-- A filter that only checks: if the check succeeds, the rest runs and its outcome stays. -/
def Before.check {σ : Type} (check : Attempt σ Unit) : Before σ :=
  .around do
    match ← check.run with
    | .ok () => return .proceed fun outcome => ExceptT.mk (pure outcome)
    | .error f => return .answer (.error f)

end Switchyard
