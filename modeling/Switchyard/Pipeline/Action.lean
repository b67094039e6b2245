import Switchyard.Exchange.Context

/-!
# Actions

Handlers, filters and renderers are actions: they read and change the context of a request and a
world of their own, of any type, and then end. An action is done with a result, or it panics, or
it stalls and never ends; what it changed up to then stays changed.

## Main results

* `Ending.caught_eq_panicked_iff`: a panic that is caught panics again exactly if what it carries
  cannot be dropped.
* `Action.guarded_eq_panicked_iff`: so does a guarded action.
-/

namespace Switchyard

/-- What a panic carries. -/
inductive Payload where
  | text (s : String)
  | nontext
  /-- a value that panics itself when it is dropped -/
  | unruly (next : Payload)
  deriving Repr, DecidableEq

/-- The text of a panic. -/
def Payload.message : Payload → String
  | .text s => s
  | _ => "non-string panic payload"

/-- The panic that comes of dropping what a panic carries, if one does. -/
def Payload.dropped? : Payload → Option Payload
  | .unruly next => some next
  | _ => none

/-- How an action ends. -/
inductive Ending (α : Type) where
  | done (a : α)
  | panicked (p : Payload)
  | stalled

/-- The ending with a panic turned into a failure. What the panic carries is dropped when its text
has been read, and nothing guards this. -/
def Ending.caught {α : Type} : Ending (Except Failure α) → Ending (Except Failure α)
  | .panicked p =>
    match p.dropped? with
    | none => .done (.error (Cause.panicked p.message))
    | some next => .panicked next
  | ending => ending

namespace Ending

variable {α : Type} {p next : Payload}

theorem caught_of_quiet (h : p.dropped? = none) :
    (.panicked p : Ending (Except Failure α)).caught =
      .done (.error (Cause.panicked p.message)) := by
  rw [caught, h]

theorem caught_of_dropped (h : p.dropped? = some next) :
    (.panicked p : Ending (Except Failure α)).caught = .panicked next := by
  rw [caught, h]

/-- A panic that is caught panics again exactly if what it carries cannot be dropped. -/
theorem caught_eq_panicked_iff {ending : Ending (Except Failure α)} :
    ending.caught = .panicked next ↔ ∃ p, ending = .panicked p ∧ p.dropped? = some next := by
  cases ending with
  | done result => simp [caught]
  | stalled => simp [caught]
  | panicked p => cases h : p.dropped? <;> simp [caught, h]

theorem caught_eq_stalled_iff {ending : Ending (Except Failure α)} :
    ending.caught = .stalled ↔ ending = .stalled := by
  cases ending with
  | done result => simp [caught]
  | stalled => simp [caught]
  | panicked p => cases h : p.dropped? <;> simp [caught, h]

/-- A panic that is caught is no success. -/
theorem caught_eq_ok_iff {ending : Ending (Except Failure α)} {a : α} :
    ending.caught = .done (.ok a) ↔ ending = .done (.ok a) := by
  cases ending with
  | done result => simp [caught]
  | stalled => simp [caught]
  | panicked p => cases h : p.dropped? <;> simp [caught, h]

end Ending

/-- Where an action has led. -/
structure Reached (σ α : Type) where
  ending : Ending α
  context : Context
  world : σ

/-- Code that acts on the context of a request and on a world `σ`. -/
def Action (σ α : Type) := Context → σ → Reached σ α

namespace Action

variable {σ α β : Type}

/-- The result of `a`, without any change. -/
def done (a : α) : Action σ α := fun ctx w => ⟨.done a, ctx, w⟩

/-- One action and then the next, unless the first does not come to its end. -/
def andThen (x : Action σ α) (f : α → Action σ β) : Action σ β := fun ctx w =>
  match x ctx w with
  | ⟨.done a, ctx, w⟩ => f a ctx w
  | ⟨.panicked p, ctx, w⟩ => ⟨.panicked p, ctx, w⟩
  | ⟨.stalled, ctx, w⟩ => ⟨.stalled, ctx, w⟩

instance : Monad (Action σ) where
  pure := done
  bind := andThen

/-- The action that panics. -/
def panic (p : Payload) : Action σ α := fun ctx w => ⟨.panicked p, ctx, w⟩

/-- The action that never ends. -/
def stall : Action σ α := fun ctx w => ⟨.stalled, ctx, w⟩

/-- The context as it is. -/
def context : Action σ Context := fun ctx w => ⟨.done ctx, ctx, w⟩

/-- A change of the world. -/
def modifyWorld (f : σ → σ) : Action σ Unit := fun ctx w => ⟨.done (), ctx, f w⟩

/-- A change of the context that may fail; then it changes nothing. -/
def edit (f : Context → Except Failure Context) : Action σ (Except Failure Unit) := fun ctx w =>
  match f ctx with
  | .ok ctx => ⟨.done (.ok ()), ctx, w⟩
  | .error e => ⟨.done (.error e), ctx, w⟩

/-- The action with a panic turned into a failure. -/
def guarded (x : Action σ (Except Failure α)) : Action σ (Except Failure α) := fun ctx w =>
  let reached := x ctx w
  { reached with ending := reached.ending.caught }

/-! ### Lemmas -/

@[simp] theorem pure_run (a : α) (ctx : Context) (w : σ) :
    (pure a : Action σ α) ctx w = ⟨.done a, ctx, w⟩ := rfl

theorem bind_run (x : Action σ α) (f : α → Action σ β) (ctx : Context) (w : σ) :
    (x >>= f) ctx w =
      match x ctx w with
      | ⟨.done a, ctx, w⟩ => f a ctx w
      | ⟨.panicked p, ctx, w⟩ => ⟨.panicked p, ctx, w⟩
      | ⟨.stalled, ctx, w⟩ => ⟨.stalled, ctx, w⟩ := rfl

/-- A guarded action panics exactly if the action does, with what cannot be dropped. -/
theorem guarded_eq_panicked_iff {x : Action σ (Except Failure α)} {ctx : Context} {w : σ}
    {next : Payload} :
    (guarded x ctx w).ending = .panicked next ↔
      ∃ p, (x ctx w).ending = .panicked p ∧ p.dropped? = some next :=
  Ending.caught_eq_panicked_iff

end Action

/-- An action that may fail. -/
abbrev Attempt (σ α : Type) := ExceptT Failure (Action σ) α

namespace Attempt

variable {σ α : Type}

/-- A change of the context that may fail; then it changes nothing. -/
def edit (f : Context → Except Failure Context) : Attempt σ Unit :=
  ExceptT.mk (Action.edit f)

/-- What is read of the context, if it is there. -/
def read (f : Context → Except Failure α) : Attempt σ α :=
  ExceptT.mk do return f (← Action.context)

/-- The failure of `f`. -/
def fail (f : Failure) : Attempt σ α :=
  ExceptT.mk (pure (.error f))

end Attempt

end Switchyard
