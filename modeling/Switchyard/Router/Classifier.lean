import Switchyard.Exchange.Failure

/-!
# From failures to statuses

A failure whose outermost cause carries a status has that status. Otherwise the outermost error
that some rule accepts decides, and of several rules the one registered first; then the outermost
cause with a status of its own.
-/

namespace Switchyard

open Web (Status)

/-- A rule for errors: all of one kind, or those that a predicate accepts. A predicate may look at
what is behind an error. -/
inductive Rule where
  | kind (kind : CauseKind) (status : Status)
  | accepting (accepts : Failure → Bool) (status : Status)

namespace Rule

def accepts : Rule → Failure → Bool
  | kind k _, e => e.cause.kind == k
  | accepting p _, e => p e

def status : Rule → Status
  | kind _ s => s
  | accepting _ s => s

end Rule

/-- Rules in the order in which they were registered. -/
structure Classifier where
  rules : List Rule := []

/-- The status that a cause has without any rule. -/
def Cause.ownStatus? : Cause → Option Status
  | .status s _ => some s
  | .invalidArgument _ => some .badRequest
  | .missingValue _ => some .badRequest
  | .integer _ => some .badRequest
  | .real _ => some .badRequest
  | .boolean => some .badRequest
  | .text _ _ => some .badRequest
  | .json (.unreadable _) => none
  | .json _ => some .badRequest
  | .resourceNotFound _ => some .notFound
  | .io .notFound _ => some .notFound
  | .io .invalidInput _ => some .badRequest
  | .io .invalidData _ => some .badRequest
  | _ => none

namespace Classifier

/-- A rule for a kind in the place of the one for that kind, or behind all others. -/
def putKind (k : CauseKind) (s : Status) : List Rule → List Rule
  | [] => [.kind k s]
  | .kind l t :: rest => if l = k then .kind k s :: rest else .kind l t :: putKind k s rest
  | .accepting p t :: rest => .accepting p t :: putKind k s rest

/-- A status for all causes of a kind. A kind keeps its place when it gets a new status. -/
def register (c : Classifier) (k : CauseKind) (s : Status) : Classifier :=
  ⟨putKind k s c.rules⟩

/-- A status for all errors that a predicate accepts. -/
def registerRule (c : Classifier) (accepts : Failure → Bool) (s : Status) : Classifier :=
  ⟨c.rules ++ [.accepting accepts s]⟩

/-- One more rule, as it is registered. -/
def add (c : Classifier) : Rule → Classifier
  | .kind k s => c.register k s
  | .accepting p s => c.registerRule p s

/-- The classifier that a history of registrations makes. -/
def ofHistory (history : List Rule) : Classifier :=
  history.foldl add {}

/-- The status of the first rule that accepts an error. -/
def ruled? (c : Classifier) (error : Failure) : Option Status :=
  (c.rules.find? fun r => r.accepts error).map Rule.status

/-- The status of a failure. -/
def classify (c : Classifier) (f : Failure) : Status :=
  match f.cause with
  | .status s _ => s
  | _ =>
    match f.errors.findSome? c.ruled? with
    | some s => s
    | none => (f.chain.findSome? Cause.ownStatus?).getD .internalServerError

end Classifier

end Switchyard
