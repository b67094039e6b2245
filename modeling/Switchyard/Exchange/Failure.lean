import Switchyard.Json.Reader
import Switchyard.Number.Binary64
import Switchyard.Number.Integer
import Switchyard.Text.Utf8
import Switchyard.Web.Status

/-!
# Failures

What goes wrong while a request is answered. A failure is a cause together with the causes behind
it, outermost first. Each cause says what happened; `Cause.kind` is the part of it that decides on
a status.
-/

namespace Switchyard

open Number (Binary64 IntegerFault)
open Web (Status)

/-- What an input or output operation failed of. -/
inductive IoKind where
  | notFound
  | invalidInput
  | invalidData
  | permissionDenied
  | brokenPipe
  | unexpectedEof
  | other
  deriving Repr, DecidableEq

/-- What is wrong with a JSON text or value. -/
inductive JsonFault where
  | malformed (error : Json.Error)
  /-- the key of a map is no text -/
  | keyNotText
  /-- the text could not be read from where it stands -/
  | unreadable (message : String)
  deriving Repr, DecidableEq

/-- One thing that went wrong. -/
inductive Cause where
  /-- an error that carries its status -/
  | status (status : Status) (detail : String)
  | invalidArgument (detail : String)
  /-- a path variable, header or field is not there -/
  | missingValue (name : String)
  | resourceNotFound (detail : String)
  | alreadySent
  | panicked (detail : String)
  | integer (fault : IntegerFault)
  | real (fault : Binary64.Fault)
  | boolean
  /-- bytes that are no text, either looked at in place or handed over -/
  | text (fault : Text.Utf8.Fault) (owned : Bool)
  | json (fault : JsonFault)
  | io (kind : IoKind) (detail : String)
  /-- the executor of a segment was shut down before the segment ended -/
  | cancelled
  /-- a detached segment was to be started where no executor runs -/
  | noExecutor
  | invalidStatusCode
  | invalidHeaderName
  | invalidHeaderValue
  | emptyCharacter
  | severalCharacters
  | invalidIPv4
  /-- an error type of an application -/
  | application (type : String) (detail : String)
  /-- a report without a type of its own -/
  | plain (detail : String)
  deriving Repr, DecidableEq

/-- The error types of libraries that no built-in status is for, and the type of plain reports. -/
inductive LibraryKind where
  | executor
  | statusCode
  | headerName
  | headerValue
  | character
  | address
  | plain
  deriving Repr, DecidableEq

/-- The kinds of causes that classification tells apart: one for each error type. -/
inductive CauseKind where
  | status
  | invalidArgument
  | missingValue
  | resourceNotFound
  | alreadySent
  | panicked
  | integer
  | real
  | boolean
  | text
  | ownedText
  | json
  | io
  | cancelled
  | application (type : String)
  | library (type : LibraryKind)
  deriving Repr, DecidableEq

/-- An error of a library, whatever its type is, as a pattern. -/
@[match_pattern] abbrev CauseKind.other {type : LibraryKind} : CauseKind :=
  .library type

/-- The report for a reader. -/
def JsonFault.message : JsonFault → String
  | .malformed e => e.message
  | .keyNotText => "key must be a string"
  | .unreadable m => m

namespace Cause

/-- The report for a reader. -/
def message : Cause → String
  | .status s detail => s.text ++ ": " ++ detail
  | .invalidArgument detail => "invalid argument: " ++ detail
  | .missingValue name => "missing value: " ++ name
  | .resourceNotFound detail => "resource not found: " ++ detail
  | .alreadySent => "response already sent"
  | .panicked detail => "handler panicked: " ++ detail
  | .integer f => f.message
  | .real f => f.message
  | .boolean => "provided string was not `true` or `false`"
  | .text f _ => f.message
  | .json f => f.message
  | .io _ detail => detail
  | .cancelled => "task was cancelled"
  | .noExecutor =>
    "there is no reactor running, must be called from the context of a Tokio 1.x runtime"
  | .invalidStatusCode => "invalid status code"
  | .invalidHeaderName => "invalid HTTP header name"
  | .invalidHeaderValue => "failed to parse header value"
  | .emptyCharacter => "cannot parse char from empty string"
  | .severalCharacters => "too many characters in string"
  | .invalidIPv4 => "invalid IPv4 address syntax"
  | .application _ detail => detail
  | .plain detail => detail

def kind : Cause → CauseKind
  | .status _ _ => .status
  | .invalidArgument _ => .invalidArgument
  | .missingValue _ => .missingValue
  | .resourceNotFound _ => .resourceNotFound
  | .alreadySent => .alreadySent
  | .panicked _ => .panicked
  | .integer _ => .integer
  | .real _ => .real
  | .boolean => .boolean
  | .text _ owned => if owned then .ownedText else .text
  | .json _ => .json
  | .io _ _ => .io
  | .cancelled => .cancelled
  | .application type _ => .application type
  | .noExecutor => .library .executor
  | .invalidStatusCode => .library .statusCode
  | .invalidHeaderName => .library .headerName
  | .invalidHeaderValue => .library .headerValue
  | .emptyCharacter => .library .character
  | .severalCharacters => .library .character
  | .invalidIPv4 => .library .address
  | .plain _ => .library .plain

end Cause

/-- A cause and the causes behind it. -/
structure Failure where
  cause : Cause
  sources : List Cause := []
  deriving Repr, DecidableEq

instance : Inhabited Failure := ⟨{ cause := .plain "" }⟩

namespace Failure

/-- The cause and the causes behind it, outermost first. -/
def chain (f : Failure) : List Cause :=
  f.cause :: f.sources

/-- Each of some causes with those behind it. -/
def errorsOf : List Cause → List Failure
  | [] => []
  | c :: behind => ⟨c, behind⟩ :: errorsOf behind

/-- The failure and each cause behind it, all with what is behind them, outermost first. -/
def errors (f : Failure) : List Failure :=
  errorsOf f.chain

/-- The report of the outermost cause. -/
def message (f : Failure) : String :=
  f.cause.message

/-- The reports of all causes. -/
def fullMessage (f : Failure) : String :=
  f.sources.foldl (fun acc c => acc ++ ": " ++ c.message) f.message

end Failure

instance : Coe Cause Failure := ⟨fun c => { cause := c }⟩

end Switchyard
