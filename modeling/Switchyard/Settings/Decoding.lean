import Switchyard.Number.Integer
import Switchyard.Settings.Schema
import Switchyard.Toml.Value

/-!
# Settings from documents

Settings are decoded from a tree of either format. A record is a table of which unknown keys are
left out, or a list of its fields in their order; what is not given has its default. The formats
differ in two points: a list for a record may be longer than the record in TOML only, and the
payload that an enumerated value takes when it is written as a table is a null in JSON and an
empty table or list in TOML.
-/

namespace Switchyard

/-- A document of either format. -/
inductive Node where
  | null
  | bool (b : Bool)
  | int (n : Int)
  | text (s : String)
  | list (items : List Node)
  | table (fields : List (String × Node))
  /-- a value that no setting takes -/
  | other

/-- In what the formats differ. -/
structure Dialect where
  allowsSurplus : Bool
  isVoid : Node → Bool

namespace Dialect

def json : Dialect where
  allowsSurplus := false
  isVoid
    | .null => true
    | _ => false

def toml : Dialect where
  allowsSurplus := true
  isVoid
    | .list items => items.isEmpty
    | .table fields => fields.isEmpty
    | _ => false

end Dialect

namespace Node

mutual

/-- The document that a JSON value is. -/
def ofJson : Json → Node
  | .null => .null
  | .bool b => .bool b
  | .int n => .int n
  | .real _ => .other
  | .str s => .text s
  | .arr items => .list (ofJsonItems items)
  | .obj fields => .table (ofJsonFields fields)

def ofJsonItems : List Json → List Node
  | [] => []
  | j :: js => ofJson j :: ofJsonItems js

def ofJsonFields : List (String × Json) → List (String × Node)
  | [] => []
  | (n, j) :: fields => (n, ofJson j) :: ofJsonFields fields

end

mutual

/-- The document that a TOML value is. A moment is a record of which no key is known. -/
def ofToml : Toml → Node
  | .text s => .text s
  | .int n => .int n
  | .real _ => .other
  | .bool b => .bool b
  | .moment s => .table [("moment", .text s)]
  | .array items => .list (ofTomlItems items)
  | .table fields => .table (ofTomlFields fields)

def ofTomlItems : List Toml → List Node
  | [] => []
  | t :: ts => ofToml t :: ofTomlItems ts

def ofTomlFields : List (String × Toml) → List (String × Node)
  | [] => []
  | (n, t) :: fields => (n, ofToml t) :: ofTomlFields fields

end

/-! ### Values -/

def toText? : Node → Option String
  | .text s => some s
  | _ => none

def toBool? : Node → Option Bool
  | .bool b => some b
  | _ => none

/-- A number without a sign that fits a width. -/
def toNat? (w : Number.Width) : Node → Option Nat
  | .int n => if w.InRange n then some n.toNat else none
  | _ => none

/-- A text, or nothing for a null. -/
def toOptionalText? : Node → Option (Option String)
  | .null => some none
  | .text s => some (some s)
  | _ => none

def toList? {α : Type} (item : Node → Option α) : Node → Option (List α)
  | .list items => items.mapM item
  | _ => none

/-! ### Records -/

/-- What a document gives for each of the named fields of a record. -/
def fields? (d : Dialect) (names : List String) : Node → Option (List (Option Node))
  | .table fields => some (names.map fun name => List.lookup name fields)
  | .list items =>
    if names.length < items.length && !d.allowsSurplus then none
    else some ((List.range names.length).map fun i => items[i]?)
  | _ => none

/-- A field, or its default if it is not given. -/
def orDefault {α : Type} (decode : Node → Option α) (default : α) : Option Node → Option α
  | none => some default
  | some n => decode n

def toPolicyName? : String → Option DuplicatePolicy
  | "override" => some .replace
  | "reject" => some .reject
  | _ => none

def toPolicy? (d : Dialect) : Node → Option DuplicatePolicy
  | .text s => toPolicyName? s
  | .table [(s, payload)] => if d.isVoid payload then toPolicyName? s else none
  | _ => none

def toRouterSettings? (d : Dialect) (n : Node) : Option RouterSettings := do
  match ← n.fields? d ["duplicate_routes", "favicon_fallback", "enforce_media_types"] with
  | [duplicates, favicon, enforce] =>
    return {
      duplicateRoutes := ← orDefault (toPolicy? d) .replace duplicates
      faviconFallback := ← orDefault toBool? true favicon
      enforceMediaTypes := ← orDefault toBool? true enforce }
  | _ => none

def toServerSettings? (d : Dialect) (n : Node) : Option ServerSettings := do
  let default : ServerSettings := {}
  match ← n.fields? d ["bind_address", "request_timeout_secs", "max_body_bytes"] with
  | [address, timeout, limit] =>
    return {
      bindAddress := ← orDefault toText? default.bindAddress address
      requestTimeoutSeconds := ← orDefault (toNat? .u64) default.requestTimeoutSeconds timeout
      maxBodyBytes := ← orDefault (toNat? .u64) default.maxBodyBytes limit }
  | _ => none

def toReportSettings? (d : Dialect) (n : Node) : Option ReportSettings := do
  match ← n.fields? d ["log_level"] with
  | [level] => return { logLevel := ← orDefault toText? "info" level }
  | _ => none

/-- A route; its path has no default. -/
def toStaticRoute? (d : Dialect) (n : Node) : Option StaticRoute := do
  match ← n.fields? d ["name", "method", "path", "status", "content_type", "body"] with
  | [name, method, some path, status, contentType, body] =>
    return {
      name := ← orDefault toOptionalText? none name
      method := ← orDefault toText? "GET" method
      path := ← path.toText?
      status := ← orDefault (toNat? .u16) 200 status
      contentType := ← orDefault toOptionalText? none contentType
      body := ← orDefault toText? "" body }
  | _ => none

def toSettings? (d : Dialect) (n : Node) : Option Settings := do
  match ← n.fields? d ["router", "server", "observability", "routes"] with
  | [router, server, reports, routes] =>
    return {
      router := ← orDefault (toRouterSettings? d) {} router
      server := ← orDefault (toServerSettings? d) {} server
      reports := ← orDefault (toReportSettings? d) {} reports
      routes := ← orDefault (toList? (toStaticRoute? d)) [] routes }
  | _ => none

end Node

/-- The settings that a JSON value holds. -/
def Settings.ofJson? (j : Json) : Option Settings :=
  (Node.ofJson j).toSettings? .json

/-- The settings that a TOML document holds. -/
def Settings.ofToml? (t : Toml) : Option Settings :=
  (Node.ofToml t).toSettings? .toml

end Switchyard
