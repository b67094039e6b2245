import Switchyard.Json.Value
import Switchyard.Router.Dispatch

/-!
# Settings

What a site is configured with: how it routes, how it listens, what it reports, and the routes
that it answers from the configuration itself.
-/

namespace Switchyard

/-- How a site listens. -/
structure ServerSettings where
  bindAddress : String := "0.0.0.0:8080"
  requestTimeoutSeconds : Nat := 30
  maxBodyBytes : Nat := 2 * 1024 * 1024
  deriving Repr, DecidableEq

/-- What a site reports about its work. -/
structure ReportSettings where
  logLevel : String := "info"
  deriving Repr, DecidableEq

/-- A route with a fixed answer. -/
structure StaticRoute where
  name : Option String := none
  method : String := "GET"
  path : String
  status : Nat := 200
  contentType : Option String := none
  /-- the name of a path variable in braces stands for its value -/
  body : String := ""
  deriving Repr, DecidableEq

/-- All settings of a site. -/
structure Settings where
  router : RouterSettings := {}
  server : ServerSettings := {}
  reports : ReportSettings := {}
  routes : List StaticRoute := []
  deriving DecidableEq

/-- The levels of reports, from the most to the least detailed. -/
def logLevels : List String := ["trace", "debug", "info", "warn", "error"]

/-- Which reports are written, if nothing else is said: those of the program itself and of its
HTTP layer, from the level on. -/
def ReportSettings.directive (s : ReportSettings) : String :=
  let level := Text.lowercase s.logLevel
  "pathway=" ++ level ++ ",tower_http=" ++ level

/-! ### Settings as JSON -/

def DuplicatePolicy.text : DuplicatePolicy → String
  | .replace => "override"
  | .reject => "reject"

def RouterSettings.toJson (s : RouterSettings) : Json :=
  .obj [("duplicate_routes", .str s.duplicateRoutes.text),
    ("favicon_fallback", .bool s.faviconFallback),
    ("enforce_media_types", .bool s.enforceMediaTypes)]

def ServerSettings.toJson (s : ServerSettings) : Json :=
  .obj [("bind_address", .str s.bindAddress),
    ("request_timeout_secs", Json.nat s.requestTimeoutSeconds),
    ("max_body_bytes", Json.nat s.maxBodyBytes)]

def ReportSettings.toJson (s : ReportSettings) : Json :=
  .obj [("log_level", .str s.logLevel)]

def StaticRoute.toJson (r : StaticRoute) : Json :=
  .obj [("name", Json.ofText? r.name), ("method", .str r.method), ("path", .str r.path),
    ("status", Json.nat r.status), ("content_type", Json.ofText? r.contentType),
    ("body", .str r.body)]

def Settings.toJson (s : Settings) : Json :=
  .obj [("router", s.router.toJson), ("server", s.server.toJson),
    ("observability", s.reports.toJson), ("routes", .arr (s.routes.map StaticRoute.toJson))]

end Switchyard
