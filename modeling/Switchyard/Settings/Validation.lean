import Switchyard.Pattern.Parser
import Switchyard.Settings.Schema
import Switchyard.Web.Address

/-!
# Checking settings

All that is wrong with settings, in the order of the settings and of the routes in them.
-/

namespace Switchyard

open Web (MediaType RouteMethod Status)

/-- What is wrong with a setting. -/
inductive SettingFault where
  | bindAddress (address : String)
  | zeroTimeout
  | zeroBodyLimit
  | logLevel (level : String)
  | routeMethod (index : Nat) (method : String)
  | routePattern (index : Nat) (error : Pattern.Error)
  | routeStatus (index : Nat) (status : Nat)
  | routeContentType (index : Nat) (contentType : String)
  deriving Repr, DecidableEq

namespace SettingFault

/-- A report about one of the routes. -/
def onRoute (index : Nat) (report : String) : String :=
  "routes[" ++ toString index ++ "]: " ++ report

/-- The report for a reader. -/
def message : SettingFault → String
  | bindAddress address => "server.bind_address `" ++ address ++ "` is not a socket address"
  | zeroTimeout => "server.request_timeout_secs must be greater than zero"
  | zeroBodyLimit => "server.max_body_bytes must be greater than zero"
  | logLevel level =>
    "observability.log_level `" ++ level ++ "` is not one of trace, debug, info, warn, error"
  | routeMethod i method => onRoute i ("unknown method `" ++ method ++ "`")
  | routePattern i e => onRoute i e.message
  | routeStatus i status => onRoute i ("invalid status " ++ toString status)
  | routeContentType i contentType => onRoute i ("invalid content type `" ++ contentType ++ "`")

/-- The report on all faults together. -/
def summary (faults : List SettingFault) : String :=
  "Validation failed: " ++ ", ".intercalate (faults.map message)

end SettingFault

/-- What is wrong with a route at a place among the routes. -/
def StaticRoute.faults (index : Nat) (r : StaticRoute) : List SettingFault :=
  let method := if (RouteMethod.ofText? r.method).isNone then [.routeMethod index r.method] else []
  let pattern :=
    match Pattern.parse r.path with
    | .ok _ => []
    | .error e => [.routePattern index e]
  let status := if (Status.ofCode? r.status).isNone then [.routeStatus index r.status] else []
  let contentType :=
    match r.contentType with
    | none => []
    | some text => if (MediaType.ofText? text).isNone then [.routeContentType index text] else []
  method ++ pattern ++ status ++ contentType

/-- What is wrong with the routes from a place on. -/
def StaticRoute.faultsFrom (index : Nat) : List StaticRoute → List SettingFault
  | [] => []
  | r :: rest => r.faults index ++ faultsFrom (index + 1) rest

def ServerSettings.faults (s : ServerSettings) : List SettingFault :=
  (if Web.isSocketAddress s.bindAddress then [] else [.bindAddress s.bindAddress])
    ++ (if s.requestTimeoutSeconds = 0 then [.zeroTimeout] else [])
    ++ (if s.maxBodyBytes = 0 then [.zeroBodyLimit] else [])

def ReportSettings.faults (s : ReportSettings) : List SettingFault :=
  if logLevels.contains (Text.lowercase s.logLevel) then [] else [.logLevel s.logLevel]

/-- All that is wrong with the settings. -/
def Settings.faults (s : Settings) : List SettingFault :=
  s.server.faults ++ s.reports.faults ++ StaticRoute.faultsFrom 0 s.routes

end Switchyard
