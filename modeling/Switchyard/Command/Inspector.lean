import Switchyard.Command.Arguments
import Switchyard.Json.Writer
import Switchyard.Service.Stub
import Switchyard.Settings.Loading

/-!
# The route inspector

The routes of a settings file, listed or asked about a single request, and the texts that are
written for this.
-/

namespace Switchyard

open Web (Method)

/-- What a run of the inspector writes, and its exit code. -/
structure Written where
  code : Nat
  out : String := ""
  err : String := ""
  deriving Repr, DecidableEq

/-- A route in lists and reports. -/
def RouteInfo.summaryFields (r : RouteInfo) : List (String × Json) :=
  [("id", Json.nat r.id), ("method", .str r.method.text), ("pattern", .str r.source)]
    ++ (r.name.map fun name => ("name", .str name)).toList

/-- What a method and a path lead to, as a report with sorted fields. -/
def Resolution.report {ρ : Type} : Resolution ρ → Json
  | .found route bindings =>
    .ofFields [("outcome", .str "found"), ("route", .ofFields route.toRouteInfo.summaryFields),
      ("bindings", .ofFields (bindings.pairs.map fun (n, v) => (n, .str v)))]
  | .methodNotAllowed allowed =>
    .ofFields [("outcome", .str "method_not_allowed"),
      ("allowed", Json.ofTexts (allowed.map (·.name)))]
  | .notFound => .ofFields [("outcome", .str "not_found")]

namespace Inspector

/-- The help on a topic. -/
def helpText : HelpTopic → String
  | .program =>
    "Inspect the routes declared in a pathway config\n\n" ++
    "Usage: pathway-cli [OPTIONS] <COMMAND>\n\n" ++
    "Commands:\n" ++
    "  routes  Print the route table\n" ++
    "  match   Resolve a request against the routes\n" ++
    "  help    Print this message or the help of the given subcommand(s)\n\n" ++
    "Options:\n" ++
    "  -c, --config <CONFIG>  \n" ++
    "  -h, --help             Print help\n"
  | .routes =>
    "Print the route table\n\n" ++
    "Usage: pathway-cli routes [OPTIONS]\n\n" ++
    "Options:\n" ++
    "      --json  Emit JSON instead of the aligned table\n" ++
    "  -h, --help  Print help\n"
  | .lookup =>
    "Resolve a request against the routes\n\n" ++
    "Usage: pathway-cli match <METHOD> <PATH>\n\n" ++
    "Arguments:\n" ++
    "  <METHOD>  \n" ++
    "  <PATH>    \n\n" ++
    "Options:\n" ++
    "  -h, --help  Print help\n"
  | .help =>
    "Print this message or the help of the given subcommand(s)\n\n" ++
    "Usage: pathway-cli help [COMMAND]...\n\n" ++
    "Arguments:\n" ++
    "  [COMMAND]...  Print help for the subcommand(s)\n"

/-- A run that could not do what it was asked for. -/
def failed (report : String) : Written :=
  { code := 1, err := "Error: " ++ report ++ "\n" }

/-- The report on settings that could not be loaded. -/
def loadReport : LoadFault → String
  | .missing => "IO error: No such file or directory (os error 2)"
  | .notText => "IO error: stream did not contain valid UTF-8"
  | .malformed => "Parse error"
  | .invalid faults => SettingFault.summary faults

/-- The router of some settings, or a report on what is wrong with them. -/
def routerOf (s : Settings) : Except String (Router Unit) :=
  match ({ settings := s.router } : Blueprint Unit).mount s.routes with
  | .error fault => .error fault.message
  | .ok (blueprint, _) =>
    match blueprint.build with
    | .error faults => .error (BuildFault.summary faults)
    | .ok router => .ok router

/-- A command on a router. -/
def perform (router : Router Unit) : Command → Written
  | .routes true =>
    let summaries := router.table.infos.map fun r => Json.obj r.summaryFields
    { code := 0, out := (Json.arr summaries).pretty ++ "\n" }
  | .routes false =>
    if router.table.routes.isEmpty then { code := 0, err := "No routes declared\n" }
    else { code := 0, out := routeTableText router.table.infos ++ "\n" }
  | .lookup method path =>
    match Method.ofText? (Text.uppercase method) with
    | none => failed "invalid HTTP method"
    | some m => { code := 0, out := (router.table.resolve m path).report.pretty ++ "\n" }

/-- The settings in the file with the bytes `contents`, or the default ones if no file is asked
for. -/
def settingsOf (file : Option String) (contents : Option ByteArray) :
    Except LoadFault Settings :=
  match file with
  | none => .ok {}
  | some _ => Settings.ofFile contents

/-- The settings file that arguments ask for. -/
def fileOf : Inquiry → Option String
  | .run file _ => file
  | _ => none

/-- What an inquiry leads to, where `contents` are the bytes of the settings file, if there is
one. -/
def run (inquiry : Inquiry) (contents : Option ByteArray) : Written :=
  match inquiry with
  | .misuse report => { code := 2, err := "error: " ++ report ++ "\n" }
  | .help topic => { code := 0, out := helpText topic }
  | .run file command =>
    match settingsOf file contents with
    | .error fault => failed (loadReport fault)
    | .ok settings =>
      match routerOf settings with
      | .error report => failed report
      | .ok router => perform router command

end Inspector

end Switchyard
