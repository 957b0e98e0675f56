import QueryCheck.CommandLine.Options
import QueryCheck.Configuration
import QueryCheck.Discovery
import QueryCheck.Report.Json
import QueryCheck.Report.Text
import QueryCheck.Run
import QueryCheck.Warehouse.Session

/-!
# The command line

A run finds its files, chooses where their rows come from, and reports on each of them. It fails when a
file fails. Without credentials only the files that get as far as their query fail.
-/

namespace QueryCheck.CommandLine

structure Exit where
  code : Nat
  out : String
  err : String

def versionText : String := "bqspec 0.1.0\n"

def helpText : String :=
  "Declarative testing for BigQuery SQL\n\n" ++
  "Usage: bqspec [OPTIONS]\n\n" ++
  "Options:\n" ++
  "  -f <FILE>                Run a single spec file\n" ++
  "  -d <DIR>                 Run every .yaml/.yml spec under this directory [default: .]\n" ++
  "      --rows <ROWS>        Serve rows from a JSON fixture file instead of querying BigQuery\n" ++
  "      --validate-only      Stop after validation; no query is run\n" ++
  "      --output <OUTPUT>    Output format (text or json) [default: text] [possible values: text,\n" ++
  "                           json]\n" ++
  "      --quiet              Suppress non-essential output\n" ++
  "  -v, --verbose            Log pipeline steps to stderr\n" ++
  "      --config <CONFIG>    Configuration file (default: ./bqspec.toml when present)\n" ++
  "      --project <PROJECT>  BigQuery project, overriding the configuration file\n" ++
  "  -h, --help               Print help\n" ++
  "  -V, --version            Print version\n"

namespace Exit

/-- The run cannot go on; quiet runs do not say why. -/
def stopped (options : Options) (message : String) : Exit :=
  let line :=
    match options.format with
    | .text => message
    | .json => (Json.object [("error", .string message)]).compact
  ⟨1, "", if options.quiet then "" else line ++ "\n"⟩

/-- Some file cannot be reported because a date-time leaves the calendar. -/
def aborted : Exit :=
  ⟨101, "", "a date-time lies outside the calendar\n"⟩

def reported (options : Options) (reports : List FileReport) : Exit :=
  let out :=
    match options.format with
    | .text => Report.text options.quiet reports
    | .json => (Report.toJson reports).indented ++ "\n"
  ⟨if reports.any fun report => report.status.isFailure then 1 else 0, out, ""⟩

def ofReports (options : Options) : Option (List FileReport) → Exit
  | some reports => reported options reports
  | none => aborted

end Exit

def noClient : ClientSlot Unit (List (Except QueryError Row)) :=
  .error "no query client in validate-only mode"

def warehouse (settings : Except ConfigurationFault Warehouse.Settings) :
    ClientSlot Network Warehouse.Session :=
  match settings with
  | .ok settings => .ok (Warehouse.client settings)
  | .error fault => .error fault.message

/-- The network is used only when the rows come from the warehouse. -/
def runOptions (files : FileSystem) (environment : Configuration.Environment) (options : Options)
    (network : Network) : Exit × Network :=
  match Discovery.find files options.file options.chosenDirectory with
  | .error fault => (.stopped options fault.message, network)
  | .ok paths =>
    if options.validateOnly then
      (.ofReports options (runFiles files noClient true paths ()).1, network)
    else
      match options.rows with
      | some rows =>
        (.ofReports options (runFiles files (.ok (.ofFixture files rows)) false paths ()).1, network)
      | none =>
        match Configuration.load files options.config with
        | .error fault => (.stopped options ("error: " ++ fault.message), network)
        | .ok c =>
          let (reports, network) :=
            runFiles files (warehouse (c.resolve options.project environment)) false paths network
          (.ofReports options reports, network)

def run (files : FileSystem) (environment : Configuration.Environment) (words : List String)
    (network : Network) : Exit × Network :=
  match Invocation.ofWords words with
  | .help => (⟨0, helpText, ""⟩, network)
  | .version => (⟨0, versionText, ""⟩, network)
  | .refused fault =>
    (⟨2, "", fault.message ++ "\n\nUsage: bqspec [OPTIONS]\n\nFor more information, try '--help'.\n"⟩,
      network)
  | .run options => runOptions files environment options network

end QueryCheck.CommandLine
