import QueryCheck.FileSystem
import QueryCheck.Toml.Reader
import QueryCheck.Warehouse.Settings

/-!
# Configuration

Settings for the warehouse may stand in a configuration file. The project may also be given on the command
line or in the environment; the access token comes from the environment alone.
-/

namespace QueryCheck

structure Configuration where
  project : Option String
  endpoint : Option String
  location : Option String
  timeoutSeconds : Option Nat
  maxResults : Option Nat
deriving DecidableEq

inductive ConfigurationFault where
  | unreadable (path : String) (fault : FileFault)
  | malformed (path complaint : String)
  | noProject
  | noToken
deriving DecidableEq

namespace Configuration

def defaultFile : String := "bqspec.toml"

def projectVariable : String := "GOOGLE_CLOUD_PROJECT"

/-- The first that holds a token counts. -/
def tokenVariables : List String := ["BQSPEC_ACCESS_TOKEN", "GOOGLE_OAUTH_ACCESS_TOKEN"]

end Configuration

def ConfigurationFault.message : ConfigurationFault → String
  | unreadable path fault => "could not read '" ++ path ++ "': " ++ fault.message
  | malformed path complaint => "could not parse '" ++ path ++ "': " ++ complaint
  | noProject =>
    "no BigQuery project: pass --project, set [bigquery] project in " ++ Configuration.defaultFile ++
      " or set " ++ Configuration.projectVariable
  | noToken => "no access token: set " ++ " or ".intercalate Configuration.tokenVariables

namespace Configuration

def empty : Configuration :=
  ⟨none, none, none, none, none⟩

/-! ## Files -/

/-- The names of the settings, in the order in which a list gives them. -/
def settingNames : List String :=
  ["project", "endpoint", "location", "timeout_secs", "max_results"]

def withSetting (c : Configuration) (name : String) (value : Toml.Value) : Option Configuration :=
  match name with
  | "project" => value.string?.map fun text => { c with project := some text }
  | "endpoint" => value.string?.map fun text => { c with endpoint := some text }
  | "location" => value.string?.map fun text => { c with location := some text }
  | "timeout_secs" =>
    (value.natUpTo? (UInt64.size - 1)).map fun n => { c with timeoutSeconds := some n }
  | "max_results" =>
    (value.natUpTo? (UInt32.size - 1)).map fun n => { c with maxResults := some n }
  | _ => none

def withSettings (c : Configuration) (settings : Fields Toml.Value) : Option Configuration :=
  settings.foldlM (fun c setting => c.withSetting setting.1 setting.2) c

/-- Settings by name, some or all, or as a list that has them all. -/
def ofSection : Toml.Value → Option Configuration
  | .table settings => empty.withSettings settings
  | .array items =>
    if items.length < settingNames.length then none
    else empty.withSettings (settingNames.zip items)
  | _ => none

/-- Nothing else may stand in a configuration file. -/
def ofTable : Toml.Table → Option Configuration
  | [] => some empty
  | [("bigquery", settings)] => ofSection settings
  | _ => none

def read? (text : String) : Option Configuration :=
  (Toml.read? text).bind ofTable

def ofFile (files : FileSystem) (path : String) : Except ConfigurationFault Configuration :=
  match files.readText path with
  | .error fault => .error (.unreadable path fault)
  | .ok text =>
    match read? text with
    | some c => .ok c
    | none => .error (.malformed path (files.complaint .toml text))

/-- The configuration of a file that is named, which has to exist, or else of the default file, which need
not. -/
def load (files : FileSystem) : Option String → Except ConfigurationFault Configuration
  | some path => ofFile files path
  | none => if files.isFile defaultFile then ofFile files defaultFile else .ok empty

/-! ## The warehouse -/

abbrev Environment := String → Option String

def nonempty (text : String) : Option String :=
  if text = "" then none else some text

/-- The command line comes before the file, and the file before the environment. An empty name is no
project, wherever it comes from. -/
def chosenProject (c : Configuration) (flag : Option String) (environment : Environment) :
    Option String :=
  (flag <|> c.project <|> environment projectVariable).bind nonempty

def accessToken (environment : Environment) : Option String :=
  tokenVariables.findSome? fun name => (environment name).bind nonempty

def resolve (c : Configuration) (flag : Option String) (environment : Environment) :
    Except ConfigurationFault Warehouse.Settings :=
  match c.chosenProject flag environment with
  | none => .error .noProject
  | some project =>
    match accessToken environment with
    | none => .error .noToken
    | some token =>
      .ok {
        project := project
        accessToken := token
        endpoint := c.endpoint.getD Warehouse.defaultEndpoint
        location := c.location
        timeoutMillis := (c.timeoutSeconds.map (· * 1000)).getD Warehouse.defaultTimeoutMillis
        maxResults := c.maxResults }

end Configuration

end QueryCheck
