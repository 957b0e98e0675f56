/-!
# Connection to the warehouse
-/

namespace QueryCheck.Warehouse

def defaultEndpoint : String := "https://bigquery.googleapis.com/bigquery/v2"

def defaultTimeoutMillis : Nat := 60000

structure Settings where
  project : String
  accessToken : String
  endpoint : String
  location : Option String
  timeoutMillis : Nat
  maxResults : Option Nat
deriving DecidableEq

namespace Settings

def ofProject (project accessToken : String) : Settings :=
  ⟨project, accessToken, defaultEndpoint, none, defaultTimeoutMillis, none⟩

def trimSlashes (url : String) : String :=
  String.ofList (url.toList.reverse.dropWhile (· == '/')).reverse

def queriesUrl (settings : Settings) : String :=
  trimSlashes settings.endpoint ++ "/projects/" ++ settings.project ++ "/queries"

def resultsUrl (settings : Settings) (job : String) : String :=
  settings.queriesUrl ++ "/" ++ job

end Settings

end QueryCheck.Warehouse
