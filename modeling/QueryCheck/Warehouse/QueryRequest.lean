import QueryCheck.Json
import QueryCheck.Network
import QueryCheck.Parameter
import QueryCheck.Warehouse.Settings

/-!
# What is asked of the warehouse

The body of a query with its parameters as texts, and the requests for results. Timestamps are written
at offset zero, and all clock times to the microsecond.
-/

namespace QueryCheck.Warehouse

/-! ## Parameters -/

/-- Digits below the microsecond are cut. -/
def clockText (dt : DateTime) : List Char :=
  dt.date.text ++ ' ' :: dt.time.paddedClock ++ '.' :: paddedText 6 (dt.time.nanosecond / 1000)

/-- Infinities are spelled out, and a number has no exponent. -/
def floatText (x : Float) : List Char :=
  if x.isNaN then "NaN".toList
  else if x.isFinite then Binary64.Layout.plain.text x
  else if 0 < x then "Infinity".toList
  else "-Infinity".toList

/-- The text of a value; none for a timestamp whose clock at Greenwich leaves the calendar. -/
def parameterText : ParameterValue → Option (List Char)
  | .string value => some value.toList
  | .int64 value => some (intText value.toInt)
  | .float64 value => some (floatText value)
  | .bool true => some "true".toList
  | .bool false => some "false".toList
  | .timestamp value => value.utcCivil?.map fun utc => clockText utc ++ "+00:00".toList
  | .datetime value => some (clockText value)
  | .date value => some value.text

def parameterJson (p : Parameter) : Option Json :=
  (parameterText p.value).map fun text =>
    .object [("name", .string p.name), ("parameterType", .object [("type", .string p.type.name)]),
      ("parameterValue", .object [("value", .string (String.ofList text))])]

def parametersJson : List Parameter → Option (List Json)
  | [] => some []
  | p :: rest =>
    match parameterJson p, parametersJson rest with
    | some first, some others => some (first :: others)
    | _, _ => none

/-- Location and result limit are named only where they are set. -/
def queryBody (settings : Settings) (query : String) (parameters : List Parameter) : Option Json :=
  (parametersJson parameters).map fun items =>
    .object ([("query", .string query), ("useLegacySql", .bool false),
      ("parameterMode", .string "NAMED"), ("queryParameters", .array items),
      ("timeoutMs", .integer (settings.timeoutMillis % UInt64.size : Nat))] ++
      (settings.location.map fun place => ("location", Json.string place)).toList ++
      (settings.maxResults.map fun n => ("maxResults", Json.integer n)).toList)

/-! ## Requests -/

def queryRequest (settings : Settings) (body : Json) : Request :=
  ⟨.post, settings.queriesUrl, [], settings.accessToken, some body⟩

/-- A request for results of a job: for a page when a token is given, else for its end. The location of
the job goes before the one that is set. -/
def resultsRequest (settings : Settings) (job : String) (jobLocation token : Option String)
    (waitMillis : Nat) : Request :=
  ⟨.get, settings.resultsUrl job,
    [("timeoutMs", toString waitMillis)] ++ Query.optional "pageToken" token ++
      Query.optional "location" (jobLocation.or settings.location) ++
      Query.optional "maxResults" (settings.maxResults.map toString),
    settings.accessToken, none⟩

section ResultsRequest

variable (settings : Settings) (job : String) (jobLocation token : Option String) (waitMillis : Nat)

theorem results_request_wait :
    (resultsRequest settings job jobLocation token waitMillis).query.values "timeoutMs" =
      [toString waitMillis] := by
  simp [resultsRequest]

/-- A token is sent exactly when there is one. -/
theorem results_request_page :
    (resultsRequest settings job jobLocation token waitMillis).query.values "pageToken" =
      token.toList := by
  simp [resultsRequest]

theorem results_request_location :
    (resultsRequest settings job jobLocation token waitMillis).query.values "location" =
      (jobLocation.or settings.location).toList := by
  simp [resultsRequest]

theorem results_request_limit :
    (resultsRequest settings job jobLocation token waitMillis).query.values "maxResults" =
      (settings.maxResults.map toString).toList := by
  simp [resultsRequest]

theorem results_request_names :
    ((resultsRequest settings job jobLocation token waitMillis).query.map Prod.fst).Sublist
      ["timeoutMs", "pageToken", "location", "maxResults"] := by
  simp only [resultsRequest, List.map_append]
  exact (((List.Sublist.refl ["timeoutMs"]).append (Query.names_optional _ _)).append
    (Query.names_optional _ _)).append (Query.names_optional _ _)

end ResultsRequest

end QueryCheck.Warehouse
