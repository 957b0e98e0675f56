import QueryCheck.Json

/-!
# Requests over a network

A network is known by the answers that it still has to give, in turn, by the failure that meets every
request after them, and by its words for a body that cannot be read. Requests that reach a server are
recorded.
-/

namespace QueryCheck

inductive Method where
  | get
  | post
deriving DecidableEq

/-- What is asked for behind an address, in order, before it is encoded. -/
abbrev Query := List (String × String)

namespace Query

def optional (name : String) (value : Option String) : Query :=
  (value.map fun value => (name, value)).toList

def values (query : Query) (name : String) : List String :=
  (query.filter fun parameter => parameter.1 == name).map Prod.snd

@[simp] theorem values_append (first second : Query) (name : String) :
    values (first ++ second) name = values first name ++ values second name := by
  simp [values]

@[simp] theorem values_cons (key value : String) (others : Query) (name : String) :
    values ((key, value) :: others) name =
      (if key = name then [value] else []) ++ values others name := by
  by_cases same : key = name <;> simp [values, same]

@[simp] theorem values_optional (key : String) (value : Option String) (name : String) :
    values (optional key value) name = if key = name then value.toList else [] := by
  cases value with
  | none => simp [values, optional]
  | some value => by_cases same : key = name <;> simp [values, optional, same]

theorem names_optional (name : String) (value : Option String) :
    ((optional name value).map Prod.fst).Sublist [name] := by
  cases value <;> simp [optional]

end Query

structure Request where
  method : Method
  url : String
  query : Query
  token : String
  body : Option Json

/-- A request gets an error status, or no answer at all. -/
inductive Failure where
  | status (code : Nat)
  | unanswered (message : String)
deriving DecidableEq

def Failure.message : Failure → String
  | status 401 => "401 Unauthorized: check the access token"
  | status 403 => "403 Forbidden: insufficient permissions"
  | status 404 => "404 Not Found: check the project id"
  | status code => "http status " ++ toString code
  | unanswered message => message

abbrev Reply := Except Failure String

def Reply.ofResponse (status : Nat) (body : String) : Reply :=
  if 400 ≤ status then .error (.status status) else .ok body

def Reply.reachedServer : Reply → Bool
  | .error (.unanswered _) => false
  | _ => true

structure Network where
  pending : List Reply
  afterwards : Failure
  /-- What is said of a body that cannot be read. -/
  complaint : String → String
  log : List Request

namespace Network

/-- A server that responds with these statuses and bodies in turn and fails afterwards. -/
def serving (responses : List (Nat × String)) (complaint : String → String) : Network :=
  ⟨responses.map fun response => .ofResponse response.1 response.2, .status 500, complaint, []⟩

/-- No request is ever answered, so there is no body to complain of. -/
def unreachable (message : String) : Network :=
  ⟨[], .unanswered message, fun _ => message, []⟩

def offline : Network :=
  unreachable "io: Network is unreachable (os error 101)"

def requestCount (network : Network) : Nat :=
  network.log.length

def record (network : Network) (request : Request) (reply : Reply) : Network :=
  if reply.reachedServer then { network with log := network.log ++ [request] } else network

def exchange (network : Network) (request : Request) : Reply × Network :=
  match network.pending with
  | [] => (.error network.afterwards, network.record request (.error network.afterwards))
  | reply :: rest => (reply, { network with pending := rest }.record request reply)

end Network

end QueryCheck
