import QueryCheck.Json.Printer
import QueryCheck.Proofs.Network
import QueryCheck.Proofs.Warehouse.Requests
import QueryCheck.Warehouse.Session

/-!
# Answers of the warehouse

Asking and fetching are told by the number of the request: the answer is what the reply of that number
says, and the network is left as after one more request. A job without a name is never asked for.
-/

namespace QueryCheck.Warehouse

set_option autoImplicit false

/-- What a reply says, given what is said of a body that cannot be read. -/
def answerOf (complaint : String → String) : Reply → Except QueryError QueryResponse
  | .error failure => .error (.request failure.message)
  | .ok body =>
    match QueryResponse.read? body with
    | some response => .ok response
    | none => .error (malformedResponse (complaint body))

/-- A body that is printed as JSON and read back. -/
theorem answer_of_printed (complaint : String → String) (body : Json) (response : QueryResponse)
    (read : Json.readWritten? QueryResponse.maxDepth body.compact.toList = some body)
    (shape : QueryResponse.ofJson? body = some response) :
    answerOf complaint (.ok body.compact) = .ok response := by
  unfold answerOf QueryResponse.read?
  dsimp only
  rw [read, Option.bind_some, shape]

/-- The answer to the request of this number, counted from zero. -/
def answerTo (network : Network) (number : Nat) : Except QueryError QueryResponse :=
  answerOf network.complaint (network.replyTo number)

theorem answer_after_sending (network : Network) (requests : List Request) :
    answerTo (network.sending requests) 0 = answerTo network requests.length := by
  unfold answerTo
  rw [network.sending_complaint, network.sending_reply_to, Nat.add_zero]

/-- Behind the replies that are pending there are failures only. -/
theorem pending_of_answer (network : Network) (number : Nat) (response : QueryResponse)
    (answered : answerTo network number = .ok response) : number < network.pending.length := by
  rcases Nat.lt_or_ge number network.pending.length with within | beyond
  · exact within
  · unfold answerTo Network.replyTo at answered
    rw [List.getElem?_eq_none beyond] at answered
    cases answered

theorem answer_takes_reply (network : Network) (requests : List Request) (request : Request)
    (response : QueryResponse)
    (answered : answerTo (network.sending requests) 0 = .ok response) :
    (network.sending requests).pending.length =
      (network.sending (requests ++ [request])).pending.length + 1 := by
  have bound := pending_of_answer _ _ _ answered
  rw [network.sending_append, (network.sending requests).sending_pending [request],
    List.length_drop, List.length_singleton]
  omega

theorem ask_eq (network : Network) (request : Request) :
    ask network request = (answerTo network 0, network.sending [request]) := by
  rw [Network.sending_one]
  unfold ask answerTo
  rw [network.exchange_eq request]
  cases network.replyTo 0 with
  | error failure => rfl
  | ok body =>
      unfold answerOf
      dsimp only
      cases QueryResponse.read? body <;> rfl

variable {settings : Settings} {job : JobReference} {token : Option String} {waitMillis : Nat}

theorem fetch_unnamed (network : Network) (unnamed : job.id = none) :
    fetch settings job token waitMillis network = (.error noJob, network) := by
  unfold fetch
  rw [unnamed]

theorem fetch_named (network : Network) (request : Request)
    (asks : AsksResults settings job token waitMillis request) :
    fetch settings job token waitMillis network =
      (answerTo network 0, network.sending [request]) := by
  obtain ⟨id, named, -⟩ := asks.address
  obtain rfl := asks_results_unique asks (results_request_asks named)
  unfold fetch
  rw [named]
  exact ask_eq network _

end QueryCheck.Warehouse
