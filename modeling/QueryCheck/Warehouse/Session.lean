import QueryCheck.Client
import QueryCheck.Warehouse.Cell
import QueryCheck.Warehouse.QueryRequest

/-!
# Queries to the warehouse

A query is posted, its job is asked for until it is complete, and its rows come page by page. A page is
fetched only when a row is wanted and the rows at hand have run out. All rows are decoded by the columns
that came with the complete answer.
-/

namespace QueryCheck.Warehouse

def noJob : QueryError :=
  .decode "response has no job reference"

def malformedResponse (complaint : String) : QueryError :=
  .decode ("failed to parse query response: " ++ complaint)

def rowError (fault : CellFault) : QueryError :=
  .decode fault.message

def JobReference.incomplete (job : JobReference) : QueryError :=
  .incomplete (job.id.getD "<unknown>")

def ask (network : Network) (request : Request) : Except QueryError QueryResponse × Network :=
  match network.exchange request with
  | (.error failure, network) => (.error (.request failure.message), network)
  | (.ok body, network) =>
    match QueryResponse.read? body with
    | some response => (.ok response, network)
    | none => (.error (malformedResponse (network.complaint body)), network)

/-- A page of results, or without a token the state of the job. -/
def fetch (settings : Settings) (job : JobReference) (token : Option String) (waitMillis : Nat)
    (network : Network) : Except QueryError QueryResponse × Network :=
  match job.id with
  | none => (.error noJob, network)
  | some id => ask network (resultsRequest settings id job.location token waitMillis)

/-! ## Waiting for the job -/

/-- The answer of the complete job. The job of an answer that names none is the one asked for. Time does
not pass here: a job can be waited for unless the time allowed is zero. -/
def awaitCompletion (settings : Settings) :
    Nat → QueryResponse → Network → Except QueryError QueryResponse × Network
  | 0, _, network => (.error JobReference.unknown.incomplete, network)
  | steps + 1, response, network =>
    if response.jobComplete then (.ok response, network)
    else
      let job := response.job.getD .unknown
      if settings.timeoutMillis = 0 ∨ job.id = none then (.error job.incomplete, network)
      else
        match fetch settings job none settings.timeoutMillis network with
        | (.error e, network) => (.error e, network)
        | (.ok next, network) =>
          awaitCompletion settings steps { next with job := some (next.job.getD job) } network

/-! ## Rows -/

/-- A running query: the rows that are left of the last page, and the token of the next one. -/
structure Session where
  settings : Settings
  job : JobReference
  fields : List FieldSchema
  rows : List Json
  pageToken : Option String
  network : Network

namespace Session

def start (settings : Settings) (response : QueryResponse) (network : Network) : Session where
  settings := settings
  job := response.job.getD .unknown
  fields := response.schema.getD []
  rows := response.rows
  pageToken := response.pageToken
  network := network

def withPage (s : Session) (page : QueryResponse) (network : Network) : Session :=
  { s with rows := page.rows, pageToken := page.pageToken, network := network }

def fetchPage (s : Session) (token : String) : Except QueryError QueryResponse × Network :=
  fetch s.settings s.job (some token) defaultTimeoutMillis s.network

/-- The next row, across pages without rows. A page that cannot be had is the last one. -/
def nextWithin : Nat → Session → Option (Except QueryError Row) × Session
  | 0, s => (none, s)
  | steps + 1, s =>
    match s.rows with
    | record :: rest => (some ((decodeRow s.fields record).mapError rowError), { s with rows := rest })
    | [] =>
      match s.pageToken with
      | none => (none, s)
      | some token =>
        match s.fetchPage token with
        | (.error e, network) => (some (.error e), { s with pageToken := none, network := network })
        | (.ok page, network) => nextWithin steps (s.withPage page network)

/-- Every page that is fetched takes one of the answers that are pending. -/
def next (s : Session) : Option (Except QueryError Row) × Session :=
  nextWithin (s.network.pending.length + 2) s

/-! ## Every session ends -/

/-- How many rows an answer holds, and one more for what comes after it. -/
def replyBound : Reply → Nat
  | .error _ => 0
  | .ok body =>
    match QueryResponse.read? body with
    | some response => response.rows.length + 1
    | none => 0

def pendingBound (network : Network) : Nat :=
  network.pending.foldr (fun reply others => replyBound reply + others) 0

def bound (s : Session) : Nat :=
  s.rows.length + s.pageToken.toList.length + pendingBound s.network

theorem ask_bound (network : Network) (request : Request) (page : QueryResponse) (after : Network)
    (asked : ask network request = (.ok page, after)) :
    page.rows.length + 1 + pendingBound after = pendingBound network := by
  unfold ask Network.exchange Network.record at asked
  cases pending_eq : network.pending with
  | nil => simp [pending_eq] at asked
  | cons reply rest =>
    cases reply with
    | error failure => simp [pending_eq] at asked
    | ok body =>
      cases read_eq : QueryResponse.read? body with
      | none => simp [pending_eq, read_eq] at asked
      | some response =>
        simp only [pending_eq, read_eq, Prod.mk.injEq, Except.ok.injEq, Reply.reachedServer,
          if_true] at asked
        obtain ⟨rfl, rfl⟩ := asked
        simp [pendingBound, pending_eq, replyBound, read_eq]

theorem ask_error_bound (network : Network) (request : Request) (e : QueryError) (after : Network)
    (asked : ask network request = (.error e, after)) :
    pendingBound after ≤ pendingBound network := by
  unfold ask Network.exchange Network.record at asked
  cases pending_eq : network.pending with
  | nil =>
    simp only [pending_eq, Prod.mk.injEq] at asked
    rw [← asked.2]
    split <;> simp [pendingBound, pending_eq]
  | cons reply rest =>
    cases reply with
    | error failure =>
      simp only [pending_eq, Prod.mk.injEq] at asked
      rw [← asked.2]
      split <;> simp [pendingBound, pending_eq]
    | ok body =>
      cases read_eq : QueryResponse.read? body with
      | none =>
        simp only [pending_eq, read_eq, Prod.mk.injEq] at asked
        rw [← asked.2]
        split <;> simp [pendingBound, pending_eq]
      | some response => simp [pending_eq, read_eq] at asked

theorem fetchPage_bound (s : Session) (token : String) (page : QueryResponse) (after : Network)
    (fetched : s.fetchPage token = (.ok page, after)) :
    page.rows.length + 1 + pendingBound after = pendingBound s.network := by
  unfold fetchPage fetch at fetched
  cases id_eq : s.job.id with
  | none => simp [id_eq] at fetched
  | some id =>
    simp only [id_eq] at fetched
    exact ask_bound _ _ _ _ fetched

theorem fetchPage_error_bound (s : Session) (token : String) (e : QueryError) (after : Network)
    (fetched : s.fetchPage token = (.error e, after)) :
    pendingBound after ≤ pendingBound s.network := by
  unfold fetchPage fetch at fetched
  cases id_eq : s.job.id with
  | none =>
    simp only [id_eq, Prod.mk.injEq] at fetched
    obtain ⟨_, rfl⟩ := fetched
    exact Nat.le_refl _
  | some id =>
    simp only [id_eq] at fetched
    exact ask_error_bound _ _ _ _ fetched

theorem bound_nextWithin (steps : Nat) (s : Session) (item : Except QueryError Row) (rest : Session)
    (taken : nextWithin steps s = (some item, rest)) : rest.bound < s.bound := by
  induction steps generalizing s with
  | zero => simp [nextWithin] at taken
  | succ steps ih =>
    unfold nextWithin at taken
    cases rows_eq : s.rows with
    | cons record others =>
      simp only [rows_eq, Prod.mk.injEq, Option.some.injEq] at taken
      rw [← taken.2]
      simp [bound, rows_eq]
    | nil =>
      cases token_eq : s.pageToken with
      | none => simp [rows_eq, token_eq] at taken
      | some token =>
        simp only [rows_eq, token_eq] at taken
        match fetched : s.fetchPage token with
        | (.error e, network) =>
          simp only [fetched, Prod.mk.injEq, Option.some.injEq] at taken
          rw [← taken.2]
          have less := fetchPage_error_bound s token e network fetched
          simp only [bound, rows_eq, token_eq, Option.toList, List.length_nil, List.length_cons]
          omega
        | (.ok page, network) =>
          simp only [fetched] at taken
          have later := ih (s.withPage page network) taken
          have same := fetchPage_bound s token page network fetched
          have atMost : page.pageToken.toList.length ≤ 1 := by cases page.pageToken <;> simp
          simp only [bound, withPage, rows_eq, token_eq, Option.toList, List.length_nil,
            List.length_cons] at later atMost ⊢
          omega

def source : RowSource Session where
  next := next
  bound := bound
  bound_next s item rest taken := bound_nextWithin _ s item rest taken

end Session

/-- The state of the job once it is complete, or why the query fails. -/
def submit (settings : Settings) (body : Json) (network : Network) :
    Except QueryError QueryResponse × Network :=
  match ask network (queryRequest settings body) with
  | (.error e, network) => (.error e, network)
  | (.ok response, network) =>
    awaitCompletion settings (network.pending.length + 2) response network

def runQuery (settings : Settings) (query : String) (parameters : List Parameter) (network : Network) :
    Except (QueryError × Network) Session :=
  match queryBody settings query parameters with
  | none => .error (.beyondCalendar, network)
  | some body =>
    match submit settings body network with
    | (.ok response, network) => .ok (Session.start settings response network)
    | (.error e, network) => .error (e, network)

def client (settings : Settings) : Client Network Session where
  name := "bigquery"
  query := runQuery settings
  source := Session.source
  release := Session.network

end QueryCheck.Warehouse
