import QueryCheck.Proofs.Warehouse.Answers

/-!
# The stream of result rows

Behind the complete answer the tokens lead from page to page. The calls for the next row hand out the
rows of all pages in turn, and the error that ends them if there is one. A page is asked for by the first
call that finds no row left before it, and by that call alone.
-/

namespace QueryCheck.Warehouse

set_option autoImplicit false

/-! ## Pages -/

/-- The pages that a token leads to when so many requests have been made before, and the error that ends
them if there is one. -/
inductive Pages (network : Network) (job : JobReference) :
    Nat → Option String → List QueryResponse → Option QueryError → Prop where
  | last (made : Nat) : Pages network job made none [] none
  | unnamed (made : Nat) (token : String) (unnamed : job.id = none) :
      Pages network job made (some token) [] (some noJob)
  | failed (made : Nat) (token : String) (e : QueryError) (named : job.id ≠ none)
      (answered : answerTo network made = .error e) :
      Pages network job made (some token) [] (some e)
  | page (made : Nat) (token : String) (page : QueryResponse) (pages : List QueryResponse)
      (failure : Option QueryError) (named : job.id ≠ none)
      (answered : answerTo network made = .ok page)
      (others : Pages network job (made + 1) page.pageToken pages failure) :
      Pages network job made (some token) (page :: pages) failure

/-- The replies that are pending bound how far tokens lead. -/
theorem pages_exist (network : Network) (job : JobReference) (made : Nat) (token : Option String) :
    ∃ pages failure, Pages network job made token pages failure := by
  cases token with
  | none => exact ⟨[], none, .last made⟩
  | some token =>
      by_cases unnamed : job.id = none
      · exact ⟨[], _, .unnamed made token unnamed⟩
      cases answered : answerTo network made with
      | error e => exact ⟨[], _, .failed made token e unnamed answered⟩
      | ok page =>
          have bound := pending_of_answer network made page answered
          obtain ⟨pages, failure, others⟩ := pages_exist network job (made + 1) page.pageToken
          exact ⟨_, _, .page made token page pages failure unnamed answered others⟩
termination_by network.pending.length - made

/-! ## What the calls give and ask for -/

def decodedRecord (fields : List FieldSchema) (record : Json) : Except QueryError Row :=
  (decodeRow fields record).mapError rowError

def delivered (fields : List FieldSchema) (pages : List QueryResponse)
    (failure : Option QueryError) : List (Except QueryError Row) :=
  (pages.flatMap QueryResponse.rows).map (decodedRecord fields) ++ failure.toList.map .error

/-- The tokens that so many calls follow: those of the pages whose rows they have passed. -/
def dueTokens : Nat → List QueryResponse → List String
  | _, [] => []
  | calls, page :: pages =>
    if page.rows.length < calls then
      page.pageToken.toList ++ dueTokens (calls - page.rows.length) pages
    else []

/-- One request for each token in turn, for the page that it leads to; no page is asked for when the job
has no name. -/
inductive AsksPages (settings : Settings) (job : JobReference) : List String → List Request → Prop where
  | none : AsksPages settings job [] []
  | page (token : String) (request : Request) (tokens : List String) (requests : List Request)
      (asks : AsksResults settings job (some token) defaultTimeoutMillis request)
      (others : AsksPages settings job tokens requests) :
      AsksPages settings job (token :: tokens) (request :: requests)
  | unnamed (tokens : List String) (unnamed : job.id = none) : AsksPages settings job tokens []

theorem asks_pages_unique {settings : Settings} {job : JobReference} {tokens : List String}
    {requests others : List Request} (asks : AsksPages settings job tokens requests)
    (asksToo : AsksPages settings job tokens others) : requests = others := by
  induction asks generalizing others with
  | none => cases asksToo <;> rfl
  | page token request tokens requests asks _ induction =>
      cases asksToo with
      | page _ other _ others asksToo rest =>
          rw [asks_results_unique asks asksToo, induction rest]
      | unnamed _ unnamed => exact absurd unnamed asks.job_named
  | unnamed tokens unnamed =>
      cases asksToo with
      | none => rfl
      | page _ _ _ _ asks _ => exact absurd unnamed asks.job_named
      | unnamed => rfl

namespace Session

def after (s : Session) : Nat → Session
  | 0 => s
  | calls + 1 => s.next.2.after calls

/-- The stream hands out the rows of these pages, each page being asked for when it is due. -/
structure Streams (s : Session) (pages : List QueryResponse) (failure : Option QueryError) :
    Prop where
  results : ∀ calls, (s.after calls).next.1 = (delivered s.fields pages failure)[calls]?
  requests : ∀ calls, ∃ requests, AsksPages s.settings s.job (dueTokens calls pages) requests ∧
    (s.after calls).network = s.network.sending requests

/-! ## One call -/

theorem next_of_row {s : Session} {record : Json} {rest : List Json} (rows : s.rows = record :: rest) :
    s.next = (some (decodedRecord s.fields record), { s with rows := rest }) := by
  unfold next
  rw [nextWithin, rows]
  rfl

theorem next_of_end {s : Session} (rows : s.rows = []) (token : s.pageToken = none) :
    s.next = (none, s) := by
  unfold next
  rw [nextWithin, rows, token]

theorem next_of_failure {s : Session} {token : String} {e : QueryError} {network : Network}
    (rows : s.rows = []) (found : s.pageToken = some token)
    (fetched : s.fetchPage token = (.error e, network)) :
    s.next = (some (.error e), { s with pageToken := none, network := network }) := by
  unfold next
  rw [nextWithin, rows, found]
  dsimp only
  rw [fetched]

/-- A page costs one of the replies that are pending, so the steps of the call are those of a call on
the page. -/
theorem next_of_page {s : Session} {token : String} {page : QueryResponse} {network : Network}
    (rows : s.rows = []) (found : s.pageToken = some token)
    (fetched : s.fetchPage token = (.ok page, network))
    (taken : s.network.pending.length = network.pending.length + 1) :
    s.next = (s.withPage page network).next := by
  unfold next
  rw [nextWithin, rows, found, taken]
  dsimp only
  rw [fetched]
  rfl

/-! ## All calls -/

theorem after_of_end {s : Session} (rows : s.rows = []) (token : s.pageToken = none) (calls : Nat) :
    s.after calls = s := by
  induction calls with
  | zero => rfl
  | succ calls induction =>
      unfold after
      rw [next_of_end rows token]
      exact induction

variable {s : Session} {page : QueryResponse} {pages : List QueryResponse}
  {failure : Option QueryError}

/-- The first call gives the first result and leaves the others; nothing is due before it. -/
theorem streams_of_call {item : Option (Except QueryError Row)} {called : Session}
    (call : s.next = (item, called)) (first : item = (delivered s.fields pages failure)[0]?)
    (others : ∀ calls,
      (called.after calls).next.1 = (delivered s.fields pages failure)[calls + 1]?)
    (asked : ∀ calls, ∃ requests,
      AsksPages s.settings s.job (dueTokens (calls + 1) pages) requests ∧
        (called.after calls).network = s.network.sending requests) :
    s.Streams pages failure := by
  constructor
  · intro calls
    cases calls with
    | zero => exact (congrArg Prod.fst call).trans first
    | succ calls =>
        unfold after
        rw [call]
        exact others calls
  · intro calls
    cases calls with
    | zero =>
        have undue : dueTokens 0 pages = [] := by cases pages <;> rfl
        rw [undue]
        exact ⟨[], .none, rfl⟩
    | succ calls =>
        unfold after
        rw [call]
        exact asked calls

theorem streams_row {record : Json} {rest : List Json} {network : Network}
    (others : (s.withPage { page with rows := rest } network).Streams
      ({ page with rows := rest } :: pages) failure) :
    (s.withPage { page with rows := record :: rest } network).Streams
      ({ page with rows := record :: rest } :: pages) failure := by
  refine streams_of_call (next_of_row rfl) rfl others.results ?_
  intro calls
  have due : dueTokens (calls + 1) ({ page with rows := record :: rest } :: pages) =
      dueTokens calls ({ page with rows := rest } :: pages) := by
    simp only [dueTokens, List.length_cons, Nat.succ_lt_succ_iff, Nat.add_sub_add_right]
  rw [due]
  exact others.requests calls

theorem streams_rows (page : QueryResponse) {rows : List Json} {network : Network}
    (others : (s.withPage { page with rows := [] } network).Streams
      ({ page with rows := [] } :: pages) failure) :
    (s.withPage { page with rows := rows } network).Streams
      ({ page with rows := rows } :: pages) failure := by
  induction rows with
  | nil => exact others
  | cons record rest induction => exact streams_row induction

theorem streams_last {network : Network} (rows : page.rows = []) (token : page.pageToken = none) :
    (s.withPage page network).Streams [page] none := by
  have ended := next_of_end (s := s.withPage page network) rows token
  constructor
  · intro calls
    rw [after_of_end rows token, ended]
    simp [delivered, rows]
  · intro calls
    have undue : dueTokens calls [page] = [] := by simp [dueTokens, token]
    rw [after_of_end rows token, undue]
    exact ⟨[], .none, rfl⟩

theorem streams_failure {token : String} {e : QueryError} {network : Network}
    {requests : List Request} (rows : page.rows = []) (found : page.pageToken = some token)
    (asks : AsksPages s.settings s.job [token] requests)
    (fetched : fetch s.settings s.job (some token) defaultTimeoutMillis network =
      (.error e, network.sending requests)) :
    (s.withPage page network).Streams [page] (some e) := by
  refine streams_of_call (next_of_failure rows found fetched) ?_ ?_ ?_
  · simp [delivered, rows]
  · intro calls
    rw [after_of_end rows rfl, next_of_end rows rfl]
    simp [delivered, rows]
  · intro calls
    have due : dueTokens (calls + 1) [page] = [token] := by simp [dueTokens, rows, found]
    rw [after_of_end rows rfl, due]
    exact ⟨requests, asks, rfl⟩

theorem streams_page {token : String} {following : QueryResponse} {network : Network}
    {request : Request} (rows : page.rows = []) (found : page.pageToken = some token)
    (asks : AsksResults s.settings s.job (some token) defaultTimeoutMillis request)
    (call : (s.withPage page network).next =
      (s.withPage following (network.sending [request])).next)
    (others : (s.withPage following (network.sending [request])).Streams
      (following :: pages) failure) :
    (s.withPage page network).Streams (page :: following :: pages) failure := by
  have same : delivered s.fields (page :: following :: pages) failure =
      delivered s.fields (following :: pages) failure := by
    simp [delivered, rows]
  refine streams_of_call call ?_ ?_ ?_
  · exact (others.results 0).trans (congrArg (·[0]?) same.symm)
  · intro calls
    exact (others.results (calls + 1)).trans (congrArg (·[calls + 1]?) same.symm)
  · intro calls
    have due : dueTokens (calls + 1) (page :: following :: pages) =
        token :: dueTokens (calls + 1) (following :: pages) := by
      rw [dueTokens, if_pos (by rw [rows]; exact Nat.succ_pos calls), found, rows]
      rfl
    obtain ⟨requests, asked, sent⟩ := others.requests (calls + 1)
    rw [due]
    exact ⟨request :: requests, .page token request _ requests asks asked,
      sent.trans (network.sending_append [request] requests).symm⟩

/-- Induction on the pages: each is passed row by row, and what ends it leads to the next. -/
theorem streams_of_pages {network : Network} {made : Nat} {token : Option String}
    (s : Session) (reading : Pages network s.job made token pages failure)
    (page : QueryResponse) (requests : List Request) (counted : requests.length = made)
    (led : page.pageToken = token) :
    (s.withPage page (network.sending requests)).Streams (page :: pages) failure := by
  refine streams_rows page ?_
  induction reading generalizing page requests with
  | last made => exact streams_last rfl led
  | unnamed made token unnamed =>
      exact streams_failure rfl led (.unnamed [token] unnamed) (fetch_unnamed _ unnamed)
  | failed made token e named answered =>
      obtain ⟨request, asks⟩ :=
        results_can_be_asked s.settings (some token) defaultTimeoutMillis named
      refine streams_failure rfl led (.page token request [] [] asks .none) ?_
      rw [fetch_named _ request asks, answer_after_sending, counted, answered]
  | page made token following pages failure named answered others induction =>
      obtain ⟨request, asks⟩ :=
        results_can_be_asked s.settings (some token) defaultTimeoutMillis named
      have answer : answerTo (network.sending requests) 0 = .ok following := by
        rw [answer_after_sending, counted, answered]
      have fetched := fetch_named (network.sending requests) request asks
      rw [answer] at fetched
      have taken := answer_takes_reply network requests request following answer
      have rest := induction following (requests ++ [request]) (by simp [counted]) rfl
      rw [network.sending_append] at taken rest
      exact streams_page rfl led asks (next_of_page rfl led fetched taken)
        (streams_rows following rest)

/-! ## Ends without an error -/

/-- The call after so many others gives nothing, and none of the others gives an error. -/
def EndsQuietly (s : Session) (calls : Nat) : Prop :=
  (s.after calls).next.1 = none ∧
    ∀ earlier < calls, ∀ e, (s.after earlier).next.1 ≠ some (.error e)

theorem ends_quietly_iff {items : List (Except QueryError Row)}
    (given : ∀ calls, (s.after calls).next.1 = items[calls]?) :
    (∃ calls, s.EndsQuietly calls) ↔ ∀ e, .error e ∉ items := by
  unfold EndsQuietly
  simp only [given]
  constructor
  · rintro ⟨calls, ended, clear⟩ e member
    obtain ⟨index, found⟩ := List.getElem?_of_mem member
    have bound : index < items.length := (List.getElem?_eq_some_iff.mp found).1
    have passed : items.length ≤ calls := List.getElem?_eq_none_iff.mp ended
    exact clear index (Nat.lt_of_lt_of_le bound passed) e found
  · intro clear
    refine ⟨items.length, List.getElem?_eq_none (Nat.le_refl _), ?_⟩
    intro index _ e found
    exact clear e (List.mem_of_getElem? found)

theorem no_error_delivered_iff (fields : List FieldSchema) (pages : List QueryResponse)
    (failure : Option QueryError) :
    (∀ e, .error e ∉ delivered fields pages failure) ↔ failure = none ∧
      ∀ page ∈ pages, ∀ record ∈ page.rows, ∃ row, decodeRow fields record = .ok row := by
  unfold delivered decodedRecord
  simp only [List.mem_append, List.mem_map, List.mem_flatMap, Option.mem_toList]
  constructor
  · intro clear
    constructor
    · cases failure with
      | none => rfl
      | some e => exact absurd (.inr ⟨e, rfl, rfl⟩) (clear e)
    · intro page known record member
      cases decoded : decodeRow fields record with
      | ok row => exact ⟨row, rfl⟩
      | error fault =>
          refine absurd (.inl ⟨record, ⟨page, known, member⟩, ?_⟩) (clear (rowError fault))
          rw [decoded]
          rfl
  · rintro ⟨rfl, decodes⟩ e (⟨record, ⟨page, known, member⟩, wrong⟩ | ⟨e', found, -⟩)
    · obtain ⟨row, decoded⟩ := decodes page known record member
      rw [decoded] at wrong
      cases wrong
    · cases found

theorem streams_quietly_iff (streams : s.Streams pages failure) :
    (∃ calls, s.EndsQuietly calls) ↔ failure = none ∧
      ∀ page ∈ pages, ∀ record ∈ page.rows, ∃ row, decodeRow s.fields record = .ok row :=
  (ends_quietly_iff streams.results).trans (no_error_delivered_iff s.fields pages failure)

end Session

end QueryCheck.Warehouse
