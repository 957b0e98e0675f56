import QueryCheck.Proofs.Warehouse.Polling
import QueryCheck.Proofs.Warehouse.ResultStream

/-!
# Runs of queries

A query fails before it has rows, or it reads the pages of its job: the answer that completes the job and
those that the tokens lead to. Its stream hands out their rows. Only the first page is asked whether the
job is complete, so a stream ends without an error exactly when all rows can be decoded and no page is
refused.
-/

namespace QueryCheck.Warehouse

set_option autoImplicit false

/-! ## What comes of a query -/

/-- A query that is not sent, or that fails without rows behind these requests. -/
inductive Refuses (settings : Settings) (query : String) (parameters : List Parameter)
    (network : Network) : QueryError → List Request → Prop where
  | unsent (unwritten : queryBody settings query parameters = none) :
      Refuses settings query parameters network .beyondCalendar []
  | failed (body : Json) (e : QueryError) (requests : List Request)
      (written : queryBody settings query parameters = some body)
      (fails : Fails settings body network e requests) :
      Refuses settings query parameters network e requests

/-- The session as it begins, the answer that completes its job, the pages behind that answer and the
error that ends them. -/
inductive Reads (settings : Settings) (query : String) (parameters : List Parameter)
    (network : Network) :
    Session → QueryResponse → List QueryResponse → Option QueryError → Prop where
  | opened (body : Json) (latest : QueryResponse) (earlier : List QueryResponse)
      (requests : List Request) (pages : List QueryResponse) (failure : Option QueryError)
      (written : queryBody settings query parameters = some body)
      (polled : Polled settings body network latest earlier requests)
      (complete : latest.jobComplete = true)
      (paged : Pages network (latestJob (latest :: earlier)) requests.length latest.pageToken
        pages failure) :
      Reads settings query parameters network
        { settings := settings
          job := latestJob (latest :: earlier)
          fields := latest.schema.getD []
          rows := latest.rows
          pageToken := latest.pageToken
          network := network.sending requests }
        latest pages failure

variable {settings : Settings} {query : String} {parameters : List Parameter} {network : Network}
  {session : Session} {latest : QueryResponse} {pages : List QueryResponse}
  {failure : Option QueryError}

theorem run_of_refuses {e : QueryError} {requests : List Request}
    (refuses : Refuses settings query parameters network e requests) :
    runQuery settings query parameters network = .error (e, network.sending requests) := by
  unfold runQuery
  cases refuses with
  | unsent unwritten => rw [unwritten, network.sending_nil]
  | failed body e requests written fails =>
      rw [written]
      dsimp only
      rw [submit_fails fails]

theorem run_of_reads (reads : Reads settings query parameters network session latest pages failure) :
    runQuery settings query parameters network = .ok session := by
  cases reads with
  | opened body latest earlier requests pages failure written polled complete paged =>
      obtain ⟨job, submitted, named⟩ := submit_completes polled complete
      unfold runQuery
      rw [written]
      dsimp only
      rw [submitted]
      dsimp only [Session.start]
      rw [named]

theorem refuses_or_reads (settings : Settings) (query : String) (parameters : List Parameter)
    (network : Network) :
    (∃ e requests, Refuses settings query parameters network e requests) ∨
      ∃ session latest pages failure,
        Reads settings query parameters network session latest pages failure := by
  cases written : queryBody settings query parameters with
  | none => exact .inl ⟨_, _, .unsent written⟩
  | some body =>
      have posts := (posts_query_iff settings body _).mpr rfl
      cases answered : answerTo network 0 with
      | error e => exact .inl ⟨_, _, .failed body _ _ written (.refused e _ posts answered)⟩
      | ok first =>
          have posted : Polled settings body network first [] _ := .posted first _ posts answered
          obtain ⟨e, asked, fails⟩ | ⟨latest, earlier, requests, polled, complete⟩ :=
            polling_ends posted
          · exact .inl ⟨e, asked, .failed body e asked written fails⟩
          · obtain ⟨pages, failure, paged⟩ := pages_exist network (latestJob (latest :: earlier))
              requests.length latest.pageToken
            exact .inr ⟨_, latest, pages, failure, .opened body latest earlier requests pages failure
              written polled complete paged⟩

theorem run_refused_iff (e : QueryError) (after : Network) :
    runQuery settings query parameters network = .error (e, after) ↔
      ∃ requests, Refuses settings query parameters network e requests ∧
        after = network.sending requests := by
  constructor
  · intro run
    obtain ⟨e', requests, refuses⟩ | ⟨session, latest, pages, failure, reads⟩ :=
      refuses_or_reads settings query parameters network
    · obtain ⟨rfl, rfl⟩ := Prod.mk.inj (Except.error.inj ((run_of_refuses refuses).symm.trans run))
      exact ⟨requests, refuses, rfl⟩
    · cases (run_of_reads reads).symm.trans run
  · rintro ⟨requests, refuses, rfl⟩
    exact run_of_refuses refuses

theorem run_opened_iff (session : Session) :
    runQuery settings query parameters network = .ok session ↔
      ∃ latest pages failure,
        Reads settings query parameters network session latest pages failure := by
  constructor
  · intro run
    obtain ⟨e, requests, refuses⟩ | ⟨session', latest, pages, failure, reads⟩ :=
      refuses_or_reads settings query parameters network
    · cases (run_of_refuses refuses).symm.trans run
    · obtain rfl := Except.ok.inj ((run_of_reads reads).symm.trans run)
      exact ⟨latest, pages, failure, reads⟩
  · rintro ⟨latest, pages, failure, reads⟩
    exact run_of_reads reads

theorem reads_streams (reads : Reads settings query parameters network session latest pages failure) :
    session.Streams (latest :: pages) failure := by
  cases reads with
  | opened body latest earlier requests pages failure written polled complete paged =>
      exact Session.streams_of_pages ⟨settings, latestJob (latest :: earlier),
        latest.schema.getD [], [], none, network⟩ paged latest requests rfl rfl

theorem reads_complete (reads : Reads settings query parameters network session latest pages failure) :
    latest.jobComplete = true := by
  cases reads with
  | opened body latest earlier requests pages failure written polled complete paged =>
      exact complete

/-- No later page is asked whether the job is complete. -/
theorem reads_quietly (reads : Reads settings query parameters network session latest pages failure) :
    (∃ calls, session.EndsQuietly calls) ↔ failure = none ∧
      ∀ page ∈ latest :: pages, ∀ record ∈ page.rows, ∃ row,
        decodeRow (latest.schema.getD []) record = .ok row := by
  have quietly := Session.streams_quietly_iff (reads_streams reads)
  cases reads with
  | opened body latest earlier requests pages failure written polled complete paged =>
      exact quietly

/-! ## The stream of a query -/

/-- A query is refused or read as the answers to its requests say. The session of a query that is read
hands out the rows of its pages and asks for each page when it is due. A server that is always reached has
recorded all requests in turn. -/
structure StreamsResults (settings : Settings) (query : String) (parameters : List Parameter)
    (network : Network) : Prop where
  refused : ∀ e after, runQuery settings query parameters network = .error (e, after) ↔
    ∃ requests, Refuses settings query parameters network e requests ∧
      after = network.sending requests
  opened : ∀ session, runQuery settings query parameters network = .ok session ↔
    ∃ latest pages failure, Reads settings query parameters network session latest pages failure
  streamed : ∀ session latest pages failure,
    Reads settings query parameters network session latest pages failure →
      session.Streams (latest :: pages) failure
  recorded : (∀ number, (network.replyTo number).reachedServer = true) →
    ∀ requests, (network.sending requests).log = network.log ++ requests

theorem results_are_streamed (settings : Settings) (query : String) (parameters : List Parameter)
    (network : Network) : StreamsResults settings query parameters network where
  refused e after := run_refused_iff e after
  opened session := run_opened_iff session
  streamed _ _ _ _ reads := reads_streams reads
  recorded reached requests := network.sending_log requests fun number _ => reached number

def oneColumn : List FieldSchema :=
  [.mk "n" "INT64" none []]

def oneRow : Json :=
  .object [("f", .array [.object [("v", .string "1")]])]

def startedBody : Json :=
  .object [("jobComplete", .bool false), ("jobReference", .object [("jobId", .string "job")])]

def completeBody : Json :=
  .object
    [("jobComplete", .bool true), ("jobReference", .object [("jobId", .string "job")]),
      ("schema", .object [("fields", .array
        [.object [("name", .string "n"), ("type", .string "INT64")]])]),
      ("rows", .array [oneRow]), ("pageToken", .string "next")]

def lastBody : Json :=
  .object [("jobComplete", .bool true), ("rows", .array [oneRow])]

/-- The job is asked for once, and its rows come on two pages. -/
def pagingServer : Network :=
  .serving [(200, startedBody.compact), (200, completeBody.compact), (200, lastBody.compact)]
    fun body => body

def startedAnswer : QueryResponse :=
  ⟨false, some ⟨some "job", none⟩, none, [], none, none⟩

def completePage : QueryResponse :=
  ⟨true, some ⟨some "job", none⟩, some oneColumn, [oneRow], some "next", none⟩

def lastPage : QueryResponse :=
  ⟨true, none, none, [oneRow], none, none⟩

def queriesAddress : String :=
  "https://bigquery.googleapis.com/bigquery/v2/projects/project/queries"

def countBody : Json :=
  .object [("query", .string "SELECT 1 AS n"), ("useLegacySql", .bool false),
    ("parameterMode", .string "NAMED"), ("queryParameters", .array []), ("timeoutMs", .integer 60000)]

def countPost : Request :=
  ⟨.post, queriesAddress, [], "token", some countBody⟩

def jobPoll : Request :=
  ⟨.get, queriesAddress ++ "/job", [("timeoutMs", "60000")], "token", none⟩

def pageFetch : Request :=
  ⟨.get, queriesAddress ++ "/job", [("timeoutMs", "60000"), ("pageToken", "next")], "token", none⟩

theorem count_posts : PostsQuery (.ofProject "project" "token") countBody countPost :=
  ⟨rfl, by decide, rfl, rfl, rfl⟩

theorem poll_asks : AsksResults (.ofProject "project" "token") ⟨some "job", none⟩ none 60000 jobPoll :=
  ⟨rfl, ⟨"job", rfl, by decide⟩, rfl, rfl, by decide, by decide, by decide, by decide, by decide⟩

theorem fetch_asks :
    AsksResults (.ofProject "project" "token") ⟨some "job", none⟩ (some "next") 60000 pageFetch :=
  ⟨rfl, ⟨"job", rfl, by decide⟩, rfl, rfl, by decide, by decide, by decide, by decide, by decide⟩

set_option maxRecDepth 2000 in
theorem complete_body_answers (complaint : String → String) :
    answerOf complaint (.ok completeBody.compact) = .ok completePage :=
  answer_of_printed complaint completeBody completePage (by cbv) rfl

theorem paging_run_reads : ∃ session,
    Reads (.ofProject "project" "token") "SELECT 1 AS n" [] pagingServer session completePage [lastPage]
        none ∧
      session.network = pagingServer.sending [countPost, jobPoll] ∧
      session.settings = .ofProject "project" "token" ∧ session.job = ⟨some "job", none⟩ ∧
      session.fields = oneColumn := by
  have first : answerTo pagingServer 0 = .ok startedAnswer :=
    answer_of_printed _ startedBody startedAnswer (by cbv) rfl
  have second : answerTo pagingServer 1 = .ok completePage := complete_body_answers _
  have third : answerTo pagingServer 2 = .ok lastPage :=
    answer_of_printed _ lastBody lastPage (by cbv) rfl
  have posted := Polled.posted startedAnswer countPost count_posts first
  have polled := posted.polled startedAnswer completePage [] _ jobPoll rfl (by decide) poll_asks second
  exact ⟨_, .opened countBody completePage [startedAnswer] _ [lastPage] none rfl polled rfl
    (.page 2 "next" lastPage [] none (by decide) third (.last 3)), rfl, rfl, rfl, rfl⟩

/-- The second page is asked for by the second call, and by no other. -/
theorem paging_run_is_streamed : ∃ session,
    runQuery (.ofProject "project" "token") "SELECT 1 AS n" [] pagingServer = .ok session ∧
      session.next.1 = some (.ok [("n", .int64 1)]) ∧
      (session.after 1).network.log = [countPost, jobPoll] ∧
      (session.after 1).next.1 = some (.ok [("n", .int64 1)]) ∧
      (session.after 2).network.log = [countPost, jobPoll, pageFetch] ∧
      (session.after 2).next.1 = none ∧
      (session.after 3).network.log = [countPost, jobPoll, pageFetch] := by
  obtain ⟨session, reads, network, settings, job, fields⟩ := paging_run_reads
  have run := results_are_streamed (.ofProject "project" "token") "SELECT 1 AS n" [] pagingServer
  have streams := run.streamed _ _ _ _ reads
  have reached : ∀ number, (pagingServer.replyTo number).reachedServer = true := by
    rintro (_ | _ | _ | number) <;> rfl
  have log : ∀ calls tokens requests, dueTokens calls [completePage, lastPage] = tokens →
      AsksPages (.ofProject "project" "token") ⟨some "job", none⟩ tokens requests →
      (session.after calls).network.log = [countPost, jobPoll] ++ requests := by
    rintro calls tokens requests rfl asks
    obtain ⟨due, asked, sent⟩ := streams.requests calls
    rw [settings, job] at asked
    rw [sent, network, ← pagingServer.sending_append, run.recorded reached, asks_pages_unique asked asks]
    rfl
  have fetched : AsksPages (.ofProject "project" "token") ⟨some "job", none⟩ ["next"] [pageFetch] :=
    .page "next" pageFetch [] [] fetch_asks .none
  have items : delivered session.fields [completePage, lastPage] none =
      [.ok [("n", .int64 1)], .ok [("n", .int64 1)]] := by
    rw [fields]
    rfl
  have given := streams.results
  rw [items] at given
  exact ⟨session, (run.opened session).mpr ⟨_, _, _, reads⟩, given 0, log 1 [] [] rfl .none, given 1,
    log 2 _ _ rfl fetched, given 2, log 3 _ _ rfl fetched⟩

/-! ## Pages that call the job incomplete -/

/-- The first page completes the job. What the pages behind it say of the job has no part in how the
stream ends. -/
theorem quiet_end_goes_by_rows (started : runQuery settings query parameters network = .ok session) :
    ∃ latest pages failure,
      Reads settings query parameters network session latest pages failure ∧
      latest.jobComplete = true ∧
      ((∃ calls, session.EndsQuietly calls) ↔ failure = none ∧
        ∀ page ∈ latest :: pages, ∀ record ∈ page.rows, ∃ row,
          decodeRow (latest.schema.getD []) record = .ok row) := by
  obtain ⟨latest, pages, failure, reads⟩ := (run_opened_iff session).mp started
  exact ⟨latest, pages, failure, reads, reads_complete reads, reads_quietly reads⟩

def runningBody : Json :=
  .object [("jobComplete", .bool false)]

/-- The second page is that of a job that still runs. -/
def haltingServer : Network :=
  .serving [(200, completeBody.compact), (200, runningBody.compact)] fun body => body

def runningPage : QueryResponse :=
  ⟨false, none, none, [], none, none⟩

theorem halting_run_reads : ∃ session, Reads (.ofProject "project" "token") "SELECT 1 AS n" []
    haltingServer session completePage [runningPage] none := by
  have first : answerTo haltingServer 0 = .ok completePage := complete_body_answers _
  have second : answerTo haltingServer 1 = .ok runningPage :=
    answer_of_printed _ runningBody runningPage (by cbv) rfl
  exact ⟨_, .opened countBody completePage [] _ [runningPage] none rfl
    (.posted completePage countPost count_posts first) rfl
    (.page 1 "next" runningPage [] none (by decide) second (.last 2))⟩

theorem halting_run_goes_by_rows : ∃ session,
    runQuery (.ofProject "project" "token") "SELECT 1 AS n" [] haltingServer = .ok session ∧
    ∃ latest pages failure,
      Reads (.ofProject "project" "token") "SELECT 1 AS n" [] haltingServer session latest pages
        failure ∧
      latest.jobComplete = true ∧
      ((∃ calls, session.EndsQuietly calls) ↔ failure = none ∧
        ∀ page ∈ latest :: pages, ∀ record ∈ page.rows, ∃ row,
          decodeRow (latest.schema.getD []) record = .ok row) := by
  obtain ⟨session, reads⟩ := halting_run_reads
  have started := run_of_reads reads
  exact ⟨session, started, quiet_end_goes_by_rows started⟩

/-- A page of a running job ends the stream as the last page of a complete one does. -/
theorem running_page_ends_quietly : ∃ session latest pages,
    Reads (.ofProject "project" "token") "SELECT 1 AS n" [] haltingServer session latest pages none ∧
    (∃ calls, session.EndsQuietly calls) ∧ ∃ page ∈ pages, page.jobComplete = false := by
  obtain ⟨session, reads⟩ := halting_run_reads
  refine ⟨session, completePage, [runningPage], reads, ?_, runningPage, List.mem_singleton_self _, rfl⟩
  have decoded : decodeRow oneColumn oneRow = .ok (Fields.ofPairs [("n", .int64 1)]) := by rfl
  refine (reads_quietly reads).mpr ⟨rfl, ?_⟩
  rw [List.forall_mem_cons, List.forall_mem_singleton]
  constructor
  · intro record member
    rw [List.mem_singleton.mp member]
    exact ⟨_, decoded⟩
  · intro record member
    cases member

end QueryCheck.Warehouse
