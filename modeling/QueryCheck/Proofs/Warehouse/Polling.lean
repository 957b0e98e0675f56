import QueryCheck.Proofs.Warehouse.Answers

/-!
# Waiting for a job

A query is posted, and while its job runs the job is asked for again. The job is the one that the newest
answer with a reference names: an answer without a reference leaves it as it was, and one whose reference
has no name ends the waiting.
-/

namespace QueryCheck.Warehouse

set_option autoImplicit false

/-- The job by the newest reference; the newest answer stands first. -/
def latestJob : List QueryResponse → JobReference
  | [] => .unknown
  | latest :: earlier => latest.job.getD (latestJob earlier)

/-- The newest answer, those before it, and the requests that were made for them. An answer is followed
by a request when it leaves the job running, there is time to wait and the job has a name. -/
inductive Polled (settings : Settings) (body : Json) (network : Network) :
    QueryResponse → List QueryResponse → List Request → Prop where
  | posted (first : QueryResponse) (post : Request) (posts : PostsQuery settings body post)
      (answered : answerTo network 0 = .ok first) :
      Polled settings body network first [] [post]
  | polled (latest next : QueryResponse) (earlier : List QueryResponse) (requests : List Request)
      (poll : Request) (before : Polled settings body network latest earlier requests)
      (running : latest.jobComplete = false) (time : settings.timeoutMillis ≠ 0)
      (asks : AsksResults settings (latestJob (latest :: earlier)) none settings.timeoutMillis poll)
      (answered : answerTo network requests.length = .ok next) :
      Polled settings body network next (latest :: earlier) (requests ++ [poll])

/-- The error of a query that gives no rows, and the requests that were made for it. -/
inductive Fails (settings : Settings) (body : Json) (network : Network) :
    QueryError → List Request → Prop where
  | refused (e : QueryError) (post : Request) (posts : PostsQuery settings body post)
      (answered : answerTo network 0 = .error e) :
      Fails settings body network e [post]
  | abandoned (latest : QueryResponse) (earlier : List QueryResponse) (requests : List Request)
      (polled : Polled settings body network latest earlier requests)
      (running : latest.jobComplete = false)
      (stopped : settings.timeoutMillis = 0 ∨ (latestJob (latest :: earlier)).id = none) :
      Fails settings body network (latestJob (latest :: earlier)).incomplete requests
  | unanswered (latest : QueryResponse) (earlier : List QueryResponse) (requests : List Request)
      (poll : Request) (e : QueryError)
      (polled : Polled settings body network latest earlier requests)
      (running : latest.jobComplete = false) (time : settings.timeoutMillis ≠ 0)
      (asks : AsksResults settings (latestJob (latest :: earlier)) none settings.timeoutMillis poll)
      (answered : answerTo network requests.length = .error e) :
      Fails settings body network e (requests ++ [poll])

variable {settings : Settings} {body : Json} {network : Network}

/-- Every answer takes one of the replies that are pending, so waiting comes to an end. -/
theorem polling_ends {latest : QueryResponse} {earlier : List QueryResponse} {requests : List Request}
    (polled : Polled settings body network latest earlier requests) :
    (∃ e requests, Fails settings body network e requests) ∨
      ∃ latest earlier requests, Polled settings body network latest earlier requests ∧
        latest.jobComplete = true := by
  by_cases complete : latest.jobComplete = true
  · exact .inr ⟨latest, earlier, requests, polled, complete⟩
  have running : latest.jobComplete = false := Bool.eq_false_iff.mpr complete
  by_cases time : settings.timeoutMillis = 0
  · exact .inl ⟨_, _, .abandoned latest earlier requests polled running (.inl time)⟩
  by_cases unnamed : (latestJob (latest :: earlier)).id = none
  · exact .inl ⟨_, _, .abandoned latest earlier requests polled running (.inr unnamed)⟩
  obtain ⟨poll, asks⟩ := results_can_be_asked settings none settings.timeoutMillis unnamed
  cases answered : answerTo network requests.length with
  | error e =>
      exact .inl ⟨_, _, .unanswered latest earlier requests poll e polled running time asks answered⟩
  | ok next =>
      have taken := answer_takes_reply network requests poll next
        ((answer_after_sending network requests).trans answered)
      exact polling_ends (.polled latest next earlier requests poll polled running time asks answered)
termination_by (network.sending requests).pending.length

/-! ## One step of waiting -/

section Step

variable (response : QueryResponse) (steps : Nat) (current : Network)

theorem await_complete (complete : response.jobComplete = true) :
    awaitCompletion settings (steps + 1) response current = (.ok response, current) := by
  unfold awaitCompletion
  rw [if_pos complete]

theorem await_stopped (running : response.jobComplete = false)
    (stopped : settings.timeoutMillis = 0 ∨ (response.job.getD .unknown).id = none) :
    awaitCompletion settings (steps + 1) response current =
      (.error (response.job.getD .unknown).incomplete, current) := by
  unfold awaitCompletion
  rw [if_neg (Bool.eq_false_iff.mp running)]
  dsimp only
  rw [if_pos stopped]

variable {poll : Request} (running : response.jobComplete = false)
  (time : settings.timeoutMillis ≠ 0)
  (asks : AsksResults settings (response.job.getD .unknown) none settings.timeoutMillis poll)

include running time asks

theorem await_poll :
    awaitCompletion settings (steps + 1) response current =
      match answerTo current 0 with
      | .error e => (.error e, current.sending [poll])
      | .ok next => awaitCompletion settings steps
          { next with job := some (next.job.getD (response.job.getD .unknown)) }
          (current.sending [poll]) := by
  rw [awaitCompletion, if_neg (Bool.eq_false_iff.mp running)]
  dsimp only
  rw [if_neg (not_or.mpr ⟨time, asks.job_named⟩), fetch_named _ poll asks]
  cases answerTo current 0 <;> rfl

end Step

/-! ## Posted queries -/

variable {latest : QueryResponse} {earlier : List QueryResponse} {requests : List Request}

/-- Induction on the answers. The steps that are left are enough for the replies that are pending, and the
answer at hand has the reference of an earlier one when it has none itself. -/
theorem submit_polled (polled : Polled settings body network latest earlier requests) :
    ∃ steps job, submit settings body network =
        awaitCompletion settings (steps + 1) { latest with job := job } (network.sending requests) ∧
      (network.sending requests).pending.length ≤ steps ∧
      job.getD .unknown = latestJob (latest :: earlier) := by
  induction polled with
  | posted first post posts answered =>
      obtain rfl := (posts_query_iff settings body post).mp posts
      refine ⟨_, first.job, ?_, Nat.le_succ _, rfl⟩
      unfold submit
      rw [ask_eq, answered]
  | polled latest next earlier requests poll before running time asks answered induction =>
      obtain ⟨steps, job, submitted, enough, named⟩ := induction
      have answer := (answer_after_sending network requests).trans answered
      have taken := answer_takes_reply network requests poll next answer
      obtain ⟨fewer, rfl⟩ : ∃ fewer, steps = fewer + 1 := ⟨steps - 1, by omega⟩
      refine ⟨fewer, some (next.job.getD (latestJob (latest :: earlier))), ?_, by omega, rfl⟩
      have step := await_poll { latest with job := job } (fewer + 1) (network.sending requests)
        running time (by rw [named]; exact asks)
      rw [submitted, step, answer, network.sending_append, named]

theorem submit_completes (polled : Polled settings body network latest earlier requests)
    (complete : latest.jobComplete = true) :
    ∃ job, submit settings body network =
        (.ok { latest with job := job }, network.sending requests) ∧
      job.getD .unknown = latestJob (latest :: earlier) := by
  obtain ⟨steps, job, submitted, -, named⟩ := submit_polled polled
  exact ⟨job, submitted.trans (await_complete { latest with job := job } _ _ complete), named⟩

theorem submit_fails {e : QueryError} (fails : Fails settings body network e requests) :
    submit settings body network = (.error e, network.sending requests) := by
  cases fails with
  | refused e post posts answered =>
      obtain rfl := (posts_query_iff settings body post).mp posts
      unfold submit
      rw [ask_eq, answered]
  | abandoned latest earlier requests polled running stopped =>
      obtain ⟨steps, job, submitted, -, named⟩ := submit_polled polled
      rw [← named] at stopped
      rw [submitted, await_stopped { latest with job := job } _ _ running stopped, named]
  | unanswered latest earlier requests poll e polled running time asks answered =>
      obtain ⟨steps, job, submitted, -, named⟩ := submit_polled polled
      have step := await_poll { latest with job := job } steps (network.sending requests)
        running time (by rw [named]; exact asks)
      rw [submitted, step, answer_after_sending, answered, network.sending_append]

end QueryCheck.Warehouse
