import Mathlib.Data.List.Nodup
import QueryCheck.Warehouse.QueryRequest
import QueryCheck.Warehouse.QueryResponse

/-!
# What requests hold

A query is posted with its body. The results of a job are got from the address that names the job: the
page of a token when one is sent, else the state of the job. Both kinds of request are known by what they
hold, and a job without a name has no address.
-/

namespace QueryCheck

set_option autoImplicit false

namespace Query

theorem values_of_absent {query : Query} {name : String} (absent : name ∉ query.map Prod.fst) :
    query.values name = [] := by
  unfold values
  rw [List.map_eq_nil_iff, List.filter_eq_nil_iff]
  intro parameter member same
  exact absent (List.mem_map.mpr ⟨parameter, member, beq_iff_eq.mp same⟩)

/-- With distinct names in a known order, the values under the names are all that is asked for. -/
theorem eq_of_values {names : List String} (distinct : names.Nodup) {query : Query}
    (ordered : (query.map Prod.fst).Sublist names) :
    query = names.flatMap fun name => (query.values name).map fun value => (name, value) := by
  induction names generalizing query with
  | nil => exact List.map_eq_nil_iff.mp (List.sublist_nil.mp ordered)
  | cons name names induction =>
      obtain ⟨apart, different⟩ := List.nodup_cons.mp distinct
      rw [List.flatMap_cons]
      rcases List.sublist_cons_iff.mp ordered with later | ⟨rest, first, later⟩
      · rw [values_of_absent fun member => apart (later.subset member), List.map_nil, List.nil_append]
        exact induction different later
      · obtain ⟨⟨key, value⟩, others, rfl, rfl, rfl⟩ := List.map_eq_cons_iff.mp first
        have alone : values others key = [] := values_of_absent fun member => apart (later.subset member)
        have same : ∀ other ∈ names, values ((key, value) :: others) other = values others other := by
          intro other member
          have differ : key ≠ other := fun equal => apart (equal ▸ member)
          rw [values_cons, if_neg differ, List.nil_append]
        rw [values_cons, if_pos rfl, alone, List.flatMap_congr fun other member => by
          rw [same other member], ← induction different later]
        rfl

end Query

namespace Warehouse

structure PostsQuery (settings : Settings) (body : Json) (request : Request) : Prop where
  method : request.method = .post
  address : request.url = settings.queriesUrl
  query : request.query = []
  caller : request.token = settings.accessToken
  body : request.body = some body

theorem posts_query_iff (settings : Settings) (body : Json) (request : Request) :
    PostsQuery settings body request ↔ request = queryRequest settings body := by
  constructor
  · rintro ⟨method, address, query, caller, content⟩
    obtain ⟨_, _, _, _, _⟩ := request
    subst method address query caller content
    rfl
  · rintro rfl
    exact ⟨rfl, rfl, rfl, rfl, rfl⟩

/-- What a request may be asked for results under, in this order -/
def resultNames : List String :=
  ["timeoutMs", "pageToken", "location", "maxResults"]

/-- The results of a job: the page of the token, or without a token the state of the job. The location of
the job goes before the one that is set. -/
structure AsksResults (settings : Settings) (job : JobReference) (token : Option String)
    (waitMillis : Nat) (request : Request) : Prop where
  method : request.method = .get
  address : ∃ id, job.id = some id ∧ request.url = settings.queriesUrl ++ "/" ++ id
  caller : request.token = settings.accessToken
  body : request.body = none
  names : (request.query.map Prod.fst).Sublist resultNames
  wait : request.query.values "timeoutMs" = [toString waitMillis]
  page : request.query.values "pageToken" = token.toList
  location : request.query.values "location" = (job.location.or settings.location).toList
  limit : request.query.values "maxResults" = (settings.maxResults.map toString).toList

variable {settings : Settings} {job : JobReference} {token : Option String} {waitMillis : Nat}

theorem results_request_asks {id : String} (named : job.id = some id) :
    AsksResults settings job token waitMillis
      (resultsRequest settings id job.location token waitMillis) where
  method := rfl
  address := ⟨id, named, rfl⟩
  caller := rfl
  body := rfl
  names := results_request_names _ _ _ _ _
  wait := results_request_wait _ _ _ _ _
  page := results_request_page _ _ _ _ _
  location := results_request_location _ _ _ _ _
  limit := results_request_limit _ _ _ _ _

theorem results_can_be_asked (settings : Settings) (token : Option String) (waitMillis : Nat)
    (named : job.id ≠ none) : ∃ request, AsksResults settings job token waitMillis request := by
  obtain ⟨id, named⟩ := Option.ne_none_iff_exists'.mp named
  exact ⟨_, results_request_asks named⟩

theorem AsksResults.job_named {request : Request}
    (asks : AsksResults settings job token waitMillis request) : job.id ≠ none := by
  obtain ⟨id, named, -⟩ := asks.address
  exact Option.ne_none_iff_exists'.mpr ⟨id, named⟩

/-- Only one request asks for these results. -/
theorem asks_results_unique {request other : Request}
    (asks : AsksResults settings job token waitMillis request)
    (asksToo : AsksResults settings job token waitMillis other) : request = other := by
  have distinct : resultNames.Nodup := by decide
  have query : request.query = other.query := by
    rw [Query.eq_of_values distinct asks.names, Query.eq_of_values distinct asksToo.names]
    simp only [resultNames, List.flatMap_cons, List.flatMap_nil, asks.wait, asks.page, asks.location,
      asks.limit, asksToo.wait, asksToo.page, asksToo.location, asksToo.limit]
  have url : request.url = other.url := by
    obtain ⟨id, named, address⟩ := asks.address
    obtain ⟨id', named', address'⟩ := asksToo.address
    obtain rfl := Option.some_inj.mp (named.symm.trans named')
    exact address.trans address'.symm
  have method := asks.method.trans asksToo.method.symm
  have caller := asks.caller.trans asksToo.caller.symm
  have body := asks.body.trans asksToo.body.symm
  obtain ⟨_, _, _, _, _⟩ := request
  obtain ⟨_, _, _, _, _⟩ := other
  rw [Request.mk.injEq]
  exact ⟨method, url, query, caller, body⟩

end Warehouse

end QueryCheck
