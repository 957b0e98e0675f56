import QueryCheck.FileSystem
import QueryCheck.Fixture
import QueryCheck.Parameter
import QueryCheck.RowSource

/-!
# Query clients

A client answers a query text with rows. It may keep a state `σ` between queries, which a running query
holds as part of its own state `ρ`.
-/

namespace QueryCheck

structure Client (σ ρ : Type) where
  name : String
  query : String → List Parameter → σ → Except (QueryError × σ) ρ
  source : RowSource ρ
  /-- The state that is left when no more rows are taken. -/
  release : ρ → σ

namespace Client

def ofRows (rows : List Row) : Client Unit (List (Except QueryError Row)) where
  name := "fixture"
  query _ _ _ := .ok (rows.map .ok)
  source := RowSource.ofList
  release _ := ()

def readFixture (files : FileSystem) (path : String) : Except QueryError (List Row) :=
  match files.readText path with
  | .error fault => .error (.fixture path fault.message)
  | .ok text =>
    match Fixture.readRows text with
    | .error fault => .error (.fixture path (fault.message (files.complaint .json text)))
    | .ok rows => .ok rows

def ofFixture (files : FileSystem) (path : String) : Client Unit (List (Except QueryError Row)) where
  name := "fixture"
  query _ _ _ :=
    match readFixture files path with
    | .error e => .error (e, ())
    | .ok rows => .ok (rows.map .ok)
  source := RowSource.ofList
  release _ := ()

end Client

end QueryCheck
