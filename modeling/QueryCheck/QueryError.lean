/-!
# Why a query gives no rows

A query fails as a whole, or one of its rows does.
-/

namespace QueryCheck

inductive QueryError where
  /-- The client cannot express the query. -/
  | config (message : String)
  | request (message : String)
  /-- The job was still running when waiting for it ended. -/
  | incomplete (job : String)
  | decode (message : String)
  | fixture (path message : String)
  /-- A timestamp among the parameters has no clock at Greenwich within the calendar. -/
  | beyondCalendar
deriving DecidableEq

def QueryError.message : QueryError → String
  | config message => "query client config error: " ++ message
  | request message => "request failed: " ++ message
  | incomplete job => "query job " ++ job ++ " did not complete in time"
  | decode message => "malformed response: " ++ message
  | fixture path message => "cannot read rows from " ++ path ++ ": " ++ message
  | beyondCalendar => "a timestamp parameter lies outside the calendar"

end QueryCheck
