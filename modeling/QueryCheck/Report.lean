import QueryCheck.SpecError
import QueryCheck.Verification

/-!
# Reports on specification files
-/

namespace QueryCheck

inductive Status where
  /-- All conditions held. -/
  | passed
  /-- Some condition did not hold. -/
  | failed
  /-- Validation found defects. -/
  | invalid
  /-- Validation found nothing, and no query was asked for. -/
  | valid
  /-- The file could not be read, or its query or its conditions could not be evaluated. -/
  | error
deriving DecidableEq

namespace Status

def name : Status → String
  | passed => "passed"
  | failed => "failed"
  | invalid => "invalid"
  | valid => "valid"
  | error => "error"

def all : List Status :=
  [passed, failed, invalid, valid, error]

def ofName? (name : String) : Option Status :=
  all.find? fun status => status.name == name

def isFailure : Status → Bool
  | passed => false
  | valid => false
  | _ => true

end Status

structure Outcome where
  guards : List (List String)
  verification : Verification

structure FileReport where
  path : String
  status : Status
  errors : List SpecError
  outcome : Option Outcome
  message : Option String

namespace FileReport

def valid (path : String) : FileReport :=
  ⟨path, .valid, [], none, none⟩

def invalid (path : String) (errors : List SpecError) : FileReport :=
  ⟨path, .invalid, errors, none, none⟩

def error (path message : String) : FileReport :=
  ⟨path, .error, [], none, some message⟩

def verified (path : String) (outcome : Outcome) : FileReport :=
  ⟨path, if outcome.verification.isSuccess then .passed else .failed, [], some outcome, none⟩

end FileReport

end QueryCheck
