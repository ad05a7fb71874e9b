import ChatRace.Backend.Basic

/-!
# Races that nobody wins

Why a race has no winner. The candidates that failed are listed in the order in which they failed.
-/

namespace ChatRace

/-- A candidate that failed, and the description of its error. -/
structure Failure where
  backend : String
  message : String
  deriving DecidableEq, Repr

/-- Why a race has no winner. -/
inductive RaceError where
  | noCandidates
  | unknownBackend (id : String)
  | allFailed (failures : List Failure)
  /-- Nobody answered within a number of microseconds. -/
  | timeout (micros : Nat)
  deriving DecidableEq, Repr

namespace RaceError

/-- The failed candidates with their errors. -/
def failureList (fs : List Failure) : String :=
  "; ".intercalate (fs.map fun f => f.backend ++ ": " ++ f.message)

/-- The description of an error. -/
def message : RaceError → String
  | noCandidates => "model is required"
  | unknownBackend id => "unknown model `" ++ id ++ "`"
  | allFailed fs => "all " ++ toString fs.length ++ " candidates failed: " ++ failureList fs
  | timeout micros => "no candidate answered within " ++ toString (micros / 1000) ++ "ms"

end RaceError

end ChatRace
