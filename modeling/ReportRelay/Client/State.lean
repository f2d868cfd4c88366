/-
# Connection states

The states of a client's connection as its observers see them, and the history of changes
that an observer can catch up with.
-/

namespace ReportRelay

/-- The state of a client's connection. -/
inductive ClientState where
  /-- There is no connection. -/
  | disconnected
  /-- A connection is being opened. -/
  | connecting
  /-- The stream is being read. -/
  | connected
  deriving DecidableEq, Repr

/-- The word for a state. -/
def ClientState.name : ClientState → String
  | disconnected => "disconnected"
  | connecting => "connecting"
  | connected => "connected"

/-- What an observer of changes sees. -/
inductive Observed where
  /-- So many changes that are kept no more. -/
  | lagged (count : Nat)
  /-- A change to a state. -/
  | change (state : ClientState)
  deriving DecidableEq, Repr

/-- What an observer sees that looks at the changes only after all of them: the last ones,
as many as are kept, which is a power of two, and before them how many it has missed. -/
def observeLate (history : Nat) (changes : List ClientState) : List Observed :=
  let missed := changes.length - (max history 1).nextPowerOfTwo
  (if missed = 0 then [] else [.lagged missed]) ++ (changes.drop missed).map .change

end ReportRelay
