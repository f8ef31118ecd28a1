/-!
Contract: failures of the file and of the line, as the operating system reports them.

Owns:
- the kinds of failure that the sender tells apart or passes on;
- a failure as its kind with the words that came with it.

Does not own: what the sender makes of a failure.
-/

namespace KermitSend

/-- The kind of an input or output failure. -/
inductive FaultKind where
  | notFound
  | permissionDenied
  | brokenPipe
  | wouldBlock
  | notADirectory
  | isADirectory
  | invalidInput
  | invalidData
  | invalidFilename
  | timedOut
  | writeZero
  | interrupted
  | unexpectedEof
  | other
deriving DecidableEq, Repr

/-- A failed call: its kind and the words that describe it. -/
structure Fault where
  kind : FaultKind
  message : String
deriving DecidableEq, Repr

end KermitSend
