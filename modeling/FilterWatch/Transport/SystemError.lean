import FilterWatch.Error

/-!
# Failures of the operating system

The operating system numbers what can go wrong with a socket. `IoError.ofSystem` gives such a number its kind and
its text.
-/

namespace FilterWatch

/-- The failures that exchanges meet, by number. -/
def systemErrors : List (Nat × IoErrorKind × String) :=
  [(1, .permissionDenied, "Operation not permitted"), (4, .interrupted, "Interrupted system call"),
    (11, .wouldBlock, "Resource temporarily unavailable"), (12, .outOfMemory, "Cannot allocate memory"),
    (13, .permissionDenied, "Permission denied"), (22, .invalidInput, "Invalid argument"),
    (32, .brokenPipe, "Broken pipe"), (98, .addressInUse, "Address already in use"),
    (99, .addressNotAvailable, "Cannot assign requested address"), (100, .networkDown, "Network is down"),
    (101, .networkUnreachable, "Network is unreachable"),
    (103, .connectionAborted, "Software caused connection abort"),
    (104, .connectionReset, "Connection reset by peer"),
    (107, .notConnected, "Transport endpoint is not connected"), (110, .timedOut, "Connection timed out"),
    (111, .connectionRefused, "Connection refused"), (113, .hostUnreachable, "No route to host")]

/-- The failure with a number. -/
def IoError.ofSystem (code : Nat) : IoError :=
  let (kind, text) := (systemErrors.lookup code).getD (.other, "Unknown error " ++ toString code)
  ⟨kind, text ++ " (os error " ++ toString code ++ ")"⟩

end FilterWatch
