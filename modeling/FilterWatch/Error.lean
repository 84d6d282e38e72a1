/-!
# What can go wrong

`IoError` is a failure of the network below a query, `Fault` a crash of running code, and `CheckError` what an
outcome reports. The texts are in `CheckError.message` only.
-/

namespace FilterWatch

/-- The kinds of network and system failures. -/
inductive IoErrorKind where
  | addressInUse
  | addressNotAvailable
  | alreadyExists
  | brokenPipe
  | connectionAborted
  | connectionRefused
  | connectionReset
  | hostUnreachable
  | interrupted
  | invalidData
  | invalidInput
  | networkDown
  | networkUnreachable
  | notConnected
  | notFound
  | other
  | outOfMemory
  | permissionDenied
  | timedOut
  | unexpectedEnd
  | unsupported
  | wouldBlock
  | writeZero
deriving DecidableEq, Repr, Inhabited

/-- The text of a failure that carries none of its own. -/
def IoErrorKind.describe : IoErrorKind → String
  | addressInUse => "address in use"
  | addressNotAvailable => "address not available"
  | alreadyExists => "entity already exists"
  | brokenPipe => "broken pipe"
  | connectionAborted => "connection aborted"
  | connectionRefused => "connection refused"
  | connectionReset => "connection reset"
  | hostUnreachable => "host unreachable"
  | interrupted => "operation interrupted"
  | invalidData => "invalid data"
  | invalidInput => "invalid input parameter"
  | networkDown => "network down"
  | networkUnreachable => "network unreachable"
  | notConnected => "not connected"
  | notFound => "entity not found"
  | other => "other error"
  | outOfMemory => "out of memory"
  | permissionDenied => "permission denied"
  | timedOut => "timed out"
  | unexpectedEnd => "unexpected end of file"
  | unsupported => "unsupported"
  | wouldBlock => "operation would block"
  | writeZero => "write zero"

structure IoError where
  kind : IoErrorKind
  text : String
deriving DecidableEq, Repr, Inhabited

/-- The failure of a kind, with the kind's own text. -/
def IoError.ofKind (kind : IoErrorKind) : IoError := ⟨kind, kind.describe⟩

/-- A crash of running code; `text` is missing when what it left behind is no text. -/
structure Fault where
  text : Option String
deriving DecidableEq, Repr, Inhabited

inductive CheckError where
  /-- The domain is not valid; nothing was sent. -/
  | invalidInput (domain : String)
  /-- The exchange did not end within the time limit. -/
  | timeout (server : String)
  /-- Any other failure of the exchange. -/
  | transport (server : String) (cause : IoError)
  /-- The resolver answered with another code than NOERROR. -/
  | unexpectedResponse (server : String) (rcode : Nat)
  /-- Every resolver used up its attempts. -/
  | allResolversFailed
  /-- The registry was empty when the call was made. -/
  | noResolversConfigured
  /-- The job of the item crashed. -/
  | internalFault (text : String)
  /-- The caller cancelled before the item was done. -/
  | cancelled
deriving DecidableEq, Repr, Inhabited

namespace CheckError

def message : CheckError → String
  | invalidInput domain => "invalid domain name: " ++ domain
  | timeout server => "DNS query to " ++ server ++ " timed out"
  | transport server cause => "DNS exchange with " ++ server ++ " failed: " ++ cause.text
  | unexpectedResponse server rcode => "unexpected response code " ++ toString rcode ++ " from " ++ server
  | allResolversFailed => "all resolvers failed to respond"
  | noResolversConfigured => "no resolvers configured"
  | internalFault text => "internal fault: " ++ text
  | cancelled => "operation cancelled"

/-- Whether another attempt at the same resolver may succeed. -/
def isRetryable : CheckError → Bool
  | timeout _ | transport _ _ => true
  | _ => false

def isCancelled : CheckError → Bool
  | cancelled => true
  | _ => false

/-- The error of a failed exchange; a time-out below counts as the exchange's own. -/
def ofIo (server : String) (e : IoError) : CheckError :=
  if e.kind = .timedOut then .timeout server else .transport server e

/-- The error of a crashed item. -/
def ofFault (f : Fault) : CheckError := .internalFault (f.text.getD "worker panicked")

end CheckError
end FilterWatch
