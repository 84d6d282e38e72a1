import FilterWatch.Network

/-!
# Scripted networks

A script is a list of rules. The first rule that fits the server and the name of a query gives the replies, one
after the other; the last of them serves for all later queries about that name.
-/

namespace FilterWatch
open Dns

/-- What a script lets happen. -/
inductive ScriptedReply where
  /-- An answer made for the question. -/
  | answer (make : Question → Message)
  | fail (e : IoError)
  | silence
  | crash (f : Fault)

/-- Replies for the queries that fit. -/
structure ScriptRule where
  /-- The only server that fits. -/
  server : Option String
  /-- The only name that fits, in ASCII form. -/
  name : Option String
  /-- Replies with the milliseconds that each of them takes. -/
  replies : List (Nat × ScriptedReply)

namespace ScriptRule

/-- Whether the rule serves a query to a server. -/
def fits (r : ScriptRule) (server : String) (q : Query) : Bool :=
  r.server.all (· == server) && r.name.all (· == q.name.ascii)

/-- The `n`-th reply, or the last one. -/
def reply? (r : ScriptRule) (n : Nat) : Option (Nat × ScriptedReply) := r.replies[n]? <|> r.replies.getLast?

end ScriptRule

/-- What happens to a query that no rule serves. -/
def noRule : Response := .after 0 (.failed ⟨.connectionRefused, "no rule"⟩)

/-- A scripted reply to a query. -/
def ScriptedReply.response (q : Query) (delay : Nat) : ScriptedReply → Response
  | answer make => .after delay (.message (make q.question))
  | fail e => .after delay (.failed e)
  | silence => .silence
  | crash f => .after delay (.crashed f)

/-- The network that follows a script. -/
def scripted (rules : List ScriptRule) : Network := fun server q n =>
  match (rules.find? (·.fits server q)).bind (·.reply? n) with
  | some (delay, reply) => reply.response q delay
  | none => noRule

/-- The address that clear answers give. -/
def clearAddress : IPv4 := ⟨93, 184, 216, 34⟩

/-- How long scripted records may be kept, in seconds. -/
def scriptedTtl : UInt32 := 60

/-- The answer with a single record about the name of the question. -/
def answerWith (data : RecordData) (question : Question) : Message :=
  { Message.answering question with answers := [⟨question.name, scriptedTtl, .code internetClass, data⟩] }

end FilterWatch
