import LookupBench.Client.Message

/-!
# Routing

What a client does with a message from its server. An answer goes to the request that waits for it,
and one that nobody waits for is dropped. A request of the server is answered at once. All that is
no answer is kept for whoever looks through the notifications, in the order in which it came.
-/

namespace LookupBench

/-- Work for the writer. -/
inductive Outbound where
  | message (message : Json)
  /-- Close the pipe to the server behind everything that was queued before. -/
  | close

structure Mailboxes where
  /-- The numbers of the requests that wait for an answer. -/
  pending : List Nat := []
  /-- Answers that were handed over and not yet taken. -/
  answers : List (Nat × Json) := []
  /-- What the writer has yet to write. -/
  outbox : List Outbound := []
  notifications : List Json := []

namespace Mailboxes

/-- The settings a server asks for are not known here; it gets a null for each of them. Any other
request is answered with null. -/
def replyTo (method : String) (m : Json) : Json :=
  if method = "workspace/configuration" then
    let items := ((m.get? "params").bind (·.get? "items")).bind Json.asArray?
    .array (List.replicate ((items.map List.length).getD 0) .null)
  else .null

/-- Hand an answer over, if it is waited for. Only a number that is written as a whole one is the
number of a request. -/
def deliver (id m : Json) (boxes : Mailboxes) : Mailboxes :=
  match id.asNat64? with
  | some n =>
    if boxes.pending.contains n then
      { boxes with pending := boxes.pending.filter (· ≠ n), answers := boxes.answers ++ [(n, m)] }
    else boxes
  | none => boxes

def keep (m : Json) (boxes : Mailboxes) : Mailboxes :=
  { boxes with notifications := boxes.notifications ++ [m] }

/-- Deal with one message. Replies are queued only while there is a writer. -/
def route (writing : Bool) (m : Json) (boxes : Mailboxes) : Mailboxes :=
  match Message.method? m, Message.id? m with
  | some method, some id =>
    let reply := Outbound.message (Message.answer id (replyTo method m))
    { boxes with outbox := if writing then boxes.outbox ++ [reply] else boxes.outbox }.keep m
  | none, some id => boxes.deliver id m
  | _, none => boxes.keep m

/-- Wake everybody who waits: there will be no more answers. -/
def abandon (boxes : Mailboxes) : Mailboxes := { boxes with pending := [] }

end Mailboxes

end LookupBench
