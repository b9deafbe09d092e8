import SqlAudit.Catalog.OrderedMap
import SqlAudit.Finding

/-!
The order of publication. Every audit of a document takes a ticket, and only the newest ticket of a
document may publish. Versions come from one counter for all documents, so that a ticket from
before a document was forgotten never becomes current again.
-/

namespace SqlAudit

structure Ticket where
  document : String
  version : Nat
  deriving DecidableEq, Repr

structure Session where
  counter : Nat
  latest : OrderedMap Nat
  deriving DecidableEq, Repr

namespace Session

def start : Session := ⟨0, .empty⟩

/-- Issues a ticket for a document; earlier ones become stale. -/
def issue (s : Session) (document : String) : Ticket × Session :=
  (⟨document, s.counter + 1⟩, ⟨s.counter + 1, s.latest.insert document (s.counter + 1)⟩)

def isCurrent (s : Session) (t : Ticket) : Bool := s.latest.get? t.document == some t.version

/-- The findings to publish for a ticket, none if it is stale. -/
def finish (s : Session) (t : Ticket) (findings : List Finding) : Option (List Finding) :=
  if s.isCurrent t then some findings else none

def forget (s : Session) (document : String) : Session :=
  { s with latest := s.latest.erase document }

end Session

end SqlAudit
