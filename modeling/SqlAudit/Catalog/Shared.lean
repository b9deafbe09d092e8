import SqlAudit.Catalog.Basic

/-!
A catalog that several readers share. Every reader works on a catalog of its own time; putting a new
one in its place does not touch those that have been handed out.
-/

namespace SqlAudit

structure SharedCatalog where
  current : Option Catalog
  deriving DecidableEq, Repr

namespace SharedCatalog

def empty : SharedCatalog := ⟨none⟩

def of (c : Catalog) : SharedCatalog := ⟨some c⟩

def snapshot (s : SharedCatalog) : Option Catalog := s.current

/-- Puts a catalog in place; the one before is handed back. -/
def replace (s : SharedCatalog) (c : Catalog) : Option Catalog × SharedCatalog := (s.current, of c)

def clear (s : SharedCatalog) : Option Catalog × SharedCatalog := (s.current, empty)

end SharedCatalog

end SqlAudit
