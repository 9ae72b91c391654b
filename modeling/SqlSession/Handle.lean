/-!
# Handles

Sessions and statements are named by handles.  All handles of a program come from one source and are
numbered from one on, so that no two of them share a number.
-/

namespace SqlSession

/-- Names a session. -/
structure SessionHandle where
  id : UInt64
  deriving DecidableEq, Repr

/-- Names a statement. -/
structure StatementHandle where
  id : UInt64
  deriving DecidableEq, Repr

/-- The text shown for a session handle. -/
def SessionHandle.display (h : SessionHandle) : String := "conn#" ++ toString h.id.toNat

/-- The text shown for a statement handle. -/
def StatementHandle.display (h : StatementHandle) : String := "stmt#" ++ toString h.id.toNat

/-- Why a handle is refused. -/
inductive HandleError where
  | invalidConnection (id : UInt64)
  | invalidStatement (id : UInt64)
  deriving DecidableEq, Repr

/-- The text shown for a handle error. -/
def HandleError.message : HandleError → String
  | .invalidConnection id => "invalid connection handle: " ++ toString id.toNat
  | .invalidStatement id => "invalid statement handle: " ++ toString id.toNat

/-- Where handles come from. -/
structure HandleSource where
  /-- The number of the next handle. -/
  next : UInt64 := 1
  deriving DecidableEq, Repr

namespace HandleSource

/-- Draws a number. -/
def draw (s : HandleSource) : UInt64 × HandleSource := (s.next, { next := s.next + 1 })

/-- Draws a session handle. -/
def drawSession (s : HandleSource) : SessionHandle × HandleSource := (⟨s.draw.1⟩, s.draw.2)

/-- Draws a statement handle. -/
def drawStatement (s : HandleSource) : StatementHandle × HandleSource := (⟨s.draw.1⟩, s.draw.2)

end HandleSource

end SqlSession
