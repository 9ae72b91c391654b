import SqlSession.Session
/-!
# Statements

A statement belongs to the session that created it.  It knows the session by its handle only, so
every exchange is given a session and checks that it is the creator.
-/

namespace SqlSession

/-- A statement. -/
structure Statement where
  handle : StatementHandle
  /-- The session that created the statement. -/
  creator : SessionHandle
  diagnostics : Diagnostics := {}
  deriving DecidableEq, Repr

variable {τ : Type} [Transport τ]

/-- Creates a statement of a session under a handle. -/
def Session.createStatement (s : Session τ) (handle : StatementHandle) :
    CallResult Statement × Session τ :=
  s.call fun s => (.ok { handle, creator := s.handle }, s)

namespace Statement

/-- Sends a request through a session and receives the answer.  A session that did not create the
statement is left alone. -/
def exchange (st : Statement) (s : Session τ) (request : Bytes) :
    CallResult Bytes × Statement × Session τ :=
  let (outcome, s) :=
    if s.handle = st.creator then s.exchange request
    else
      (.error (.general ("Statement " ++ st.handle.display ++ " does not belong to connection " ++
        s.handle.display ++ ".")), s)
  let (result, diagnostics) := st.diagnostics.clear.complete outcome
  (result, { st with diagnostics := diagnostics }, s)

end Statement

end SqlSession
