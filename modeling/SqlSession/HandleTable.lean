import SqlSession.Statement
/-!
# The handle table

A table owns sessions and their statements and hands out their handles.  Freeing a session frees its
statements, so no statement outlives its session.

* `alloc` stores a new session, `createStatement` a new statement.
* `onSession` runs an operation on a stored session, `exchange` one exchange of a stored statement.
* `freeStatement`, `freeSession` remove what a handle names.
-/

namespace SqlSession

/-- Sessions and statements under their handles. -/
structure HandleTable (τ : Type) where
  handles : HandleSource := {}
  sessions : List (SessionHandle × Session τ) := []
  statements : List (StatementHandle × Statement) := []
  deriving DecidableEq, Repr

namespace HandleTable

variable {τ : Type} {α : Type}

/-- The entry of a key. -/
def find? {κ ν : Type} [DecidableEq κ] (key : κ) (entries : List (κ × ν)) : Option ν :=
  (entries.find? fun e => decide (e.1 = key)).map (·.2)

/-- Changes the entry of a key. -/
def replace {κ ν : Type} [DecidableEq κ] (key : κ) (value : ν) (entries : List (κ × ν)) :
    List (κ × ν) :=
  entries.map fun e => if e.1 = key then (key, value) else e

/-- Removes the entry of a key. -/
def remove {κ ν : Type} [DecidableEq κ] (key : κ) (entries : List (κ × ν)) : List (κ × ν) :=
  entries.filter fun e => decide (e.1 ≠ key)

/-- The number of sessions. -/
def sessionCount (t : HandleTable τ) : Nat := t.sessions.length

/-- The number of statements. -/
def statementCount (t : HandleTable τ) : Nat := t.statements.length

/-- The session a handle names. -/
def session (t : HandleTable τ) (h : SessionHandle) : Except HandleError (Session τ) :=
  match find? h t.sessions with
  | some s => .ok s
  | none => .error (.invalidConnection h.id)

/-- The statement a handle names. -/
def statement (t : HandleTable τ) (h : StatementHandle) : Except HandleError Statement :=
  match find? h t.statements with
  | some st => .ok st
  | none => .error (.invalidStatement h.id)

/-- Draws a session handle that names nothing. -/
def drawSession (t : HandleTable τ) : SessionHandle × HandleTable τ :=
  let (h, handles) := t.handles.drawSession
  (h, { t with handles := handles })

/-- Draws a statement handle that names nothing. -/
def drawStatement (t : HandleTable τ) : StatementHandle × HandleTable τ :=
  let (h, handles) := t.handles.drawStatement
  (h, { t with handles := handles })

/-- Stores a new, disconnected session over a transport. -/
def alloc (t : HandleTable τ) (transport : τ) : SessionHandle × HandleTable τ :=
  let (h, t) := t.drawSession
  (h, { t with sessions := (h, { handle := h, transport }) :: t.sessions })

/-- Runs an operation on the session a handle names. -/
def onSession (t : HandleTable τ) (h : SessionHandle) (op : Session τ → α × Session τ) :
    Except HandleError α × HandleTable τ :=
  match t.session h with
  | .error e => (.error e, t)
  | .ok s =>
    let (a, s) := op s
    (.ok a, { t with sessions := replace h s t.sessions })

variable [Transport τ]

/-- Creates a statement of a session without storing it. -/
def newStatement (t : HandleTable τ) (h : SessionHandle) :
    Except HandleError (CallResult Statement) × HandleTable τ :=
  match t.session h with
  | .error e => (.error e, t)
  | .ok _ =>
    let (sh, t) := t.drawStatement
    t.onSession h fun s => s.createStatement sh

/-- Creates and stores a statement of a session. -/
def createStatement (t : HandleTable τ) (h : SessionHandle) :
    Except HandleError (CallResult StatementHandle) × HandleTable τ :=
  match t.newStatement h with
  | (.error e, t) => (.error e, t)
  | (.ok result, t) =>
    (.ok (result.map (·.handle)),
      match result.value with
      | some st => { t with statements := (st.handle, st) :: t.statements }
      | none => t)

/-- Runs one exchange of the statement a handle names, over the session that created it. -/
def exchange (t : HandleTable τ) (h : StatementHandle) (request : Bytes) :
    Except HandleError (CallResult Bytes) × HandleTable τ :=
  match t.statement h with
  | .error e => (.error e, t)
  | .ok st =>
    match t.session st.creator with
    | .error e => (.error e, t)
    | .ok s =>
      let (result, st, s) := st.exchange s request
      (.ok result,
        { t with
          sessions := replace st.creator s t.sessions
          statements := replace h st t.statements })

/-- Removes a statement. -/
def freeStatement (t : HandleTable τ) (h : StatementHandle) :
    Except HandleError Unit × HandleTable τ :=
  match t.statement h with
  | .error e => (.error e, t)
  | .ok _ => (.ok (), { t with statements := remove h t.statements })

/-- Closes and removes a session and its statements; the result is the number of statements freed
and the transport, closed. -/
def freeSession (t : HandleTable τ) (h : SessionHandle) :
    Except HandleError (Nat × τ) × HandleTable τ :=
  match t.session h with
  | .error e => (.error e, t)
  | .ok s =>
    let kept := t.statements.filter fun e => decide (e.2.creator ≠ h)
    (.ok (t.statements.length - kept.length, s.close.2.transport),
      { t with sessions := remove h t.sessions, statements := kept })

end HandleTable

end SqlSession
