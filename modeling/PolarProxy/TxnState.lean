import PolarProxy.TxnCommand
import PolarProxy.Library.Runs
import Mathlib.Data.List.FinRange
import Mathlib.Logic.Function.Basic

/-!
# Transaction state of a session

`PgSQL_ExplicitTxnStateMgr` follows the transaction commands that a backend
executed.  It keeps a snapshot of the tracked variables for the start of the
transaction and one for each savepoint, and puts the variables back when a
ROLLBACK or ROLLBACK TO was executed.

The manager is modelled over the variables of the two connections of a session; it
reads the digest text of a query, not the text that the backend executes.  An assertion that fails ends the process: the operations then return `none`.
Below it stands PostgreSQL's own transaction block with its stack of savepoints,
and `TxnSystem` runs both side by side: a statement is first preceded by the
variables that the backend does not have yet, then executed, then followed by the
manager.

PostgreSQL keeps a savepoint that was rolled back to, and lets a new savepoint
hide one of the same name.  The manager does neither; `LiveSavepoint.held` says
which of the live savepoints it still has.
-/

namespace PolarProxy

/-- The tracked variables; there are `PGSQL_NAME_LAST_HIGH_WM` of them. -/
abbrev VarIdx :=
  Fin 20

/-- `PGSQL_NAME_LAST_LOW_WM`: the variables below it are never unset. -/
def lastLowWm : Nat :=
  5

/-- `var_hash` and `variables` of a connection at one index -/
structure TrackedValue (V : Type) where
  hash : Nat := 0
  value : Option V := none
  deriving DecidableEq

/-- The variables of a connection, and `PgSQL_Variable_Snapshot`. -/
abbrev ConnVars (V : Type) :=
  VarIdx → TrackedValue V

/-- The two vectors of `PgSQL_ExplicitTxnStateMgr`. -/
structure TxnStateMgr (V : Type) where
  transactionState : List (ConnVars V) := []
  savepoint : List (List Char) := []

/-- What the manager reads and writes: its own vectors, and the variables of the
client connection and of the backend connection. -/
structure TxnSession (V : Type) where
  mgr : TxnStateMgr V := {}
  client : ConnVars V
  server : ConnVars V

variable {V : Type}

namespace TxnSession

/-- `is_in_transaction` -/
def isInTransaction (s : TxnSession V) : Bool :=
  !s.mgr.transactionState.isEmpty

/-- `get_savepoint_count` -/
def getSavepointCount (s : TxnSession V) : Nat :=
  s.mgr.savepoint.length

/-- `client_reset_value` and `server_reset_value` at one index -/
def resetValue (v : TrackedValue V) : TrackedValue V :=
  if v.hash ≠ 0 then {} else v

/-- The snapshot loop of `start_transaction` and `add_savepoint`. -/
def takeSnapshot (client : ConnVars V) : ConnVars V :=
  fun idx => if (client idx).hash ≠ 0 then client idx else {}

/-- One round of the loop that puts the variables back, with its assertions. -/
def restoreVar (snapshot : ConnVars V) (s : TxnSession V) (idx : VarIdx) :
    Option (TxnSession V) :=
  if (snapshot idx).hash ≠ 0 then
    if (s.client idx).hash ≠ (s.server idx).hash then none
    else if (snapshot idx).hash = (s.client idx).hash then some s
    else
      some { s with
        client := Function.update s.client idx (snapshot idx)
        server := Function.update s.server idx (snapshot idx) }
  else if idx.val < lastLowWm then none
  else
    some { s with
      client := Function.update s.client idx (resetValue (s.client idx))
      server := Function.update s.server idx (resetValue (s.server idx)) }

def restore (snapshot : ConnVars V) (s : TxnSession V) : Option (TxnSession V) :=
  (List.finRange 20).foldlM (restoreVar snapshot) s

/-- `start_transaction`; `active` is `NumActiveTransactions() > 0`. -/
def startTransaction (s : TxnSession V) (active : Bool) : Option (TxnSession V) :=
  if s.isInTransaction then if active then some s else none
  else if ∃ idx : VarIdx, (s.client idx).hash = 0 ∧ idx.val < lastLowWm then none
  else some { s with mgr := { s.mgr with transactionState := [takeSnapshot s.client] } }

/-- `commit` -/
def commit (s : TxnSession V) (active : Bool) : Option (TxnSession V) :=
  if !s.isInTransaction then if active then none else some s
  else some { s with mgr := {} }

/-- `rollback` -/
def rollback (s : TxnSession V) (active chain : Bool) : Option (TxnSession V) :=
  match s.mgr.transactionState with
  | [] => if active then none else some s
  | first :: _ =>
      (s.restore first).map fun s =>
        { s with mgr := { transactionState := if chain then [first] else [], savepoint := [] } }

/-- Savepoint names are compared without regard to case. -/
def findSavepoint (s : TxnSession V) (name : List Char) : Option Nat :=
  s.mgr.savepoint.findIdx? fun held => foldCase held == foldCase name

/-- The vectors are cut at a savepoint, which goes too. -/
def cutAt (s : TxnSession V) (index : Nat) : TxnSession V :=
  { s with mgr :=
      { transactionState := s.mgr.transactionState.take (index + 1)
        savepoint := s.mgr.savepoint.take index } }

/-- `rollback_to_savepoint` -/
def rollbackToSavepoint (s : TxnSession V) (name : List Char) (active : Bool) :
    Option (Bool × TxnSession V) :=
  if !s.isInTransaction then if active then none else some (false, s)
  else
    match s.findSavepoint name with
    | none => some (false, s)
    | some index =>
        match s.mgr.transactionState[index + 1]? with
        | none => none
        | some snapshot => (s.restore snapshot).map fun s => (true, s.cutAt index)

/-- `release_savepoint` -/
def releaseSavepoint (s : TxnSession V) (name : List Char) (active : Bool) :
    Option (Bool × TxnSession V) :=
  if !s.isInTransaction then if active then none else some (false, s)
  else
    match s.findSavepoint name with
    | none => some (false, s)
    | some index => some (true, s.cutAt index)

/-- `add_savepoint` -/
def addSavepoint (s : TxnSession V) (name : List Char) (active : Bool) :
    Option (Bool × TxnSession V) :=
  if !s.isInTransaction then if active then none else some (false, s)
  else if (s.findSavepoint name).isSome then some (false, s)
  else
    let mgr : TxnStateMgr V :=
      { transactionState := s.mgr.transactionState ++ [takeSnapshot s.client]
        savepoint := s.mgr.savepoint ++ [name] }
    if mgr.transactionState.length - 1 ≠ mgr.savepoint.length then none
    else some (true, { s with mgr := mgr })

/-- `handle_transaction` -/
def handleTransaction (s : TxnSession V) (input : List Char) (active : Bool) :
    Option (Bool × TxnSession V) :=
  match parseTxnCmd input with
  | .begin_ => (s.startTransaction active).map (true, ·)
  | .commit => (s.commit active).map (true, ·)
  | .rollback => (s.rollback active false).map (true, ·)
  | .rollbackAndChain => (s.rollback active true).map (true, ·)
  | .savepoint name => s.addSavepoint name active
  | .release name => s.releaseSavepoint name active
  | .rollbackTo name => s.rollbackToSavepoint name active
  | .unknown => some (false, s)

end TxnSession

/-! ## PostgreSQL -/

/-- Values of the tracked variables in a backend. -/
abbrev PgVars (V : Type) :=
  VarIdx → Option V

/-- A savepoint of the open transaction. -/
structure LiveSavepoint (V : Type) where
  name : List Char
  vars : PgVars V
  /-- Its name was new to the manager, and nobody rolled back to it yet. -/
  held : Bool

/-- A transaction block; its latest savepoint comes first. -/
structure PgBlock (V : Type) where
  start : PgVars V
  savepoints : List (LiveSavepoint V) := []

structure PgSession (V : Type) where
  vars : PgVars V
  block : Option (PgBlock V) := none

namespace PgSession

/-- The savepoints from the latest one of a name on. -/
def fromSavepoint (b : PgBlock V) (name : SavepointName) : List (LiveSavepoint V) :=
  b.savepoints.dropWhile fun e => e.name ≠ name.identifier

/-- Whether the manager has a savepoint of this name, in any letter case. -/
def holdsName (b : PgBlock V) (name : SavepointName) : Bool :=
  b.savepoints.any fun e => e.held && foldCase e.name == foldCase name.chars

/-- A command that is executed successfully. -/
def execute (pg : PgSession V) : TxnCommand → Option (PgSession V)
  | .begin_ =>
      match pg.block with
      | none => some { pg with block := some { start := pg.vars } }
      | some _ => some pg
  | .commit chain =>
      match pg.block with
      | none => if chain then none else some pg
      | some _ => some { pg with block := if chain then some { start := pg.vars } else none }
  | .rollback chain =>
      match pg.block with
      | none => if chain then none else some pg
      | some b =>
          some { vars := b.start, block := if chain then some { start := b.start } else none }
  | .savepoint name =>
      pg.block.map fun b =>
        { pg with block := some { b with
            savepoints := ⟨name.identifier, pg.vars, !holdsName b name⟩ :: b.savepoints } }
  | .release name =>
      match pg.block with
      | none => none
      | some b =>
          match fromSavepoint b name with
          | [] => none
          | _ :: older => some { pg with block := some { b with savepoints := older } }
  | .rollbackTo name =>
      match pg.block with
      | none => none
      | some b =>
          match fromSavepoint b name with
          | [] => none
          | e :: older =>
              some
                { vars := e.vars
                  block := some { b with savepoints := { e with held := false } :: older } }

/-- A RELEASE or ROLLBACK TO names a savepoint that the manager has. -/
def namesHeld (pg : PgSession V) : TxnCommand → Bool
  | .release name | .rollbackTo name =>
      pg.block.all fun b => (fromSavepoint b name).head?.all (·.held)
  | _ => true

end PgSession

/-! ## Both together -/

/-- A session with its backend. -/
structure TxnSystem (V : Type) where
  session : TxnSession V
  pg : PgSession V
  /-- `locked_on_hostgroup` is set. -/
  locked : Bool := false
  /-- An assertion failed. -/
  aborted : Bool := false
  /-- The variables of the client when the open transaction began. -/
  startVars : ConnVars V
  /-- Every RELEASE and ROLLBACK TO so far named a savepoint that the manager had. -/
  followed : Bool := true

inductive TxnOp (V : Type)
  /-- SET of a tracked variable. -/
  | set (idx : VarIdx) (value : V)
  /-- RESET of a tracked variable that had no value at the start of the session. -/
  | reset (idx : VarIdx)
  /-- The session is locked on a hostgroup. -/
  | lock
  /-- A transaction command that the backend executes, with the digest text of its query.  There is none
  where digests are switched off. -/
  | execute (command : TxnCommand) (digestText : Option (List Char))

namespace TxnSystem

/-- `verify_variable` and `server_set_value` for a variable that the backend does
not have yet. -/
def syncServer (hash32 : V → Nat) (client server : TrackedValue V) : TrackedValue V :=
  if client.hash ≠ 0 ∧ client.hash ≠ server.hash then
    match client.value with
    | none => server
    | some v => ⟨hash32 v, some v⟩
  else server

/-- The variables that a backend gets before a statement. -/
def sync (hash32 : V → Nat) (s : TxnSystem V) : TxnSystem V :=
  { s with
    session := { s.session with
      server := fun idx => syncServer hash32 (s.session.client idx) (s.session.server idx) }
    pg := { s.pg with
      vars := fun idx =>
        if (s.session.client idx).hash ≠ 0 ∧
            (s.session.client idx).hash ≠ (s.session.server idx).hash then
          (s.session.client idx).value
        else s.pg.vars idx } }

/-- `handle_transaction_state` after a statement.  `NumActiveTransactions` sees the
transaction status that the backend reported. -/
def handleTransactionState (s : TxnSystem V) (digestText : Option (List Char)) : TxnSystem V :=
  if s.locked then s
  else
    match digestText with
    | none => s
    | some text =>
        match s.session.handleTransaction text s.pg.block.isSome with
        | none => { s with aborted := true }
        | some (_, session) => { s with session := session }

def step (hash32 : V → Nat) (s : TxnSystem V) (op : TxnOp V) : Option (TxnSystem V) :=
  if s.aborted then none
  else
    match op with
    | .set idx value =>
        some { s with session := { s.session with
          client := Function.update s.session.client idx ⟨hash32 value, some value⟩ } }
    | .reset idx =>
        some { s with session := { s.session with
          client := Function.update s.session.client idx
            (TxnSession.resetValue (s.session.client idx)) } }
    | .lock => some { s with locked := true }
    | .execute command digestText =>
        let s := s.sync hash32
        (s.pg.execute command).map fun pg =>
          { s with
            pg := pg
            startVars := if s.pg.block.isNone then s.session.client else s.startVars
            followed := s.followed && s.pg.namesHeld command }.handleTransactionState digestText

/-- A session whose backend has the variables of the client. -/
def init (vars : ConnVars V) : TxnSystem V :=
  { session := { client := vars, server := vars }
    pg := { vars := fun idx => (vars idx).value }
    startVars := vars }

end TxnSystem

end PolarProxy
