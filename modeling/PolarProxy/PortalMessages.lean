import PolarProxy.StmtRegistry

/-!
# The messages that use a portal

The handlers of Parse, Describe, Bind, Execute and Close messages, on a client's statements and
the portal of its session.  Bind looks a statement up by its name; Execute, and Describe of the
portal, take the statement that Bind has found.

What the query processor, the choice of a hostgroup and the claim of a backend answer is an input
of every message.  A message that fails discards the frame, and the portal with it.  When a frame
ends, the portal is reset by an operation of its own.
-/

namespace PolarProxy

/-- A statement that is executed locally. -/
inductive LocalCommand
  | deallocate (name : String)
  | deallocateAll
  | other
  deriving DecidableEq

/-- What the query processor makes of a message; only an Execute is handled by it. -/
inductive QpoResult
  | error
  | handled (command : LocalCommand)
  | continues
  deriving DecidableEq

/-- What a message finds besides the statements. -/
structure MessageEnv where
  /-- `note_extended_backend_candidate` -/
  counted : Bool
  qpo : QpoResult
  /-- The hostgroup can be selected. -/
  selected : Bool
  /-- The hostgroup lock, the route and the claim of the backend allow the dispatch. -/
  claimed : Bool
  /-- The next message of the frame is an Execute. -/
  executeNext : Bool
  purge : Nat → PurgeEnv

/-- The messages of the extended query protocol. -/
inductive ExtendedMsg
  | parse (name : String) (key : StmtKey)
  | describePortal (portal : String)
  | describeStatement (name : String)
  | bind (portal name : String)
  | execute (portal : String)
  | closePortal (portal : String)
  | closeStatement (name : String)

/-- How a message is answered, or the statement with which it goes to a backend. -/
inductive MsgAnswer
  | error (text : String)
  | rejected
  | parseComplete
  | bindComplete
  | closeComplete
  | prepares
  /-- The Execute that follows describes its result. -/
  | joined
  | describesStatement (a : Nat)
  | describesPortal (a : Nat)
  | executedLocally (a : Nat)
  | executes (a : Nat)
  deriving DecidableEq

namespace MsgAnswer

/-- Result 2 of a handler. -/
def fails : MsgAnswer → Bool
  | .error _ => true
  | .rejected => true
  | _ => false

/-- The statement that an Execute or a Describe of the portal uses. -/
def portalStatement : MsgAnswer → Option Nat
  | .describesPortal a => some a
  | .executedLocally a => some a
  | .executes a => some a
  | _ => none

end MsgAnswer

/-! ## Errors -/

def namedPortal : MsgAnswer :=
  .error "only unnamed portals are supported"

def noPortal (portal : String) : MsgAnswer :=
  .error ("portal \"" ++ portal ++ "\" does not exist")

def noStatement (name : String) : MsgAnswer :=
  if name ≠ "" then .error ("prepared statement \"" ++ name ++ "\" does not exist")
  else .error "unnamed prepared statement does not exist"

def statementExists (name : String) : MsgAnswer :=
  .error ("prepared statement \"" ++ name ++ "\" already exist")

namespace StmtSystem

/-! ## Handlers -/

/-- How the Parse handler answers, on the statements before it. -/
def parseAnswer (hash : StmtKey → UInt64) (s : StmtSystem) (c : ClientStmts) (name : String)
    (key : StmtKey) (claimed : Bool) : MsgAnswer :=
  let fetched : MsgAnswer :=
    match s.manager.findByHash (hash key) with
    | some _ => .parseComplete
    | none => if claimed then .prepares else .rejected
  match c.find name with
  | some (_, old) =>
      if name ≠ "" then statementExists name
      else if (s.manager.info old).hash = hash key then .parseComplete
      else fetched
  | none => fetched

/-- `handle_post_sync_parse_message` -/
def handleParse (hash : StmtKey → UInt64) (s : StmtSystem) (i : Nat) (c : ClientStmts)
    (name : String) (key : StmtKey) (env : MessageEnv) : StmtSystem × MsgAnswer :=
  if !env.counted then (s, .rejected)
  else if env.qpo = .error then (s, .rejected)
  else if !env.selected then (s, .rejected)
  else (s.parse hash i c name key env.purge, s.parseAnswer hash c name key env.claimed)

/-- `handle_post_sync_describe_message` of a portal -/
def handleDescribePortal (c : ClientStmts) (portal : String) (env : MessageEnv) : MsgAnswer :=
  if portal ≠ "" then namedPortal
  else
    match c.portal with
    | none => noPortal portal
    | some p =>
        if env.executeNext then .joined
        else if !env.counted then .rejected
        else if env.qpo = .error then .rejected
        else if !env.selected || !env.claimed then .rejected
        else .describesPortal p.statement

/-- `handle_post_sync_describe_message` of a statement -/
def handleDescribeStatement (c : ClientStmts) (name : String) (env : MessageEnv) : MsgAnswer :=
  if !env.counted then .rejected
  else
    match c.find name with
    | none => noStatement name
    | some (_, a) =>
        if env.qpo = .error then .rejected
        else if !env.selected || !env.claimed then .rejected
        else .describesStatement a

/-- `handle_post_sync_bind_message` -/
def handleBind (s : StmtSystem) (i : Nat) (c : ClientStmts) (portal name : String)
    (env : MessageEnv) : StmtSystem × MsgAnswer :=
  if portal ≠ "" then (s, namedPortal)
  else
    match c.find name with
    | none => (s, noStatement name)
    | some (_, a) =>
        if env.qpo = .error then (s, .rejected)
        else if !env.selected || !env.claimed then (s, .rejected)
        else (s.setSession i { c with portal := some { statement := a } }, .bindComplete)

/-- The statements that a local command closes. -/
def runLocally (s : StmtSystem) (i : Nat) (c : ClientStmts) (env : Nat → PurgeEnv) :
    LocalCommand → StmtSystem
  | .deallocate name => s.clientClose i c name (env 0)
  | .deallocateAll => s.clientCloseAll i c.portal env c.names
  | .other => s

/-- `handle_post_sync_execute_message` -/
def handleExecute (s : StmtSystem) (i : Nat) (c : ClientStmts) (portal : String)
    (env : MessageEnv) : StmtSystem × MsgAnswer :=
  if !env.counted then (s, .rejected)
  else if portal ≠ "" then (s, namedPortal)
  else
    match c.portal with
    | none => (s, noPortal portal)
    | some p =>
        match env.qpo with
        | .error => (s, .rejected)
        | .handled command => (s.runLocally i c env.purge command, .executedLocally p.statement)
        | .continues =>
            if !env.selected || !env.claimed then (s, .rejected)
            else (s, .executes p.statement)

/-- `handle_post_sync_close_message` of a portal -/
def handleClosePortal (s : StmtSystem) (i : Nat) (c : ClientStmts) (portal : String) :
    StmtSystem × MsgAnswer :=
  if portal ≠ "" then (s, namedPortal)
  else (s.setSession i { c with portal := none }, .closeComplete)

/-- The handler of a message of a session. -/
def handleMessage (hash : StmtKey → UInt64) (s : StmtSystem) (i : Nat) (c : ClientStmts)
    (env : MessageEnv) : ExtendedMsg → StmtSystem × MsgAnswer
  | .parse name key => s.handleParse hash i c name key env
  | .describePortal portal => (s, handleDescribePortal c portal env)
  | .describeStatement name => (s, handleDescribeStatement c name env)
  | .bind portal name => s.handleBind i c portal name env
  | .execute portal => s.handleExecute i c portal env
  | .closePortal portal => s.handleClosePortal i c portal
  | .closeStatement name => (s.clientClose i c name (env.purge 0), .closeComplete)

def resetPortal (s : StmtSystem) (i : Nat) : StmtSystem :=
  match s.sessions[i]? with
  | none => s
  | some c => s.setSession i { c with portal := none }

/-- `handler___status_PROCESSING_EXTENDED_QUERY_SYNC`, on one message; `none` when there is no
such session. -/
def processMessage (hash : StmtKey → UInt64) (s : StmtSystem) (i : Nat) (msg : ExtendedMsg)
    (env : MessageEnv) : StmtSystem × Option MsgAnswer :=
  match s.sessions[i]? with
  | none => (s, none)
  | some c =>
      let handled := s.handleMessage hash i c env msg
      (if handled.2.fails then handled.1.resetPortal i else handled.1, some handled.2)

end StmtSystem

/-! ## Runs -/

/-- A message of a session, or another operation on the statements of sessions and
connections. -/
inductive PortalEvent
  | message (i : Nat) (msg : ExtendedMsg) (env : MessageEnv)
  | other (op : StmtOp)

namespace StmtSystem

def portalStep (hash : StmtKey → UInt64) (s : StmtSystem) : PortalEvent → StmtSystem
  | .message i msg env => (s.processMessage hash i msg env).1
  | .other op => s.step hash op

end StmtSystem

end PolarProxy
