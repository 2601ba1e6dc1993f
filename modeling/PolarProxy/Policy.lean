import Mathlib.Order.Basic
import Mathlib.Tactic.Common

/-!
# Consistency policy

The configured values a routing decision reads: consistency modes, read
placement, and the actions taken when a consistency read cannot be served as
planned.  Configuration stores each of them as an integer, with `-1` meaning
"inherit", and every value is converted at the place that uses it.  The model
keeps both forms, because a conversion maps unsupported integers to a default
and the default is part of the behaviour.

**Results.** `usesLsnWait_iff`, `policyError_eq_none`, `consistencyModeOrOff_eq`.
-/

namespace PolarProxy

inductive ConsistencyMode
  | off
  | sessionLsn
  | globalLsn
  | eventual
  | primaryOnly
  deriving DecidableEq

/-- The integer a mode is stored as. -/
def ConsistencyMode.toInt : ConsistencyMode → Int
  | .off => 0
  | .sessionLsn => 1
  | .globalLsn => 2
  | .eventual => 3
  | .primaryOnly => 4

/-- Convert a resolved mode integer; unsupported values map to `off`. -/
def consistencyFromInt (v : Int) : ConsistencyMode :=
  if v = 1 then .sessionLsn
  else if v = 2 then .globalLsn
  else if v = 3 then .eventual
  else if v = 4 then .primaryOnly
  else .off

/-- Convert a mode integer that may still be the unresolved `-1`. -/
def consistencyModeOrOff (v : Int) : ConsistencyMode :=
  if 0 ≤ v then consistencyFromInt v else .off

/-- Whether reads of this mode wait on an LSN target. -/
def usesLsnWait (mode : ConsistencyMode) : Bool :=
  mode == .sessionLsn || mode == .globalLsn

/-- Whether this mode refuses a reader route without a wait target. -/
def disallowsDegradedReader (mode : ConsistencyMode) : Bool :=
  mode == .globalLsn

/-- Kind of consistency wait carried by a route. -/
inductive WaitType
  | none
  | lsn
  deriving DecidableEq

/-- Backend wire mode used while waiting for an LSN. -/
inductive WaitMode
  | bestEffort
  | strict
  deriving DecidableEq

/-- Action when no enforceable LSN wait target can be built. -/
inductive MissingLsnAction
  | primary
  | warning
  | error
  deriving DecidableEq

/-- Outcome when an LSN wait reaches its deadline. -/
inductive LsnWaitTimeoutAction
  | warning
  | primary
  | error
  | disconnect
  deriving DecidableEq

/-- Normal destination for a replica-eligible read. -/
inductive ReadTarget
  | primary
  | replica
  deriving DecidableEq

/-- Final result when a read targeted at a replica cannot acquire one. -/
inductive ReadFallbackAction
  | primary
  | error
  deriving DecidableEq

def missingLsnActionFromInt (v : Int) : MissingLsnAction :=
  if v = 1 then .warning else if v = 2 then .error else .primary

def lsnWaitTimeoutActionFromInt (v : Int) : LsnWaitTimeoutAction :=
  if v = 0 then .warning
  else if v = 1 then .primary
  else if v = 3 then .disconnect
  else .error

def LsnWaitTimeoutAction.toInt : LsnWaitTimeoutAction → Int
  | .warning => 0
  | .primary => 1
  | .error => 2
  | .disconnect => 3

def readTargetFromInt (v : Int) : ReadTarget :=
  if v = 1 then .replica else .primary

def readFallbackActionFromInt (v : Int) : ReadFallbackAction :=
  if v = 1 then .error else .primary

def waitModeForTimeoutAction (action : LsnWaitTimeoutAction) : WaitMode :=
  if action = .warning then .bestEffort else .strict

/-- `GLOBAL_LSN` cannot return stale data after a timeout. -/
def timeoutActionAllowsGlobalLsn (action : LsnWaitTimeoutAction) : Bool :=
  action != .warning

/-- Timeout action of a transaction-split read, which cannot return a warning. -/
def transactionSplitTimeoutAction
    (action : LsnWaitTimeoutAction)
    (allowPrimaryFallback : Bool) :
    LsnWaitTimeoutAction :=
  if action ≠ .warning then action
  else if allowPrimaryFallback then .primary
  else .error

/-- Reason a combination of actions is rejected for a mode, if it is. -/
def consistencyPolicyError
    (mode : ConsistencyMode)
    (missingLsnAction : MissingLsnAction)
    (timeoutAction : LsnWaitTimeoutAction) :
    Option String :=
  if mode ≠ .globalLsn then none
  else if missingLsnAction = .warning then
    some "global_lsn cannot use a reader without an LSN target"
  else if !timeoutActionAllowsGlobalLsn timeoutAction then
    some "global_lsn cannot return stale data after an LSN wait timeout"
  else none

def defaultWaitTimeoutMs : Nat := 1000

/-- Effective wait timeout: hostgroup value, else global value, else default. -/
def resolveWaitTimeoutMs (hgTimeoutMs globalTimeoutMs : Int) : Nat :=
  if 0 < hgTimeoutMs then hgTimeoutMs.toNat
  else if hgTimeoutMs = 0 then 0
  else if 0 ≤ globalTimeoutMs then globalTimeoutMs.toNat
  else defaultWaitTimeoutMs

/-- Effective mode: session override, else hostgroup value, else global value. -/
def resolveConsistencyMode
    (sessionOverride hgConsistencyMode globalMode : Int) : Int :=
  if 0 ≤ sessionOverride then sessionOverride
  else if 0 ≤ hgConsistencyMode then hgConsistencyMode
  else globalMode

@[simp]
theorem usesLsnWait_iff (mode : ConsistencyMode) :
    usesLsnWait mode = true ↔ mode = .sessionLsn ∨ mode = .globalLsn := by
  cases mode <;> simp [usesLsnWait]

/-- A mode integer that converts to a mode other than `off` is resolved. -/
theorem consistencyFromInt_ne_off
    {v : Int}
    (h : consistencyFromInt v ≠ .off) :
    0 ≤ v := by
  by_contra hneg
  apply h
  have hv : v < 0 := by omega
  simp only [consistencyFromInt]
  rw [if_neg (by omega), if_neg (by omega), if_neg (by omega), if_neg (by omega)]

/-- The unresolved value and unsupported values both mean `off`. -/
theorem consistencyModeOrOff_eq (v : Int) :
    consistencyModeOrOff v = consistencyFromInt v := by
  unfold consistencyModeOrOff
  split
  · rfl
  · rename_i hneg
    by_contra hne
    exact hneg (consistencyFromInt_ne_off (fun h => hne h.symm))

/-- A policy is rejected only under `GLOBAL_LSN`. -/
theorem policyError_eq_none
    {mode : ConsistencyMode}
    (hmode : mode ≠ .globalLsn)
    (missing : MissingLsnAction)
    (timeout : LsnWaitTimeoutAction) :
    consistencyPolicyError mode missing timeout = none := by
  simp [consistencyPolicyError, hmode]

end PolarProxy
