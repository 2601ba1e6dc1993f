import PolarProxy.StartupIdentity
import PolarProxy.RowRuns

/-!
# Warmup steps for the readers of a hostgroup

A warmup request asks for free connections that match it.  What is missing up to the limit of the
request is planned as steps of one connection each: the servers are visited in turn from a start
that moves with every request, first those that have no matching connection.

**Results.** `unavailableReason`, `availableSlots`, `collectSplitWarmupTargets`.
-/

namespace PolarProxy

namespace Warmup

open Loops RowRun

/-- What the expansion reads of a request.  `rest` are the fields that every step repeats. -/
structure Request (I : Type) where
  hostgroupId : Nat
  rest : I
  maxConnectionsPerRequest : Nat
  targetAddress : String
  targetPort : Nat
  targetRequiredFreeCount : Nat
  deriving DecidableEq

/-- What the expansion reads of a server.  The free connections are given by their match keys; the
counters of the pool are kept beside the lists. -/
structure Server (K : Type) where
  online : Bool
  address : Option String
  port : Nat
  weight : Int
  currentLatencyUs : Nat
  maxLatencyUs : Nat
  maxConnections : Int
  hasConnectionsUsed : Bool
  connectionsFree : Option (List K)
  usedCount : Nat
  freeCount : Nat
  deriving DecidableEq

/-- A hostgroup: the protocol of its policy, and its servers -/
structure Hostgroup (K : Type) where
  proxyProtocol : Int
  mysrvs : List (Option (Server K))
  deriving DecidableEq

/-- What the expansion reads beside the request.  The key of the connections that match a request
is computed from its fields and the startup profile. -/
structure Env (I K : Type) where
  hostgroup : Nat → Option (Hostgroup K)
  proxyProtocol : Int
  defaultMaxLatencyMs : Nat
  matchKey : I → StartupProfile → K

/-- `WarmupCandidate` -/
structure Candidate (K : Type) where
  srv : Server K
  compatibleFree : Nat
  capacityAvailable : Nat
  planned : Nat
  deriving DecidableEq

/-- What the caller receives, and the counter that gives the start -/
structure Output (I : Type) where
  targetRequests : List (Request I)
  foundHostgroup : Bool
  sawEligibleTarget : Bool
  sawCompatibleFree : Bool
  nextCandidate : Nat
  deriving DecidableEq

variable {I K : Type} [DecidableEq K]

/-- `polardb_proxy_protocol_from_int` -/
def proxyProtocolFromInt (protocol : Int) : ProxyProtocol :=
  if protocol = 3 then .v15Wait
  else if protocol = 2 then .v15
  else if protocol = 1 then .legacy
  else .off

/-- `requests_rfq_xid` -/
def requestsRfqXid (profile : StartupProfile) : Bool :=
  profile.requestBits &&& StartupProfile.requestRfqXid != 0

/-- `polardb_split_warmup_connection_limit` -/
def connectionLimit (configured : Int) : Nat :=
  if configured ≤ 0 then 1
  else if configured > 64 then 64
  else configured.toNat

/-! ## Servers -/

namespace Server

/-- `pgsql_srv_latency_allowed` -/
def latencyAllowed (defaultMaxLatencyMs : Nat) (s : Server K) : Bool :=
  let maxLatencyUs :=
    if s.maxLatencyUs ≠ 0 then s.maxLatencyUs else defaultMaxLatencyMs * 1000 % 2 ^ 32
  maxLatencyUs = 0 ∨ s.currentLatencyUs < maxLatencyUs

/-- `polardb_split_warmup_available_slots` -/
def availableSlots (s : Server K) : Nat :=
  if s.maxConnections ≤ 0 ∨ !s.hasConnectionsUsed ∨ s.connectionsFree.isNone then 0
  else
    let total := (s.usedCount + s.freeCount) % 2 ^ 32
    let maxConnections := (s.maxConnections % 2 ^ 32).toNat
    if total < maxConnections then maxConnections - total else 0

/-- `matching_connection_count` -/
def matchingConnectionCount (key : K) (s : Server K) : Nat :=
  match s.connectionsFree with
  | some free => free.count key
  | none => 0

end Server

/-- `polardb_split_warmup_server_unavailable_reason` without the throttle -/
def unavailableReason (defaultMaxLatencyMs : Nat) : Option (Server K) → Option String
  | none => some "null_server"
  | some s =>
      if !s.online then some "status"
      else if s.address.isNone then some "address"
      else if s.weight ≤ 0 then some "weight"
      else if !s.latencyAllowed defaultMaxLatencyMs then some "latency"
      else if s.maxConnections ≤ 0 then some "max_connections"
      else if !s.hasConnectionsUsed then some "used_list"
      else if s.connectionsFree.isNone then some "free_list"
      else if s.availableSlots = 0 then some "capacity"
      else none

namespace Env

/-- The startup profile of the connections of a hostgroup -/
def warmupProfile (env : Env I K) (hg : Hostgroup K) : StartupProfile :=
  .fromProtocol (proxyProtocolFromInt
    (if hg.proxyProtocol ≥ 0 then hg.proxyProtocol else env.proxyProtocol))

/-- `polardb_split_warmup_server_compatible_free_count` -/
def compatibleFreeCount (env : Env I K) (req : Request I) (profile : StartupProfile)
    (s : Server K) : Nat :=
  if !profile.requestsRfqLsn ∨ !requestsRfqXid profile then 0
  else s.matchingConnectionCount (env.matchKey req.rest profile)

end Env

/-! ## Candidates -/

/-- What the pass over the servers collects -/
structure Scan (K : Type) where
  candidates : List (Candidate K)
  compatibleFreeTotal : Nat
  sawEligibleTarget : Bool
  sawCompatibleFree : Bool

def scanServer (env : Env I K) (req : Request I) (profile : StartupProfile) (scan : Scan K)
    (mysrvc : Option (Server K)) : Scan K :=
  match mysrvc, unavailableReason env.defaultMaxLatencyMs mysrvc with
  | some s, none =>
      let compatibleFree := env.compatibleFreeCount req profile s
      let capacityAvailable := s.availableSlots
      { candidates :=
          if capacityAvailable = 0 then scan.candidates
          else scan.candidates ++ [⟨s, compatibleFree, capacityAvailable, 0⟩]
        compatibleFreeTotal := scan.compatibleFreeTotal + compatibleFree
        sawEligibleTarget := true
        sawCompatibleFree := scan.sawCompatibleFree || decide (compatibleFree > 0) }
  | _, _ => scan

/-! ## Steps -/

/-- The candidates with the steps planned for each, how many steps are missing, and the steps -/
structure Plan (I K : Type) where
  candidates : List (Candidate K)
  remaining : Nat
  targetRequests : List (Request I)

/-- A step of one connection -/
def targetRequest (req : Request I) (address : String) (port requiredFreeCount : Nat) : Request I :=
  { req with
    maxConnectionsPerRequest := 1
    targetAddress := address
    targetPort := port
    targetRequiredFreeCount := requiredFreeCount }

namespace Plan

/-- `add_target` for the candidate at an index -/
def addTarget (req : Request I) (i : Nat) (plan : Plan I K) : Plan I K :=
  match plan.candidates[i]? with
  | none => plan
  | some c =>
      match c.srv.address with
      | none => plan
      | some address =>
          if c.planned ≥ c.capacityAvailable ∨ plan.remaining = 0 then plan
          else
            { candidates := plan.candidates.set i { c with planned := c.planned + 1 }
              remaining := plan.remaining - 1
              targetRequests := plan.targetRequests ++
                [targetRequest req address c.srv.port (c.compatibleFree + c.planned + 1)] }

/-- The first pass, over the candidates without a matching connection -/
def firstPass (req : Request I) (start count : Nat) : List Nat → Plan I K → Plan I K
  | [], plan => plan
  | order :: orders, plan =>
      if plan.remaining = 0 then plan
      else
        let i := (start + order) % count
        match plan.candidates[i]? with
        | some c =>
            if c.compatibleFree = 0 then firstPass req start count orders (plan.addTarget req i)
            else firstPass req start count orders plan
        | none => plan

/-- A pass over all candidates, and whether it added a step -/
def pass (req : Request I) (limit start count : Nat) :
    List Nat → Plan I K × Bool → Plan I K × Bool
  | [], r => r
  | order :: orders, (plan, added) =>
      if plan.remaining = 0 then (plan, added)
      else
        let i := (start + order) % count
        match plan.candidates[i]? with
        | some c =>
            if c.compatibleFree + c.planned ≥ limit then pass req limit start count orders (plan, added)
            else
              let plan' := plan.addTarget req i
              pass req limit start count orders
                (plan', added || plan'.targetRequests.length != plan.targetRequests.length)
        | none => (plan, added)

/-- A round of the loop over passes -/
def round (req : Request I) (limit start count : Nat) (plan : Plan I K) :
    Except (Stop Empty) (Plan I K × Bool) :=
  if plan.remaining > 0 then .ok (pass req limit start count (List.range count) (plan, false))
  else .ok (plan, false)

end Plan

/-- `polardb_collect_split_warmup_targets_unlocked` -/
def collectSplitWarmupTargets (env : Env I K) (req : Request I) (targetRequests : List (Request I))
    (nextCandidate : Nat) : Except (Stop Empty) (Output I) :=
  match env.hostgroup req.hostgroupId with
  | none => .ok ⟨targetRequests, false, false, false, nextCandidate⟩
  | some hg =>
      let profile := env.warmupProfile hg
      if !profile.requestsRfqLsn ∨ !requestsRfqXid profile then
        .ok ⟨targetRequests, true, false, false, nextCandidate⟩
      else
        let scan := hg.mysrvs.foldl (scanServer env req profile) ⟨[], 0, false, false⟩
        let limit := connectionLimit (wrapInt req.maxConnectionsPerRequest)
        if scan.compatibleFreeTotal ≥ limit then
          .ok ⟨targetRequests, true, scan.sawEligibleTarget, true, nextCandidate⟩
        else do
          let count := scan.candidates.length
          let start := if count = 0 then 0 else nextCandidate % count
          let plan : Plan I K :=
            ⟨scan.candidates, limit - scan.compatibleFreeTotal, targetRequests⟩
          let first := plan.firstPass req start count (List.range count)
          let last ← loop (Plan.round req limit start count) (first.remaining + 2) first
          return ⟨last.targetRequests, true, scan.sawEligibleTarget, scan.sawCompatibleFree,
            if count = 0 then nextCandidate else nextCandidate + 1⟩

end Warmup

end PolarProxy
