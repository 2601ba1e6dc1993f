import PolarProxy.Library.SwapRemove
import PolarProxy.WriterEpoch
import Mathlib.Algebra.BigOperators.Group.List.Basic
import Mathlib.Algebra.GroupWithZero.Nat
import Mathlib.Data.Finset.Max

/-!
# Drawing a server by weight

The classic pool draws a server of a hostgroup at random, by weight.  The servers that are online, have
room and are near enough are gathered in an array with the sum of their weights; a shunned server may be
brought back on the way.  The array is then filtered in place: servers without replication lag, which are
writers, leave it where enough others are there, and servers slower than the average leave it where all
latencies are known.  Sums are 32 bits wide.

Weights are not negative: the tables and the defaults of a hostgroup check that.  What bringing a server
back does in other hostgroups, and the number of used connections, which is summed up and not read, are
left out.

**Results.** `gathered_summed`, `exists_drawAt_iff`, `weight_of_drawAt`.
-/

namespace PolarProxy

open SwapRemove

/-- What the draw reads of `PgSQL_SrvC`. -/
structure DrawServer where
  ptr : Nat
  status : ServerStatus := .online
  weight : Nat := 1
  maxConnections : Int := 1000
  usedCount : Nat := 0
  freeCount : Nat := 0
  currentLatencyUs : Nat := 0
  maxLatencyUs : Nat := 0
  awsAuroraCurrentLagUs : Nat := 0
  shunnedAutomatic : Bool := false
  shunnedAndKillAllConnections : Bool := false
  timeLastDetectedError : Int := 0
  deriving DecidableEq

/-- The arguments of the draw, the configuration and the clock. -/
structure DrawRequest where
  gtidTrxid : Nat := 0
  maxLagMs : Int := -1
  /-- `time(NULL)`, as the first scan reads it at a server, and as the second scan reads it -/
  firstTime : Nat → Int := fun _ => 0
  secondTime : Int := 0
  shunRecoveryTimeSec : Int := 10
  connectTimeoutServerMax : Int := 10000
  defaultMaxLatencyMs : Nat := 1000
  /-- `aurora_max_lag_ms_only_read_from_replicas` -/
  minNumReplicas : Nat := 2
  /-- `min_num_servers_lantency_awareness`, zero without a session -/
  minServersLatencyAwareness : Int := 0

namespace DrawServer

/-- `server_can_add_active_connection` -/
def canAddActiveConnection (srv : DrawServer) : Bool :=
  0 < srv.maxConnections && srv.usedCount < (srv.maxConnections % 2 ^ 32).toNat

/-- `pgsql_pool_no_live_connections` -/
def noLiveConnections (srv : DrawServer) : Bool :=
  srv.usedCount == 0 && srv.freeCount == 0

/-- The server is brought back. -/
def unshun (srv : DrawServer) : DrawServer :=
  { srv with status := .online, shunnedAutomatic := false, timeLastDetectedError := 0 }

end DrawServer

namespace DrawRequest

def latencyAllowed (req : DrawRequest) (srv : DrawServer) : Bool :=
  srv.currentLatencyUs <
    if srv.maxLatencyUs ≠ 0 then srv.maxLatencyUs else req.defaultMaxLatencyMs * 1000

/-- The tests after that of the latency: no server is known to have a transaction. -/
def lagAllowed (req : DrawRequest) (srv : DrawServer) : Bool :=
  req.gtidTrxid == 0 &&
    (req.maxLagMs < 0 || (srv.awsAuroraCurrentLagUs / 1000 : Nat) ≤ req.maxLagMs)

/-- A server that may be drawn from as far as latency and lag go. -/
def admits (req : DrawRequest) (srv : DrawServer) : Bool :=
  req.latencyAllowed srv && req.lagAllowed srv

/-- How long a server stays shunned, and how long when none is left. -/
def maxWaitSec (req : DrawRequest) : Int :=
  max 1 (if req.connectTimeoutServerMax ≤ req.shunRecoveryTimeSec * 1000 then
    req.connectTimeoutServerMax.tdiv 1000 - 1 else req.shunRecoveryTimeSec)

def desperateWaitSec (req : DrawRequest) : Int :=
  max 1 (if req.connectTimeoutServerMax ≤ req.shunRecoveryTimeSec * 1000 then
    req.connectTimeoutServerMax.tdiv 10000 - 1 else req.shunRecoveryTimeSec.tdiv 10)

/-- The first scan at a server: the server afterwards, and whether it is a candidate. -/
def firstScan (req : DrawRequest) (srv : DrawServer) : DrawServer × Bool :=
  if srv.status = .online then (srv, srv.canAddActiveConnection && req.admits srv)
  else if srv.status = .shunned ∧ srv.shunnedAutomatic = true ∧ req.shunRecoveryTimeSec ≠ 0 ∧
      srv.timeLastDetectedError < req.firstTime srv.ptr ∧
      req.maxWaitSec < req.firstTime srv.ptr - srv.timeLastDetectedError ∧
      (srv.shunnedAndKillAllConnections = false ∨ srv.noLiveConnections = true) then
    let srv := { srv.unshun with shunnedAndKillAllConnections := false }
    (srv, req.admits srv)
  else (srv, false)

def secondScan (req : DrawRequest) (srv : DrawServer) : DrawServer × Bool :=
  if srv.status = .shunned ∧ srv.shunnedAutomatic = true ∧
      req.desperateWaitSec < req.secondTime - srv.timeLastDetectedError then
    (srv.unshun, req.admits srv.unshun)
  else (srv, false)

end DrawRequest

/-! ## The array of candidates -/

/-- `+` and `-` of `unsigned int` -/
def addWord (a b : Nat) : Nat :=
  (a + b) % 2 ^ 32

def subWord (a b : Nat) : Nat :=
  (a + (2 ^ 32 - b % 2 ^ 32)) % 2 ^ 32

/-- A loop that adds up in an `unsigned int` -/
def sumWord (f : DrawServer → Nat) (l : List DrawServer) : Nat :=
  l.foldl (fun acc srv => addWord acc (f srv)) 0

/-- The servers of the hostgroup, `mysrvcCandidates` and `sum` -/
structure DrawState where
  servers : List DrawServer := []
  candidates : List DrawServer := []
  sum : Nat := 0
  deriving DecidableEq

/-- A scan over the servers; what was gathered before stays. -/
def scan (look : DrawServer → DrawServer × Bool) : List DrawServer → DrawState → DrawState
  | [], st => st
  | srv :: rest, st =>
      let (srv, candidate) := look srv
      let st := { st with servers := st.servers ++ [srv] }
      scan look rest
        (if candidate then
          { st with candidates := st.candidates ++ [srv], sum := addWord st.sum srv.weight }
        else st)

/-- The loop that removes servers without lag: it goes on behind the place that it filled. -/
def dropWriters : Nat → Nat → DrawState → DrawState
  | 0, _, st => st
  | rounds + 1, j, st =>
      match st.candidates[j]? with
      | none => st
      | some srv =>
          dropWriters rounds (j + 1)
            (if srv.awsAuroraCurrentLagUs = 0 then
              { st with
                candidates := swapRemove st.candidates j
                sum := subWord st.sum srv.weight }
            else st)

namespace DrawRequest

/-- The filter that keeps replicas only is asked for, and there are enough candidates. -/
def replicasApply (req : DrawRequest) (candidates : List DrawServer) : Bool :=
  0 < req.maxLagMs && req.minNumReplicas != 0 && req.minNumReplicas ≤ candidates.length

def replicasOnly (req : DrawRequest) (st : DrawState) : DrawState :=
  if req.replicasApply st.candidates = true ∧
      sumWord DrawServer.awsAuroraCurrentLagUs st.candidates ≠ 0 then
    dropWriters st.candidates.length 0 st
  else st

/-- Without weight among the candidates, shunned servers are brought back early. -/
def desperate (req : DrawRequest) (st : DrawState) : DrawState :=
  if st.sum = 0 then scan req.secondScan st.servers { st with servers := [] } else st

/-- The candidates before the first filter, and those before the second -/
def considered (req : DrawRequest) (servers : List DrawServer) : DrawState :=
  scan req.firstScan servers {}

def gathered (req : DrawRequest) (servers : List DrawServer) : DrawState :=
  req.desperate (req.replicasOnly (req.considered servers))

/-- The latencies of all candidates are known, and there are enough candidates. -/
def latencyApplies (req : DrawRequest) (candidates : List DrawServer) : Bool :=
  req.minServersLatencyAwareness != 0 && req.minServersLatencyAwareness ≤ candidates.length &&
    candidates.all fun srv => srv.currentLatencyUs != 0

end DrawRequest

/-- `avg_latency_us` -/
def latencyAverage (candidates : List DrawServer) : Nat :=
  sumWord DrawServer.currentLatencyUs candidates / candidates.length

/-- The candidates that are not slower than the average -/
def nearCandidates (candidates : List DrawServer) : List DrawServer :=
  (removeWhere (fun srv => latencyAverage candidates < srv.currentLatencyUs) candidates).2

/-- The candidates that the draw is made from -/
def DrawRequest.remaining (req : DrawRequest) (candidates : List DrawServer) : List DrawServer :=
  if req.latencyApplies candidates then nearCandidates candidates else candidates

/-- The walk over the weights -/
def drawAt (k : Nat) : List DrawServer → Nat → Option DrawServer
  | [], _ => none
  | srv :: rest, running =>
      let running := addWord running srv.weight
      if k ≤ running then some srv else drawAt k rest running

inductive DrawFault
  | divisionByZero
  deriving DecidableEq

/-- `get_random_MySrvC`, with `rand_fast()`: the server, and the servers of the hostgroup afterwards -/
def getRandomMySrvC (req : DrawRequest) (servers : List DrawServer) (rand : Nat) :
    Except DrawFault (Option DrawServer × List DrawServer) :=
  if servers = [] then .ok (none, servers)
  else
    let st := req.gathered servers
    if st.sum = 0 then .ok (none, st.servers)
    else if req.latencyApplies st.candidates = true ∧ st.candidates.length = 0 then
      .error .divisionByZero
    else
      let newSum :=
        if req.latencyApplies st.candidates then
          sumWord DrawServer.weight (nearCandidates st.candidates)
        else st.sum
      if newSum = 0 then .error .divisionByZero
      else .ok (drawAt (rand % newSum + 1) (req.remaining st.candidates) 0, st.servers)

/-! ## Sums -/

section Sums

variable {f : DrawServer → Nat} {l l' : List DrawServer} {srv : DrawServer}

theorem foldl_addWord (a : Nat) :
    l.foldl (fun acc srv => addWord acc (f srv)) (a % 2 ^ 32) = (a + (l.map f).sum) % 2 ^ 32 := by
  induction l generalizing a with
  | nil =>
      rfl
  | cons srv rest ih =>
      rw [List.foldl_cons, addWord, Nat.mod_add_mod, ih, List.map_cons, List.sum_cons,
        Nat.add_assoc]

theorem sumWord_eq : sumWord f l = (l.map f).sum % 2 ^ 32 := by
  have hfold := foldl_addWord (f := f) (l := l) 0
  rw [Nat.zero_add] at hfold
  exact hfold

theorem sumWord_concat : sumWord f (l ++ [srv]) = addWord (sumWord f l) (f srv) := by
  rw [sumWord, List.foldl_append]
  rfl

theorem sumWord_perm
    (h : l.Perm l') :
    sumWord f l = sumWord f l' := by
  rw [sumWord_eq, sumWord_eq, (h.map f).sum_eq]

theorem sumWord_cons : sumWord f (srv :: l) = addWord (sumWord f l) (f srv) := by
  rw [← sumWord_concat]
  exact sumWord_perm (List.perm_append_singleton srv l).symm

theorem subWord_addWord
    {a b : Nat}
    (ha : a < 2 ^ 32) :
    subWord (addWord a b) b = a := by
  unfold subWord addWord
  omega

theorem sumWord_lt : sumWord f l < 2 ^ 32 := by
  rw [sumWord_eq]
  exact Nat.mod_lt _ (by decide)

end Sums

/-! ## The scans -/

/-- The sum belongs to the candidates. -/
def DrawState.Summed (st : DrawState) : Prop :=
  st.sum = sumWord DrawServer.weight st.candidates

theorem scan_summed
    {look : DrawServer → DrawServer × Bool} {l : List DrawServer} {st : DrawState}
    (h : st.Summed) :
    (scan look l st).Summed := by
  induction l generalizing st with
  | nil =>
      exact h
  | cons srv rest ih =>
      rw [scan]
      refine ih ?_
      split
      · rw [DrawState.Summed, sumWord_concat]
        exact congrArg (addWord · _) h
      · exact h

theorem dropWriters_spec
    {rounds j : Nat} {st : DrawState}
    (h : st.Summed) :
    (dropWriters rounds j st).Summed ∧
      (dropWriters rounds j st).candidates =
        skipFrom (fun srv => srv.awsAuroraCurrentLagUs == 0) rounds j st.candidates := by
  induction rounds generalizing j st with
  | zero =>
      exact ⟨h, rfl⟩
  | succ rounds ih =>
      rw [dropWriters, skipFrom]
      cases hsrv : st.candidates[j]? with
      | none =>
          exact ⟨h, rfl⟩
      | some srv =>
          by_cases hlag : srv.awsAuroraCurrentLagUs = 0
          · have hsummed : DrawState.Summed { st with
                candidates := swapRemove st.candidates j
                sum := subWord st.sum srv.weight } := by
              rw [DrawState.Summed] at h ⊢
              rw [h, sumWord_perm (swapRemove_perm hsrv), sumWord_cons, subWord_addWord sumWord_lt]
            obtain ⟨hsum, hcandidates⟩ := ih (j := j + 1) hsummed
            simp only [hlag, if_true, beq_self_eq_true]
            exact ⟨hsum, hcandidates⟩
          · obtain ⟨hsum, hcandidates⟩ := ih (j := j + 1) h
            simp only [hlag, if_false, beq_iff_eq]
            exact ⟨hsum, hcandidates⟩

theorem dropWriters_servers (rounds j : Nat) (st : DrawState) :
    (dropWriters rounds j st).servers = st.servers := by
  induction rounds generalizing j st with
  | zero =>
      rfl
  | succ rounds ih =>
      rw [dropWriters]
      split
      · rfl
      · rw [ih]
        split
        · rfl
        · rfl

theorem replicasOnly_summed
    {req : DrawRequest} {st : DrawState}
    (h : st.Summed) :
    (req.replicasOnly st).Summed := by
  unfold DrawRequest.replicasOnly
  split
  · exact (dropWriters_spec h).1
  · exact h

theorem considered_summed
    (req : DrawRequest) (servers : List DrawServer) :
    (req.considered servers).Summed :=
  scan_summed rfl

/-- The sum goes with the array up to the draw. -/
theorem gathered_summed
    (req : DrawRequest) (servers : List DrawServer) :
    (req.gathered servers).Summed := by
  have hreplicas := @replicasOnly_summed req _ (considered_summed req servers)
  unfold DrawRequest.gathered DrawRequest.desperate
  split
  · exact scan_summed hreplicas
  · exact hreplicas

structure DrawRequest.Passed (req : DrawRequest) (srv : DrawServer) : Prop where
  status : srv.status = .online
  latency : req.latencyAllowed srv = true

theorem skipFrom_subset
    {p : DrawServer → Bool} {rounds j : Nat} {l : List DrawServer} {srv : DrawServer}
    (h : srv ∈ skipFrom p rounds j l) :
    srv ∈ l := by
  induction rounds generalizing j l with
  | zero =>
      exact h
  | succ rounds ih =>
      rw [skipFrom] at h
      cases hget : l[j]? with
      | none =>
          simpa only [hget] using h
      | some a =>
          simp only [hget] at h
          have hin := ih h
          split at hin
          · exact (swapRemove_perm hget).mem_iff.mpr (List.mem_cons_of_mem _ hin)
          · exact hin

theorem mem_remaining
    {req : DrawRequest} {l : List DrawServer} {srv : DrawServer}
    (h : srv ∈ req.remaining l) :
    srv ∈ l := by
  unfold DrawRequest.remaining at h
  split at h
  · exact (mem_removeWhere.2.mp h).1
  · exact h

/-! ## The walk -/

/-- A draw can select the server: the running sum of the weights passes, at the server, every value that
it had before, and the last one passes these values as well. -/
def Drawable (l : List DrawServer) (srv : DrawServer) : Prop :=
  ∃ before after, l = before ++ srv :: after ∧ ∀ n ≤ before.length,
    sumWord DrawServer.weight (before.take n) < sumWord DrawServer.weight (before ++ [srv]) ∧
      sumWord DrawServer.weight (before.take n) < sumWord DrawServer.weight l

theorem drawAt_eq_some
    {k : Nat} {before l : List DrawServer} {srv : DrawServer}
    (h : drawAt k l (sumWord DrawServer.weight before) = some srv) :
    ∃ between after, l = between ++ srv :: after ∧
      k ≤ sumWord DrawServer.weight (before ++ between ++ [srv]) ∧
        ∀ n < between.length, sumWord DrawServer.weight (before ++ between.take (n + 1)) < k := by
  induction l generalizing before with
  | nil =>
      cases h
  | cons a rest ih =>
      rw [drawAt] at h
      rw [← sumWord_concat] at h
      split at h
      · rename_i hle
        obtain rfl := Option.some.inj h
        refine ⟨[], rest, rfl, ?_, fun n hn => absurd hn (Nat.not_lt_zero n)⟩
        rw [List.append_nil]
        exact hle
      · rename_i hgt
        obtain ⟨between, after, rfl, hk, hbefore⟩ := ih h
        refine ⟨a :: between, after, rfl, ?_, fun n hn => ?_⟩
        · simpa using hk
        · cases n with
          | zero =>
              simpa using Nat.lt_of_not_le hgt
          | succ n =>
              have hlt := hbefore n (Nat.lt_of_succ_lt_succ hn)
              simpa using hlt

theorem drawAt_append
    {k : Nat} {before between after : List DrawServer} {srv : DrawServer}
    (hk : k ≤ sumWord DrawServer.weight (before ++ between ++ [srv]))
    (hbefore : ∀ n < between.length, sumWord DrawServer.weight (before ++ between.take (n + 1)) < k) :
    drawAt k (between ++ srv :: after) (sumWord DrawServer.weight before) = some srv := by
  induction between generalizing before with
  | nil =>
      rw [List.append_nil, sumWord_concat] at hk
      exact if_pos hk
  | cons a between ih =>
      have hfirst := hbefore 0 (Nat.zero_lt_succ _)
      rw [List.take_succ_cons, List.take_zero, sumWord_concat] at hfirst
      rw [List.cons_append, drawAt]
      rw [if_neg (Nat.not_le_of_lt hfirst), ← sumWord_concat]
      refine ih ?_ fun n hn => ?_
      · simpa using hk
      · have hlt := hbefore (n + 1) (Nat.succ_lt_succ hn)
        simpa using hlt

/-- The servers that the draws between one and the sum select -/
theorem exists_drawAt_iff
    {l : List DrawServer} {srv : DrawServer} :
    (∃ k, 1 ≤ k ∧ k ≤ sumWord DrawServer.weight l ∧ drawAt k l 0 = some srv) ↔ Drawable l srv := by
  constructor
  · rintro ⟨k, hone, hle, hdraw⟩
    obtain ⟨before, after, hl, hk, hbefore⟩ := @drawAt_eq_some _ [] _ _ hdraw
    refine ⟨before, after, hl, fun n hn => ?_⟩
    have hlt : sumWord DrawServer.weight (before.take n) < k := by
      cases n with
      | zero =>
          exact hone
      | succ n =>
          exact hbefore n hn
    exact ⟨Nat.lt_of_lt_of_le hlt hk, Nat.lt_of_lt_of_le hlt hle⟩
  · rintro ⟨before, after, rfl, hbefore⟩
    -- the greatest value that the running sum had before the server
    obtain ⟨m, hm, hmax⟩ : ∃ m ≤ before.length, ∀ n ≤ before.length,
        sumWord DrawServer.weight (before.take n) ≤ sumWord DrawServer.weight (before.take m) := by
      obtain ⟨m, hm, hmax⟩ := Finset.exists_max_image (Finset.range (before.length + 1))
        (fun n => sumWord DrawServer.weight (before.take n)) ⟨0, by simp⟩
      exact ⟨m, Nat.le_of_lt_succ (Finset.mem_range.mp hm), fun n hn =>
        hmax n (Finset.mem_range.mpr (Nat.lt_succ_of_le hn))⟩
    refine ⟨sumWord DrawServer.weight (before.take m) + 1, Nat.le_add_left _ _,
      (hbefore m hm).2, ?_⟩
    refine @drawAt_append _ [] _ _ _ ?_ fun n hn => ?_
    · exact (hbefore m hm).1
    · exact Nat.lt_succ_of_le (hmax (n + 1) hn)

/-- A server without weight is never drawn. -/
theorem weight_of_drawAt
    {k : Nat} {l : List DrawServer} {srv : DrawServer}
    (hone : 1 ≤ k)
    (h : drawAt k l 0 = some srv) :
    srv ∈ l ∧ 0 < srv.weight := by
  obtain ⟨before, after, rfl, hk, hbefore⟩ := @drawAt_eq_some _ [] _ _ h
  refine ⟨by simp, Nat.pos_of_ne_zero fun hzero => ?_⟩
  rw [List.nil_append, sumWord_concat, hzero, addWord, Nat.add_zero,
    Nat.mod_eq_of_lt sumWord_lt] at hk
  rcases List.eq_nil_or_concat' before with rfl | ⟨before, last, rfl⟩
  · exact absurd hone (Nat.not_le_of_lt (Nat.lt_succ_of_le hk))
  · have hlt := hbefore before.length (by simp)
    rw [List.nil_append, List.take_of_length_le (by simp)] at hlt
    exact absurd hlt (Nat.not_lt_of_le hk)

end PolarProxy
