import PolarProxy.EpochIsolation

/-!
# Monitor results and writer epochs

A health check asks a server for its role and its WAL position; the answer is
applied to the LSN caches later, by a call that holds the manager's write lock and
goes over every hostgroup that lists the server.  Between the two the writer of a
group may change.  An answer carries no epoch, so a call cannot tell.

**Results.** `monitor_epoch_isolation`, `monitor_stores_old_epoch`.
-/

namespace PolarProxy

open Transition

/-- `PolarDB_NodeType` -/
inductive NodeType
  | unknown
  | primary
  | replica
  | standby
  deriving DecidableEq

/-- `is_reader` -/
def NodeType.isReader (node : NodeType) : Bool :=
  node = .replica || node = .standby

/-- The answer to a health check. -/
structure HealthResult where
  address : List Char
  port : Nat
  lsn : Nat
  nodeType : NodeType
  /-- trace: the writer epochs when the server answered -/
  epochs : Nat → Nat

/-- A cell that a monitor result advances. -/
inductive LsnCell
  | server (srv : Nat)
  | group
  | replica
  deriving DecidableEq

/-- A position that was stored to a cell of a replication group. -/
structure MonitorStore where
  cell : LsnCell
  writer : Nat
  lsn : Nat
  /-- the epoch of the writer when the position was stored -/
  epoch : Nat
  /-- and when it was observed -/
  observed : Nat
  deriving DecidableEq

/-- A call of `polardb_update_server_lsn_from_monitor` that has the write lock. -/
structure MonitorCall where
  result : HealthResult
  /-- hostgroup and server, still to visit -/
  pending : List (Nat × Nat)
  now : Nat

structure MonitoredCaches where
  caches : LsnCaches
  /-- the ids of `MyHostGroups` -/
  hostgroups : List Nat := []
  /-- answers that are not applied yet -/
  results : List HealthResult := []
  call : Option MonitorCall := none
  /-- trace: what monitor results were to store, cells that were already higher included -/
  stores : List MonitorStore := []

inductive MonitorEvent
  /-- Any other step of the caches. -/
  | caches (e : EpochEvent)
  | observe (address : List Char) (port lsn : Nat) (nodeType : NodeType)
  /-- The call is made, and takes the lock, unless updates are off. -/
  | beginApply (k : Nat) (monitorLsnUpdates polardbActive : Bool) (now : Nat)
  /-- It goes on to the next server. -/
  | applyNext
  | endApply

/-- The step needs the manager's write lock. -/
def EpochEvent.takesLock : EpochEvent → Bool
  | .addServer _ _ _ | .purgeServer _ _ | .reload _ _ | .refreshAll _ | .monitor _ _ _ _ _ => true
  | _ => false

/-- The stores that one step of a monitor update attempts: each goes through a maximum, which writes
nothing where the cell is as high. -/
def MonitorUpdate.storesOf (m : MonitorUpdate) (epoch observed : Nat → Nat) :
    MonitorStage → List MonitorStore
  | .advancing => m.writer.toList.map fun w => ⟨.server m.srv, w, m.lsn, epoch w, observed w⟩
  | .group => m.writer.toList.map fun w => ⟨.group, w, m.lsn, epoch w, observed w⟩
  | .replica =>
      if m.isReader then m.writer.toList.map fun w => ⟨.replica, w, m.lsn, epoch w, observed w⟩
      else []
  | .guarding | .release => []

/-- `polardb_should_update_monitor_lsn` -/
def shouldUpdateMonitorLsn (monitorLsnUpdates : Bool) (observedLsn : Nat) : Bool :=
  monitorLsnUpdates && decide (0 < observedLsn)

namespace MonitoredCaches

def epochs (s : MonitoredCaches) (w : Nat) : Nat :=
  (s.caches.repl w).writerEpoch

/-- The servers with an address and port, hostgroup by hostgroup. -/
def matching (s : MonitoredCaches) (address : List Char) (port : Nat) : List (Nat × Nat) :=
  s.hostgroups.flatMap fun hid =>
    ((s.caches.hostgroup hid).filter fun srv =>
      (s.caches.server srv).address = address ∧ (s.caches.server srv).port = port).map (hid, ·)

/-- What the task of the lock holder is to store in its next step, on behalf of a call. -/
def storesNow (s : MonitoredCaches) : List MonitorStore :=
  match s.call, s.caches.task with
  | some call, .monitoring m stage => m.storesOf s.epochs call.result.epochs stage
  | _, _ => []

def step (s : MonitoredCaches) : MonitorEvent → Option MonitoredCaches
  | .caches e =>
      match e with
      | .managerStep =>
          s.caches.managerStep.map fun caches =>
            { s with caches := caches, stores := s.storesNow ++ s.stores }
      | .monitor _ _ _ _ _ => none
      | e =>
          if e.takesLock && s.call.isSome then none
          else
            (s.caches.step e).map fun caches =>
              { s with
                caches := caches
                hostgroups := match e with
                  | .addServer hid _ _ => s.hostgroups.insert hid
                  | _ => s.hostgroups }
  | .observe address port lsn nodeType =>
      some { s with results := ⟨address, port, lsn, nodeType, s.epochs⟩ :: s.results }
  | .beginApply k monitorLsnUpdates polardbActive now =>
      match s.results[k]? with
      | none => none
      | some result =>
          let results := s.results.eraseIdx k
          if !shouldUpdateMonitorLsn monitorLsnUpdates result.lsn || !polardbActive then
            some { s with results := results }
          else if s.call.isSome || !s.caches.task.isIdle then none
          else
            some { s with
              results := results
              call := some ⟨result, s.matching result.address result.port, now⟩ }
  | .applyNext =>
      match s.call with
      | some ⟨result, (hid, srv) :: rest, now⟩ =>
          if !s.caches.task.isIdle then none
          else if (s.caches.server srv).status ≠ .online then
            some { s with call := some ⟨result, rest, now⟩ }
          else
            (s.caches.step (.monitor hid srv result.lsn result.nodeType.isReader now)).map
              fun caches => { s with caches := caches, call := some ⟨result, rest, now⟩ }
      | _ => none
  | .endApply =>
      match s.call with
      | some ⟨_, [], _⟩ => if s.caches.task.isIdle then some { s with call := none } else none
      | _ => none

/-- The call is at a server that it will update, and an epoch of the writer has
begun since the answer. -/
def stale (s : MonitoredCaches) : MonitorEvent → Bool
  | .applyNext =>
      match s.call with
      | some ⟨result, (hid, srv) :: _, _⟩ =>
          decide ((s.caches.server srv).status = .online) &&
            (s.caches.monitorWriter hid).any fun w => decide (s.epochs w ≠ result.epochs w)
      | _ => false
  | _ => false

/-- A step that meets the condition. -/
def freshStep (s : MonitoredCaches) (e : MonitorEvent) : Option MonitoredCaches :=
  if s.stale e then none else s.step e

end MonitoredCaches

namespace LsnCaches

variable {s t : LsnCaches}

/-! ## The lock holder -/

theorem acceptStep_task
    {i now : Nat} {c : AcceptCall} {coalesced : Bool}
    (h : s.acceptStep i c coalesced now = some t) :
    t.task = s.task := by
  unfold acceptStep at h
  split at h
  · split at h <;> (obtain rfl := Option.some.inj h; rfl)
  · obtain ⟨-, h⟩ := Option.ite_none_right_eq_some.mp h
    obtain rfl := Option.some.inj h
    rfl
  · split at h <;> (obtain rfl := Option.some.inj h; rfl)
  · obtain rfl := Option.some.inj h
    rfl
  · obtain rfl := Option.some.inj h
    rfl
  · obtain rfl := Option.some.inj h
    rfl

/-- Apart from the steps of the lock holder, a monitor update is begun only by the
event that says so. -/
theorem step_monitoring
    {e : EpochEvent} {m : MonitorUpdate} {stage : MonitorStage}
    (hstep : s.step e = some t)
    (hmonitor : ∀ hid srv lsn isReader now, e ≠ .monitor hid srv lsn isReader now)
    (hmanager : e ≠ .managerStep)
    (htask : t.task = .monitoring m stage) :
    s.task = .monitoring m stage := by
  cases e with
  | acceptBegin i srv hg lsn scope k =>
      rcases acceptBegin_eq hstep with rfl | ⟨c, -, -, rfl⟩ <;> exact htask
  | acceptStep i coalesced now =>
      obtain ⟨c, -, hstep⟩ := Option.bind_eq_some_iff.mp hstep
      rw [← acceptStep_task hstep, htask]
  | readBegin j scope k =>
      obtain ⟨reads, answers, rfl⟩ := readBegin_eq hstep
      exact htask
  | readStep j =>
      obtain ⟨r, -, rfl⟩ := Option.map_eq_some_iff.mp hstep
      obtain ⟨reads, answers, heq⟩ := readStep_eq (s := s) j r
      rw [heq] at htask
      exact htask
  | addServer _ _ _ | purgeServer _ _ =>
      obtain ⟨-, hstep⟩ := Option.ite_none_right_eq_some.mp hstep
      obtain rfl := Option.some.inj hstep
      exact htask
  | setStatus srv status =>
      obtain rfl := Option.some.inj hstep
      exact htask
  | reload _ _ | refreshAll _ =>
      obtain ⟨-, hstep⟩ := Option.ite_none_right_eq_some.mp hstep
      obtain rfl := Option.some.inj hstep
      cases htask
  | monitor hid srv lsn isReader now =>
      exact absurd rfl (hmonitor hid srv lsn isReader now)
  | managerStep =>
      exact absurd rfl hmanager

theorem refreshStep_not_monitoring
    {r : Refresh} {next : Option TopologyEntries} {stage : RefreshStage}
    {m : MonitorUpdate} {mstage : MonitorStage}
    (h : s.refreshStep r next stage = some t) :
    t.task ≠ .monitoring m mstage := by
  intro htask
  cases stage with
  | guarding pending =>
      cases pending with
      | nil =>
          obtain rfl := Option.some.inj h
          cases htask
      | cons srv pending =>
          obtain ⟨-, h⟩ := Option.ite_none_right_eq_some.mp h
          obtain rfl := Option.some.inj h
          cases htask
  | clearServers pending | release pending =>
      cases pending <;> (obtain rfl := Option.some.inj h; cases htask)
  | clearGroup | clearReplica | bump =>
      obtain rfl := Option.some.inj h
      cases htask

theorem monitorStep_monitoring
    {m m' : MonitorUpdate} {stage stage' : MonitorStage}
    (h : s.monitorStep m stage = some t)
    (htask : t.task = .monitoring m' stage') :
    m' = m := by
  cases stage with
  | guarding =>
      obtain ⟨-, h⟩ := Option.ite_none_right_eq_some.mp h
      obtain rfl := Option.some.inj h
      cases htask
      rfl
  | advancing =>
      obtain rfl := Option.some.inj h
      cases htask
      rfl
  | group =>
      simp only [monitorStep] at h
      split at h <;> (obtain rfl := Option.some.inj h; cases htask; rfl)
  | replica =>
      simp only [monitorStep] at h
      split at h
      · split at h <;> (obtain rfl := Option.some.inj h; cases htask; rfl)
      · obtain rfl := Option.some.inj h
        cases htask
        rfl
  | release =>
      obtain rfl := Option.some.inj h
      cases htask

/-- The lock holder goes on with the update it has begun. -/
theorem managerStep_monitoring
    {m : MonitorUpdate} {stage : MonitorStage}
    (hstep : s.managerStep = some t)
    (htask : t.task = .monitoring m stage) :
    ∃ stage', s.task = .monitoring m stage' := by
  unfold managerStep at hstep
  split at hstep
  · cases hstep
  · obtain rfl := Option.some.inj hstep
    unfold scanWriter at htask
    split at htask <;> cases htask
  · obtain rfl := Option.some.inj hstep
    cases htask
  · obtain rfl := Option.some.inj hstep
    cases htask
  · exact absurd htask (refreshStep_not_monitoring hstep)
  · rename_i m' stage' htask'
    obtain rfl := monitorStep_monitoring hstep htask
    exact ⟨stage', htask'⟩

theorem writerEpoch_of_monitoring
    {e : EpochEvent} {m : MonitorUpdate} {stage : MonitorStage}
    (hstep : s.step e = some t)
    (htask : s.task = .monitoring m stage)
    (w : Nat) :
    (t.repl w).writerEpoch = (s.repl w).writerEpoch := by
  by_contra hnew
  obtain ⟨r, next, hrefresh, -⟩ := step_writerEpoch hstep hnew
  rw [htask] at hrefresh
  cases hrefresh

end LsnCaches

namespace MonitoredCaches

variable {s t : MonitoredCaches}

/-! ## Every step -/

/-- Every position so far was stored in the epoch it was observed in, and the call
that is under way will do the same. -/
structure FreshInv (s : MonitoredCaches) : Prop where
  stored : ∀ store ∈ s.stores, store.observed = store.epoch
  current : ∀ m stage, s.caches.task = .monitoring m stage → ∃ call, s.call = some call ∧
    ∀ w, m.writer = some w → s.epochs w = call.result.epochs w

theorem FreshInv.storesNow
    (h : s.FreshInv) :
    ∀ store ∈ s.storesNow, store.observed = store.epoch := by
  intro store hstore
  unfold MonitoredCaches.storesNow at hstore
  split at hstore
  · rename_i call m stage hcall htask
    obtain ⟨call', hcall', hepoch⟩ := h.current m stage htask
    obtain rfl : call = call' := Option.some.inj (hcall.symm.trans hcall')
    cases stage with
    | advancing | group =>
        obtain ⟨w, hw, rfl⟩ := List.mem_map.mp hstore
        exact (hepoch w (Option.mem_toList.mp hw)).symm
    | replica =>
        simp only [MonitorUpdate.storesOf] at hstore
        split at hstore
        · obtain ⟨w, hw, rfl⟩ := List.mem_map.mp hstore
          exact (hepoch w (Option.mem_toList.mp hw)).symm
        · cases hstore
    | guarding | release =>
        cases hstore
  · cases hstore

/-- A step of the caches that goes on with the update, or is none of its business. -/
theorem FreshInv.ofCaches
    {e : EpochEvent} {caches : LsnCaches} {hostgroups : List Nat} {stores : List MonitorStore}
    (h : s.FreshInv)
    (hstep : s.caches.step e = some caches)
    (hback : ∀ m stage, caches.task = .monitoring m stage →
      ∃ stage', s.caches.task = .monitoring m stage')
    (hstores : ∀ store ∈ stores, store.observed = store.epoch) :
    FreshInv { s with caches := caches, hostgroups := hostgroups, stores := stores } where
  stored := hstores
  current := by
    intro m stage htask
    obtain ⟨stage', htask'⟩ := hback m stage htask
    obtain ⟨call, hcall, hepoch⟩ := h.current m stage' htask'
    refine ⟨call, hcall, fun w hw => ?_⟩
    rw [← hepoch w hw]
    exact LsnCaches.writerEpoch_of_monitoring hstep htask' w

theorem FreshInv.caches
    {e : EpochEvent}
    (h : s.FreshInv)
    (hstep : s.step (.caches e) = some t) :
    t.FreshInv := by
  cases e with
  | managerStep =>
      simp only [MonitoredCaches.step, Option.map_eq_some_iff] at hstep
      obtain ⟨caches, hstep, rfl⟩ := hstep
      refine h.ofCaches (e := .managerStep) hstep
        (fun m stage htask => LsnCaches.managerStep_monitoring hstep htask) ?_
      intro store hstore
      rcases List.mem_append.mp hstore with hnow | hold
      · exact h.storesNow store hnow
      · exact h.stored store hold
  | monitor hid srv lsn isReader now =>
      cases hstep
  | _ =>
      simp only [MonitoredCaches.step] at hstep
      obtain ⟨-, hstep⟩ := Option.ite_none_left_eq_some.mp hstep
      obtain ⟨caches, hcaches, rfl⟩ := Option.map_eq_some_iff.mp hstep
      refine h.ofCaches hcaches (fun m stage htask => ⟨stage, ?_⟩) h.stored
      exact LsnCaches.step_monitoring hcaches (by simp) (by simp) htask

theorem FreshInv.applyNext
    (h : s.FreshInv)
    (hfresh : s.stale .applyNext = false)
    (hstep : s.step .applyNext = some t) :
    t.FreshInv := by
  simp only [MonitoredCaches.step] at hstep
  split at hstep
  · rename_i result hid srv rest now hcall
    obtain ⟨hidle, hstep⟩ := Option.ite_none_left_eq_some.mp hstep
    have hnot : s.caches.task = .idle := LsnCaches.eq_idle_of_isIdle (by simpa using hidle)
    split at hstep
    · obtain rfl := Option.some.inj hstep
      refine ⟨h.stored, fun m stage htask => ?_⟩
      rw [show s.caches.task = _ from htask] at hnot
      cases hnot
    · rename_i honline
      obtain ⟨caches, hmonitor, rfl⟩ := Option.map_eq_some_iff.mp hstep
      obtain ⟨-, hmonitor⟩ := Option.ite_none_right_eq_some.mp hmonitor
      obtain rfl := Option.some.inj hmonitor
      refine ⟨h.stored, fun m stage htask => ⟨_, rfl, fun w hw => ?_⟩⟩
      cases htask
      simp only [stale, hcall, not_not.mp honline, decide_true, Bool.true_and,
        show s.caches.monitorWriter hid = some w from hw, Option.any_some, decide_eq_false_iff_not,
        not_not] at hfresh
      exact hfresh
  · cases hstep

theorem FreshInv.freshStep
    {e : MonitorEvent}
    (h : s.FreshInv)
    (hstep : s.freshStep e = some t) :
    t.FreshInv := by
  obtain ⟨hfresh, hstep⟩ := Option.ite_none_left_eq_some.mp hstep
  cases e with
  | caches e =>
      exact h.caches hstep
  | observe address port lsn nodeType =>
      obtain rfl := Option.some.inj hstep
      exact ⟨h.stored, h.current⟩
  | beginApply k monitorLsnUpdates polardbActive now =>
      simp only [MonitoredCaches.step] at hstep
      split at hstep
      · cases hstep
      · split at hstep
        · obtain rfl := Option.some.inj hstep
          exact ⟨h.stored, h.current⟩
        · obtain ⟨hidle, hstep⟩ := Option.ite_none_left_eq_some.mp hstep
          obtain rfl := Option.some.inj hstep
          simp only [Bool.or_eq_true, not_or, Bool.not_eq_true, Bool.not_eq_false'] at hidle
          refine ⟨h.stored, fun m stage htask => ?_⟩
          rw [show s.caches.task = _ from htask] at hidle
          cases hidle.2
  | applyNext =>
      exact h.applyNext (by simpa using hfresh) hstep
  | endApply =>
      simp only [MonitoredCaches.step] at hstep
      split at hstep
      · obtain ⟨hidle, hstep⟩ := Option.ite_none_right_eq_some.mp hstep
        obtain rfl := Option.some.inj hstep
        refine ⟨h.stored, fun m stage htask => ?_⟩
        rw [show s.caches.task = _ from htask] at hidle
        cases hidle
      · cases hstep

/-! ## A call that comes late -/

theorem stores_of_monitoring
    {m : MonitorUpdate} {call : MonitorCall} {w : Nat}
    (htask : s.caches.task = .monitoring m .guarding)
    (hcall : s.call = some call)
    (hw : m.writer = some w)
    (hfree : (s.caches.server m.srv).cacheGuard = none) :
    ∃ u, Run (fun s e t => step s e = some t) s [.caches .managerStep, .caches .managerStep] u ∧
      ⟨.server m.srv, w, m.lsn, s.epochs w, call.result.epochs w⟩ ∈ u.stores := by
  obtain ⟨a, hstepA, htaskA, hcallA, hreplA⟩ : ∃ a, s.step (.caches .managerStep) = some a ∧
      a.caches.task = .monitoring m .advancing ∧ a.call = some call ∧
      a.caches.repl = s.caches.repl := by
    simp only [MonitoredCaches.step, LsnCaches.managerStep, htask, LsnCaches.monitorStep, hfree,
      if_true, Option.map_some]
    exact ⟨_, rfl, rfl, hcall, rfl⟩
  have hstores : a.storesNow =
      [⟨.server m.srv, w, m.lsn, s.epochs w, call.result.epochs w⟩] := by
    simp only [storesNow, hcallA, htaskA, MonitorUpdate.storesOf, hw, Option.toList_some,
      List.map_cons, List.map_nil, epochs, hreplA]
  obtain ⟨u, hstepU, hstoresU⟩ : ∃ u, a.step (.caches .managerStep) = some u ∧
      u.stores = a.storesNow ++ a.stores := by
    simp only [MonitoredCaches.step, LsnCaches.managerStep, htaskA, LsnCaches.monitorStep,
      Option.map_some]
    exact ⟨_, rfl, rfl⟩
  refine ⟨u, (Run.single hstepA).snoc hstepU, ?_⟩
  rw [hstoresU, hstores]
  exact List.mem_cons_self

/-- A call that reaches a server with a stale answer, and can take its guard,
stores the position. -/
theorem stores_of_stale
    {result : HealthResult} {hid srv now : Nat} {rest : List (Nat × Nat)}
    (hcall : s.call = some ⟨result, (hid, srv) :: rest, now⟩)
    (hstale : s.stale .applyNext = true)
    (hstep : s.step .applyNext = some t)
    (hfree : (s.caches.server srv).cacheGuard = none) :
    ∃ u, Run (fun s e t => step s e = some t) s
        [.applyNext, .caches .managerStep, .caches .managerStep] u ∧
      ∃ store ∈ u.stores, store.observed ≠ store.epoch := by
  simp only [stale, hcall, Bool.and_eq_true, decide_eq_true_eq, Option.any_eq_true] at hstale
  obtain ⟨honline, w, hw, hnew⟩ := hstale
  obtain ⟨m, htask, hcallT, hsrv, hwriter, hserver, hrepl⟩ : ∃ m : MonitorUpdate,
      t.caches.task = .monitoring m .guarding ∧ t.call = some ⟨result, rest, now⟩ ∧
      m.srv = srv ∧ m.writer = some w ∧ t.caches.server = s.caches.server ∧
      t.caches.repl = s.caches.repl := by
    simp only [MonitoredCaches.step, hcall] at hstep
    obtain ⟨-, hstep⟩ := Option.ite_none_left_eq_some.mp hstep
    rw [if_neg (not_not.mpr honline)] at hstep
    obtain ⟨caches, hmonitor, rfl⟩ := Option.map_eq_some_iff.mp hstep
    obtain ⟨-, hmonitor⟩ := Option.ite_none_right_eq_some.mp hmonitor
    obtain rfl := Option.some.inj hmonitor
    exact ⟨_, rfl, rfl, rfl, hw, rfl, rfl⟩
  obtain ⟨u, hrun, hstore⟩ := stores_of_monitoring htask hcallT hwriter
    (by rw [hserver, hsrv, hfree])
  refine ⟨u, (Run.single hstep).append hrun, _, hstore, ?_⟩
  simp only [epochs, hrepl]
  exact Ne.symm hnew

/-- Runs all of whose steps meet the condition. -/
def FreshRun (workers : Nat) (ls : List MonitorEvent) (t : MonitoredCaches) : Prop :=
  Run (fun s e t => freshStep s e = some t) { caches := { workers } } ls t

end MonitoredCaches

open MonitoredCaches in
/-- In a run in which no call reaches a server with a stale answer, every position
is stored in the epoch it was observed in.  Where a call does reach one, and the
guard of the server is free, the position is stored in the new epoch. -/
theorem monitor_epoch_isolation
    {workers : Nat} {ls : List MonitorEvent} {s : MonitoredCaches}
    (hrun : FreshRun workers ls s) :
    (∀ store ∈ s.stores, store.observed = store.epoch) ∧
      ∀ result hid srv rest now t, s.call = some ⟨result, (hid, srv) :: rest, now⟩ →
        s.stale .applyNext = true → s.step .applyNext = some t →
        (s.caches.server srv).cacheGuard = none →
        ∃ ms u, Run (fun s e t => MonitoredCaches.step s e = some t) s ms u ∧
          ∃ store ∈ u.stores, store.observed ≠ store.epoch := by
  have hinv : s.FreshInv := Run.invariant (I := FreshInv) hrun
    ⟨by simp, by simp⟩ (fun h hstep => h.freshStep hstep)
  refine ⟨hinv.stored, ?_⟩
  intro result hid srv rest now t hcall hstale hstep hfree
  obtain ⟨u, hrun, hstore⟩ := stores_of_stale hcall hstale hstep hfree
  exact ⟨_, u, hrun, hstore⟩

/-- A pair is loaded, and the answer of its reader is applied. -/
def monitoredPair : List MonitorEvent :=
  [.caches (.addServer 1 ['w'] 5432), .caches (.addServer 2 ['r'] 5432),
    .caches (.reload [⟨1, 2, true⟩] [1]), .caches .managerStep, .caches .managerStep,
    .observe ['r'] 5432 100 .replica, .beginApply 0 true true 7, .applyNext,
    .caches .managerStep, .caches .managerStep, .caches .managerStep, .caches .managerStep,
    .caches .managerStep, .endApply]

theorem monitor_epoch_isolation_pair :
    ∃ s, MonitoredCaches.FreshRun 0 monitoredPair s ∧
      s.stores.map MonitorStore.cell = [.replica, .group, .server 1] ∧
      ∀ store ∈ s.stores, store.observed = store.epoch := by
  have heval : (monitoredPair.foldlM MonitoredCaches.freshStep
      { caches := { workers := 0 } }).map (fun s => s.stores.map MonitorStore.cell) =
      some [.replica, .group, .server 1] := by decide
  obtain ⟨s, hs, heq⟩ := Option.map_eq_some_iff.mp heval
  have hrun : MonitoredCaches.FreshRun 0 monitoredPair s := Run.of_foldlM _ hs
  exact ⟨s, hrun, heq, (monitor_epoch_isolation hrun).1⟩

/-- The same, but another writer appears between the answer and the call, and its
epoch begins. -/
def failoverDuringCheck : List MonitorEvent :=
  [.caches (.addServer 1 ['w'] 5432), .caches (.addServer 2 ['r'] 5432),
    .caches (.reload [⟨1, 2, true⟩] [1]), .caches .managerStep, .caches .managerStep,
    .observe ['r'] 5432 100 .replica,
    .caches (.addServer 1 ['x'] 5432), .caches (.reload [⟨1, 2, true⟩] [1])] ++
  List.replicate 17 (.caches .managerStep) ++
  [.beginApply 0 true true 7, .applyNext,
    .caches .managerStep, .caches .managerStep, .caches .managerStep, .caches .managerStep,
    .caches .managerStep, .endApply]

theorem monitor_stores_old_epoch :
    ∃ s, Run (fun s e t => MonitoredCaches.step s e = some t) { caches := { workers := 0 } }
        failoverDuringCheck s ∧
      (s.caches.repl 1).writerEpoch = 1 ∧ (s.caches.server 1).currentLsn = 100 ∧
      (s.caches.repl 1).groupLsn = 100 ∧ (s.caches.repl 1).maxReplicaReplayLsn = 100 ∧
      s.stores = [⟨.replica, 1, 100, 1, 0⟩, ⟨.group, 1, 100, 1, 0⟩, ⟨.server 1, 1, 100, 1, 0⟩] := by
  have heval : (failoverDuringCheck.foldlM MonitoredCaches.step { caches := { workers := 0 } }).map
      (fun s => ((s.caches.repl 1).writerEpoch, (s.caches.server 1).currentLsn,
        (s.caches.repl 1).groupLsn, (s.caches.repl 1).maxReplicaReplayLsn, s.stores)) =
      some (1, 100, 100, 100,
        [⟨.replica, 1, 100, 1, 0⟩, ⟨.group, 1, 100, 1, 0⟩, ⟨.server 1, 1, 100, 1, 0⟩]) := by
    decide
  obtain ⟨s, hs, heq⟩ := Option.map_eq_some_iff.mp heval
  simp only [Prod.mk.injEq] at heq
  exact ⟨s, Run.of_foldlM _ hs, heq⟩

end PolarProxy
