import PolarProxy.WriterEpoch

/-!
# The invariant of the LSN caches

A worker that has checked the epoch under the guard of its server stores a
position to the server and to the group.  It is safe because the guard is one a
reset has to take first; so the invariant ties every stored position, and every
position about to be stored, to the current scope of a writer its server serves.

**Results.** `LsnCaches.Inv`, `Core.quiet`, `TaskInv.frame`, `Inv.acceptStep`, `Inv.readStep`.
-/

namespace PolarProxy

open Transition

namespace LsnCaches

/-! ## The invariant -/

/-- A hostgroup a PolarDB row has ever put under a writer. -/
def Serves (s : LsnCaches) (w hg : Nat) : Prop :=
  hg = w ∨ hg ∈ (s.repl w).pastReaders

end LsnCaches

def AcceptStage.HoldsGuard : AcceptStage → Prop
  | .scoped | .tracked => False
  | _ => True

/-- The call has checked the epoch under the guard and will store. -/
def AcceptStage.Stores : AcceptStage → Prop
  | .validated | .advanced => True
  | _ => False

theorem AcceptStage.Stores.holdsGuard
    {stage : AcceptStage}
    (h : stage.Stores) :
    stage.HoldsGuard := by
  cases stage <;> first | exact h | trivial

namespace LsnCaches

structure TopologyInv (s : LsnCaches) : Prop where
  home : ∀ srv a b, srv ∈ s.hostgroup a → srv ∈ s.hostgroup b → a = b
  allocated : ∀ hg, ∀ srv ∈ s.hostgroup hg, srv < s.nextServer
  entries : ∀ e ∈ s.published, ∀ hg w, e hg = some w → s.Serves w hg

structure CallsInv (s : LsnCaches) : Prop where
  worker : ∀ i c, s.calls i = some c → i < s.workers
  home : ∀ i c, s.calls i = some c → c.srv ∈ s.hostgroup c.hostgroup
  serves : ∀ i c, s.calls i = some c → s.Serves c.writer c.hostgroup
  held : ∀ i c, s.calls i = some c → c.stage.HoldsGuard →
    (s.server c.srv).cacheGuard = some (.worker i)
  scope : ∀ i c, s.calls i = some c → c.stage.Stores → c.scope = s.currentScope c.writer

/-- Every stored request position carries a current scope. -/
structure CellsInv (s : LsnCaches) : Prop where
  group : ∀ w, ∀ sc ∈ (s.repl w).groupScopes, sc = s.currentScope w
  server : ∀ hg, ∀ srv ∈ s.hostgroup hg, ∀ sc ∈ (s.server srv).rfqScopes,
    ∃ w, s.Serves w hg ∧ sc = s.currentScope w

/-- What a read of the replica maximum knows so far. -/
def ReadOk (s : LsnCaches) (r : ReplicaRead) : ReadStage → Prop
  | .started => True
  | .checked => r.scope.epoch ≤ (s.repl r.writer).writerEpoch
  | .loaded lsn => ∃ e, r.scope.epoch ≤ e ∧ e ≤ (s.repl r.writer).writerEpoch ∧
      (lsn = 0 ∨ (r.writer, e, lsn) ∈ s.replayLog)

structure ReplayInv (s : LsnCaches) : Prop where
  stored : ∀ w, (s.repl w).maxReplicaReplayLsn = 0 ∨
    (w, (s.repl w).writerEpoch, (s.repl w).maxReplicaReplayLsn) ∈ s.replayLog
  reads : ∀ j r, s.reads j = some r → r.scope.hg.toNat = r.writer ∧ s.ReadOk r r.stage
  answers : ∀ a ∈ s.answers, a.2 = 0 ∨ (a.1.hg.toNat, a.1.epoch, a.2) ∈ s.replayLog

/-- Everything but the holder of the manager's write lock. -/
structure Core (s : LsnCaches) : Prop where
  topology : s.TopologyInv
  calls : s.CallsInv
  cells : s.CellsInv
  replay : s.ReplayInv

/-- The manager holds the guards of these servers. -/
def Guarded (s : LsnCaches) (servers : List Nat) : Prop :=
  ∀ srv ∈ servers, (s.server srv).cacheGuard = some .manager

def GroupCleared (s : LsnCaches) (w : Nat) : Prop :=
  (s.repl w).groupLsn = 0 ∧ (s.repl w).groupScopes = []

def ServerCleared (s : LsnCaches) (srv : Nat) : Prop :=
  (s.server srv).currentLsn = 0 ∧ (s.server srv).rfqScopes = []

/-- A refresh guards what it clears, and that is every server of the group. -/
structure Covers (s : LsnCaches) (r : Refresh) : Prop where
  nodup : r.cacheServers.Nodup
  cleared : ∀ srv, srv ∈ r.cacheServers ↔ srv ∈ s.clearedServers r.writer
  served : ∀ hg, s.Serves r.writer hg → ∀ srv ∈ s.hostgroup hg, srv ∈ r.cacheServers

def StageInv (s : LsnCaches) (r : Refresh) : RefreshStage → Prop
  | .guarding pending =>
      ∀ srv ∈ r.cacheServers, srv ∈ pending ∨ (s.server srv).cacheGuard = some .manager
  | .clearGroup => s.Guarded r.cacheServers
  | .clearReplica => s.Guarded r.cacheServers ∧ s.GroupCleared r.writer
  | .clearServers pending =>
      s.Guarded r.cacheServers ∧ s.GroupCleared r.writer ∧
        (s.repl r.writer).maxReplicaReplayLsn = 0 ∧
        ∀ srv ∈ s.clearedServers r.writer, srv ∈ pending ∨ s.ServerCleared srv
  | .bump =>
      s.Guarded r.cacheServers ∧ s.GroupCleared r.writer ∧
        (s.repl r.writer).maxReplicaReplayLsn = 0 ∧
        ∀ srv ∈ s.clearedServers r.writer, s.ServerCleared srv
  | .release pending => pending.Nodup ∧ s.Guarded pending

def NextInv (s : LsnCaches) (next : Option TopologyEntries) : Prop :=
  ∀ e, next = some e → ∀ hg w, e hg = some w → s.Serves w hg

def TaskInv (s : LsnCaches) : ManagerTask → Prop
  | .idle => True
  | .scanning _ next => s.NextInv next
  | .refreshing r stage next => s.Covers r ∧ s.StageInv r stage ∧ s.NextInv next
  | .monitoring m stage => stage = .guarding ∨ (s.server m.srv).cacheGuard = some .manager

structure Inv (s : LsnCaches) : Prop where
  core : s.Core
  task : s.TaskInv s.task

variable {s t : LsnCaches}

/-! ## Frames -/

theorem ReadOk.mono
    {r : ReplicaRead} {stage : ReadStage}
    (h : s.ReadOk r stage)
    (hepoch : (s.repl r.writer).writerEpoch ≤ (t.repl r.writer).writerEpoch)
    (hlog : s.replayLog ⊆ t.replayLog) :
    t.ReadOk r stage := by
  cases stage with
  | started =>
      trivial
  | checked =>
      exact le_trans h hepoch
  | loaded lsn =>
      obtain ⟨e, hle, hle', hstored⟩ := h
      exact ⟨e, hle, hle'.trans hepoch, hstored.imp id fun hmem => hlog hmem⟩

/-- A step that moves no call and no read, keeps the guards of the workers, and
adds no request position to a cell. -/
structure Quiet (s t : LsnCaches) : Prop where
  workers : t.workers = s.workers
  hostgroup : t.hostgroup = s.hostgroup
  nextServer : t.nextServer = s.nextServer
  published : ∀ e ∈ t.published, e ∈ s.published ∨ ∀ hg w, e hg = some w → t.Serves w hg
  calls : t.calls = s.calls
  reads : t.reads = s.reads
  replayLog : s.replayLog ⊆ t.replayLog
  answers : t.answers = s.answers
  epoch : ∀ w, (t.repl w).writerEpoch = (s.repl w).writerEpoch
  past : ∀ w, (s.repl w).pastReaders ⊆ (t.repl w).pastReaders
  groupScopes : ∀ w, (t.repl w).groupScopes ⊆ (s.repl w).groupScopes
  replica : ∀ w, (t.repl w).maxReplicaReplayLsn = (s.repl w).maxReplicaReplayLsn ∨
    (t.repl w).maxReplicaReplayLsn = 0 ∨
    (w, (t.repl w).writerEpoch, (t.repl w).maxReplicaReplayLsn) ∈ t.replayLog
  rfqScopes : ∀ srv, (t.server srv).rfqScopes ⊆ (s.server srv).rfqScopes
  held : ∀ srv i, (s.server srv).cacheGuard = some (.worker i) →
    (t.server srv).cacheGuard = some (.worker i)

theorem Quiet.serves
    (q : Quiet s t) {w hg : Nat} (h : s.Serves w hg) :
    t.Serves w hg :=
  h.imp id fun hmem => q.past w hmem

theorem Quiet.currentScope
    (q : Quiet s t) (w : Nat) :
    t.currentScope w = s.currentScope w := by
  unfold LsnCaches.currentScope
  rw [q.epoch w]

theorem Core.quiet
    (h : s.Core)
    (q : Quiet s t) :
    t.Core := by
  refine ⟨⟨?_, ?_, ?_⟩, ⟨?_, ?_, ?_, ?_, ?_⟩, ⟨?_, ?_⟩, ⟨?_, ?_, ?_⟩⟩
  · rw [q.hostgroup]
    exact h.topology.home
  · rw [q.hostgroup, q.nextServer]
    exact h.topology.allocated
  · intro e he hg w hw
    rcases q.published e he with hold | hnew
    · exact q.serves (h.topology.entries e hold hg w hw)
    · exact hnew hg w hw
  · rw [q.calls, q.workers]
    exact h.calls.worker
  · rw [q.calls, q.hostgroup]
    exact h.calls.home
  · rw [q.calls]
    exact fun i c hc => q.serves (h.calls.serves i c hc)
  · rw [q.calls]
    exact fun i c hc hstage => q.held c.srv i (h.calls.held i c hc hstage)
  · rw [q.calls]
    intro i c hc hstage
    rw [q.currentScope]
    exact h.calls.scope i c hc hstage
  · intro w sc hsc
    rw [q.currentScope]
    exact h.cells.group w sc (q.groupScopes w hsc)
  · rw [q.hostgroup]
    intro hg srv hsrv sc hsc
    obtain ⟨w, hw, heq⟩ := h.cells.server hg srv hsrv sc (q.rfqScopes srv hsc)
    exact ⟨w, q.serves hw, by rw [q.currentScope, heq]⟩
  · intro w
    rcases q.replica w with hsame | hzero | hnew
    · rw [hsame, q.epoch w]
      exact (h.replay.stored w).imp id fun hmem => q.replayLog hmem
    · exact Or.inl hzero
    · exact Or.inr hnew
  · rw [q.reads]
    intro j r hr
    obtain ⟨hhg, hok⟩ := h.replay.reads j r hr
    exact ⟨hhg, hok.mono (q.epoch r.writer).ge q.replayLog⟩
  · rw [q.answers]
    exact fun a ha => (h.replay.answers a ha).imp id fun hmem => q.replayLog hmem

/-- What the lock holder relies on, under a step of somebody else: servers under
its guard stay as they are, and so does a group whose servers it guards. -/
theorem TaskInv.frame
    {task : ManagerTask}
    (h : s.TaskInv task)
    (hhostgroup : t.hostgroup = s.hostgroup)
    (hpast : ∀ w, (t.repl w).pastReaders = (s.repl w).pastReaders)
    (hreader : ∀ w, (t.repl w).readerHostgroup = (s.repl w).readerHostgroup)
    (hreplica : ∀ w, (t.repl w).maxReplicaReplayLsn = (s.repl w).maxReplicaReplayLsn)
    (hserver : ∀ srv, (s.server srv).cacheGuard = some .manager →
      (t.server srv).cacheGuard = some .manager ∧
        (t.server srv).currentLsn = (s.server srv).currentLsn ∧
        (t.server srv).rfqScopes = (s.server srv).rfqScopes)
    (hgroup : ∀ w, ((t.repl w).groupLsn = (s.repl w).groupLsn ∧
        (t.repl w).groupScopes = (s.repl w).groupScopes) ∨
      ∃ hg srv, s.Serves w hg ∧ srv ∈ s.hostgroup hg ∧
        (s.server srv).cacheGuard ≠ some .manager) :
    t.TaskInv task := by
  have hserves : ∀ w hg, t.Serves w hg ↔ s.Serves w hg := by
    intro w hg
    unfold Serves
    rw [hpast w]
  have hnext : ∀ next, s.NextInv next → t.NextInv next :=
    fun next hn e he hg w hw => (hserves w hg).mpr (hn e he hg w hw)
  cases task with
  | idle =>
      trivial
  | scanning todo next =>
      exact hnext next h
  | monitoring m stage =>
      exact h.imp id fun hguard => (hserver m.srv hguard).1
  | refreshing r stage next =>
      obtain ⟨hcovers, hstage, hn⟩ := h
      have hcleared : t.clearedServers r.writer = s.clearedServers r.writer := by
        unfold clearedServers
        rw [hhostgroup, hreader r.writer]
      have hguarded : ∀ l, s.Guarded l → t.Guarded l :=
        fun l hl srv hsrv => (hserver srv (hl srv hsrv)).1
      -- with every server of the group guarded, nobody stores to the group
      have hgroupCleared : s.Guarded r.cacheServers → s.GroupCleared r.writer →
          t.GroupCleared r.writer := by
        rintro hall ⟨hlsn, hscopes⟩
        rcases hgroup r.writer with ⟨hlsn', hscopes'⟩ | ⟨hg, srv, hserve, hsrv, hfree⟩
        · exact ⟨hlsn'.trans hlsn, hscopes'.trans hscopes⟩
        · exact absurd (hall srv (hcovers.served hg hserve srv hsrv)) hfree
      have hserverCleared : s.Guarded r.cacheServers → ∀ srv ∈ s.clearedServers r.writer,
          s.ServerCleared srv → t.ServerCleared srv := by
        rintro hall srv hsrv ⟨hlsn, hscopes⟩
        obtain ⟨-, hlsn', hscopes'⟩ := hserver srv (hall srv ((hcovers.cleared srv).mpr hsrv))
        exact ⟨hlsn'.trans hlsn, hscopes'.trans hscopes⟩
      refine ⟨⟨hcovers.nodup, ?_, ?_⟩, ?_, hnext next hn⟩
      · rw [hcleared]
        exact hcovers.cleared
      · rw [hhostgroup]
        exact fun hg hserve => hcovers.served hg ((hserves _ _).mp hserve)
      · cases stage with
        | guarding pending =>
            exact fun srv hsrv => (hstage srv hsrv).imp id fun hg => (hserver srv hg).1
        | clearGroup =>
            exact hguarded _ hstage
        | clearReplica =>
            exact ⟨hguarded _ hstage.1, hgroupCleared hstage.1 hstage.2⟩
        | clearServers pending =>
            obtain ⟨hall, hg, hmax, hservers⟩ := hstage
            refine ⟨hguarded _ hall, hgroupCleared hall hg, (hreplica _).trans hmax, ?_⟩
            rw [hcleared]
            exact fun srv hsrv => (hservers srv hsrv).imp id (hserverCleared hall srv hsrv)
        | bump =>
            obtain ⟨hall, hg, hmax, hservers⟩ := hstage
            refine ⟨hguarded _ hall, hgroupCleared hall hg, (hreplica _).trans hmax, ?_⟩
            rw [hcleared]
            exact fun srv hsrv => hserverCleared hall srv hsrv (hservers srv hsrv)
        | release pending =>
            exact ⟨hstage.1, hguarded _ hstage.2⟩

/-! ## Workers -/

theorem CallsInv.setCall
    {i : Nat} (next : Option AcceptCall)
    (hother : ∀ j c, j ≠ i → s.calls j = some c → c.stage.HoldsGuard →
      (t.server c.srv).cacheGuard = some (.worker j))
    (h : s.CallsInv)
    (hcalls : t.calls = Function.update s.calls i next)
    (hworkers : t.workers = s.workers)
    (hhostgroup : t.hostgroup = s.hostgroup)
    (hserves : ∀ w hg, s.Serves w hg → t.Serves w hg)
    (hscope : ∀ w, t.currentScope w = s.currentScope w)
    (hnext : ∀ c, next = some c → i < s.workers ∧ c.srv ∈ s.hostgroup c.hostgroup ∧
      s.Serves c.writer c.hostgroup ∧
      (c.stage.HoldsGuard → (t.server c.srv).cacheGuard = some (.worker i)) ∧
      (c.stage.Stores → c.scope = s.currentScope c.writer)) :
    t.CallsInv := by
  have hcase : ∀ j c, t.calls j = some c → (j = i ∧ next = some c) ∨ (j ≠ i ∧ s.calls j = some c) := by
    intro j c hc
    rw [hcalls, Function.update_apply] at hc
    split at hc
    · exact Or.inl ⟨‹_›, hc⟩
    · exact Or.inr ⟨‹_›, hc⟩
  refine ⟨?_, ?_, ?_, ?_, ?_⟩
  · intro j c hc
    rw [hworkers]
    rcases hcase j c hc with ⟨rfl, hn⟩ | ⟨-, hold⟩
    · exact (hnext c hn).1
    · exact h.worker j c hold
  · intro j c hc
    rw [hhostgroup]
    rcases hcase j c hc with ⟨rfl, hn⟩ | ⟨-, hold⟩
    · exact (hnext c hn).2.1
    · exact h.home j c hold
  · intro j c hc
    refine hserves _ _ ?_
    rcases hcase j c hc with ⟨rfl, hn⟩ | ⟨-, hold⟩
    · exact (hnext c hn).2.2.1
    · exact h.serves j c hold
  · intro j c hc hstage
    rcases hcase j c hc with ⟨rfl, hn⟩ | ⟨hne, hold⟩
    · exact (hnext c hn).2.2.2.1 hstage
    · exact hother j c hne hold hstage
  · intro j c hc hstage
    rw [hscope]
    rcases hcase j c hc with ⟨rfl, hn⟩ | ⟨-, hold⟩
    · exact (hnext c hn).2.2.2.2 hstage
    · exact h.scope j c hold hstage

theorem Inv.moveCall
    {i : Nat} {next : Option AcceptCall}
    (h : s.Inv)
    (hnext : ∀ c, next = some c → i < s.workers ∧ c.srv ∈ s.hostgroup c.hostgroup ∧
      s.Serves c.writer c.hostgroup ∧
      (c.stage.HoldsGuard → (s.server c.srv).cacheGuard = some (.worker i)) ∧
      (c.stage.Stores → c.scope = s.currentScope c.writer)) :
    (s.setCall i next).Inv := by
  refine ⟨⟨?_, ?_, ?_, ?_⟩, ?_⟩
  · exact ⟨h.core.topology.home, h.core.topology.allocated, h.core.topology.entries⟩
  · exact CallsInv.setCall next (fun j c _ hc => h.core.calls.held j c hc) h.core.calls rfl rfl rfl
      (fun _ _ hs => hs) (fun _ => rfl) hnext
  · exact ⟨h.core.cells.group, h.core.cells.server⟩
  · exact ⟨h.core.replay.stored, h.core.replay.reads, h.core.replay.answers⟩
  · exact h.task.frame rfl (fun _ => rfl) (fun _ => rfl) (fun _ => rfl)
      (fun _ hg => ⟨hg, rfl, rfl⟩) fun _ => Or.inl ⟨rfl, rfl⟩

theorem server_setServer_self
    (srv : Nat) (x : LsnServer) :
    (s.setServer srv x).server srv = x :=
  Function.update_self ..

theorem server_setServer_ne
    {srv srv' : Nat} (x : LsnServer) (h : srv' ≠ srv) :
    (s.setServer srv x).server srv' = s.server srv' :=
  Function.update_of_ne h ..

theorem repl_setRepl_self
    (w : Nat) (c : ReplConfig) :
    (s.setRepl w c).repl w = c :=
  Function.update_self ..

theorem repl_setRepl_ne
    {w w' : Nat} (c : ReplConfig) (h : w' ≠ w) :
    (s.setRepl w c).repl w' = s.repl w' :=
  Function.update_of_ne h ..

theorem server_setServer_field
    {β : Type*} (f : LsnServer → β) {srv : Nat} {x : LsnServer}
    (hx : f x = f (s.server srv)) (srv' : Nat) :
    f ((s.setServer srv x).server srv') = f (s.server srv') := by
  by_cases hsrv : srv' = srv
  · subst hsrv
    rw [server_setServer_self, hx]
  · rw [server_setServer_ne x hsrv]

theorem repl_setRepl_field
    {β : Type*} (f : ReplConfig → β) {w : Nat} {c : ReplConfig}
    (hc : f c = f (s.repl w)) (w' : Nat) :
    f ((s.setRepl w c).repl w') = f (s.repl w') := by
  by_cases hw : w' = w
  · subst hw
    rw [repl_setRepl_self, hc]
  · rw [repl_setRepl_ne c hw]

theorem Inv.changeGuard
    {i srv : Nat} {owner : Option GuardOwner} {next : Option AcceptCall}
    (h : s.Inv)
    (hfree : (s.server srv).cacheGuard = none ∨ (s.server srv).cacheGuard = some (.worker i))
    (hnext : ∀ c, next = some c → i < s.workers ∧ c.srv ∈ s.hostgroup c.hostgroup ∧
      s.Serves c.writer c.hostgroup ∧
      (c.stage.HoldsGuard → c.srv = srv ∧ owner = some (.worker i)) ∧
      (c.stage.Stores → c.scope = s.currentScope c.writer)) :
    ((s.setGuard srv owner).setCall i next).Inv := by
  have hscopes : ∀ srv', ((s.setGuard srv owner).server srv').rfqScopes = (s.server srv').rfqScopes :=
    server_setServer_field LsnServer.rfqScopes rfl
  have hne : ∀ srv' o, (s.server srv').cacheGuard = some o → o ≠ .worker i → srv' ≠ srv := by
    rintro srv' o ho hoi rfl
    rcases hfree with hnone | hworker
    · rw [hnone] at ho
      cases ho
    · exact hoi (Option.some.inj (ho.symm.trans hworker))
  refine ⟨⟨?_, ?_, ?_, ?_⟩, ?_⟩
  · exact ⟨h.core.topology.home, h.core.topology.allocated, h.core.topology.entries⟩
  · refine CallsInv.setCall next ?_ h.core.calls rfl rfl rfl (fun _ _ hs => hs)
      (fun _ => rfl) ?_
    · intro j c hj hc hstage
      have hguard := h.core.calls.held j c hc hstage
      have hsrv : c.srv ≠ srv := hne c.srv _ hguard (by simpa using hj)
      have heq : (s.setGuard srv owner).server c.srv = s.server c.srv := server_setServer_ne _ hsrv
      exact (congrArg LsnServer.cacheGuard heq).trans hguard
    · intro c hc
      obtain ⟨hi, hhome, hserves, hguard, hscope⟩ := hnext c hc
      refine ⟨hi, hhome, hserves, fun hstage => ?_, hscope⟩
      obtain ⟨rfl, rfl⟩ := hguard hstage
      exact congrArg LsnServer.cacheGuard (server_setServer_self (s := s) c.srv _)
  · refine ⟨h.core.cells.group, ?_⟩
    intro hg srv' hsrv' sc hsc
    exact h.core.cells.server hg srv' hsrv' sc (hscopes srv' ▸ hsc)
  · exact ⟨h.core.replay.stored, h.core.replay.reads, h.core.replay.answers⟩
  · refine h.task.frame rfl (fun _ => rfl) (fun _ => rfl) (fun _ => rfl) ?_
      fun _ => Or.inl ⟨rfl, rfl⟩
    intro srv' hguard
    have heq : (s.setGuard srv owner).server srv' = s.server srv' :=
      server_setServer_ne _ (hne srv' _ hguard (by simp))
    exact ⟨(congrArg LsnServer.cacheGuard heq).trans hguard, congrArg LsnServer.currentLsn heq,
      congrArg LsnServer.rfqScopes heq⟩

/-- A worker past its second check stores to the server it guards. -/
theorem Inv.storeServer
    {i now : Nat} {c : AcceptCall}
    (h : s.Inv)
    (hc : s.calls i = some c)
    (hstage : c.stage = .validated) :
    ((s.setServer c.srv
      { (s.server c.srv).advanceLsn c.lsn now with
        rfqScopes := c.scope :: ((s.server c.srv).advanceLsn c.lsn now).rfqScopes }).setCall i
      (some { c with stage := .advanced })).Inv := by
  have hguard := h.core.calls.held i c hc (by rw [hstage]; trivial)
  have hscope := h.core.calls.scope i c hc (by rw [hstage]; trivial)
  generalize hx : { (s.server c.srv).advanceLsn c.lsn now with
    rfqScopes := c.scope :: ((s.server c.srv).advanceLsn c.lsn now).rfqScopes } = x
  have hxguard : x.cacheGuard = (s.server c.srv).cacheGuard := by
    rw [← hx]
    exact LsnServer.advanceLsn_cacheGuard _ _ _
  have hxscopes : x.rfqScopes = c.scope :: (s.server c.srv).rfqScopes := by
    rw [← hx, LsnServer.advanceLsn_rfqScopes]
  have hguards : ∀ srv, ((s.setServer c.srv x).server srv).cacheGuard = (s.server srv).cacheGuard :=
    server_setServer_field LsnServer.cacheGuard hxguard
  refine ⟨⟨?_, ?_, ?_, ?_⟩, ?_⟩
  · exact ⟨h.core.topology.home, h.core.topology.allocated, h.core.topology.entries⟩
  · refine CallsInv.setCall (some { c with stage := .advanced }) ?_ h.core.calls rfl rfl rfl
      (fun _ _ hs => hs) (fun _ => rfl) ?_
    · intro j c' _ hc' hheld
      exact (hguards c'.srv).trans (h.core.calls.held j c' hc' hheld)
    · rintro _ ⟨⟩
      exact ⟨h.core.calls.worker i c hc, h.core.calls.home i c hc, h.core.calls.serves i c hc,
        fun _ => (hguards c.srv).trans hguard, fun _ => hscope⟩
  · refine ⟨h.core.cells.group, ?_⟩
    intro hg srv hsrv sc hsc
    by_cases heq : srv = c.srv
    · subst heq
      have hsc' : sc ∈ ((s.setServer c.srv x).server c.srv).rfqScopes := hsc
      rw [server_setServer_self, hxscopes] at hsc'
      rcases List.mem_cons.mp hsc' with rfl | hold
      · -- the server has one hostgroup, the one the call was made for
        obtain rfl := h.core.topology.home c.srv _ _ hsrv (h.core.calls.home i c hc)
        exact ⟨c.writer, h.core.calls.serves i c hc, hscope⟩
      · exact h.core.cells.server hg c.srv hsrv sc hold
    · have hsc' : sc ∈ ((s.setServer c.srv x).server srv).rfqScopes := hsc
      rw [server_setServer_ne x heq] at hsc'
      exact h.core.cells.server hg srv hsrv sc hsc'
  · exact ⟨h.core.replay.stored, h.core.replay.reads, h.core.replay.answers⟩
  · refine h.task.frame rfl (fun _ => rfl) (fun _ => rfl) (fun _ => rfl) ?_
      fun _ => Or.inl ⟨rfl, rfl⟩
    intro srv hmanager
    have hne : srv ≠ c.srv := by
      rintro rfl
      rw [hguard] at hmanager
      cases hmanager
    have heq : (s.setServer c.srv x).server srv = s.server srv := server_setServer_ne x hne
    exact ⟨(congrArg LsnServer.cacheGuard heq).trans hmanager, congrArg LsnServer.currentLsn heq,
      congrArg LsnServer.rfqScopes heq⟩

/-- It then stores to the group, still under the guard of its server. -/
theorem Inv.storeGroup
    {i : Nat} {c : AcceptCall}
    (h : s.Inv)
    (hc : s.calls i = some c)
    (hstage : c.stage = .advanced) :
    ((s.setRepl c.writer { s.repl c.writer with
        groupLsn := max (s.repl c.writer).groupLsn c.lsn
        groupScopes := c.scope :: (s.repl c.writer).groupScopes }).setCall i
      (some { c with stage := .recorded })).Inv := by
  have hguard := h.core.calls.held i c hc (by rw [hstage]; trivial)
  have hscope := h.core.calls.scope i c hc (by rw [hstage]; trivial)
  generalize hx : { s.repl c.writer with
    groupLsn := max (s.repl c.writer).groupLsn c.lsn
    groupScopes := c.scope :: (s.repl c.writer).groupScopes } = x
  have hepoch : ∀ w, ((s.setRepl c.writer x).repl w).writerEpoch = (s.repl w).writerEpoch :=
    repl_setRepl_field ReplConfig.writerEpoch (by rw [← hx])
  have hpast : ∀ w, ((s.setRepl c.writer x).repl w).pastReaders = (s.repl w).pastReaders :=
    repl_setRepl_field ReplConfig.pastReaders (by rw [← hx])
  have hreader : ∀ w, ((s.setRepl c.writer x).repl w).readerHostgroup = (s.repl w).readerHostgroup :=
    repl_setRepl_field ReplConfig.readerHostgroup (by rw [← hx])
  have hreplica : ∀ w, ((s.setRepl c.writer x).repl w).maxReplicaReplayLsn =
      (s.repl w).maxReplicaReplayLsn :=
    repl_setRepl_field ReplConfig.maxReplicaReplayLsn (by rw [← hx])
  have hcurrent : ∀ w, (s.setRepl c.writer x).currentScope w = s.currentScope w := by
    intro w
    unfold currentScope
    rw [hepoch w]
  have hserves : ∀ w hg, s.Serves w hg → (s.setRepl c.writer x).Serves w hg := by
    intro w hg hs
    exact hs.imp id fun hmem => (hpast w).symm ▸ hmem
  refine ⟨⟨?_, ?_, ?_, ?_⟩, ?_⟩
  · exact ⟨h.core.topology.home, h.core.topology.allocated,
      fun e he hg w hw => hserves w hg (h.core.topology.entries e he hg w hw)⟩
  · refine CallsInv.setCall (some { c with stage := .recorded })
      (fun j c' _ hc' => h.core.calls.held j c' hc') h.core.calls rfl rfl rfl hserves hcurrent ?_
    rintro _ ⟨⟩
    exact ⟨h.core.calls.worker i c hc, h.core.calls.home i c hc, h.core.calls.serves i c hc,
      fun _ => hguard, False.elim⟩
  · refine ⟨?_, ?_⟩
    · intro w sc hsc
      refine Eq.trans ?_ (hcurrent w).symm
      by_cases hw : w = c.writer
      · subst hw
        have hsc' : sc ∈ ((s.setRepl c.writer x).repl c.writer).groupScopes := hsc
        rw [repl_setRepl_self, ← hx] at hsc'
        rcases List.mem_cons.mp hsc' with rfl | hold
        · exact hscope
        · exact h.core.cells.group _ sc hold
      · have hsc' : sc ∈ ((s.setRepl c.writer x).repl w).groupScopes := hsc
        rw [repl_setRepl_ne x hw] at hsc'
        exact h.core.cells.group w sc hsc'
    · intro hg srv hsrv sc hsc
      obtain ⟨w, hw, heq⟩ := h.core.cells.server hg srv hsrv sc hsc
      exact ⟨w, hserves w hg hw, heq.trans (hcurrent w).symm⟩
  · refine ⟨?_, ?_, h.core.replay.answers⟩
    · intro w
      have hstored := h.core.replay.stored w
      rw [← hreplica w, ← hepoch w] at hstored
      exact hstored
    · intro j r hr
      obtain ⟨hhg, hok⟩ := h.core.replay.reads j r hr
      exact ⟨hhg, hok.mono (hepoch r.writer).ge (List.Subset.refl _)⟩
  · refine h.task.frame rfl hpast hreader hreplica (fun _ hg => ⟨hg, rfl, rfl⟩) ?_
    intro w
    by_cases hw : w = c.writer
    · subst hw
      refine Or.inr ⟨c.hostgroup, c.srv, h.core.calls.serves i c hc, h.core.calls.home i c hc, ?_⟩
      rw [hguard]
      simp
    · refine Or.inl ?_
      have heq : (s.setRepl c.writer x).repl w = s.repl w := repl_setRepl_ne x hw
      exact ⟨congrArg ReplConfig.groupLsn heq, congrArg ReplConfig.groupScopes heq⟩

theorem Inv.acceptBegin
    {i srv hg lsn k : Nat} {scope : WriterScope}
    (h : s.Inv)
    (hstep : s.acceptBegin i srv hg lsn scope k = some t) :
    t.Inv := by
  unfold LsnCaches.acceptBegin at hstep
  split at hstep
  · rename_i entries _ hentries
    obtain ⟨⟨hi, hsrv⟩, hstep⟩ := Option.ite_none_right_eq_some.mp hstep
    split at hstep
    · rename_i writer hwriter
      split at hstep
      · obtain rfl := Option.some.inj hstep
        exact h
      · obtain rfl := Option.some.inj hstep
        refine h.moveCall ?_
        rintro _ ⟨⟩
        exact ⟨hi, hsrv, h.core.topology.entries entries (List.mem_of_getElem? hentries) hg writer
          hwriter, False.elim, False.elim⟩
    · obtain rfl := Option.some.inj hstep
      exact h
  · cases hstep

theorem Inv.acceptStep
    {i now : Nat} {c : AcceptCall} {coalesced : Bool}
    (h : s.Inv)
    (hc : s.calls i = some c)
    (hstep : s.acceptStep i c coalesced now = some t) :
    t.Inv := by
  have hworker := h.core.calls.worker i c hc
  have hhome := h.core.calls.home i c hc
  have hserves := h.core.calls.serves i c hc
  have hheld := h.core.calls.held i c hc
  unfold LsnCaches.acceptStep at hstep
  split at hstep
  · -- scoped
    split at hstep
    · obtain rfl := Option.some.inj hstep
      refine h.moveCall ?_
      rintro _ ⟨⟩
      exact ⟨hworker, hhome, hserves, False.elim, False.elim⟩
    · obtain rfl := Option.some.inj hstep
      exact h.moveCall (by rintro _ ⟨⟩)
  · -- tracked
    obtain ⟨hnone, hstep⟩ := Option.ite_none_right_eq_some.mp hstep
    obtain rfl := Option.some.inj hstep
    refine h.changeGuard (Or.inl hnone) ?_
    rintro _ ⟨⟩
    exact ⟨hworker, hhome, hserves, fun _ => ⟨rfl, rfl⟩, False.elim⟩
  · -- guarded: the second look at the epoch
    rename_i hstage
    have hguard := hheld (by rw [hstage]; trivial)
    split at hstep
    · rename_i hmatch
      obtain rfl := Option.some.inj hstep
      refine h.moveCall ?_
      rintro _ ⟨⟩
      exact ⟨hworker, hhome, hserves, fun _ => hguard, fun _ => hmatch.eq⟩
    · obtain rfl := Option.some.inj hstep
      exact h.changeGuard (Or.inr hguard) (by rintro _ ⟨⟩)
  · -- validated
    rename_i hstage
    obtain rfl := Option.some.inj hstep
    exact h.storeServer hc hstage
  · -- advanced
    rename_i hstage
    obtain rfl := Option.some.inj hstep
    exact h.storeGroup hc hstage
  · -- recorded
    rename_i hstage
    obtain rfl := Option.some.inj hstep
    exact h.changeGuard (Or.inr (hheld (by rw [hstage]; trivial))) (by rintro _ ⟨⟩)

/-! ## Readers of the replica maximum -/

theorem Inv.replay
    {reads : Nat → Option ReplicaRead} {answers : List (WriterScope × Nat)}
    (h : s.Inv)
    (hreads : ∀ j r, reads j = some r → r.scope.hg.toNat = r.writer ∧ s.ReadOk r r.stage)
    (hanswers : ∀ a ∈ answers, a.2 = 0 ∨ (a.1.hg.toNat, a.1.epoch, a.2) ∈ s.replayLog) :
    Inv { s with reads := reads, answers := answers } := by
  refine ⟨⟨?_, ?_, ?_, ?_⟩, ?_⟩
  · exact ⟨h.core.topology.home, h.core.topology.allocated, h.core.topology.entries⟩
  · exact ⟨h.core.calls.worker, h.core.calls.home, h.core.calls.serves, h.core.calls.held,
      h.core.calls.scope⟩
  · exact ⟨h.core.cells.group, h.core.cells.server⟩
  · refine ⟨h.core.replay.stored, fun j r hr => ?_, hanswers⟩
    obtain ⟨hhg, hok⟩ := hreads j r hr
    exact ⟨hhg, hok.mono le_rfl (List.Subset.refl _)⟩
  · exact h.task.frame rfl (fun _ => rfl) (fun _ => rfl) (fun _ => rfl)
      (fun _ hg => ⟨hg, rfl, rfl⟩) fun _ => Or.inl ⟨rfl, rfl⟩

theorem Inv.moveRead
    {j : Nat} {next : Option ReplicaRead} {answers : List (WriterScope × Nat)}
    (h : s.Inv)
    (hnext : ∀ r, next = some r → r.scope.hg.toNat = r.writer ∧ s.ReadOk r r.stage)
    (hanswers : ∀ a ∈ answers, a.2 = 0 ∨ (a.1.hg.toNat, a.1.epoch, a.2) ∈ s.replayLog) :
    Inv { s with reads := Function.update s.reads j next, answers := answers } := by
  refine h.replay ?_ hanswers
  intro k r hr
  rw [Function.update_apply] at hr
  split at hr
  · exact hnext r hr
  · exact h.core.replay.reads k r hr

theorem Inv.readBegin
    {j k : Nat} {scope : WriterScope}
    (h : s.Inv)
    (hown : ∀ e, s.published[k]? = some e → scope.Valid → ∀ w, e scope.hg.toNat = some w →
      w = scope.hg.toNat)
    (hstep : s.readBegin j scope k = some t) :
    t.Inv := by
  unfold LsnCaches.readBegin at hstep
  split at hstep
  · rename_i entries _ hentries
    split at hstep
    · rename_i writer hwriter
      obtain ⟨hvalid, hentry⟩ := Option.ite_none_right_eq_some.mp hwriter
      obtain rfl := Option.some.inj hstep
      refine h.moveRead ?_ h.core.replay.answers
      rintro _ ⟨⟩
      exact ⟨(hown entries hentries hvalid writer hentry).symm, trivial⟩
    · obtain rfl := Option.some.inj hstep
      refine h.replay h.core.replay.reads ?_
      intro a ha
      rcases List.mem_cons.mp ha with rfl | hold
      · exact Or.inl rfl
      · exact h.core.replay.answers a hold
  · cases hstep

theorem Inv.readStep
    {j : Nat} {r : ReplicaRead}
    (h : s.Inv)
    (hr : s.reads j = some r) :
    (s.readStep j r).Inv := by
  obtain ⟨hhg, hok⟩ := h.core.replay.reads j r hr
  have hanswers : ∀ lsn, (lsn = 0 ∨ (r.writer, r.scope.epoch, lsn) ∈ s.replayLog) →
      ∀ a ∈ (r.scope, lsn) :: s.answers,
        a.2 = 0 ∨ (a.1.hg.toNat, a.1.epoch, a.2) ∈ s.replayLog := by
    intro lsn hlsn a ha
    rcases List.mem_cons.mp ha with rfl | hold
    · rw [hhg]
      exact hlsn
    · exact h.core.replay.answers a hold
  simp only [LsnCaches.readStep]
  split
  · -- the first look at the epoch
    split
    · rename_i hepoch
      refine h.moveRead ?_ h.core.replay.answers
      rintro _ ⟨⟩
      exact ⟨hhg, hepoch.ge⟩
    · exact h.moveRead (by rintro _ ⟨⟩) (hanswers 0 (Or.inl rfl))
  · -- the value read belongs to the epoch of this moment
    rename_i hstage
    rw [hstage] at hok
    refine h.moveRead ?_ h.core.replay.answers
    rintro _ ⟨⟩
    exact ⟨hhg, _, hok, le_rfl, h.core.replay.stored r.writer⟩
  · -- the second look: the epoch has not moved in between
    rename_i lsn hstage
    rw [hstage] at hok
    obtain ⟨e, hle, hle', hstored⟩ := hok
    refine h.moveRead (by rintro _ ⟨⟩) (hanswers _ ?_)
    split
    · rename_i hepoch
      obtain rfl : e = r.scope.epoch := by omega
      exact hstored
    · exact Or.inl rfl

end LsnCaches

end PolarProxy
