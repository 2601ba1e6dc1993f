import PolarProxy.EpochInvariant
import Mathlib.Data.List.Nodup

/-!
# The holder of the manager's write lock

Refreshes of the writer epochs, reloads of the replication hostgroups and
monitor results all run under the manager's write lock, so only one of them is
under way.  Most of their steps are quiet; the one that is not is the new epoch.

**Results.** `Inv.refreshStep`, `Inv.monitorStep`, `Quiet.reload`, `Inv.addServer`,
`Inv.purgeServer`.
-/

namespace PolarProxy

open Transition

namespace LsnCaches

variable {s t : LsnCaches}

/-! ## The holder of the write lock -/

/-- A quiet step of the lock holder. -/
theorem Inv.quiet
    (h : s.Inv)
    (q : Quiet s t)
    (htask : t.TaskInv t.task) :
    t.Inv :=
  ⟨h.core.quiet q, htask⟩

variable {next : Option TopologyEntries}

theorem Quiet.nextInv
    (q : Quiet s t)
    (h : s.NextInv next) :
    t.NextInv next :=
  fun e he hg w hw => q.serves (h e he hg w hw)

/-- A quiet step after which the next writer is examined. -/
theorem Inv.scanning
    {todo : List Nat}
    (h : s.Inv)
    (q : Quiet s t)
    (htask : t.task = .scanning todo next)
    (hnext : s.NextInv next) :
    t.Inv := by
  refine ⟨h.core.quiet q, ?_⟩
  rw [htask]
  exact q.nextInv hnext

theorem Quiet.ofTask
    (task : ManagerTask) :
    Quiet s { s with task := task } where
  workers := rfl
  hostgroup := rfl
  nextServer := rfl
  published _ := Or.inl
  calls := rfl
  reads := rfl
  replayLog := List.Subset.refl _
  answers := rfl
  epoch _ := rfl
  past _ := List.Subset.refl _
  groupScopes _ := List.Subset.refl _
  replica _ := Or.inl rfl
  rfqScopes _ := List.Subset.refl _
  held _ _ h := h

variable {srv : Nat}

theorem Quiet.ofServer
    {x : LsnServer} (task : ManagerTask)
    (hscopes : x.rfqScopes ⊆ (s.server srv).rfqScopes)
    (hheld : ∀ i, (s.server srv).cacheGuard = some (.worker i) → x.cacheGuard = some (.worker i)) :
    Quiet s { s.setServer srv x with task := task } where
  workers := rfl
  hostgroup := rfl
  nextServer := rfl
  published _ := Or.inl
  calls := rfl
  reads := rfl
  replayLog := List.Subset.refl _
  answers := rfl
  epoch _ := rfl
  past _ := List.Subset.refl _
  groupScopes _ := List.Subset.refl _
  replica _ := Or.inl rfl
  rfqScopes srv' := by
    change ((s.setServer srv x).server srv').rfqScopes ⊆ _
    by_cases h : srv' = srv
    · subst h
      rw [server_setServer_self]
      exact hscopes
    · rw [server_setServer_ne x h]
      exact List.Subset.refl _
  held srv' i hguard := by
    change ((s.setServer srv x).server srv').cacheGuard = _
    by_cases h : srv' = srv
    · subst h
      rw [server_setServer_self]
      exact hheld i hguard
    · rw [server_setServer_ne x h]
      exact hguard

/-- The cells of one pair change, and a replica position may be recorded. -/
theorem Quiet.ofReplay
    {w : Nat} {c : ReplConfig} {log : List (Nat × Nat × Nat)} (task : ManagerTask)
    (hlog : s.replayLog ⊆ log)
    (hepoch : c.writerEpoch = (s.repl w).writerEpoch)
    (hpast : c.pastReaders = (s.repl w).pastReaders)
    (hscopes : c.groupScopes ⊆ (s.repl w).groupScopes)
    (hreplica : c.maxReplicaReplayLsn = (s.repl w).maxReplicaReplayLsn ∨
      c.maxReplicaReplayLsn = 0 ∨ (w, c.writerEpoch, c.maxReplicaReplayLsn) ∈ log) :
    Quiet s { s.setRepl w c with replayLog := log, task := task } where
  workers := rfl
  hostgroup := rfl
  nextServer := rfl
  published _ := Or.inl
  calls := rfl
  reads := rfl
  replayLog := hlog
  answers := rfl
  epoch := repl_setRepl_field ReplConfig.writerEpoch hepoch
  past w' := (repl_setRepl_field ReplConfig.pastReaders hpast w').symm ▸ List.Subset.refl _
  groupScopes w' := by
    change ((s.setRepl w c).repl w').groupScopes ⊆ _
    by_cases h : w' = w
    · subst h
      rw [repl_setRepl_self]
      exact hscopes
    · rw [repl_setRepl_ne c h]
      exact List.Subset.refl _
  replica w' := by
    change ((s.setRepl w c).repl w').maxReplicaReplayLsn = _ ∨
      ((s.setRepl w c).repl w').maxReplicaReplayLsn = 0 ∨
      (w', ((s.setRepl w c).repl w').writerEpoch,
        ((s.setRepl w c).repl w').maxReplicaReplayLsn) ∈ log
    by_cases h : w' = w
    · subst h
      rw [repl_setRepl_self]
      exact hreplica
    · rw [repl_setRepl_ne c h]
      exact Or.inl rfl
  rfqScopes _ := List.Subset.refl _
  held _ _ h := h

theorem Quiet.ofRepl
    {w : Nat} {c : ReplConfig} (task : ManagerTask)
    (hepoch : c.writerEpoch = (s.repl w).writerEpoch)
    (hpast : c.pastReaders = (s.repl w).pastReaders)
    (hscopes : c.groupScopes ⊆ (s.repl w).groupScopes)
    (hreplica : c.maxReplicaReplayLsn = (s.repl w).maxReplicaReplayLsn ∨ c.maxReplicaReplayLsn = 0) :
    Quiet s { s.setRepl w c with task := task } :=
  Quiet.ofReplay task (List.Subset.refl _) hepoch hpast hscopes (hreplica.imp id Or.inl)

theorem mem_addCacheServers
    {cache servers : List Nat} :
    srv ∈ addCacheServers cache servers ↔ srv ∈ cache ∨ srv ∈ servers := by
  unfold addCacheServers
  induction servers generalizing cache with
  | nil =>
      simp
  | cons x rest ih =>
      rw [List.foldl_cons, ih]
      by_cases hx : x ∈ cache
      · rw [if_pos hx, List.mem_cons]
        constructor
        · exact fun h => h.imp id Or.inr
        · rintro (h | rfl | h)
          · exact Or.inl h
          · exact Or.inl hx
          · exact Or.inr h
      · rw [if_neg hx, List.mem_append, List.mem_singleton, List.mem_cons, or_assoc]

theorem nodup_addCacheServers
    {cache servers : List Nat}
    (h : cache.Nodup) :
    (addCacheServers cache servers).Nodup := by
  unfold addCacheServers
  induction servers generalizing cache with
  | nil =>
      exact h
  | cons x rest ih =>
      rw [List.foldl_cons]
      by_cases hx : x ∈ cache
      · rw [if_pos hx]
        exact ih h
      · rw [if_neg hx]
        refine ih (List.nodup_append.mpr ⟨h, List.nodup_singleton x, ?_⟩)
        rintro a ha b hb rfl
        exact hx (List.mem_singleton.mp hb ▸ ha)

theorem nodup_cacheServersOf
    (w : Nat) :
    (s.cacheServersOf w).Nodup := by
  simp only [cacheServersOf]
  split
  · exact nodup_addCacheServers List.nodup_nil
  · exact nodup_addCacheServers (nodup_addCacheServers List.nodup_nil)

theorem mem_cacheServersOf
    {w srv : Nat} :
    srv ∈ s.cacheServersOf w ↔ srv ∈ s.clearedServers w := by
  simp only [cacheServersOf, clearedServers]
  split
  · simp [mem_addCacheServers]
  · simp [mem_addCacheServers]

theorem Inv.scanWriter
    {w : Nat} {todo : List Nat}
    (h : s.Inv)
    (htask : s.task = .scanning (w :: todo) next)
    (hcovered : s.IdentityChanged w → ∀ hg ∈ (s.repl w).pastReaders, ∀ srv ∈ s.hostgroup hg,
      srv ∈ s.cacheServersOf w) :
    (s.scanWriter w todo next).Inv := by
  have hnext : s.NextInv next := by
    have hinv := h.task
    rw [htask] at hinv
    exact hinv
  unfold LsnCaches.scanWriter
  split
  · rename_i hchanged
    refine h.quiet (Quiet.ofTask _) ⟨⟨nodup_cacheServersOf w, fun srv => mem_cacheServersOf, ?_⟩,
      fun srv hsrv => Or.inl hsrv, hnext⟩
    rintro hg (rfl | hpast) srv hsrv
    · exact mem_cacheServersOf.mpr (List.mem_append_left _ hsrv)
    · exact hcovered hchanged hg hpast srv hsrv
  · simp only
    split
    · exact h.scanning (Quiet.ofRepl _ rfl rfl (List.Subset.refl _) (Or.inl rfl)) rfl hnext
    · exact h.scanning (Quiet.ofRepl _ rfl rfl (List.Subset.refl _) (Or.inl rfl)) rfl hnext

variable {r : Refresh}

/-- A refresh keeps covering its group while only servers and cells change. -/
theorem Covers.frame
    (h : s.Covers r)
    (hhostgroup : t.hostgroup = s.hostgroup)
    (hpast : (t.repl r.writer).pastReaders = (s.repl r.writer).pastReaders)
    (hreader : (t.repl r.writer).readerHostgroup = (s.repl r.writer).readerHostgroup) :
    t.Covers r := by
  refine ⟨h.nodup, ?_, ?_⟩
  · unfold clearedServers
    rw [hhostgroup, hreader]
    exact h.cleared
  · unfold Serves
    rw [hhostgroup, hpast]
    exact h.served

/-- While a refresh holds all its guards, a call that holds one is for another
writer. -/
theorem Covers.writer_ne
    {i : Nat} {c : AcceptCall}
    (hcovers : s.Covers r)
    (hall : s.Guarded r.cacheServers)
    (h : s.CallsInv)
    (hc : s.calls i = some c)
    (hstage : c.stage.HoldsGuard) :
    c.writer ≠ r.writer := by
  intro hw
  have hserve := h.serves i c hc
  rw [hw] at hserve
  have hmanager := hall c.srv (hcovers.served _ hserve c.srv (h.home i c hc))
  rw [h.held i c hc hstage] at hmanager
  cases hmanager

/-- The new epoch: its group was cleared under the guards of all its servers, so
no call is about to store and no cell holds anything of the old one. -/
theorem Inv.bump
    (h : s.Inv)
    (htask : s.task = .refreshing r .bump next) :
    Inv { s.setRepl r.writer { s.repl r.writer with
        writerEpoch := (s.repl r.writer).writerEpoch + 1 } with
      task := .refreshing r (.release r.cacheServers.reverse) next } := by
  have hinv := h.task
  rw [htask] at hinv
  obtain ⟨hcovers, ⟨hall, hgroup, hmax, hservers⟩, hnext⟩ := hinv
  generalize hx : { s.repl r.writer with writerEpoch := (s.repl r.writer).writerEpoch + 1 } = x
  have hpast : ∀ w, ((s.setRepl r.writer x).repl w).pastReaders = (s.repl w).pastReaders :=
    repl_setRepl_field ReplConfig.pastReaders (by rw [← hx])
  have hreader : ∀ w, ((s.setRepl r.writer x).repl w).readerHostgroup = (s.repl w).readerHostgroup :=
    repl_setRepl_field ReplConfig.readerHostgroup (by rw [← hx])
  have hscopes : ∀ w, ((s.setRepl r.writer x).repl w).groupScopes = (s.repl w).groupScopes :=
    repl_setRepl_field ReplConfig.groupScopes (by rw [← hx])
  have hreplica : ∀ w, ((s.setRepl r.writer x).repl w).maxReplicaReplayLsn =
      (s.repl w).maxReplicaReplayLsn :=
    repl_setRepl_field ReplConfig.maxReplicaReplayLsn (by rw [← hx])
  have hother : ∀ w, w ≠ r.writer → (s.setRepl r.writer x).currentScope w = s.currentScope w := by
    intro w hw
    unfold currentScope
    rw [repl_setRepl_ne x hw]
  have hepoch : ∀ w, (s.repl w).writerEpoch ≤ ((s.setRepl r.writer x).repl w).writerEpoch := by
    intro w
    by_cases hw : w = r.writer
    · subst hw
      rw [repl_setRepl_self, ← hx]
      exact Nat.le_succ _
    · rw [repl_setRepl_ne x hw]
  have hserves : ∀ w hg, s.Serves w hg → (s.setRepl r.writer x).Serves w hg :=
    fun w hg hs => hs.imp id fun hmem => (hpast w).symm ▸ hmem
  refine ⟨⟨?_, ?_, ?_, ?_⟩, ?_⟩
  · exact ⟨h.core.topology.home, h.core.topology.allocated,
      fun e he hg w hw => hserves w hg (h.core.topology.entries e he hg w hw)⟩
  · refine ⟨h.core.calls.worker, h.core.calls.home,
      fun i c hc => hserves _ _ (h.core.calls.serves i c hc), h.core.calls.held, ?_⟩
    intro i c hc hstage
    -- a call about to store for this writer would hold a guard the refresh holds
    have hne := hcovers.writer_ne hall h.core.calls hc hstage.holdsGuard
    exact (h.core.calls.scope i c hc hstage).trans (hother _ hne).symm
  · refine ⟨?_, ?_⟩
    · intro w sc hsc
      have hsc' : sc ∈ (s.repl w).groupScopes := hscopes w ▸ hsc
      by_cases hw : w = r.writer
      · rw [hw, hgroup.2] at hsc'
        cases hsc'
      · exact (h.core.cells.group w sc hsc').trans (hother w hw).symm
    · intro hg srv hsrv sc hsc
      obtain ⟨w, hserve, heq⟩ := h.core.cells.server hg srv hsrv sc hsc
      refine ⟨w, hserves w hg hserve, ?_⟩
      by_cases hw : w = r.writer
      · rw [hw] at hserve
        have hcleared := hservers srv ((hcovers.cleared srv).mp (hcovers.served hg hserve srv hsrv))
        have hsc' : sc ∈ (s.server srv).rfqScopes := hsc
        rw [hcleared.2] at hsc'
        cases hsc'
      · exact heq.trans (hother w hw).symm
  · refine ⟨?_, ?_, h.core.replay.answers⟩
    · intro w
      by_cases hw : w = r.writer
      · subst hw
        exact Or.inl ((hreplica r.writer).trans hmax)
      · have hstored := h.core.replay.stored w
        rw [← repl_setRepl_ne (s := s) x hw] at hstored
        exact hstored
    · intro j rd hr
      obtain ⟨hhg, hok⟩ := h.core.replay.reads j rd hr
      exact ⟨hhg, hok.mono (hepoch rd.writer) (List.Subset.refl _)⟩
  · refine ⟨hcovers.frame rfl (hpast r.writer) (hreader r.writer),
      ⟨List.nodup_reverse.mpr hcovers.nodup, ?_⟩,
      fun e he hg w hw => hserves w hg (hnext e he hg w hw)⟩
    intro srv hsrv
    exact hall srv (List.mem_reverse.mp hsrv)

theorem Inv.refreshing
    {stage : RefreshStage}
    (h : s.Inv)
    (q : Quiet s t)
    (htask : t.task = .refreshing r stage next)
    (hcovers : t.Covers r)
    (hstage : t.StageInv r stage)
    (hnext : s.NextInv next) :
    t.Inv := by
  refine ⟨h.core.quiet q, ?_⟩
  rw [htask]
  exact ⟨hcovers, hstage, q.nextInv hnext⟩

variable {pending : List Nat}

theorem Inv.refreshGuard
    (h : s.Inv)
    (htask : s.task = .refreshing r (.guarding (srv :: pending)) next)
    (hfree : (s.server srv).cacheGuard = none) :
    Inv { s.setGuard srv (some .manager) with task := .refreshing r (.guarding pending) next } := by
  have hinv := h.task
  rw [htask] at hinv
  obtain ⟨hcovers, hstage, hnext⟩ := hinv
  refine h.refreshing (Quiet.ofServer _ (List.Subset.refl _) ?_) rfl (hcovers.frame rfl rfl rfl) ?_
    hnext
  · intro i hheld
    rw [hfree] at hheld
    cases hheld
  · intro srv' hsrv'
    change srv' ∈ pending ∨ ((s.setGuard srv (some .manager)).server srv').cacheGuard = _
    by_cases heq : srv' = srv
    · subst heq
      exact Or.inr (congrArg LsnServer.cacheGuard (server_setServer_self (s := s) _ _))
    · rw [setGuard, server_setServer_ne _ heq]
      exact (hstage srv' hsrv').imp (fun hmem => (List.mem_cons.mp hmem).resolve_left heq) id

theorem Inv.refreshClearServer
    (h : s.Inv)
    (htask : s.task = .refreshing r (.clearServers (srv :: pending)) next) :
    Inv { s.setServer srv (s.server srv).resetLsnCache with
      task := .refreshing r (.clearServers pending) next } := by
  have hinv := h.task
  rw [htask] at hinv
  obtain ⟨hcovers, ⟨hall, hgroup, hmax, hservers⟩, hnext⟩ := hinv
  refine h.refreshing (Quiet.ofServer _ (List.nil_subset _) fun _ hheld => hheld) rfl
    (hcovers.frame rfl rfl rfl) ⟨?_, hgroup, hmax, ?_⟩ hnext
  · intro srv' hsrv'
    exact (server_setServer_field LsnServer.cacheGuard (by rfl) srv').trans (hall srv' hsrv')
  · intro srv' hsrv'
    by_cases heq : srv' = srv
    · subst heq
      exact Or.inr ⟨congrArg LsnServer.currentLsn (server_setServer_self (s := s) _ _),
        congrArg LsnServer.rfqScopes (server_setServer_self (s := s) _ _)⟩
    · refine (hservers srv' hsrv').imp (fun hmem => (List.mem_cons.mp hmem).resolve_left heq) ?_
      rintro ⟨hlsn, hscopes⟩
      have hsame : (s.setServer srv (s.server srv).resetLsnCache).server srv' = s.server srv' :=
        server_setServer_ne _ heq
      exact ⟨(congrArg LsnServer.currentLsn hsame).trans hlsn,
        (congrArg LsnServer.rfqScopes hsame).trans hscopes⟩

theorem Inv.refreshRelease
    (h : s.Inv)
    (htask : s.task = .refreshing r (.release (srv :: pending)) next) :
    Inv { s.setGuard srv none with task := .refreshing r (.release pending) next } := by
  have hinv := h.task
  rw [htask] at hinv
  obtain ⟨hcovers, ⟨hnodup, hheld⟩, hnext⟩ := hinv
  obtain ⟨hnotMem, hnodup⟩ := List.nodup_cons.mp hnodup
  refine h.refreshing (Quiet.ofServer _ (List.Subset.refl _) ?_) rfl (hcovers.frame rfl rfl rfl)
    ⟨hnodup, ?_⟩ hnext
  · intro i hworker
    rw [hheld srv (List.mem_cons_self ..)] at hworker
    cases hworker
  · intro srv' hsrv'
    have hne : srv' ≠ srv := by
      rintro rfl
      exact hnotMem hsrv'
    have hsame : (s.setGuard srv none).server srv' = s.server srv' := server_setServer_ne _ hne
    exact (congrArg LsnServer.cacheGuard hsame).trans (hheld srv' (List.mem_cons_of_mem _ hsrv'))

theorem Inv.refreshStep
    {stage : RefreshStage}
    (h : s.Inv)
    (htask : s.task = .refreshing r stage next)
    (hstep : s.refreshStep r next stage = some t) :
    t.Inv := by
  have hinv := h.task
  rw [htask] at hinv
  obtain ⟨hcovers, hstage, hnext⟩ := hinv
  cases stage with
  | guarding pending =>
      cases pending with
      | nil =>
          obtain rfl := Option.some.inj hstep
          refine h.refreshing (Quiet.ofTask _) rfl (hcovers.frame rfl rfl rfl) ?_ hnext
          exact fun srv hsrv => (hstage srv hsrv).resolve_left List.not_mem_nil
      | cons srv pending =>
          obtain ⟨hfree, hstep⟩ := Option.ite_none_right_eq_some.mp hstep
          obtain rfl := Option.some.inj hstep
          exact h.refreshGuard htask hfree
  | clearGroup =>
      obtain rfl := Option.some.inj hstep
      refine h.refreshing (Quiet.ofRepl _ rfl rfl (List.nil_subset _) (Or.inl rfl)) rfl
        (hcovers.frame rfl ?_ ?_) ⟨hstage, ?_⟩ hnext
      · exact repl_setRepl_field ReplConfig.pastReaders (by rfl) _
      · exact repl_setRepl_field ReplConfig.readerHostgroup (by rfl) _
      · exact ⟨congrArg ReplConfig.groupLsn (repl_setRepl_self (s := s) _ _),
          congrArg ReplConfig.groupScopes (repl_setRepl_self (s := s) _ _)⟩
  | clearReplica =>
      obtain rfl := Option.some.inj hstep
      obtain ⟨hall, hlsn, hscopes⟩ := hstage
      have hreader := repl_setRepl_field (s := s) (w := r.writer)
        (c := { s.repl r.writer with maxReplicaReplayLsn := 0 }) ReplConfig.readerHostgroup (by rfl)
      refine h.refreshing (Quiet.ofRepl _ rfl rfl (List.Subset.refl _) (Or.inr rfl)) rfl
        (hcovers.frame rfl ?_ (hreader _)) ⟨hall, ⟨?_, ?_⟩, ?_, ?_⟩ hnext
      · exact repl_setRepl_field ReplConfig.pastReaders (by rfl) _
      · exact (repl_setRepl_field ReplConfig.groupLsn (by rfl) _).trans hlsn
      · exact (repl_setRepl_field ReplConfig.groupScopes (by rfl) _).trans hscopes
      · exact congrArg ReplConfig.maxReplicaReplayLsn (repl_setRepl_self (s := s) _ _)
      · intro srv hsrv
        refine Or.inl ?_
        unfold clearedServers at hsrv ⊢
        rwa [← hreader r.writer]
  | clearServers pending =>
      cases pending with
      | nil =>
          obtain rfl := Option.some.inj hstep
          obtain ⟨hall, hgroup, hmax, hservers⟩ := hstage
          refine h.refreshing (Quiet.ofTask _) rfl (hcovers.frame rfl rfl rfl)
            ⟨hall, hgroup, hmax, ?_⟩ hnext
          exact fun srv hsrv => (hservers srv hsrv).resolve_left List.not_mem_nil
      | cons srv pending =>
          obtain rfl := Option.some.inj hstep
          exact h.refreshClearServer htask
  | bump =>
      obtain rfl := Option.some.inj hstep
      exact h.bump htask
  | release pending =>
      cases pending with
      | nil =>
          obtain rfl := Option.some.inj hstep
          exact h.scanning (Quiet.ofTask _) rfl hnext
      | cons srv pending =>
          obtain rfl := Option.some.inj hstep
          exact h.refreshRelease htask

theorem Inv.monitorStep
    {m : MonitorUpdate} {stage : MonitorStage}
    (h : s.Inv)
    (htask : s.task = .monitoring m stage)
    (hstep : s.monitorStep m stage = some t) :
    t.Inv := by
  have hinv := h.task
  rw [htask] at hinv
  cases stage with
  | guarding =>
      obtain ⟨hfree, hstep⟩ := Option.ite_none_right_eq_some.mp hstep
      obtain rfl := Option.some.inj hstep
      refine h.quiet (Quiet.ofServer _ (List.Subset.refl _) ?_) (Or.inr ?_)
      · intro i hheld
        rw [hfree] at hheld
        cases hheld
      · exact congrArg LsnServer.cacheGuard (server_setServer_self (s := s) _ _)
  | advancing =>
      obtain rfl := Option.some.inj hstep
      have hadvance := LsnServer.advanceLsn_cacheGuard (s.server m.srv) m.lsn m.now
      have hguard := hinv.resolve_left (by simp)
      refine h.quiet (Quiet.ofServer _ (by simp) fun i hheld => hadvance.trans hheld) (Or.inr ?_)
      exact (congrArg LsnServer.cacheGuard (server_setServer_self (s := s) _ _)).trans
        (hadvance.trans hguard)
  | group =>
      have hguard := hinv.resolve_left (by simp)
      simp only [LsnCaches.monitorStep] at hstep
      split at hstep
      · obtain rfl := Option.some.inj hstep
        exact h.quiet (Quiet.ofRepl _ rfl rfl (List.Subset.refl _) (Or.inl rfl)) (Or.inr hguard)
      · obtain rfl := Option.some.inj hstep
        exact h.quiet (Quiet.ofTask _) (Or.inr hguard)
  | replica =>
      have hguard := hinv.resolve_left (by simp)
      simp only [LsnCaches.monitorStep] at hstep
      split at hstep
      · rename_i w _
        split at hstep
        · obtain rfl := Option.some.inj hstep
          refine h.quiet (Quiet.ofReplay _ (List.subset_cons_self _ _) rfl rfl
            (List.Subset.refl _) ?_) (Or.inr hguard)
          -- the new maximum is the old one or the position just recorded
          rcases le_total m.lsn (s.repl w).maxReplicaReplayLsn with hle | hle
          · exact Or.inl (max_eq_left hle)
          · refine Or.inr (Or.inr ?_)
            simp only [max_eq_right hle]
            exact List.mem_cons_self ..
        · obtain rfl := Option.some.inj hstep
          exact h.quiet (Quiet.ofTask _) (Or.inr hguard)
      · obtain rfl := Option.some.inj hstep
        exact h.quiet (Quiet.ofTask _) (Or.inr hguard)
  | release =>
      obtain rfl := Option.some.inj hstep
      have hguard := hinv.resolve_left (by simp)
      refine h.quiet (Quiet.ofServer _ (List.Subset.refl _) ?_) trivial
      intro i hheld
      rw [hguard] at hheld
      cases hheld

/-! ## Reloads -/

theorem Quiet.trans
    {u : LsnCaches}
    (q : Quiet s t)
    (q' : Quiet t u) :
    Quiet s u where
  workers := q'.workers.trans q.workers
  hostgroup := q'.hostgroup.trans q.hostgroup
  nextServer := q'.nextServer.trans q.nextServer
  published e he := by
    rcases q'.published e he with hmid | hnew
    · exact (q.published e hmid).imp id fun h hg w hw => q'.serves (h hg w hw)
    · exact Or.inr hnew
  calls := q'.calls.trans q.calls
  reads := q'.reads.trans q.reads
  replayLog := fun a ha => q'.replayLog (q.replayLog ha)
  answers := q'.answers.trans q.answers
  epoch w := (q'.epoch w).trans (q.epoch w)
  past w := fun hg hmem => q'.past w (q.past w hmem)
  groupScopes w := fun sc hsc => q.groupScopes w (q'.groupScopes w hsc)
  replica w := by
    rcases q'.replica w with hsame | hzero | hnew
    · rw [hsame, q'.epoch w]
      exact (q.replica w).imp id fun h => h.imp id fun hmem => q'.replayLog hmem
    · exact Or.inr (Or.inl hzero)
    · exact Or.inr (Or.inr hnew)
  rfqScopes srv := fun sc hsc => q.rfqScopes srv (q'.rfqScopes srv hsc)
  held srv i h := q'.held srv i (q.held srv i h)

theorem repl_applyRow
    (row : ReplRow) :
    (s.applyRow row).repl = Function.update s.repl row.writerHostgroup
      { s.repl row.writerHostgroup with
        configured := true
        readerHostgroup := row.readerHostgroup
        pastReaders := if row.isPolardb then
            row.readerHostgroup :: (s.repl row.writerHostgroup).pastReaders
          else (s.repl row.writerHostgroup).pastReaders } := by
  unfold applyRow
  cases row.isPolardb <;> rfl

theorem Quiet.applyRow
    (row : ReplRow) :
    Quiet s (s.applyRow row) := by
  have hrepl : ∀ w, ((s.applyRow row).repl w).writerEpoch = (s.repl w).writerEpoch ∧
      (s.repl w).pastReaders ⊆ ((s.applyRow row).repl w).pastReaders ∧
      ((s.applyRow row).repl w).groupScopes = (s.repl w).groupScopes ∧
      ((s.applyRow row).repl w).maxReplicaReplayLsn = (s.repl w).maxReplicaReplayLsn := by
    intro w
    rw [repl_applyRow]
    by_cases hw : w = row.writerHostgroup
    · subst hw
      rw [Function.update_self]
      refine ⟨rfl, ?_, rfl, rfl⟩
      simp only
      split
      · exact List.subset_cons_self _ _
      · exact List.Subset.refl _
    · rw [Function.update_of_ne hw]
      exact ⟨rfl, List.Subset.refl _, rfl, rfl⟩
  have hfields : (s.applyRow row).workers = s.workers ∧ (s.applyRow row).hostgroup = s.hostgroup ∧
      (s.applyRow row).nextServer = s.nextServer ∧ (s.applyRow row).published = s.published ∧
      (s.applyRow row).calls = s.calls ∧ (s.applyRow row).reads = s.reads ∧
      (s.applyRow row).replayLog = s.replayLog ∧ (s.applyRow row).answers = s.answers ∧
      (s.applyRow row).server = s.server := by
    unfold LsnCaches.applyRow
    cases row.isPolardb <;> exact ⟨rfl, rfl, rfl, rfl, rfl, rfl, rfl, rfl, rfl⟩
  obtain ⟨hworkers, hhostgroup, hnext, hpub, hcalls, hreads, hlog, hanswers, hserver⟩ := hfields
  exact {
    workers := hworkers
    hostgroup := hhostgroup
    nextServer := hnext
    published := fun e he => Or.inl (hpub ▸ he)
    calls := hcalls
    reads := hreads
    replayLog := hlog ▸ List.Subset.refl _
    answers := hanswers
    epoch := fun w => (hrepl w).1
    past := fun w => (hrepl w).2.1
    groupScopes := fun w => (hrepl w).2.2.1 ▸ List.Subset.refl _
    replica := fun w => Or.inl (hrepl w).2.2.2
    rfqScopes := fun srv => hserver ▸ List.Subset.refl _
    held := fun srv i h => hserver.symm ▸ h }

theorem Quiet.applyRows
    (rows : List ReplRow) :
    Quiet s (rows.foldl LsnCaches.applyRow s) := by
  induction rows generalizing s with
  | nil =>
      exact Quiet.ofTask s.task
  | cons row rest ih =>
      exact (Quiet.applyRow row).trans ih

theorem Quiet.reload
    (rows : List ReplRow) :
    Quiet s (s.reload rows) := by
  refine Quiet.trans ?_ (Quiet.applyRows rows)
  exact {
    workers := rfl
    hostgroup := rfl
    nextServer := rfl
    published := fun _ => Or.inl
    calls := rfl
    reads := rfl
    replayLog := List.Subset.refl _
    answers := rfl
    epoch := fun _ => rfl
    past := fun _ => List.Subset.refl _
    groupScopes := fun _ => List.Subset.refl _
    replica := fun _ => Or.inl rfl
    rfqScopes := fun _ => List.Subset.refl _
    held := fun _ _ h => h }

theorem entriesOf_eq_some
    {rows : List ReplRow} {hg w : Nat}
    (h : entriesOf rows hg = some w) :
    ∃ row ∈ rows, row.isPolardb = true ∧ row.writerHostgroup = w ∧
      (hg = row.readerHostgroup ∨ hg = row.writerHostgroup) := by
  induction rows with
  | nil =>
      cases h
  | cons row rest ih =>
      simp only [entriesOf] at h
      split at h
      · rename_i w' hrest
        obtain rfl := Option.some.inj h
        obtain ⟨row', hmem, hrow'⟩ := ih hrest
        exact ⟨row', List.mem_cons_of_mem _ hmem, hrow'⟩
      · obtain ⟨⟨hpolardb, hhg⟩, heq⟩ := Option.ite_none_right_eq_some.mp h
        exact ⟨row, List.mem_cons_self .., hpolardb, Option.some.inj heq, hhg⟩

theorem mem_pastReaders_applyRows
    {rows : List ReplRow} {row : ReplRow}
    (hmem : row ∈ rows)
    (hpolardb : row.isPolardb = true) :
    row.readerHostgroup ∈
      ((rows.foldl LsnCaches.applyRow s).repl row.writerHostgroup).pastReaders := by
  induction rows generalizing s with
  | nil =>
      cases hmem
  | cons row' rest ih =>
      rw [List.foldl_cons]
      rcases List.mem_cons.mp hmem with rfl | hrest
      · refine (Quiet.applyRows rest).past row.writerHostgroup ?_
        rw [repl_applyRow, Function.update_self, if_pos hpolardb]
        exact List.mem_cons_self ..
      · exact ih hrest

theorem nextInv_reload
    (rows : List ReplRow) :
    (s.reload rows).NextInv (some (entriesOf rows)) := by
  rintro _ ⟨⟩ hg w hw
  obtain ⟨row, hmem, hpolardb, rfl, hhg⟩ := entriesOf_eq_some hw
  rcases hhg with rfl | rfl
  · exact Or.inr (mem_pastReaders_applyRows hmem hpolardb)
  · exact Or.inl rfl

/-! ## Servers -/

theorem Inv.addServer
    {hid port : Nat} {address : List Char}
    (h : s.Inv)
    (htask : s.task = .idle) :
    (s.addServer hid address port).Inv := by
  have hmem : ∀ hg srv, srv ∈ (s.addServer hid address port).hostgroup hg ↔
      srv ∈ s.hostgroup hg ∨ (hg = hid ∧ srv = s.nextServer) := by
    intro hg srv
    simp only [LsnCaches.addServer, Function.update_apply]
    split
    · rename_i heq
      subst heq
      simp
    · rename_i hne
      simp [hne]
  have hold : ∀ hg srv, srv ∈ s.hostgroup hg →
      (s.addServer hid address port).server srv = s.server srv := by
    intro hg srv hsrv
    refine server_setServer_ne _ ?_
    rintro rfl
    exact lt_irrefl _ (h.core.topology.allocated hg _ hsrv)
  refine ⟨⟨⟨?_, ?_, ?_⟩, ⟨?_, ?_, ?_, ?_, ?_⟩, ⟨?_, ?_⟩, ?_⟩, ?_⟩
  · intro srv a b ha hb
    have hfresh : ∀ hg, s.nextServer ∉ s.hostgroup hg :=
      fun hg hnext => lt_irrefl _ (h.core.topology.allocated hg _ hnext)
    rcases (hmem a srv).mp ha with ha' | ⟨rfl, rfl⟩
    · rcases (hmem b srv).mp hb with hb' | ⟨rfl, rfl⟩
      · exact h.core.topology.home srv a b ha' hb'
      · exact absurd ha' (hfresh a)
    · rcases (hmem b _).mp hb with hb' | ⟨rfl, -⟩
      · exact absurd hb' (hfresh b)
      · rfl
  · intro hg srv hsrv
    rcases (hmem hg srv).mp hsrv with hsrv | ⟨-, rfl⟩
    · exact Nat.lt_succ_of_lt (h.core.topology.allocated hg srv hsrv)
    · exact Nat.lt_succ_self _
  · exact h.core.topology.entries
  · exact h.core.calls.worker
  · exact fun i c hc => (hmem _ _).mpr (Or.inl (h.core.calls.home i c hc))
  · exact h.core.calls.serves
  · intro i c hc hstage
    rw [hold _ _ (h.core.calls.home i c hc)]
    exact h.core.calls.held i c hc hstage
  · exact h.core.calls.scope
  · exact h.core.cells.group
  · intro hg srv hsrv sc hsc
    rcases (hmem hg srv).mp hsrv with hsrv | ⟨-, rfl⟩
    · rw [hold hg srv hsrv] at hsc
      exact h.core.cells.server hg srv hsrv sc hsc
    · have hnew : (s.addServer hid address port).server s.nextServer = { address, port } :=
        server_setServer_self _ _
      rw [hnew] at hsc
      cases hsc
  · exact ⟨h.core.replay.stored, h.core.replay.reads, h.core.replay.answers⟩
  · change (s.addServer hid address port).TaskInv s.task
    rw [htask]
    trivial

theorem Inv.purgeServer
    {hid srv : Nat}
    (h : s.Inv)
    (htask : s.task = .idle)
    (hfree : ¬ s.InUse srv) :
    (s.purgeServer hid srv).Inv := by
  have hmem : ∀ hg srv', srv' ∈ (s.purgeServer hid srv).hostgroup hg ↔
      srv' ∈ s.hostgroup hg ∧ (hg = hid → srv' ≠ srv) := by
    intro hg srv'
    simp only [LsnCaches.purgeServer, Function.update_apply]
    split
    · rename_i heq
      subst heq
      simp
    · rename_i hne
      simp [hne]
  refine ⟨⟨⟨?_, ?_, h.core.topology.entries⟩, ⟨h.core.calls.worker, ?_, h.core.calls.serves,
    h.core.calls.held, h.core.calls.scope⟩, ⟨h.core.cells.group, ?_⟩,
    ⟨h.core.replay.stored, h.core.replay.reads, h.core.replay.answers⟩⟩, ?_⟩
  · intro srv' a b ha hb
    exact h.core.topology.home srv' a b ((hmem _ _).mp ha).1 ((hmem _ _).mp hb).1
  · exact fun hg srv' hsrv' => h.core.topology.allocated hg srv' ((hmem _ _).mp hsrv').1
  · intro i c hc
    refine (hmem _ _).mpr ⟨h.core.calls.home i c hc, fun _ heq => hfree ?_⟩
    exact ⟨i, h.core.calls.worker i c hc, c, hc, heq⟩
  · exact fun hg srv' hsrv' => h.core.cells.server hg srv' ((hmem _ _).mp hsrv').1
  · change (s.purgeServer hid srv).TaskInv s.task
    rw [htask]
    trivial

theorem Inv.setStatus
    {status : ServerStatus}
    (h : s.Inv) :
    (s.setServer srv { s.server srv with status := status }).Inv := by
  refine h.quiet (Quiet.ofServer s.task (List.Subset.refl _) fun _ hheld => hheld) ?_
  refine h.task.frame rfl (fun _ => rfl) (fun _ => rfl) (fun _ => rfl) ?_
    fun _ => Or.inl ⟨rfl, rfl⟩
  intro srv' hguard
  exact ⟨(server_setServer_field LsnServer.cacheGuard (by rfl) srv').trans hguard,
    server_setServer_field LsnServer.currentLsn (by rfl) srv',
    server_setServer_field LsnServer.rfqScopes (by rfl) srv'⟩

end LsnCaches

end PolarProxy
