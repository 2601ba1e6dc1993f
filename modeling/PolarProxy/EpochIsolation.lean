import PolarProxy.EpochSteps
import Mathlib.Data.List.Perm.Basic

/-!
# Isolation of the LSN caches between writer epochs

A position taken on the timeline of a former writer must not stay in a cache,
or come back to one, once a new epoch is visible.  A refresh takes the guards of
the writer hostgroup and of the present reader hostgroup; `covered` says that
these are the guards of every server that ever served the writer.

**Results.**
* `writerIdentity_inj`: the identity tells the sets of counted servers apart.
* `CoveredRun.inv`: the invariant of the caches over every run.
* `refreshRun`: a refresh that finds a new identity begins a new epoch.
* `writer_epoch_isolation`: nothing of an older epoch is stored or answered.
-/

namespace PolarProxy

open Transition

/-! ## Identities -/

/-- What the identity says about a server. -/
def LsnServer.endpoint (srv : LsnServer) : List Char × Nat :=
  (srv.address, srv.port)

theorem toDigits_inj
    {m n : Nat} :
    Nat.toDigits 10 m = Nat.toDigits 10 n ↔ m = n := by
  constructor
  · intro h
    rw [← Nat.ofDigitChars_ten_toDigits (n := m), h, Nat.ofDigitChars_ten_toDigits]
  · rintro rfl
    rfl

theorem not_mem_toDigits
    {c : Char} (hc : c.isDigit = false) (n : Nat) :
    c ∉ Nat.toDigits 10 n := by
  intro hmem
  have hdigit := Nat.isDigit_of_mem_toDigits (by decide) (by decide) hmem
  rw [hc] at hdigit
  exact Bool.false_ne_true hdigit

theorem identityLine_inj
    {x y : LsnServer} :
    identityLine x = identityLine y ↔ x.endpoint = y.endpoint := by
  unfold identityLine LsnServer.endpoint
  rw [Lines.keyed_inj (not_mem_toDigits rfl _) (not_mem_toDigits rfl _), toDigits_inj,
    Prod.mk.injEq]

theorem newline_not_mem_identityLine
    {x : LsnServer} (h : '\n' ∉ x.address) :
    '\n' ∉ identityLine x := by
  unfold identityLine
  simp only [List.mem_append, List.mem_cons, not_or]
  exact ⟨h, by decide, not_mem_toDigits rfl _⟩

theorem identityLine_perm_iff
    {xs ys : List LsnServer} :
    (xs.map identityLine).Perm (ys.map identityLine) ↔
      (xs.map LsnServer.endpoint).Perm (ys.map LsnServer.endpoint) := by
  have hline : ∀ zs : List LsnServer, zs.map identityLine =
      (zs.map LsnServer.endpoint).map fun e => e.1 ++ '\t' :: Nat.toDigits 10 e.2 := by
    intro zs
    rw [List.map_map]
    rfl
  rw [hline xs, hline ys]
  refine List.map_perm_map_iff ?_
  rintro ⟨a, m⟩ ⟨b, n⟩ heq
  exact (identityLine_inj (x := { address := a, port := m })
    (y := { address := b, port := n })).mp heq

/-- The identity tells the sets of counted servers apart. -/
theorem writerIdentity_inj
    {xs ys : List LsnServer}
    (hx : ∀ x ∈ xs, '\n' ∉ x.address)
    (hy : ∀ y ∈ ys, '\n' ∉ y.address) :
    writerIdentity xs = writerIdentity ys ↔
      ((countedServers xs).map LsnServer.endpoint).Perm
        ((countedServers ys).map LsnServer.endpoint) := by
  have hlines : ∀ zs : List LsnServer, (∀ z ∈ zs, '\n' ∉ z.address) →
      ∀ line ∈ (countedServers zs).map identityLine, '\n' ∉ line := by
    intro zs hz line hline
    obtain ⟨z, hmem, rfl⟩ := List.mem_map.mp hline
    exact newline_not_mem_identityLine (hz z (List.mem_filter.mp hmem).1)
  unfold writerIdentity
  rw [Lines.sortedLines_inj (hlines xs hx) (hlines ys hy), identityLine_perm_iff]

namespace LsnCaches

variable {s t : LsnCaches}

/-! ## Every step -/

theorem eq_idle_of_isIdle
    {task : ManagerTask}
    (h : task.isIdle = true) :
    task = .idle := by
  cases task with
  | idle => rfl
  | _ => cases h

/-- The steps on which the isolation rests: a refresh that finds a new identity
guards the servers of every reader hostgroup its writer has had, and a read of
the replica maximum finds the entry of the writer it asks for. -/
def covered (s : LsnCaches) : EpochEvent → Bool
  | .managerStep =>
      match s.task with
      | .scanning (w :: _) _ =>
          !decide (s.IdentityChanged w) ||
            (s.repl w).pastReaders.all fun hg => (s.hostgroup hg).all (· ∈ s.cacheServersOf w)
      | _ => true
  | .readBegin _ scope k =>
      match s.published[k]? with
      | some entries =>
          !decide scope.Valid || (entries scope.hg.toNat).all (· = scope.hg.toNat)
      | none => true
  | _ => true

/-- A step that meets the condition. -/
def coveredStep (s : LsnCaches) (e : EpochEvent) : Option LsnCaches :=
  if s.covered e then s.step e else none

theorem Inv.managerStep
    (h : s.Inv)
    (hcovered : s.covered .managerStep = true)
    (hstep : s.managerStep = some t) :
    t.Inv := by
  have hinv := h.task
  unfold LsnCaches.managerStep at hstep
  split at hstep
  · cases hstep
  · rename_i w todo next htask
    obtain rfl := Option.some.inj hstep
    refine h.scanWriter htask fun hchanged hg hpast srv hsrv => ?_
    simp only [covered, htask, hchanged, decide_true, Bool.not_true, Bool.false_or,
      List.all_eq_true, decide_eq_true_eq] at hcovered
    exact hcovered hg hpast srv hsrv
  · -- publication
    rename_i entries htask
    rw [htask] at hinv
    obtain rfl := Option.some.inj hstep
    refine h.quiet ?_ trivial
    refine { Quiet.ofTask (s := s) .idle with published := ?_ }
    intro e he
    rcases List.mem_append.mp he with hold | hnew
    · exact Or.inl hold
    · obtain rfl := List.mem_singleton.mp hnew
      exact Or.inr (hinv e rfl)
  · obtain rfl := Option.some.inj hstep
    exact h.quiet (Quiet.ofTask _) trivial
  · rename_i r stage next htask
    exact h.refreshStep htask hstep
  · rename_i m stage htask
    exact h.monitorStep htask hstep

theorem Inv.coveredStep
    {e : EpochEvent}
    (h : s.Inv)
    (hstep : s.coveredStep e = some t) :
    t.Inv := by
  obtain ⟨hcovered, hstep⟩ := Option.ite_none_right_eq_some.mp hstep
  cases e with
  | acceptBegin i srv hg lsn scope k =>
      exact h.acceptBegin hstep
  | acceptStep i coalesced now =>
      obtain ⟨c, hc, hstep⟩ := Option.bind_eq_some_iff.mp hstep
      exact h.acceptStep hc hstep
  | readBegin j scope k =>
      refine h.readBegin (fun entries hentries hvalid w hw => ?_) hstep
      simpa [covered, hentries, hvalid, hw] using hcovered
  | readStep j =>
      obtain ⟨r, hr, rfl⟩ := Option.map_eq_some_iff.mp hstep
      exact h.readStep hr
  | addServer hid address port =>
      obtain ⟨hidle, hstep⟩ := Option.ite_none_right_eq_some.mp hstep
      obtain rfl := Option.some.inj hstep
      exact h.addServer (eq_idle_of_isIdle hidle)
  | setStatus srv status =>
      obtain rfl := Option.some.inj hstep
      exact h.setStatus
  | purgeServer hid srv =>
      obtain ⟨⟨hidle, hfree⟩, hstep⟩ := Option.ite_none_right_eq_some.mp hstep
      obtain rfl := Option.some.inj hstep
      exact h.purgeServer (eq_idle_of_isIdle hidle) hfree
  | reload rows order =>
      obtain ⟨-, hstep⟩ := Option.ite_none_right_eq_some.mp hstep
      obtain rfl := Option.some.inj hstep
      exact h.quiet ((Quiet.reload rows).trans (Quiet.ofTask _)) (nextInv_reload rows)
  | refreshAll order =>
      obtain ⟨-, hstep⟩ := Option.ite_none_right_eq_some.mp hstep
      obtain rfl := Option.some.inj hstep
      exact h.quiet (Quiet.ofTask _) (by rintro _ ⟨⟩)
  | monitor hid srv lsn isReader now =>
      obtain ⟨-, hstep⟩ := Option.ite_none_right_eq_some.mp hstep
      obtain rfl := Option.some.inj hstep
      exact h.quiet (Quiet.ofTask _) (Or.inl rfl)
  | managerStep =>
      exact h.managerStep hcovered hstep

theorem inv_init
    (workers : Nat) :
    Inv { workers } where
  core := {
    topology := ⟨by simp, by simp, by simp⟩
    calls := ⟨by simp, by simp, by simp, by simp, by simp⟩
    cells := ⟨by simp, by simp⟩
    replay := ⟨by simp, by simp, by simp⟩ }
  task := trivial

/-- Runs all of whose steps meet the condition. -/
def CoveredRun (workers : Nat) (ls : List EpochEvent) (t : LsnCaches) : Prop :=
  Run (fun s e t => coveredStep s e = some t) { workers } ls t

theorem CoveredRun.inv
    {workers : Nat} {ls : List EpochEvent}
    (h : CoveredRun workers ls t) :
    t.Inv :=
  Run.invariant (I := Inv) h (inv_init workers) fun hinv hstep => hinv.coveredStep hstep

/-! ## Where an epoch begins -/

variable {r : Refresh} {next : Option TopologyEntries}

/-- Nothing is left in the caches of a replication group. -/
structure Cleared (s : LsnCaches) (w : Nat) : Prop where
  group : (s.repl w).groupLsn = 0
  replica : (s.repl w).maxReplicaReplayLsn = 0
  server : ∀ hg, s.Serves w hg → ∀ srv ∈ s.hostgroup hg, (s.server srv).currentLsn = 0

theorem Inv.cleared_of_bump
    (h : s.Inv)
    (htask : s.task = .refreshing r .bump next) :
    s.Cleared r.writer := by
  have hinv := h.task
  rw [htask] at hinv
  obtain ⟨hcovers, ⟨-, hgroup, hmax, hservers⟩, -⟩ := hinv
  refine ⟨hgroup.1, hmax, fun hg hserves srv hsrv => ?_⟩
  exact (hservers srv ((hcovers.cleared srv).mp (hcovers.served hg hserves srv hsrv))).1

theorem Inv.cleared_of_writerEpoch_step
    {e : EpochEvent} {w : Nat}
    (h : s.Inv)
    (hstep : s.step e = some t)
    (hnew : (t.repl w).writerEpoch ≠ (s.repl w).writerEpoch) :
    (t.repl w).writerEpoch = (s.repl w).writerEpoch + 1 ∧ s.Cleared w ∧ t.Cleared w := by
  obtain ⟨r, next, htask, rfl, hbump⟩ := step_writerEpoch hstep hnew
  have hcleared := h.cleared_of_bump htask
  obtain rfl := Option.some.inj hbump
  have hself := repl_setRepl_self (s := s) r.writer
    { s.repl r.writer with writerEpoch := (s.repl r.writer).writerEpoch + 1 }
  refine ⟨congrArg ReplConfig.writerEpoch hself, hcleared, ?_, ?_, ?_⟩
  · exact (congrArg ReplConfig.groupLsn hself).trans hcleared.group
  · exact (congrArg ReplConfig.maxReplicaReplayLsn hself).trans hcleared.replica
  · intro hg hserves srv hsrv
    refine hcleared.server hg (hserves.imp id fun hmem => ?_) srv hsrv
    exact (congrArg ReplConfig.pastReaders hself) ▸ hmem

/-! ## A refresh on its own -/

theorem coveredStep_refreshing
    {stage : RefreshStage}
    (h : s.task = .refreshing r stage next) :
    s.coveredStep .managerStep = s.refreshStep r next stage := by
  simp [coveredStep, covered, step, managerStep, h]

theorem guardingRun
    {pending : List Nat}
    (htask : s.task = .refreshing r (.guarding pending) next)
    (hnodup : pending.Nodup)
    (hfree : ∀ srv ∈ pending, (s.server srv).cacheGuard = none) :
    ∃ ls u, Run (fun s e t => coveredStep s e = some t) s ls u ∧
      u.task = .refreshing r .clearGroup next ∧ u.repl = s.repl := by
  induction pending generalizing s with
  | nil =>
      exact ⟨_, _, Run.single (coveredStep_refreshing htask), rfl, rfl⟩
  | cons srv pending ih =>
      obtain ⟨hnotMem, hnodup⟩ := List.nodup_cons.mp hnodup
      have hstep : s.coveredStep .managerStep = some { s.setGuard srv (some .manager) with
          task := .refreshing r (.guarding pending) next } :=
        (coveredStep_refreshing htask).trans (if_pos (hfree srv (List.mem_cons_self ..)))
      have hrest : ∀ srv' ∈ pending, ((s.setGuard srv (some .manager)).server srv').cacheGuard =
          none := by
        intro srv' hsrv'
        have hne : srv' ≠ srv := by
          rintro rfl
          exact hnotMem hsrv'
        rw [setGuard, server_setServer_ne _ hne]
        exact hfree srv' (List.mem_cons_of_mem _ hsrv')
      obtain ⟨ls, u, hrun, htask', hrepl⟩ :=
        ih (s := { s.setGuard srv (some .manager) with
          task := .refreshing r (.guarding pending) next }) rfl hnodup hrest
      exact ⟨_, u, (Run.single hstep).append hrun, htask', hrepl⟩

theorem clearServersRun
    {pending : List Nat}
    (htask : s.task = .refreshing r (.clearServers pending) next) :
    ∃ ls u, Run (fun s e t => coveredStep s e = some t) s ls u ∧
      u.task = .refreshing r .bump next ∧ u.repl = s.repl := by
  induction pending generalizing s with
  | nil =>
      exact ⟨_, _, Run.single (coveredStep_refreshing htask), rfl, rfl⟩
  | cons srv pending ih =>
      have hstep : s.coveredStep .managerStep = some
          { s.setServer srv (s.server srv).resetLsnCache with
            task := .refreshing r (.clearServers pending) next } :=
        coveredStep_refreshing htask
      obtain ⟨ls, u, hrun, htask', hrepl⟩ :=
        ih (s := { s.setServer srv (s.server srv).resetLsnCache with
          task := .refreshing r (.clearServers pending) next }) rfl
      exact ⟨_, u, (Run.single hstep).append hrun, htask', hrepl⟩

/-- A refresh that finds a new identity, and guards it can take, reaches the new
epoch. -/
theorem refreshRun
    {w : Nat} {todo : List Nat}
    (htask : s.task = .scanning (w :: todo) next)
    (hcovered : s.covered .managerStep = true)
    (hchanged : s.IdentityChanged w)
    (hfree : ∀ srv ∈ s.cacheServersOf w, (s.server srv).cacheGuard = none) :
    ∃ ls u v, Run (fun s e t => coveredStep s e = some t) s ls u ∧
      coveredStep u .managerStep = some v ∧
      (u.repl w).writerEpoch = (s.repl w).writerEpoch ∧
      (v.repl w).writerEpoch = (s.repl w).writerEpoch + 1 := by
  obtain ⟨r, rfl, hscan⟩ : ∃ r : Refresh, r.writer = w ∧ s.coveredStep .managerStep = some
      { s with task := .refreshing r (.guarding (s.cacheServersOf w)) next } :=
    ⟨{ writer := w, identity := s.identityOf w, cacheServers := s.cacheServersOf w, todo }, rfl,
      by simp [coveredStep, hcovered, step, managerStep, htask, scanWriter, hchanged]⟩
  obtain ⟨ls, a, hrunA, htaskA, hreplA⟩ := guardingRun
    (s := { s with task := .refreshing r (.guarding (s.cacheServersOf r.writer)) next }) rfl
    (nodup_cacheServersOf r.writer) hfree
  obtain ⟨b, hstepB, htaskB⟩ : ∃ b, a.refreshStep r next .clearGroup = some b ∧
      b.task = .refreshing r .clearReplica next := ⟨_, rfl, rfl⟩
  obtain ⟨c, pending, hstepC, htaskC⟩ : ∃ c pending, b.refreshStep r next .clearReplica = some c ∧
      c.task = .refreshing r (.clearServers pending) next := ⟨_, _, rfl, rfl⟩
  obtain ⟨ms, d, hrunD, htaskD, hreplD⟩ := clearServersRun htaskC
  obtain ⟨v, hstepV, hepochV⟩ : ∃ v, d.refreshStep r next .bump = some v ∧
      (v.repl r.writer).writerEpoch = (d.repl r.writer).writerEpoch + 1 :=
    ⟨_, rfl, congrArg ReplConfig.writerEpoch (repl_setRepl_self (s := d) _ _)⟩
  have hepochB : (b.repl r.writer).writerEpoch = (a.repl r.writer).writerEpoch :=
    (frameStep_refreshStep htaskA hstepB).advances.sameEpoch _ (by simp [beginsEpoch, htaskA])
  have hepochC : (c.repl r.writer).writerEpoch = (b.repl r.writer).writerEpoch :=
    (frameStep_refreshStep htaskB hstepC).advances.sameEpoch _ (by simp [beginsEpoch, htaskB])
  have hepochD : (d.repl r.writer).writerEpoch = (s.repl r.writer).writerEpoch := by
    rw [hreplD, hepochC, hepochB, hreplA]
  have hrunC : Run (fun s e t => coveredStep s e = some t) s _ c :=
    (((Run.single hscan).append hrunA).snoc ((coveredStep_refreshing htaskA).trans hstepB)).snoc
      ((coveredStep_refreshing htaskB).trans hstepC)
  refine ⟨_, d, v, hrunC.append hrunD, (coveredStep_refreshing htaskD).trans hstepV, hepochD, ?_⟩
  rw [hepochV, hepochD]

end LsnCaches

/-! ## Every run -/

/-- Two sets of servers have one identity exactly when they have the same
counted endpoints.  In a run whose steps meet the condition, a new epoch becomes
visible over empty caches and a refresh that finds a new identity gets there;
every request position in a cache carries a current scope; and an answer about
the replica maximum was recorded under the epoch it was asked for. -/
theorem writer_epoch_isolation
    {workers : Nat} {ls : List EpochEvent} {t : LsnCaches}
    (h : LsnCaches.CoveredRun workers ls t) :
    (∀ xs ys : List LsnServer, (∀ x ∈ xs, '\n' ∉ x.address) → (∀ y ∈ ys, '\n' ∉ y.address) →
        (writerIdentity xs = writerIdentity ys ↔
          ((countedServers xs).map LsnServer.endpoint).Perm
            ((countedServers ys).map LsnServer.endpoint))) ∧
      (∀ e u w, t.step e = some u → (u.repl w).writerEpoch ≠ (t.repl w).writerEpoch →
        (u.repl w).writerEpoch = (t.repl w).writerEpoch + 1 ∧ t.Cleared w ∧ u.Cleared w) ∧
      (∀ w todo next, t.task = .scanning (w :: todo) next → t.covered .managerStep = true →
        t.IdentityChanged w → (∀ srv ∈ t.cacheServersOf w, (t.server srv).cacheGuard = none) →
        ∃ ms u, LsnCaches.CoveredRun workers (ls ++ ms) u ∧
          (u.repl w).writerEpoch = (t.repl w).writerEpoch + 1 ∧ u.Cleared w) ∧
      (∀ w, ∀ scope ∈ (t.repl w).groupScopes, scope = t.currentScope w) ∧
      (∀ hg, ∀ srv ∈ t.hostgroup hg, ∀ scope ∈ (t.server srv).rfqScopes,
        ∃ w, scope = t.currentScope w) ∧
      ∀ scope lsn, (scope, lsn) ∈ t.answers →
        lsn = 0 ∨ (scope.hg.toNat, scope.epoch, lsn) ∈ t.replayLog := by
  have hinv := h.inv
  refine ⟨fun xs ys hx hy => writerIdentity_inj hx hy,
    fun e u w hstep hnew => hinv.cleared_of_writerEpoch_step hstep hnew, ?_,
    hinv.core.cells.group, ?_, fun scope lsn hmem => hinv.core.replay.answers (scope, lsn) hmem⟩
  · intro w todo next htask hcovered hchanged hfree
    obtain ⟨ms, u, v, hrun, hlast, hepoch, hnew⟩ :=
      LsnCaches.refreshRun htask hcovered hchanged hfree
    have hreach : LsnCaches.CoveredRun workers (ls ++ ms) u := Run.append h hrun
    obtain ⟨-, hstep⟩ := Option.ite_none_right_eq_some.mp hlast
    obtain ⟨-, -, hcleared⟩ := hreach.inv.cleared_of_writerEpoch_step (w := w) hstep (by omega)
    refine ⟨ms ++ [.managerStep], v, ?_, hnew, hcleared⟩
    rw [← List.append_assoc]
    exact Run.snoc hreach hlast
  · intro hg srv hsrv scope hscope
    obtain ⟨w, -, heq⟩ := hinv.core.cells.server hg srv hsrv scope hscope
    exact ⟨w, heq⟩

/-- A pair is loaded and a worker is about to store a position of its reader;
then another writer appears and the pair is loaded again with the same reader.
The refresh waits for the worker. -/
def failoverDuringStore : List EpochEvent :=
  [.addServer 1 ['w'] 5432, .addServer 2 ['r'] 5432,
    .reload [⟨1, 2, true⟩] [1], .managerStep, .managerStep,
    .acceptBegin 0 1 2 100 { hg := 1, epoch := 0 } 0,
    .acceptStep 0 false 7, .acceptStep 0 false 7, .acceptStep 0 false 7,
    .addServer 1 ['x'] 5432, .reload [⟨1, 2, true⟩] [1], .managerStep,
    .managerStep, .managerStep,
    .acceptStep 0 false 7, .acceptStep 0 false 7, .acceptStep 0 false 7,
    .managerStep, .managerStep, .managerStep, .managerStep, .managerStep, .managerStep,
    .managerStep, .managerStep, .managerStep]

theorem writer_epoch_isolation_failover :
    ∃ t, LsnCaches.CoveredRun 1 failoverDuringStore t ∧ (t.repl 1).writerEpoch = 1 ∧
      (t.repl 1).groupLsn = 0 ∧ ∀ scope ∈ (t.repl 1).groupScopes, scope = t.currentScope 1 := by
  have heval : (failoverDuringStore.foldlM LsnCaches.coveredStep { workers := 1 }).map
      (fun t => ((t.repl 1).writerEpoch, (t.repl 1).groupLsn)) = some (1, 0) := by decide
  obtain ⟨t, ht, heq⟩ := Option.map_eq_some_iff.mp heval
  obtain ⟨hepoch, hgroup⟩ := Prod.mk.inj heq
  have hrun : LsnCaches.CoveredRun 1 failoverDuringStore t := Run.of_foldlM _ ht
  exact ⟨t, hrun, hepoch, hgroup, (writer_epoch_isolation hrun).2.2.2.1 1⟩

/-- The same, but the pair is loaded with another reader hostgroup: the refresh
neither guards nor clears the server of the former one. -/
def failoverWithMovedReader : List EpochEvent :=
  [.addServer 1 ['w'] 5432, .addServer 2 ['r'] 5432,
    .reload [⟨1, 2, true⟩] [1], .managerStep, .managerStep,
    .acceptBegin 0 1 2 100 { hg := 1, epoch := 0 } 0,
    .acceptStep 0 false 7, .acceptStep 0 false 7, .acceptStep 0 false 7,
    .addServer 1 ['x'] 5432, .reload [⟨1, 3, true⟩] [1],
    .managerStep, .managerStep, .managerStep, .managerStep, .managerStep, .managerStep,
    .managerStep, .managerStep, .managerStep, .managerStep, .managerStep, .managerStep,
    .managerStep, .acceptStep 0 false 7, .acceptStep 0 false 7]

/-- A pair changes its roles; its former writer is then asked about. -/
def swappedPair : List EpochEvent :=
  [.addServer 1 ['w'] 5432,
    .reload [⟨1, 2, true⟩] [1], .managerStep, .managerStep,
    .reload [⟨2, 1, true⟩] [2], .managerStep, .managerStep,
    .monitor 1 0 100 true 7,
    .managerStep, .managerStep, .managerStep, .managerStep, .managerStep,
    .readBegin 0 { hg := 1, epoch := 0 } 1, .readStep 0, .readStep 0, .readStep 0]

theorem moved_reader_stores_old_epoch :
    (∃ t, LsnCaches.Reaches 1 failoverWithMovedReader t ∧ (t.repl 1).writerEpoch = 1 ∧
        (t.repl 1).groupLsn = 100 ∧ (t.repl 1).groupScopes = [{ hg := 1, epoch := 0 }]) ∧
      (∃ xs ys : List LsnServer, writerIdentity xs = writerIdentity ys ∧
        ¬ ((countedServers xs).map LsnServer.endpoint).Perm
          ((countedServers ys).map LsnServer.endpoint)) ∧
      ∃ t, LsnCaches.Reaches 0 swappedPair t ∧ t.answers = [({ hg := 1, epoch := 0 }, 100)] ∧
        t.replayLog = [(2, 0, 100)] := by
  refine ⟨?_, ⟨[{ address := ['a', '\t', '1', '\n', 'b'], port := 2 }],
    [{ address := ['a'], port := 1 }, { address := ['b'], port := 2 }], by decide, by decide⟩, ?_⟩
  · have heval : (failoverWithMovedReader.foldlM LsnCaches.step { workers := 1 }).map
        (fun t => ((t.repl 1).writerEpoch, (t.repl 1).groupLsn, (t.repl 1).groupScopes)) =
        some (1, 100, [{ hg := 1, epoch := 0 }]) := by decide
    obtain ⟨t, ht, heq⟩ := Option.map_eq_some_iff.mp heval
    simp only [Prod.mk.injEq] at heq
    exact ⟨t, Run.of_foldlM _ ht, heq⟩
  · have heval : (swappedPair.foldlM LsnCaches.step { workers := 0 }).map
        (fun t => (t.answers, t.replayLog)) =
        some ([({ hg := 1, epoch := 0 }, 100)], [(2, 0, 100)]) := by decide
    obtain ⟨t, ht, heq⟩ := Option.map_eq_some_iff.mp heval
    exact ⟨t, Run.of_foldlM _ ht, Prod.mk.inj heq⟩

end PolarProxy
