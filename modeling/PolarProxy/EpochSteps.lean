import PolarProxy.EpochRefresh

/-!
# What a step does to the shared cells

The cells of a group are cleared, and its epoch is raised, only by a refresh that
holds the manager's write lock.  Every other step leaves the epochs alone and can
only raise a position.

**Results.** `advances_step`, `step_writerEpoch`, `step_calls`, `step_allocated`.
-/

namespace PolarProxy

open Transition

namespace LsnCaches

variable {s t : LsnCaches}

/-! ## Steps of the lock holder -/

/-- The server whose cells a step of the lock holder clears. -/
def clearsServer (s : LsnCaches) : EpochEvent → Option Nat
  | .managerStep =>
      match s.task with
      | .refreshing _ (.clearServers (srv :: _)) _ => some srv
      | _ => none
  | _ => none

def clearsGroup (s : LsnCaches) : EpochEvent → Option Nat
  | .managerStep =>
      match s.task with
      | .refreshing r .clearGroup _ => some r.writer
      | _ => none
  | _ => none

/-- The server whose time it stores. -/
def writesTime (s : LsnCaches) : EpochEvent → Option Nat
  | .managerStep =>
      match s.task with
      | .refreshing _ (.clearServers (srv :: _)) _ => some srv
      | .monitoring m .advancing => some m.srv
      | _ => none
  | _ => none

def beginsEpoch (s : LsnCaches) : EpochEvent → Option Nat
  | .managerStep =>
      match s.task with
      | .refreshing r .bump _ => some r.writer
      | _ => none
  | _ => none

/-! ## Shared cells grow -/

/-- What every step leaves of the shared cells, apart from those it clears, the time it
stores and the epoch it begins. -/
structure Advances (s t : LsnCaches) (cleared timed clearedGroup begun : Option Nat) : Prop where
  nextServer : s.nextServer ≤ t.nextServer
  server : ∀ srv < s.nextServer, cleared ≠ some srv →
    (s.server srv).currentLsn ≤ (t.server srv).currentLsn
  time : ∀ srv < s.nextServer, timed ≠ some srv →
    (t.server srv).updatedAt = (s.server srv).updatedAt
  group : ∀ w, clearedGroup ≠ some w → (s.repl w).groupLsn ≤ (t.repl w).groupLsn
  epoch : ∀ w, (s.repl w).writerEpoch ≤ (t.repl w).writerEpoch
  sameEpoch : ∀ w, begun ≠ some w → (t.repl w).writerEpoch = (s.repl w).writerEpoch

variable {cleared timed clearedGroup begun : Option Nat}

theorem Advances.same
    (hnext : t.nextServer = s.nextServer)
    (hserver : t.server = s.server)
    (hrepl : t.repl = s.repl) :
    Advances s t cleared timed clearedGroup begun where
  nextServer := hnext.ge
  server := fun srv _ _ => by rw [hserver]
  time := fun srv _ _ => by rw [hserver]
  group := fun w _ => by rw [hrepl]
  epoch := fun w => by rw [hrepl]
  sameEpoch := fun w _ => by rw [hrepl]

theorem Advances.ofServer
    {srv : Nat} {x : LsnServer}
    (hnext : t.nextServer = s.nextServer)
    (hserver : t.server = Function.update s.server srv x)
    (hrepl : t.repl = s.repl)
    (hlsn : cleared ≠ some srv → (s.server srv).currentLsn ≤ x.currentLsn)
    (htime : timed ≠ some srv → x.updatedAt = (s.server srv).updatedAt) :
    Advances s t cleared timed clearedGroup begun where
  nextServer := hnext.ge
  server := by
    intro srv' _ hne
    rw [hserver]
    by_cases h : srv' = srv
    · subst h
      rw [Function.update_self]
      exact hlsn hne
    · rw [Function.update_of_ne h]
  time := by
    intro srv' _ hne
    rw [hserver]
    by_cases h : srv' = srv
    · subst h
      rw [Function.update_self]
      exact htime hne
    · rw [Function.update_of_ne h]
  group := fun w _ => by rw [hrepl]
  epoch := fun w => by rw [hrepl]
  sameEpoch := fun w _ => by rw [hrepl]

theorem Advances.ofRepl
    {w : Nat} {x : ReplConfig}
    (hnext : t.nextServer = s.nextServer)
    (hserver : t.server = s.server)
    (hrepl : t.repl = Function.update s.repl w x)
    (hlsn : clearedGroup ≠ some w → (s.repl w).groupLsn ≤ x.groupLsn)
    (hle : (s.repl w).writerEpoch ≤ x.writerEpoch)
    (hepoch : begun ≠ some w → x.writerEpoch = (s.repl w).writerEpoch) :
    Advances s t cleared timed clearedGroup begun where
  nextServer := hnext.ge
  server := fun srv _ _ => by rw [hserver]
  time := fun srv _ _ => by rw [hserver]
  group := by
    intro w' hne
    rw [hrepl]
    by_cases h : w' = w
    · subst h
      rw [Function.update_self]
      exact hlsn hne
    · rw [Function.update_of_ne h]
  epoch := by
    intro w'
    rw [hrepl]
    by_cases h : w' = w
    · subst h
      rw [Function.update_self]
      exact hle
    · rw [Function.update_of_ne h]
  sameEpoch := by
    intro w' hne
    rw [hrepl]
    by_cases h : w' = w
    · subst h
      rw [Function.update_self]
      exact hepoch hne
    · rw [Function.update_of_ne h]

theorem le_advanceLsn
    (srv : LsnServer) (lsn now : Nat) :
    srv.currentLsn ≤ (srv.advanceLsn lsn now).currentLsn := by
  unfold LsnServer.advanceLsn
  split
  · exact Nat.le_refl _
  · exact Nat.le_max_left _ _

theorem advances_acceptStep
    {i now : Nat} {c : AcceptCall} {coalesced : Bool}
    (h : s.acceptStep i c coalesced now = some t) :
    Advances s t none (if c.stage = .validated then some c.srv else none) none none := by
  unfold acceptStep at h
  split at h
  · split at h <;> (obtain rfl := Option.some.inj h; exact .same rfl rfl rfl)
  · obtain ⟨-, h⟩ := Option.ite_none_right_eq_some.mp h
    obtain rfl := Option.some.inj h
    exact .ofServer rfl rfl rfl (fun _ => Nat.le_refl _) (fun _ => rfl)
  · split at h
    · obtain rfl := Option.some.inj h
      exact .same rfl rfl rfl
    · obtain rfl := Option.some.inj h
      exact .ofServer rfl rfl rfl (fun _ => Nat.le_refl _) (fun _ => rfl)
  · rename_i hstage
    obtain rfl := Option.some.inj h
    exact .ofServer rfl rfl rfl (fun _ => le_advanceLsn _ _ _)
      (fun hne => absurd (if_pos hstage) hne)
  · obtain rfl := Option.some.inj h
    exact .ofRepl rfl rfl rfl (fun _ => Nat.le_max_left _ _) (Nat.le_refl _) (fun _ => rfl)
  · obtain rfl := Option.some.inj h
    exact .ofServer rfl rfl rfl (fun _ => Nat.le_refl _) (fun _ => rfl)

/-- A step that leaves the calls and the hostgroups alone. -/
structure FrameStep (s t : LsnCaches) (cleared timed clearedGroup begun : Option Nat) : Prop where
  advances : Advances s t cleared timed clearedGroup begun
  calls : t.calls = s.calls
  hostgroup : t.hostgroup = s.hostgroup

theorem FrameStep.same
    (hnext : t.nextServer = s.nextServer)
    (hserver : t.server = s.server)
    (hrepl : t.repl = s.repl)
    (hcalls : t.calls = s.calls)
    (hhostgroup : t.hostgroup = s.hostgroup) :
    FrameStep s t cleared timed clearedGroup begun :=
  ⟨.same hnext hserver hrepl, hcalls, hhostgroup⟩

theorem frameStep_scanWriter
    (w : Nat) (todo : List Nat) (next : Option TopologyEntries) :
    FrameStep s (s.scanWriter w todo next) cleared timed clearedGroup begun := by
  unfold scanWriter
  split
  · exact .same rfl rfl rfl rfl rfl
  · simp only
    split <;>
      exact ⟨.ofRepl rfl rfl rfl (fun _ => Nat.le_refl _) (Nat.le_refl _) (fun _ => rfl), rfl, rfl⟩

theorem frameStep_refreshStep
    {r : Refresh} {next : Option TopologyEntries} {stage : RefreshStage}
    (htask : s.task = .refreshing r stage next)
    (h : s.refreshStep r next stage = some t) :
    FrameStep s t (s.clearsServer .managerStep) (s.writesTime .managerStep)
      (s.clearsGroup .managerStep) (s.beginsEpoch .managerStep) := by
  simp only [clearsServer, writesTime, clearsGroup, beginsEpoch, htask]
  cases stage with
  | guarding pending =>
      cases pending with
      | nil =>
          obtain rfl := Option.some.inj h
          exact .same rfl rfl rfl rfl rfl
      | cons srv pending =>
          obtain ⟨-, h⟩ := Option.ite_none_right_eq_some.mp h
          obtain rfl := Option.some.inj h
          exact ⟨.ofServer rfl rfl rfl (fun _ => Nat.le_refl _) (fun _ => rfl), rfl, rfl⟩
  | clearGroup =>
      obtain rfl := Option.some.inj h
      exact ⟨.ofRepl rfl rfl rfl (fun hne => absurd rfl hne) (Nat.le_refl _) (fun _ => rfl), rfl, rfl⟩
  | clearReplica =>
      obtain rfl := Option.some.inj h
      exact ⟨.ofRepl rfl rfl rfl (fun _ => Nat.le_refl _) (Nat.le_refl _) (fun _ => rfl), rfl, rfl⟩
  | clearServers pending =>
      cases pending with
      | nil =>
          obtain rfl := Option.some.inj h
          exact .same rfl rfl rfl rfl rfl
      | cons srv pending =>
          obtain rfl := Option.some.inj h
          exact ⟨.ofServer rfl rfl rfl (fun hne => absurd rfl hne) (fun hne => absurd rfl hne), rfl, rfl⟩
  | bump =>
      obtain rfl := Option.some.inj h
      exact ⟨.ofRepl rfl rfl rfl (fun _ => Nat.le_refl _) (Nat.le_succ _) (fun hne => absurd rfl hne),
        rfl, rfl⟩
  | release pending =>
      cases pending with
      | nil =>
          obtain rfl := Option.some.inj h
          exact .same rfl rfl rfl rfl rfl
      | cons srv pending =>
          obtain rfl := Option.some.inj h
          exact ⟨.ofServer rfl rfl rfl (fun _ => Nat.le_refl _) (fun _ => rfl), rfl, rfl⟩

theorem frameStep_monitorStep
    {m : MonitorUpdate} {stage : MonitorStage}
    (htask : s.task = .monitoring m stage)
    (h : s.monitorStep m stage = some t) :
    FrameStep s t (s.clearsServer .managerStep) (s.writesTime .managerStep)
      (s.clearsGroup .managerStep) (s.beginsEpoch .managerStep) := by
  simp only [clearsServer, writesTime, clearsGroup, beginsEpoch, htask]
  cases stage with
  | guarding =>
      obtain ⟨-, h⟩ := Option.ite_none_right_eq_some.mp h
      obtain rfl := Option.some.inj h
      exact ⟨.ofServer rfl rfl rfl (fun _ => Nat.le_refl _) (fun _ => rfl), rfl, rfl⟩
  | advancing =>
      obtain rfl := Option.some.inj h
      exact ⟨.ofServer rfl rfl rfl (fun _ => le_advanceLsn _ _ _) (fun hne => absurd rfl hne), rfl, rfl⟩
  | group =>
      simp only [monitorStep] at h
      split at h
      · obtain rfl := Option.some.inj h
        exact ⟨.ofRepl rfl rfl rfl (fun _ => Nat.le_max_left _ _) (Nat.le_refl _) (fun _ => rfl), rfl, rfl⟩
      · obtain rfl := Option.some.inj h
        exact .same rfl rfl rfl rfl rfl
  | replica =>
      simp only [monitorStep] at h
      split at h
      · split at h
        · obtain rfl := Option.some.inj h
          exact ⟨.ofRepl rfl rfl rfl (fun _ => Nat.le_refl _) (Nat.le_refl _) (fun _ => rfl), rfl, rfl⟩
        · obtain rfl := Option.some.inj h
          exact .same rfl rfl rfl rfl rfl
      · obtain rfl := Option.some.inj h
        exact .same rfl rfl rfl rfl rfl
  | release =>
      obtain rfl := Option.some.inj h
      exact ⟨.ofServer rfl rfl rfl (fun _ => Nat.le_refl _) (fun _ => rfl), rfl, rfl⟩

theorem frameStep_managerStep
    (h : s.managerStep = some t) :
    FrameStep s t (s.clearsServer .managerStep) (s.writesTime .managerStep)
      (s.clearsGroup .managerStep) (s.beginsEpoch .managerStep) := by
  unfold managerStep at h
  split at h
  · cases h
  · obtain rfl := Option.some.inj h
    exact frameStep_scanWriter _ _ _
  · obtain rfl := Option.some.inj h
    exact .same rfl rfl rfl rfl rfl
  · obtain rfl := Option.some.inj h
    exact .same rfl rfl rfl rfl rfl
  · rename_i r stage next htask
    exact frameStep_refreshStep htask h
  · rename_i m stage htask
    exact frameStep_monitorStep htask h

theorem applyRows_cells
    (rows : List ReplRow) :
    (rows.foldl applyRow s).server = s.server ∧
      ∀ w, ((rows.foldl applyRow s).repl w).groupLsn = (s.repl w).groupLsn := by
  induction rows generalizing s with
  | nil =>
      exact ⟨rfl, fun _ => rfl⟩
  | cons row rest ih =>
      obtain ⟨hserver, hgroup⟩ := ih (s := s.applyRow row)
      constructor
      · rw [List.foldl_cons, hserver]
        unfold applyRow
        cases row.isPolardb <;> rfl
      · intro w
        rw [List.foldl_cons, hgroup w, repl_applyRow]
        by_cases hw : w = row.writerHostgroup
        · subst hw
          rw [Function.update_self]
        · rw [Function.update_of_ne hw]

/-! ## Every step -/

variable {scope : WriterScope}

/-- A call that has just begun. -/
structure Begun (s : LsnCaches) (c : AcceptCall) : Prop where
  stage : c.stage = .scoped
  lsn : c.lsn ≠ 0
  valid : c.scope.Valid
  server : ∃ hg, c.srv ∈ s.hostgroup hg

theorem acceptBegin_eq
    {i srv hg lsn k : Nat}
    (h : s.acceptBegin i srv hg lsn scope k = some t) :
    t = s ∨ ∃ c, s.calls i = none ∧ s.Begun c ∧ t = s.setCall i (some c) := by
  unfold acceptBegin at h
  split at h
  · rename_i hnone hk
    obtain ⟨⟨-, hsrv⟩, h⟩ := Option.ite_none_right_eq_some.mp h
    split at h
    · split at h
      · exact Or.inl (Option.some.inj h).symm
      · rename_i hvalid
        obtain ⟨hlsn, hscope⟩ := not_or.mp hvalid
        exact Or.inr ⟨_, hnone, ⟨rfl, hlsn, not_not.mp hscope, hg, hsrv⟩, (Option.some.inj h).symm⟩
    · exact Or.inl (Option.some.inj h).symm
  · cases h

theorem readBegin_eq
    {j k : Nat}
    (h : s.readBegin j scope k = some t) :
    ∃ reads answers, t = { s with reads := reads, answers := answers } := by
  unfold readBegin at h
  split at h
  · split at h <;> exact ⟨_, _, (Option.some.inj h).symm⟩
  · cases h

theorem readStep_eq
    (j : Nat) (r : ReplicaRead) :
    ∃ reads answers, s.readStep j r = { s with reads := reads, answers := answers } := by
  simp only [readStep]
  split
  · split <;> exact ⟨_, _, rfl⟩
  · exact ⟨_, _, rfl⟩
  · exact ⟨_, _, rfl⟩

/-- The event is no part of a call and changes no hostgroup. -/
def Frames : EpochEvent → Prop
  | .acceptBegin _ _ _ _ _ _ | .acceptStep _ _ _ | .addServer _ _ _ | .purgeServer _ _ => False
  | _ => True

theorem frameStep_step
    {e : EpochEvent}
    (hstep : s.step e = some t)
    (hframes : Frames e) :
    FrameStep s t (s.clearsServer e) (s.writesTime e) (s.clearsGroup e) (s.beginsEpoch e) := by
  cases e with
  | acceptBegin _ _ _ _ _ _ | acceptStep _ _ _ | addServer _ _ _ | purgeServer _ _ =>
      exact hframes.elim
  | readBegin j scope k =>
      obtain ⟨reads, answers, rfl⟩ := readBegin_eq hstep
      exact .same rfl rfl rfl rfl rfl
  | readStep j =>
      obtain ⟨r, -, rfl⟩ := Option.map_eq_some_iff.mp hstep
      obtain ⟨reads, answers, heq⟩ := readStep_eq (s := s) j r
      rw [heq]
      exact .same rfl rfl rfl rfl rfl
  | setStatus srv status =>
      obtain rfl := Option.some.inj hstep
      exact ⟨.ofServer rfl rfl rfl (fun _ => Nat.le_refl _) (fun _ => rfl), rfl, rfl⟩
  | reload rows order =>
      obtain ⟨-, hstep⟩ := Option.ite_none_right_eq_some.mp hstep
      obtain rfl := Option.some.inj hstep
      obtain ⟨hserver, hgroup⟩ := applyRows_cells (s := { s with
        repl := fun w => { s.repl w with configured := false }
        writers := []
        readerToWriter := fun _ => none }) rows
      have hq := Quiet.reload (s := s) rows
      refine ⟨?_, hq.calls, hq.hostgroup⟩
      exact {
        nextServer := hq.nextServer.ge
        server := fun srv _ _ => (congrArg (fun f => (f srv).currentLsn) hserver).ge
        time := fun srv _ _ => congrArg (fun f => (f srv).updatedAt) hserver
        group := fun w _ => (hgroup w).ge
        epoch := fun w => (hq.epoch w).ge
        sameEpoch := fun w _ => hq.epoch w }
  | refreshAll _ | monitor _ _ _ _ _ =>
      obtain ⟨-, hstep⟩ := Option.ite_none_right_eq_some.mp hstep
      obtain rfl := Option.some.inj hstep
      exact .same rfl rfl rfl rfl rfl
  | managerStep =>
      exact frameStep_managerStep hstep

theorem advances_step
    {e : EpochEvent}
    (hstep : s.step e = some t)
    (hcall : ∀ i coalesced now, e ≠ .acceptStep i coalesced now) :
    Advances s t (s.clearsServer e) (s.writesTime e) (s.clearsGroup e) (s.beginsEpoch e) := by
  cases e with
  | acceptBegin i srv hg lsn scope k =>
      rcases acceptBegin_eq hstep with rfl | ⟨c, -, -, rfl⟩ <;> exact .same rfl rfl rfl
  | acceptStep i coalesced now =>
      exact absurd rfl (hcall i coalesced now)
  | addServer hid address port =>
      obtain ⟨-, hstep⟩ := Option.ite_none_right_eq_some.mp hstep
      obtain rfl := Option.some.inj hstep
      -- a new server takes a number that no cell had
      have hold : ∀ srv < s.nextServer, (s.addServer hid address port).server srv = s.server srv :=
        fun srv hlt => server_setServer_ne _ (Nat.ne_of_lt hlt)
      exact {
        nextServer := Nat.le_succ _
        server := fun srv hlt _ => (congrArg LsnServer.currentLsn (hold srv hlt)).ge
        time := fun srv hlt _ => congrArg LsnServer.updatedAt (hold srv hlt)
        group := fun _ _ => Nat.le_refl _
        epoch := fun _ => Nat.le_refl _
        sameEpoch := fun _ _ => rfl }
  | purgeServer hid srv =>
      obtain ⟨-, hstep⟩ := Option.ite_none_right_eq_some.mp hstep
      obtain rfl := Option.some.inj hstep
      exact .same rfl rfl rfl
  | _ =>
      exact (frameStep_step hstep trivial).advances

/-- Only the last store of a refresh changes an epoch, and only its writer's. -/
theorem step_writerEpoch
    {e : EpochEvent} {w : Nat}
    (hstep : s.step e = some t)
    (hnew : (t.repl w).writerEpoch ≠ (s.repl w).writerEpoch) :
    ∃ r next, s.task = .refreshing r .bump next ∧ r.writer = w ∧
      s.refreshStep r next .bump = some t := by
  have hbegins : s.beginsEpoch e = some w := by
    by_contra hne
    cases e with
    | acceptStep i coalesced now =>
        obtain ⟨c, -, hstep⟩ := Option.bind_eq_some_iff.mp hstep
        exact hnew ((advances_acceptStep hstep).sameEpoch w (by simp))
    | _ =>
        exact hnew ((advances_step hstep (by simp)).sameEpoch w hne)
  unfold beginsEpoch at hbegins
  split at hbegins
  · split at hbegins
    · rename_i r next htask
      refine ⟨r, next, htask, Option.some.inj hbegins, ?_⟩
      simpa [step, managerStep, htask] using hstep
    · cases hbegins
  · cases hbegins

/-! ## Calls and servers -/

theorem step_calls
    {e : EpochEvent}
    (hstep : s.step e = some t)
    (hcall : ∀ i coalesced now, e ≠ .acceptStep i coalesced now) :
    t.calls = s.calls ∨
      ∃ i c, s.calls i = none ∧ t.calls = Function.update s.calls i (some c) ∧ s.Begun c := by
  cases e with
  | acceptBegin i srv hg lsn scope k =>
      rcases acceptBegin_eq hstep with rfl | ⟨c, hnone, hbegun, rfl⟩
      · exact Or.inl rfl
      · exact Or.inr ⟨i, c, hnone, rfl, hbegun⟩
  | acceptStep i coalesced now =>
      exact absurd rfl (hcall i coalesced now)
  | addServer _ _ _ | purgeServer _ _ =>
      obtain ⟨-, hstep⟩ := Option.ite_none_right_eq_some.mp hstep
      obtain rfl := Option.some.inj hstep
      exact Or.inl rfl
  | _ =>
      exact Or.inl (frameStep_step hstep trivial).calls

/-- Servers have numbers below the next one. -/
def Allocated (s : LsnCaches) : Prop :=
  ∀ hg, ∀ srv ∈ s.hostgroup hg, srv < s.nextServer

theorem Allocated.same
    (h : s.Allocated)
    (hostgroup : t.hostgroup = s.hostgroup)
    (hnext : s.nextServer ≤ t.nextServer) :
    t.Allocated := by
  intro hg srv hsrv
  rw [hostgroup] at hsrv
  exact Nat.lt_of_lt_of_le (h hg srv hsrv) hnext

theorem step_allocated
    {e : EpochEvent}
    (h : s.Allocated)
    (hstep : s.step e = some t)
    (hcall : ∀ i coalesced now, e ≠ .acceptStep i coalesced now) :
    t.Allocated := by
  have hnext := (advances_step hstep hcall).nextServer
  cases e with
  | acceptBegin i srv hg lsn scope k =>
      rcases acceptBegin_eq hstep with rfl | ⟨c, -, -, rfl⟩ <;> exact h.same rfl hnext
  | acceptStep i coalesced now =>
      exact absurd rfl (hcall i coalesced now)
  | addServer hid address port =>
      obtain ⟨-, hstep⟩ := Option.ite_none_right_eq_some.mp hstep
      obtain rfl := Option.some.inj hstep
      intro hg srv hsrv
      change srv < s.nextServer + 1
      change srv ∈ Function.update s.hostgroup hid (s.hostgroup hid ++ [s.nextServer]) hg at hsrv
      by_cases heq : hg = hid
      · subst heq
        rw [Function.update_self, List.mem_append, List.mem_singleton] at hsrv
        rcases hsrv with hsrv | rfl
        · exact Nat.lt_succ_of_lt (h hg srv hsrv)
        · exact Nat.lt_succ_self _
      · rw [Function.update_of_ne heq] at hsrv
        exact Nat.lt_succ_of_lt (h hg srv hsrv)
  | purgeServer hid srv =>
      obtain ⟨-, hstep⟩ := Option.ite_none_right_eq_some.mp hstep
      obtain rfl := Option.some.inj hstep
      intro hg srv' hsrv
      change srv' ∈ Function.update s.hostgroup hid _ hg at hsrv
      by_cases heq : hg = hid
      · subst heq
        rw [Function.update_self] at hsrv
        exact h hg srv' (List.mem_filter.mp hsrv).1
      · rw [Function.update_of_ne heq] at hsrv
        exact h hg srv' hsrv
  | _ =>
      exact h.same (frameStep_step hstep trivial).hostgroup hnext

end LsnCaches

end PolarProxy
