import PolarProxy.Snapshots
import Mathlib.Data.List.Nodup

/-!
# Reclaiming retired servers

A retired server may be deleted only when neither the current snapshot nor a
snapshot some thread still refers to names it.  The manager decides this by
generations and reference counts alone.

**Results.** `SnapshotStore.Inv`, `detachRun`, `snapshot_reclamation`.
-/

namespace PolarProxy

open Transition

namespace SnapshotStore

/-! ## Linking and unlinking -/

theorem removeIndexFast_perm
    {xs : List Nat} {j x : Nat}
    (h : xs[j]? = some x) :
    xs.Perm (x :: removeIndexFast xs j) := by
  obtain ⟨ys, last, rfl⟩ : ∃ ys last, xs = ys ++ [last] := by
    have hne : xs ≠ [] := by
      rintro rfl
      simp at h
    exact ⟨xs.dropLast, xs.getLast hne, (List.dropLast_append_getLast hne).symm⟩
  have hlast : (ys ++ [last]).getLast? = some last := by simp
  simp only [removeIndexFast, hlast]
  by_cases hj : j < ys.length
  · have hx : ys[j]? = some x := by
      rwa [List.getElem?_append_left hj] at h
    have hset : ((ys ++ [last]).set j last).dropLast = ys.set j last := by
      rw [List.set_append_left _ _ hj, List.dropLast_concat]
    rw [hset]
    -- the last element takes the place of the removed one
    have hswap : (last :: ys).Perm (x :: ys.set j last) := by
      have hget : ys[j] = x := (List.getElem?_eq_some_iff.mp hx).2
      rw [List.set_eq_take_append_cons_drop, if_pos hj]
      have hsplit : ys = ys.take j ++ x :: ys.drop (j + 1) := by
        rw [← hget, List.getElem_cons_drop, List.take_append_drop]
      calc (last :: ys).Perm (last :: (x :: (ys.take j ++ ys.drop (j + 1)))) := by
            apply List.Perm.cons
            nth_rewrite 1 [hsplit]
            exact List.perm_middle
        _ |>.Perm (x :: last :: (ys.take j ++ ys.drop (j + 1))) := List.Perm.swap _ _ _
        _ |>.Perm (x :: (ys.take j ++ last :: ys.drop (j + 1))) :=
            List.Perm.cons _ List.perm_middle.symm
    exact (List.perm_append_singleton last ys).trans hswap
  · have hj' : j = ys.length := by
      have hlt : j < (ys ++ [last]).length := (List.getElem?_eq_some_iff.mp h).1
      simp only [List.length_append, List.length_singleton] at hlt
      omega
    subst hj'
    have hx : last = x := by simpa using h
    rw [List.set_append_right _ _ (le_refl _)]
    simp [hx]

theorem link_servers_perm
    (hid srv : Nat) (gs : List HostgroupServers) :
    ((link hid srv gs).flatMap HostgroupServers.servers).Perm
      (srv :: gs.flatMap HostgroupServers.servers) := by
  induction gs with
  | nil =>
      simp [link]
  | cons g rest ih =>
      by_cases hg : g.hid = hid
      · simp only [link, hg, if_true, List.flatMap_cons, List.append_assoc,
          List.singleton_append]
        exact List.perm_middle
      · simp only [link, hg, if_false, List.flatMap_cons]
        exact (List.Perm.append_left _ ih).trans List.perm_middle

theorem set_servers_perm
    {gs : List HostgroupServers} {i srv : Nat} {g g' : HostgroupServers}
    (hi : gs[i]? = some g)
    (hg : g.servers.Perm (srv :: g'.servers)) :
    (gs.flatMap HostgroupServers.servers).Perm
      (srv :: (gs.set i g').flatMap HostgroupServers.servers) := by
  induction gs generalizing i with
  | nil =>
      simp at hi
  | cons g₀ rest ih =>
      cases i with
      | zero =>
          obtain rfl : g₀ = g := by simpa using hi
          simpa using List.Perm.append_right _ hg
      | succ i =>
          have hrest := ih (by simpa using hi)
          simp only [List.set_cons_succ, List.flatMap_cons]
          exact (List.Perm.append_left _ hrest).trans List.perm_middle

/-! ## The invariant -/

/-- The snapshots that can still be read. -/
def live (s : SnapshotStore) : Set ServerListSnapshot :=
  {v | s.current = some v ∨ v ∈ s.retiredSnapshots}

/-- Every server that has left its hostgroup. -/
def unlinkedServers (s : SnapshotStore) : List Nat :=
  s.retiredServers.map RetiredServer.srv ++ s.serversToDelete

/-- Every server has one owner: its hostgroup, the retired list, or whoever was
told to delete it. -/
structure Custody (s : SnapshotStore) : Prop where
  owned : (s.linkedServers ++ s.unlinkedServers).Nodup
  allocated : ∀ x ∈ s.linkedServers ++ s.unlinkedServers, x < s.nextServer
  log : s.retireLog.Perm s.unlinkedServers

/-- The current snapshot is the youngest one. -/
def Settled (s : SnapshotStore) : Prop :=
  (∀ v, s.current = some v → v.generation = s.generation) ∧
    ∀ v ∈ s.retiredSnapshots, v.generation < s.generation

/-- The current snapshot names linked servers only. -/
def CurrentLinked (s : SnapshotStore) : Prop :=
  ∀ v, s.current = some v → v.servers ⊆ s.linkedServers

/-- What holds at each place of the owner of the lock.  Only while a purge has
unpublished removals may the current snapshot name a retired server. -/
def SectionInv (s : SnapshotStore) : LockSection → Prop
  | .purging true => s.Settled
  | .publishing _ next =>
      next.generation = s.generation + 1 ∧ next.servers ⊆ s.linkedServers ∧
        (∀ v, s.current = some v → v ∈ s.retiredSnapshots) ∧
        ∀ v ∈ s.retiredSnapshots, v.generation ≤ s.generation
  | .stored _ next =>
      s.current = some next ∧ next.generation = s.generation + 1 ∧
        next.servers ⊆ s.linkedServers ∧ ∀ v ∈ s.retiredSnapshots, v.generation ≤ s.generation
  | _ => s.Settled ∧ s.CurrentLinked

structure Inv (s : SnapshotStore) : Prop where
  held : ∀ th ∈ s.threads, ∀ v ∈ th.references, v ∈ s.live
  guarded : Reclaim.Guarded ServerListSnapshot.generation (fun v x => x ∈ v.servers)
    RetiredServer.srv RetiredServer.generation s.live s.retiredServers
  unnamed : ∀ x ∈ s.serversToDelete, ∀ v ∈ s.live, x ∉ v.servers
  retiredAt : ∀ r ∈ s.retiredServers, r.generation ≤ s.generation
  distinct : s.retiredSnapshots.Nodup
  custody : s.Custody
  lock : s.SectionInv s.lockSection

variable {s t : SnapshotStore}

theorem Custody.not_retired_of_linked
    (h : s.Custody)
    {x : Nat}
    (hx : x ∈ s.linkedServers) :
    x ∉ s.unlinkedServers :=
  fun hy => (List.nodup_append.mp h.owned).2.2 x hx x hy rfl

theorem SectionInv.settled
    {changed : Bool}
    (h : s.SectionInv (.purging changed)) :
    s.Settled := by
  cases changed with
  | true =>
      exact h
  | false =>
      exact h.1

variable {v : ServerListSnapshot}

theorem Settled.live_le
    (h : s.Settled)
    (hv : v ∈ s.live) :
    v.generation ≤ s.generation := by
  rcases hv with hcurrent | hretired
  · exact (h.1 v hcurrent).le
  · exact (h.2 v hretired).le

theorem Inv.relock
    {sec : LockSection}
    (h : s.Inv)
    (hsec : s.SectionInv sec) :
    Inv { s with lockSection := sec } :=
  ⟨h.held, h.guarded, h.unnamed, h.retiredAt, h.distinct,
    ⟨h.custody.owned, h.custody.allocated, h.custody.log⟩, hsec⟩

variable {threads : List ReaderThread}

/-- Threads come by snapshots through the current one and through each other. -/
theorem Inv.readers
    (h : s.Inv)
    (hheld : ∀ th ∈ threads, ∀ v ∈ th.references, v ∈ s.live) :
    Inv { s with threads := threads } :=
  ⟨hheld, h.guarded, h.unnamed, h.retiredAt, h.distinct,
    ⟨h.custody.owned, h.custody.allocated, h.custody.log⟩, h.lock⟩

/-! ## One step -/

theorem Custody.of_perm
    (h : s.Custody)
    (hservers : (t.linkedServers ++ t.unlinkedServers).Perm (s.linkedServers ++ s.unlinkedServers))
    (hnext : t.nextServer = s.nextServer)
    (hlog : t.retireLog.Perm t.unlinkedServers) :
    t.Custody :=
  ⟨hservers.nodup_iff.mpr h.owned,
    fun x hx => hnext ▸ h.allocated x (hservers.mem_iff.mp hx), hlog⟩

theorem purgeServer_eq_some
    {i j : Nat}
    (h : s.purgeServer i j = some t) :
    ∃ g srv, s.hostGroups[i]? = some g ∧ g.servers[j]? = some srv ∧
      t = { s with
        hostGroups := s.hostGroups.set i { g with servers := removeIndexFast g.servers j }
        retiredServers := s.retiredServers ++ [⟨srv, s.generation⟩]
        retireLog := s.retireLog ++ [srv]
        lockSection := .purging true } := by
  simp only [purgeServer, Option.bind_eq_bind, Option.bind_eq_some_iff, Option.some.injEq] at h
  obtain ⟨g, hg, srv, hsrv, rfl⟩ := h
  exact ⟨g, srv, hg, hsrv, rfl⟩

theorem Inv.purgeServer
    {changed : Bool} {i j : Nat}
    (h : s.Inv)
    (hsec : s.lockSection = .purging changed)
    (hstep : s.purgeServer i j = some t) :
    t.Inv := by
  have hsettled : s.Settled := by
    have hlock := h.lock
    rw [hsec] at hlock
    exact hlock.settled
  obtain ⟨g, srv, hg, hsrv, rfl⟩ := purgeServer_eq_some hstep
  have hlinked : s.linkedServers.Perm (srv ::
      (s.hostGroups.set i { g with servers := removeIndexFast g.servers j }).flatMap
        HostgroupServers.servers) :=
    set_servers_perm hg (removeIndexFast_perm hsrv)
  refine ⟨h.held, h.guarded.retire fun v hv => hsettled.live_le hv, h.unnamed, ?_, h.distinct,
    ?_, hsettled⟩
  · intro r hr
    rcases List.mem_append.mp hr with hold | hnew
    · exact h.retiredAt r hold
    · obtain rfl := List.mem_singleton.mp hnew
      exact le_refl _
  · refine h.custody.of_perm ?_ rfl ?_
    · simp only [linkedServers, unlinkedServers, List.map_append, List.map_cons, List.map_nil,
        List.append_assoc]
      refine (List.Perm.append_left _ List.perm_middle).trans ?_
      refine List.perm_middle.trans ?_
      exact (List.Perm.append_right _ hlinked).symm
    · simp only [unlinkedServers, List.map_append, List.map_cons, List.map_nil, List.append_assoc]
      refine (List.perm_append_singleton _ _).trans ?_
      exact (h.custody.log.cons srv).trans List.perm_middle.symm

theorem Inv.add
    (h : s.Inv)
    (hsec : s.lockSection = .free)
    (hid : Nat) :
    (s.add hid).Inv := by
  have hlock := h.lock
  rw [hsec] at hlock
  have hlinked : ((s.add hid).linkedServers ++ s.unlinkedServers).Perm
      (s.nextServer :: (s.linkedServers ++ s.unlinkedServers)) :=
    List.Perm.append_right _ (link_servers_perm hid s.nextServer s.hostGroups)
  refine ⟨h.held, h.guarded, h.unnamed, h.retiredAt, h.distinct, ⟨?_, ?_, h.custody.log⟩,
    hlock.1, ?_⟩
  · refine hlinked.nodup_iff.mpr (List.nodup_cons.mpr ⟨?_, h.custody.owned⟩)
    intro hx
    exact absurd (h.custody.allocated _ hx) (lt_irrefl _)
  · intro x hx
    rcases List.mem_cons.mp (hlinked.mem_iff.mp hx) with rfl | hold
    · exact Nat.lt_succ_self _
    · exact Nat.lt_succ_of_lt (h.custody.allocated x hold)
  · intro v hv x hx
    have hperm := link_servers_perm hid s.nextServer s.hostGroups
    exact hperm.mem_iff.mpr (List.mem_cons_of_mem _ (hlock.2 v hv hx))

/-- While the old snapshot is also on the retired list, nothing more is live. -/
theorem live_buildSnapshot :
    s.buildSnapshot.live = s.live := by
  ext v
  simp only [live, buildSnapshot, Set.mem_ofPred_eq, List.mem_append, Option.mem_toList]
  tauto

theorem Inv.buildSnapshot
    (h : s.Inv)
    (hsettled : s.Settled) :
    s.buildSnapshot.Inv := by
  refine ⟨?_, ?_, ?_, h.retiredAt, ?_,
    ⟨h.custody.owned, h.custody.allocated, h.custody.log⟩, ?_⟩
  · rw [live_buildSnapshot]
    exact h.held
  · rw [live_buildSnapshot]
    exact h.guarded
  · rw [live_buildSnapshot]
    exact h.unnamed
  · refine List.nodup_append.mpr ⟨h.distinct, ?_, ?_⟩
    · cases s.current <;> simp
    · rintro v hv w hw rfl
      have hgen := hsettled.1 v (Option.mem_toList.mp hw)
      exact absurd (hsettled.2 v hv) (by omega)
  · refine ⟨rfl, List.Subset.refl _, ?_, ?_⟩
    · intro v hv
      exact List.mem_append_right _ (Option.mem_toList.mpr hv)
    · intro v hv
      rcases List.mem_append.mp hv with hold | hcurrent
      · exact (hsettled.2 v hold).le
      · exact (hsettled.1 v (Option.mem_toList.mp hcurrent)).le

theorem Inv.storeSnapshot
    {old : Option ServerListSnapshot} {next : ServerListSnapshot}
    (h : s.Inv)
    (hsec : s.lockSection = .publishing old next) :
    Inv { s with current := some next, lockSection := .stored old next } := by
  have hlock := h.lock
  rw [hsec] at hlock
  obtain ⟨hgen, hlinked, hkept, hle⟩ := hlock
  have hnext : ∀ x ∈ next.servers, x ∉ s.unlinkedServers :=
    fun x hx => h.custody.not_retired_of_linked (hlinked hx)
  -- the old snapshot stays live through the retired list
  have hold : s.live ⊆ {v | v ∈ s.retiredSnapshots} := by
    rintro v (hcurrent | hretired)
    · exact hkept v hcurrent
    · exact hretired
  have hlive : live { s with current := some next, lockSection := .stored old next } ⊆
      insert next s.live := by
    rintro v (hcurrent | hretired)
    · exact Or.inl (Option.some.inj hcurrent).symm
    · exact Or.inr (Or.inr hretired)
  refine ⟨?_, ?_, ?_, h.retiredAt, h.distinct,
    ⟨h.custody.owned, h.custody.allocated, h.custody.log⟩, rfl, hgen, hlinked, hle⟩
  · intro th hth v hv
    exact Or.inr (hold (h.held th hth v hv))
  · refine (h.guarded.publish (v := next) ?_).mono hlive (List.Subset.refl _)
    intro r hr hnames
    exact hnext _ hnames (List.mem_append_left _ (List.mem_map_of_mem hr))
  · intro x hx v hv
    rcases hlive hv with rfl | hv
    · intro hnames
      exact hnext x hnames (List.mem_append_right _ hx)
    · exact h.unnamed x hx v hv

theorem Inv.storeGeneration
    {old : Option ServerListSnapshot} {next : ServerListSnapshot}
    (h : s.Inv)
    (hsec : s.lockSection = .stored old next) :
    Inv { s with generation := next.generation, lockSection := .pruning old next 0 } := by
  have hlock := h.lock
  rw [hsec] at hlock
  obtain ⟨hcurrent, hgen, hlinked, hle⟩ := hlock
  refine ⟨h.held, h.guarded, h.unnamed, ?_, h.distinct,
    ⟨h.custody.owned, h.custody.allocated, h.custody.log⟩, ⟨?_, ?_⟩, ?_⟩
  · intro r hr
    have := h.retiredAt r hr
    simp only
    omega
  · intro v hv
    rw [Option.some.inj (hcurrent.symm.trans hv)]
  · intro v hv
    have := hle v hv
    simp only
    omega
  · intro v hv
    rw [← Option.some.inj (hcurrent.symm.trans hv)]
    exact hlinked

theorem not_held_of_useCount
    (hv : v ∈ s.retiredSnapshots)
    (hcount : s.useCount v = 1) :
    ∀ th ∈ s.threads, v ∉ th.references := by
  intro th hth href
  have hretired : 0 < s.retiredSnapshots.count v := List.count_pos_iff.mpr hv
  have hthreads : 0 < (s.threads.flatMap ReaderThread.references).count v :=
    List.count_pos_iff.mpr (List.mem_flatMap.mpr ⟨th, hth, href⟩)
  unfold useCount at hcount
  omega

variable {cursor : Nat}

/-- The prune loops, at the end of a publication and before a detach. -/
theorem Inv.pruneAt
    {resume : Nat → LockSection}
    (h : s.Inv)
    (hv : s.retiredSnapshots[cursor]? = some v)
    (hsettled : s.Settled ∧ s.CurrentLinked)
    (hresume : ∀ s n, SectionInv s (resume n) ↔ s.Settled ∧ s.CurrentLinked) :
    (s.pruneAt cursor v resume).Inv := by
  unfold SnapshotStore.pruneAt
  split
  · rename_i hcount
    have hmem : v ∈ s.retiredSnapshots := List.mem_of_getElem? hv
    have hsub : s.retiredSnapshots.eraseIdx cursor ⊆ s.retiredSnapshots :=
      (List.eraseIdx_sublist _ _).subset
    have hlive : live { s with
        retiredSnapshots := s.retiredSnapshots.eraseIdx cursor
        lockSection := resume cursor } ⊆ s.live := by
      rintro w (hcurrent | hretired)
      · exact Or.inl hcurrent
      · exact Or.inr (hsub hretired)
    refine ⟨?_, h.guarded.mono hlive (List.Subset.refl _), fun x hx w hw => h.unnamed x hx w (hlive hw),
      h.retiredAt, h.distinct.sublist (List.eraseIdx_sublist _ _),
      ⟨h.custody.owned, h.custody.allocated, h.custody.log⟩,
      (hresume _ _).mpr ⟨⟨hsettled.1.1, fun w hw => hsettled.1.2 w (hsub hw)⟩, hsettled.2⟩⟩
    intro th hth w hw
    rcases h.held th hth w hw with hcurrent | hretired
    · exact Or.inl hcurrent
    · refine Or.inr (List.mem_eraseIdx_iff_getElem?.mpr ?_)
      obtain ⟨i, hi⟩ := List.mem_iff_getElem?.mp hretired
      refine ⟨i, ?_, hi⟩
      rintro rfl
      obtain rfl : v = w := Option.some.inj (hv.symm.trans hi)
      exact not_held_of_useCount hmem hcount th hth hw
  · exact h.relock ((hresume _ _).mpr hsettled)

/-- What the detach hands out was retired before every snapshot in use. -/
theorem Inv.detachReclaimable
    (h : s.Inv)
    (hsec : s.lockSection = .detaching cursor) :
    s.detachReclaimable.Inv := by
  have hlock := h.lock
  rw [hsec] at hlock
  obtain ⟨hsettled, hlinked⟩ := hlock
  have hperm := Reclaim.release_perm RetiredServer.generation s.deleteBeforeGeneration
    s.retiredServers
  have hkept : (Reclaim.release RetiredServer.generation s.deleteBeforeGeneration
      s.retiredServers).2 ⊆ s.retiredServers :=
    fun r hr => hperm.mem_iff.mp (List.mem_append_right _ hr)
  have hunlinked : s.detachReclaimable.unlinkedServers.Perm s.unlinkedServers := by
    simp only [unlinkedServers, SnapshotStore.detachReclaimable]
    have hmap := hperm.map RetiredServer.srv
    rw [List.map_append] at hmap
    refine List.perm_append_comm.trans ?_
    rw [List.append_assoc]
    exact (List.Perm.append_left _ hmap).trans List.perm_append_comm
  refine ⟨h.held, h.guarded.mono (fun v hv => hv) hkept, ?_, fun r hr => h.retiredAt r (hkept hr),
    h.distinct, h.custody.of_perm (List.Perm.append_left _ hunlinked) rfl
      (h.custody.log.trans hunlinked.symm), hsettled, hlinked⟩
  intro x hx v hv
  rcases List.mem_append.mp hx with hold | hnew
  · exact h.unnamed x hold v hv
  · obtain ⟨r, hr, rfl⟩ := List.mem_map.mp hnew
    rw [Reclaim.release_eq] at hr
    obtain ⟨hr, hlt⟩ := List.mem_filter.mp hr
    rcases hv with hcurrent | hretired
    · intro hnames
      exact h.custody.not_retired_of_linked (hlinked v hcurrent hnames)
        (List.mem_append_left _ (List.mem_map_of_mem hr))
    · exact h.guarded.not_names_of_lt_cutoff (fun w hw => Or.inr hw) hr (of_decide_eq_true hlt)
        hretired

/-! ## Every step -/

theorem references_set
    {i : Nat} {th' : ReaderThread} {P : ServerListSnapshot → Prop}
    (h : ∀ th ∈ threads, ∀ v ∈ th.references, P v)
    (h' : ∀ v ∈ th'.references, P v) :
    ∀ th ∈ threads.set i th', ∀ v ∈ th.references, P v := by
  intro th hth v hv
  rcases List.mem_or_eq_of_mem_set hth with hold | rfl
  · exact h th hold v hv
  · exact h' v hv

theorem getSnapshot_references
    {th : ReaderThread} {generation : Nat}
    (hv : v ∈ (s.getSnapshot th generation).references) :
    v ∈ th.references ∨ s.current = some v := by
  unfold getSnapshot at hv
  split_ifs at hv
  · simp only [ReaderThread.references, List.mem_append, Option.mem_toList] at hv ⊢
    tauto
  · simp only [ReaderThread.references, List.mem_append, Option.mem_toList] at hv ⊢
    tauto

variable {e : SnapshotEvent}

theorem Inv.readerStep
    (h : s.Inv)
    (hstep : s.readerStep e = some threads) :
    ∀ th ∈ threads, ∀ v ∈ th.references, v ∈ s.live := by
  cases e with
  | startThread =>
      obtain rfl := Option.some.inj hstep
      intro th hth v hv
      rcases List.mem_append.mp hth with hold | hnew
      · exact h.held th hold v hv
      · obtain rfl := List.mem_singleton.mp hnew
        simp [ReaderThread.references] at hv
  | loadGeneration i =>
      obtain ⟨th, hth, rfl⟩ := Option.map_eq_some_iff.mp hstep
      exact references_set h.held (h.held th (List.mem_of_getElem? hth))
  | getSnapshot i =>
      simp only [SnapshotStore.readerStep, Option.bind_eq_bind, Option.bind_eq_some_iff,
        Option.some.injEq] at hstep
      obtain ⟨th, hth, generation, -, rfl⟩ := hstep
      refine references_set h.held fun v hv => ?_
      rcases getSnapshot_references hv with hheld | hcurrent
      · exact h.held th (List.mem_of_getElem? hth) v hheld
      · exact Or.inl hcurrent
  | share i j v =>
      simp only [SnapshotStore.readerStep, Option.bind_eq_bind, Option.bind_eq_some_iff,
        Option.ite_none_right_eq_some, Option.some.injEq] at hstep
      obtain ⟨th, hth, th', hth', hv, rfl⟩ := hstep
      refine references_set h.held fun w hw => ?_
      have hcases : w = v ∨ w ∈ th'.references := by
        simp only [ReaderThread.references, List.mem_append, List.mem_cons] at hw ⊢
        tauto
      rcases hcases with rfl | hw
      · exact h.held th (List.mem_of_getElem? hth) w hv
      · exact h.held th' (List.mem_of_getElem? hth') w hw
  | drop i j =>
      obtain ⟨th, hth, rfl⟩ := Option.map_eq_some_iff.mp hstep
      refine references_set h.held fun v hv => h.held th (List.mem_of_getElem? hth) v ?_
      rcases List.mem_append.mp hv with hcached | hcopy
      · exact List.mem_append_left _ hcached
      · exact List.mem_append_right _ (List.mem_of_mem_eraseIdx hcopy)
  | exitThread i =>
      obtain ⟨th, -, rfl⟩ := Option.map_eq_some_iff.mp hstep
      intro th hth v hv
      exact h.held th (List.mem_of_mem_eraseIdx hth) v hv
  | _ =>
      cases hstep

theorem Inv.writerStep
    (h : s.Inv)
    (hstep : s.writerStep s.lockSection e = some t) :
    t.Inv := by
  have hlock := h.lock
  generalize hsec : s.lockSection = sec at hstep hlock
  unfold SnapshotStore.writerStep at hstep
  split at hstep
  · -- lockPurge
    obtain rfl := Option.some.inj hstep
    exact h.relock hlock
  · exact h.purgeServer hsec hstep
  · -- purgeUnchanged
    obtain rfl := Option.some.inj hstep
    exact h.relock hlock
  · -- a purge that removed servers publishes
    obtain rfl := Option.some.inj hstep
    exact h.buildSnapshot hlock
  · obtain rfl := Option.some.inj hstep
    exact h.add hsec _
  · -- lockRepublish
    obtain rfl := Option.some.inj hstep
    exact h.relock hlock
  · obtain rfl := Option.some.inj hstep
    exact h.buildSnapshot hlock.1
  · obtain rfl := Option.some.inj hstep
    exact h.storeSnapshot hsec
  · obtain rfl := Option.some.inj hstep
    exact h.storeGeneration hsec
  · obtain ⟨v, hv, rfl⟩ := Option.map_eq_some_iff.mp hstep
    exact h.pruneAt hv hlock fun _ _ => Iff.rfl
  · -- endPublish
    obtain ⟨-, heq⟩ := Option.ite_none_right_eq_some.mp hstep
    obtain rfl := Option.some.inj heq
    exact h.relock hlock
  · -- lockDetach
    obtain rfl := Option.some.inj hstep
    exact h.relock hlock
  · obtain ⟨v, hv, rfl⟩ := Option.map_eq_some_iff.mp hstep
    exact h.pruneAt hv hlock fun _ _ => Iff.rfl
  · obtain ⟨-, heq⟩ := Option.ite_none_right_eq_some.mp hstep
    obtain rfl := Option.some.inj heq
    exact h.detachReclaimable hsec
  · cases hstep

theorem Inv.step
    (h : s.Inv)
    (hstep : s.step e = some t) :
    t.Inv := by
  unfold SnapshotStore.step at hstep
  split at hstep
  · rename_i threads hreader
    obtain rfl := Option.some.inj hstep
    exact h.readers (h.readerStep hreader)
  · exact h.writerStep hstep

theorem inv_init : init.Inv where
  held := by simp [init]
  guarded := by
    intro v _ r hr
    simp [init] at hr
  unnamed := by simp [init]
  retiredAt := by simp [init]
  distinct := List.nodup_nil
  custody := ⟨List.nodup_nil, by simp [init, linkedServers, unlinkedServers], List.Perm.refl _⟩
  lock := by
    refine ⟨⟨?_, by simp [init]⟩, ?_⟩
    · rintro v hv
      obtain rfl := Option.some.inj hv
      rfl
    · rintro v hv
      obtain rfl := Option.some.inj hv
      exact List.Subset.refl _

theorem Reaches.inv
    {ls : List SnapshotEvent}
    (h : Reaches ls t) :
    t.Inv :=
  Run.invariant (I := Inv) h inv_init fun hinv hstep => hinv.step hstep

/-! ## A detach on its own -/

/-- Nobody but the retired list holds a snapshot that no thread refers to. -/
theorem useCount_eq_one
    (h : s.Inv)
    (hsec : s.lockSection = .detaching cursor)
    (hv : v ∈ s.retiredSnapshots)
    (hheld : ∀ th ∈ s.threads, v ∉ th.references) :
    s.useCount v = 1 := by
  have hlock := h.lock
  rw [hsec] at hlock
  have hcurrent : s.current.toList.count v = 0 := by
    refine List.count_eq_zero.mpr fun hmem => ?_
    have hgen := hlock.1.1 v (Option.mem_toList.mp hmem)
    exact absurd (hlock.1.2 v hv) (by omega)
  have hretired : s.retiredSnapshots.count v = 1 := List.count_eq_one_of_mem h.distinct hv
  have hlocals : s.lockSection.locals.count v = 0 := by
    rw [hsec]
    rfl
  have hthreads : (s.threads.flatMap ReaderThread.references).count v = 0 := by
    refine List.count_eq_zero.mpr fun hmem => ?_
    obtain ⟨th, hth, href⟩ := List.mem_flatMap.mp hmem
    exact hheld th hth href
  unfold useCount
  omega

/-- Left alone, the prune loop keeps exactly the snapshots threads refer to. -/
theorem pruneRun
    (h : s.Inv)
    (hsec : s.lockSection = .detaching cursor)
    (hkept : ∀ i < cursor, ∀ v, s.retiredSnapshots[i]? = some v → ∃ th ∈ s.threads, v ∈ th.references) :
    ∃ ls n kept, Run (fun s e t => step s e = some t) s ls
        { s with retiredSnapshots := kept, lockSection := .detaching n } ∧
      kept.length ≤ n ∧ kept ⊆ s.retiredSnapshots ∧
      ∀ v ∈ kept, ∃ th ∈ s.threads, v ∈ th.references := by
  -- the loop ends because what lies beyond the cursor shrinks
  induction hn : s.retiredSnapshots.length - cursor generalizing s cursor with
  | zero =>
      refine ⟨[], cursor, s.retiredSnapshots, ?_, by omega, List.Subset.refl _, ?_⟩
      · rw [← hsec]
        exact Run.nil
      · intro v hv
        obtain ⟨i, hi⟩ := List.mem_iff_getElem?.mp hv
        have hlt : i < s.retiredSnapshots.length := (List.getElem?_eq_some_iff.mp hi).1
        exact hkept i (by omega) v hi
  | succ n ih =>
      have hlt : cursor < s.retiredSnapshots.length := by omega
      obtain ⟨v, hv⟩ : ∃ v, s.retiredSnapshots[cursor]? = some v :=
        ⟨_, List.getElem?_eq_getElem hlt⟩
      have hstep : s.step .pruneDetach = some (s.pruneAt cursor v .detaching) := by
        simp [step, readerStep, writerStep, hsec, hv]
      have hinv : (s.pruneAt cursor v .detaching).Inv := h.step hstep
      by_cases hcount : s.useCount v = 1
      · have heq : s.pruneAt cursor v .detaching = { s with
            retiredSnapshots := s.retiredSnapshots.eraseIdx cursor
            lockSection := .detaching cursor } := if_pos hcount
        rw [heq] at hstep hinv
        obtain ⟨ls, m, kept, hrun, hlen, hsub, hheld⟩ := ih hinv rfl
          (fun i hi w hw => hkept i hi w (by
            rwa [List.getElem?_eraseIdx_of_lt hi] at hw))
          (by simp only [List.length_eraseIdx_of_lt hlt]; omega)
        exact ⟨_, m, kept, (Run.single hstep).append hrun, hlen,
          fun w hw => (List.eraseIdx_sublist _ _).subset (hsub hw), hheld⟩
      · have heq : s.pruneAt cursor v .detaching =
            { s with lockSection := .detaching (cursor + 1) } := if_neg hcount
        rw [heq] at hstep hinv
        have hthread : ∃ th ∈ s.threads, v ∈ th.references := by
          by_contra hnone
          simp only [not_exists, not_and] at hnone
          exact hcount (useCount_eq_one h hsec (List.mem_of_getElem? hv) hnone)
        obtain ⟨ls, m, kept, hrun, hlen, hsub, hheld⟩ := ih hinv rfl
          (fun i hi w hw => by
            rcases Nat.lt_succ_iff_lt_or_eq.mp hi with hlt | rfl
            · exact hkept i hlt w hw
            · obtain rfl : v = w := Option.some.inj (hv.symm.trans hw)
              exact hthread)
          (by simp only; omega)
        exact ⟨_, m, kept, (Run.single hstep).append hrun, hlen, hsub, hheld⟩

/-- A detach hands out a retired server as soon as no thread refers to a retired
snapshot that is no younger than the retirement. -/
theorem detachRun
    {r : RetiredServer}
    (h : s.Inv)
    (hsec : s.lockSection = .free)
    (hr : r ∈ s.retiredServers)
    (hfree : ∀ th ∈ s.threads, ∀ v ∈ th.references, v ∈ s.retiredSnapshots →
      r.generation < v.generation) :
    ∃ ls u, Run (fun s e t => step s e = some t) s ls u ∧ r.srv ∈ u.serversToDelete := by
  have hlocked : s.step .lockDetach = some { s with lockSection := .detaching 0 } := by
    simp [step, readerStep, writerStep, hsec]
  obtain ⟨ls, n, kept, hrun, hlen, hsub, hheld⟩ := pruneRun (h.step hlocked) rfl (by simp)
  have hdetach : step { s with retiredSnapshots := kept, lockSection := .detaching n } .detach =
      some (detachReclaimable { s with retiredSnapshots := kept, lockSection := .detaching n }) := by
    simp [step, readerStep, writerStep, hlen]
  refine ⟨_, _, ((Run.single hlocked).append hrun).append (Run.single hdetach), ?_⟩
  refine List.mem_append_right _ (List.mem_map_of_mem ?_)
  rw [Reclaim.release_eq]
  refine List.mem_filter.mpr ⟨hr, decide_eq_true (Reclaim.lt_cutoff_iff.mpr ⟨?_, ?_⟩)⟩
  · intro g hg
    obtain ⟨v, hv, rfl⟩ := List.mem_map.mp hg
    obtain ⟨th, hth, href⟩ := hheld v hv
    exact hfree th hth v href (hsub hv)
  · intro _
    exact Nat.lt_succ_of_le (h.retiredAt r hr)

end SnapshotStore

/-! ## Every run -/

/-- Nothing handed out for deletion is named by the current snapshot or by a
snapshot a reader refers to.  A retired server waits on the retired list or has
been handed out once, and it can be handed out as soon as no reader refers to a
retired snapshot that may name it. -/
theorem snapshot_reclamation
    {ls : List SnapshotEvent} {t : SnapshotStore}
    (h : SnapshotStore.Reaches ls t) :
    (∀ x ∈ t.serversToDelete,
        (∀ v, t.current = some v → x ∉ v.servers) ∧
          ∀ th ∈ t.threads, ∀ v ∈ th.references, x ∉ v.servers) ∧
      (∀ x ∈ t.serversToDelete, x ∈ t.retireLog) ∧
      (∀ x ∈ t.retireLog,
        t.serversToDelete.count x = 1 ∧ x ∉ t.retiredServers.map RetiredServer.srv ∨
          t.serversToDelete.count x = 0 ∧
            (t.retiredServers.map RetiredServer.srv).count x = 1) ∧
      ∀ r ∈ t.retiredServers, t.lockSection = .free →
        (∀ th ∈ t.threads, ∀ v ∈ th.references, v ∈ t.retiredSnapshots →
          r.generation < v.generation) →
        ∃ ms u, SnapshotStore.Reaches (ls ++ ms) u ∧ u.serversToDelete.count r.srv = 1 := by
  have hinv := h.inv
  have hunlinked : t.unlinkedServers.Nodup :=
    (List.nodup_append.mp hinv.custody.owned).2.1
  obtain ⟨hretired, hdeleted, hdisjoint⟩ := List.nodup_append.mp hunlinked
  refine ⟨?_, ?_, ?_, ?_⟩
  · intro x hx
    exact ⟨fun v hv => hinv.unnamed x hx v (Or.inl hv),
      fun th hth v hv => hinv.unnamed x hx v (hinv.held th hth v hv)⟩
  · intro x hx
    exact hinv.custody.log.mem_iff.mpr (List.mem_append_right _ hx)
  · intro x hx
    rcases List.mem_append.mp (hinv.custody.log.mem_iff.mp hx) with hwait | hout
    · refine Or.inr ⟨List.count_eq_zero.mpr ?_, List.count_eq_one_of_mem hretired hwait⟩
      exact fun hmem => hdisjoint x hwait x hmem rfl
    · refine Or.inl ⟨List.count_eq_one_of_mem hdeleted hout, ?_⟩
      exact fun hmem => hdisjoint x hmem x hout rfl
  · intro r hr hsec hfree
    obtain ⟨ms, u, hrun, hmem⟩ := SnapshotStore.detachRun hinv hsec hr hfree
    have hreach : SnapshotStore.Reaches (ls ++ ms) u := Run.append h hrun
    have hnodup : u.serversToDelete.Nodup :=
      (List.nodup_append.mp (List.nodup_append.mp hreach.inv.custody.owned).2.1).2.1
    exact ⟨ms, u, hreach, List.count_eq_one_of_mem hnodup hmem⟩

/-- A server is added, read, purged and kept back by its reader, which then
moves on to the next snapshot. -/
def readThenPurged : List SnapshotEvent :=
  [.add 0, .buildSnapshot, .storeSnapshot, .storeGeneration, .pruneRetired, .endPublish,
    .startThread, .loadGeneration 0, .getSnapshot 0,
    .lockPurge, .purgeServer 0 0, .buildSnapshot, .storeSnapshot, .storeGeneration,
    .pruneRetired, .pruneRetired, .endPublish,
    .lockDetach, .pruneDetach, .detach,
    .loadGeneration 0, .getSnapshot 0, .drop 0 1]

theorem snapshot_reclamation_readThenPurged :
    ∃ t, SnapshotStore.Reaches readThenPurged t ∧ t.retiredServers = [⟨0, 2⟩] ∧
      ∃ ms u, SnapshotStore.Reaches (readThenPurged ++ ms) u ∧ u.serversToDelete.count 0 = 1 := by
  have heval : (readThenPurged.foldlM SnapshotStore.step SnapshotStore.init).map
      (fun t => (t.retiredServers, t.lockSection,
        t.threads.all fun th => th.references.all fun v => 2 < v.generation)) =
      some ([⟨0, 2⟩], .free, true) := by decide
  obtain ⟨t, ht, heq⟩ := Option.map_eq_some_iff.mp heval
  simp only [Prod.mk.injEq, List.all_eq_true, decide_eq_true_eq] at heq
  obtain ⟨hretired, hsec, hthreads⟩ := heq
  have hreach : SnapshotStore.Reaches readThenPurged t := Run.of_foldlM _ ht
  refine ⟨t, hreach, hretired, ?_⟩
  exact (snapshot_reclamation hreach).2.2.2 ⟨0, 2⟩ (by simp [hretired]) hsec
    fun th hth v hv _ => hthreads th hth v hv

end PolarProxy
