import Mathlib.Data.List.Rotate
import PolarProxy.CacheLeaving

/-!
# What becomes of cached connections

A pass over the cache splits it into connections that were reserved, connections in the
groups of their servers, connections of the classic pool and connections that stay; the
count of the readers loses as many as leave.

**Results.** `WorkerCache.Inv`, `Pass.Inv.visitAll`, `Inv.returnCached`,
`worker_cache_conservation`.
-/

namespace PolarProxy

open SwapRemove Partition Transition

namespace WorkerCache

variable {hostgroup : Nat → Nat} {worker : Nat} {s s' : WorkerCache} {c : CachedConn}

/-! ## Taking -/

/-- The count is right, and the connections of the cache are held and distinct. -/
structure Inv (s : WorkerCache) : Prop where
  holding : s.Holding
  cachedOwned : ∀ c ∈ s.cached, c.id ∈ s.owned
  once : (s.cached.map CachedConn.id).Nodup
  counted : s.readerCount = s.cached.countP CachedConn.keyed

/-- The connections that an operation brings. -/
def CacheOp.entering : CacheOp → List (Nat × Nat)
  | .push c _ => [c.id]
  | _ => []

/-- Each connection that was pushed or in the cache is taken, has left, or is in the cache,
one of these and once. -/
structure Accounts (worker : Nat) (s : WorkerCache) (op : CacheOp) (result : CacheResult) :
    Prop where
  once : (op.entering ++ s.cached.map CachedConn.id).Perm
    (result.taken.toList.map CachedConn.id ++ result.left.map (·.conn.id) ++
      result.cache.cached.map CachedConn.id)
  distinct : (op.entering ++ s.cached.map CachedConn.id).Nodup
  isTrue : ∀ o ∈ result.left, o.IsTrue worker

theorem getElem?_of_findIdx?
    {α : Type} {p : α → Bool} {l : List α} {index : Nat}
    (h : l.findIdx? p = some index) :
    ∃ a, l[index]? = some a ∧ p a = true := by
  obtain ⟨hlt, hp, -⟩ := List.findIdx?_eq_some_iff_getElem.mp h
  exact ⟨l[index], List.getElem?_eq_getElem hlt, hp⟩

/-- A connection is taken out of the cache, and the count follows. -/
theorem Inv.remove
    {index : Nat}
    (h : s.Inv)
    (hc : s.cached[index]? = some c) :
    ({ s with
      readerCount := s.readerCount - [c].countP CachedConn.keyed
      cached := swapRemove s.cached index } : WorkerCache).Inv ∧
      s.cached.Perm (c :: swapRemove s.cached index) := by
  have hperm := swapRemove_perm hc
  refine ⟨⟨⟨h.holding.pools, h.holding.used, h.holding.faults⟩, ?_, ?_, ?_⟩, hperm⟩
  · intro c' hc'
    exact h.cachedOwned c' (hperm.mem_iff.mpr (List.mem_cons_of_mem c hc'))
  · have hnodup := (hperm.map CachedConn.id).nodup_iff.mp h.once
    rw [List.map_cons, List.nodup_cons] at hnodup
    exact hnodup.2
  · have hcount := h.counted
    rw [hperm.countP_eq, List.countP_cons] at hcount
    simp only [List.countP_singleton]
    omega

theorem Inv.readerCount_pos
    {index : Nat}
    (h : s.Inv)
    (hc : s.cached[index]? = some c)
    (hkeyed : c.keyed = true) :
    0 < s.readerCount := by
  rw [h.counted]
  exact List.countP_pos_iff.mpr ⟨c, List.mem_of_getElem? hc, hkeyed⟩

theorem Inv.accounts_nothing
    {op : CacheOp}
    (h : s.Inv)
    (hop : op.entering = [])
    (hcached : s'.cached = s.cached) :
    Accounts worker s op { cache := s' } where
  once := by
    simp only [hop, hcached]
    exact List.Perm.refl _
  distinct := by
    rw [hop]
    exact h.once
  isTrue := by
    simp

theorem Inv.accounts_taken
    {op : CacheOp} {rest : List CachedConn}
    (h : s.Inv)
    (hop : op.entering = [])
    (hperm : s.cached.Perm (c :: rest))
    (hcached : s'.cached = rest) :
    Accounts worker s op { cache := s', taken := some c } where
  once := by
    simp only [hop, hcached]
    exact hperm.map CachedConn.id
  distinct := by
    rw [hop]
    exact h.once
  isTrue := by
    simp

theorem Inv.takeLocalReader
    (h : s.Inv)
    (worker srv profileGeneration : Nat) (key : PoolKey) :
    (s.takeLocalReader srv profileGeneration key).cache.Inv ∧
      Accounts worker s (.takeReader srv profileGeneration key)
        (s.takeLocalReader srv profileGeneration key) := by
  rw [WorkerCache.takeLocalReader]
  split
  · exact ⟨h, h.accounts_nothing rfl rfl⟩
  · rename_i hcond
    split
    · exact ⟨h, h.accounts_nothing rfl rfl⟩
    · rename_i index hfind
      obtain ⟨c, hc, hmatch⟩ := getElem?_of_findIdx? hfind
      have hkeyed : c.keyed = true := by
        simp only [Bool.or_eq_true, not_or, Bool.not_eq_true] at hcond
        simp only [Bool.and_eq_true, beq_iff_eq] at hmatch
        simp [CachedConn.keyed, hmatch.2, hcond.1]
      have hpos := h.readerCount_pos hc hkeyed
      obtain ⟨hinv, hperm⟩ := h.remove hc
      simp only [List.countP_singleton, hkeyed, if_true] at hinv
      simp only [Nat.pos_iff_ne_zero.mp hpos, if_false, assertCount, hpos, decide_true, if_true, hc]
      exact ⟨hinv, h.accounts_taken rfl hperm rfl⟩

theorem Inv.getMyConnLocal
    (h : s.Inv)
    (hostgroup : Nat → Nat) (worker : Nat) (search : LocalSearch) :
    (s.getMyConnLocal hostgroup search).cache.Inv ∧
      Accounts worker s (.getLocal search) (s.getMyConnLocal hostgroup search) := by
  rw [WorkerCache.getMyConnLocal]
  split
  · exact ⟨h, h.accounts_nothing rfl rfl⟩
  · rename_i index hfind
    obtain ⟨c, hc, -⟩ := getElem?_of_findIdx? hfind
    obtain ⟨hinv, hperm⟩ := h.remove hc
    rw [hc]
    dsimp only
    split
    · rename_i hkeyed
      have hpos := h.readerCount_pos hc hkeyed
      simp only [List.countP_singleton, hkeyed, if_true] at hinv
      simp only [Nat.pos_iff_ne_zero.mp hpos, if_false, assertCount, hpos, decide_true, if_true]
      exact ⟨hinv, h.accounts_taken rfl hperm rfl⟩
    · rename_i hkeyed
      simp only [List.countP_singleton, hkeyed, Bool.false_eq_true, if_false, Nat.sub_zero] at hinv
      exact ⟨hinv, h.accounts_taken rfl hperm rfl⟩

/-! ## The first loop of a pass -/

theorem flatMap_addToGroup
    (c : CachedConn) (groups : List (Nat × List CachedConn)) :
    ((addToGroup c groups).flatMap Prod.snd).Perm (c :: groups.flatMap Prod.snd) := by
  induction groups with
  | nil =>
      simp [addToGroup]
  | cons group groups ih =>
      obtain ⟨srv, members⟩ := group
      rw [addToGroup]
      split
      · simp only [List.flatMap_cons, List.append_assoc]
        exact List.perm_middle
      · simp only [List.flatMap_cons]
        exact (ih.append_left members).trans List.perm_middle

namespace Pass

/-- The connections that were visited are reserved, in a group, or still in their slots. -/
structure Inv (worker : Nat) (s : WorkerCache) (done : List CachedConn) (pass : Pass) : Prop where
  holding : pass.cache.Holding
  readerCount : pass.cache.readerCount = s.readerCount
  owned : ∀ o, o ∈ pass.cache.owned ↔ o ∈ s.owned ∧ o ∉ pass.left.map (·.conn.id)
  isTrue : ∀ o ∈ pass.left, o.IsTrue worker
  split : done.Perm (pass.left.map Outcome.conn ++ pass.groups.flatMap Prod.snd ++
    pass.slots.filterMap fun slot => slot)
  leftKeyed : ∀ o ∈ pass.left, o.conn.keyed = true
  groupsKeyed : ∀ c ∈ pass.groups.flatMap Prod.snd, c.keyed = true

variable {done : List CachedConn} {pass : Pass}

theorem Inv.keep
    (h : pass.Inv worker s done) :
    (pass.keep c).Inv worker s (done ++ [c]) :=
  { h with
    split := by
      simp only [Pass.keep, List.filterMap_append, ← List.append_assoc]
      exact h.split.append_right [c] }

theorem Inv.toGroup
    (h : pass.Inv worker s done)
    (hkeyed : c.keyed = true) :
    (pass.toGroup c).Inv worker s (done ++ [c]) := by
  have hperm := flatMap_addToGroup c pass.groups
  refine { h with split := ?_, groupsKeyed := ?_ }
  · simp only [Pass.toGroup, List.filterMap_append, List.filterMap_cons_none, List.filterMap_nil,
      List.append_nil]
    refine (List.perm_append_singleton c done).trans ((h.split.cons c).trans ?_)
    refine List.Perm.trans ?_ ((hperm.append_left _).append_right _).symm
    rw [← List.cons_append]
    exact List.perm_middle.symm.append_right _
  · intro c' hc'
    obtain rfl | hc' := List.mem_cons.mp (hperm.mem_iff.mp hc')
    · exact hkeyed
    · exact h.groupsKeyed c' hc'

theorem Inv.stays
    {s' : WorkerCache}
    (h : pass.Inv worker s done)
    (hs : Stays pass.cache s') :
    ({ pass with cache := s' } : Pass).Inv worker s done :=
  { h with
    holding := hs.holding
    readerCount := hs.readerCount.trans h.readerCount
    owned := by
      intro o
      rw [hs.owned]
      exact h.owned o }

theorem decision_startup
    (needed : Bool) (c : CachedConn) (r : Returning) :
    (decision needed c r).2 = c := by
  rw [decision]
  split
  · exact (localDecision_startup c r).1
  · rfl

theorem Inv.settle
    (h : pass.Inv worker s done)
    (hkeyed : c.keyed = true)
    (shutdown : Bool) (facts : PassFacts) (result : RemoteReservation) :
    (pass.settle shutdown facts result c).Inv worker s (done ++ [c]) := by
  rw [Pass.settle]
  simp only [decision_startup]
  split
  · exact { h.keep with }
  · split
    · exact h.keep
    · exact h.toGroup hkeyed

theorem Inv.reserved
    {r : Outcome × WorkerCache}
    (h : pass.Inv worker s done)
    (hkeyed : c.keyed = true)
    (hleaves : Leaves worker pass.cache c r) :
    (pass.reserved r).Inv worker s (done ++ [c]) where
  holding := hleaves.holding
  readerCount := hleaves.readerCount.trans h.readerCount
  owned := by
    intro o
    simp only [Pass.reserved]
    rw [hleaves.owned, h.owned, List.map_append, List.mem_append, List.map_singleton,
      List.mem_singleton, hleaves.conn, not_or, and_assoc]
  isTrue := by
    intro o ho
    obtain ho | ho := List.mem_append.mp ho
    · exact h.isTrue o ho
    · rw [List.mem_singleton.mp ho]
      exact hleaves.isTrue
  split := by
    simp only [Pass.reserved, List.map_append, List.map_singleton, hleaves.conn,
      List.filterMap_append, List.filterMap_cons_none, List.filterMap_nil, List.append_nil]
    refine (List.perm_append_singleton c done).trans ((h.split.cons c).trans ?_)
    simp only [List.append_assoc, List.singleton_append]
    exact List.perm_middle.symm
  leftKeyed := by
    intro o ho
    obtain ho | ho := List.mem_append.mp ho
    · exact h.leftKeyed o ho
    · rw [List.mem_singleton.mp ho, hleaves.conn]
      exact hkeyed
  groupsKeyed := h.groupsKeyed

theorem Inv.offer
    (h : pass.Inv worker s done)
    (hheld : c.id ∈ pass.cache.owned)
    (hostgroup : Nat → Nat) (shutdown : Bool) (facts : PassFacts) :
    (offer hostgroup worker shutdown facts pass c).2.1 = c ∧
      Offers worker pass.cache c (offer hostgroup worker shutdown facts pass c).1
        (offer hostgroup worker shutdown facts pass c).2.2 := by
  rw [Pass.offer]
  split
  · exact ⟨rfl, .refl h.holding⟩
  · exact h.holding.tryReserveRetained hheld hostgroup worker _

theorem Inv.visit
    (h : pass.Inv worker s done)
    (howned : c.id ∈ s.owned)
    (hnew : c.id ∉ done.map CachedConn.id)
    (hostgroup : Nat → Nat) (shutdown : Bool) (facts : PassFacts) :
    (pass.visit hostgroup worker shutdown facts c).Inv worker s (done ++ [c]) := by
  have hheld : c.id ∈ pass.cache.owned := by
    refine (h.owned c.id).mpr ⟨howned, ?_⟩
    intro hin
    obtain ⟨o, ho, hid⟩ := List.mem_map.mp hin
    refine hnew (List.mem_map.mpr ⟨o.conn, h.split.mem_iff.mpr ?_, hid⟩)
    exact List.mem_append_left _ (List.mem_append_left _ (List.mem_map_of_mem ho))
  cases hkeyed : c.keyed with
  | false =>
      simp only [Pass.visit, hkeyed, Bool.not_false, if_true]
      exact h.keep
  | true =>
      obtain ⟨hsame, hoffers⟩ := h.offer hheld hostgroup shutdown facts
      simp only [Pass.visit, hkeyed, Bool.not_true, Bool.false_eq_true, if_false]
      generalize Pass.offer hostgroup worker shutdown facts pass c = offered at hsame hoffers ⊢
      obtain ⟨result, c', s'⟩ := offered
      subst hsame
      cases result with
      | connectionReserved workerIndex =>
          exact { h.reserved hkeyed hoffers.2 with }
      | noRemoteRequest =>
          exact { (h.stays hoffers.2).keep with }
      | connectionInvalid =>
          exact (h.stays hoffers).settle hkeyed shutdown facts _
      | notAttempted =>
          exact (h.stays hoffers).settle hkeyed shutdown facts _

/-- The loop over the whole cache. -/
theorem Inv.visitAll
    {rest : List CachedConn}
    (h : pass.Inv worker s done)
    (howned : ∀ c ∈ rest, c.id ∈ s.owned)
    (honce : ((done ++ rest).map CachedConn.id).Nodup)
    (hostgroup : Nat → Nat) (shutdown : Bool) (facts : PassFacts) :
    (rest.foldl (Pass.visit hostgroup worker shutdown facts) pass).Inv worker s (done ++ rest) := by
  induction rest generalizing pass done with
  | nil =>
      rw [List.append_nil]
      exact h
  | cons c rest ih =>
      have hnew : c.id ∉ done.map CachedConn.id := by
        rw [List.map_append, List.map_cons] at honce
        intro hin
        exact (List.nodup_append.mp honce).2.2 c.id hin c.id List.mem_cons_self rfl
      have hvisit := h.visit (howned c List.mem_cons_self) hnew hostgroup shutdown facts
      rw [List.append_cons] at honce ⊢
      exact ih hvisit (fun c' hc' => howned c' (List.mem_cons_of_mem c hc')) honce

end Pass

/-! ## The end of a pass -/

variable {a b : List CachedConn}

theorem once_left
    (h : ((a ++ b).map CachedConn.id).Nodup) :
    (a.map CachedConn.id).Nodup :=
  h.sublist ((List.sublist_append_left a b).map _)

theorem once_right
    (h : ((a ++ b).map CachedConn.id).Nodup) :
    (b.map CachedConn.id).Nodup :=
  h.sublist ((List.sublist_append_right a b).map _)

/-- A list of connections has left the worker. -/
structure LeaveAll (worker : Nat) (s : WorkerCache) (conns : List CachedConn)
    (r : List Outcome × WorkerCache) : Prop where
  left : r.1.map Outcome.conn = conns
  isTrue : ∀ o ∈ r.1, o.IsTrue worker
  holding : r.2.Holding
  owned : ∀ o, o ∈ r.2.owned ↔ o ∈ s.owned ∧ o ∉ conns.map CachedConn.id
  readerCount : r.2.readerCount = s.readerCount

theorem LeaveAll.nil
    (h : s.Holding) :
    LeaveAll worker s [] ([], s) :=
  ⟨rfl, by simp, h, by simp, rfl⟩

theorem LeaveAll.append
    {r r' : List Outcome × WorkerCache}
    (h : LeaveAll worker s a r)
    (h' : LeaveAll worker r.2 b r') :
    LeaveAll worker s (a ++ b) (r.1 ++ r'.1, r'.2) where
  left := by
    rw [List.map_append, h.left, h'.left]
  isTrue := by
    intro o ho
    obtain ho | ho := List.mem_append.mp ho
    · exact h.isTrue o ho
    · exact h'.isTrue o ho
  holding := h'.holding
  owned := by
    intro o
    rw [h'.owned, h.owned, List.map_append, List.mem_append, not_or, and_assoc]
  readerCount := h'.readerCount.trans h.readerCount

theorem Leaves.leaveAll
    {r : Outcome × WorkerCache}
    (h : Leaves worker s c r) :
    LeaveAll worker s [c] ([r.1], r.2) :=
  ⟨by simp [h.conn], by simpa using h.isTrue, h.holding,
    by simpa using h.owned, h.readerCount⟩

variable {conns : List CachedConn} {r : List Outcome × WorkerCache}

theorem Stays.leaveAll
    (hs : Stays s s')
    (h : LeaveAll worker s' conns r) :
    LeaveAll worker s conns r :=
  { h with
    owned := by
      intro o
      rw [h.owned, hs.owned]
    readerCount := h.readerCount.trans hs.readerCount }

/-- The connections that are left to give up are still held. -/
theorem LeaveAll.mem_owned
    (h : LeaveAll worker s a r)
    (howned : ∀ c ∈ b, c.id ∈ s.owned)
    (honce : ((a ++ b).map CachedConn.id).Nodup) :
    ∀ c ∈ b, c.id ∈ r.2.owned := by
  intro c hc
  refine (h.owned c.id).mpr ⟨howned c hc, ?_⟩
  intro hin
  rw [List.map_append] at honce
  exact (List.nodup_append.mp honce).2.2 c.id hin c.id (List.mem_map_of_mem hc) rfl

theorem Holding.giveUpAll
    {giveUp : WorkerCache → CachedConn → Outcome × WorkerCache}
    (hgive : ∀ s c, s.Holding → c.id ∈ s.owned → Leaves worker s c (giveUp s c))
    (conns : List CachedConn)
    (h : s.Holding)
    (howned : ∀ c ∈ conns, c.id ∈ s.owned)
    (honce : (conns.map CachedConn.id).Nodup) :
    LeaveAll worker s conns (giveUpAll giveUp conns s) := by
  induction conns generalizing s with
  | nil =>
      exact .nil h
  | cons c rest ih =>
      have hfirst := (hgive s c h (howned c List.mem_cons_self)).leaveAll
      have howned' := hfirst.mem_owned (b := rest)
        (fun c' hc' => howned c' (List.mem_cons_of_mem c hc')) honce
      have hrest := ih hfirst.holding howned' (List.nodup_cons.mp honce).2
      exact hfirst.append hrest

theorem Holding.returnMember
    (h : s.Holding)
    (howned : c.id ∈ s.owned)
    (server : Nat) (r : Returning) :
    Leaves worker s c (s.returnMember hostgroup worker server c r) := by
  rw [WorkerCache.returnMember]
  split
  · exact h.removeUsed howned
  · exact h.returnExact howned r false

theorem Holding.returnReaderConnections
    {members : List CachedConn}
    (h : s.Holding)
    (howned : ∀ c ∈ members, c.id ∈ s.owned)
    (honce : (members.map CachedConn.id).Nodup)
    (hostgroup : Nat → Nat) (worker : Nat) (facts : PassFacts) :
    LeaveAll worker s members (s.returnReaderConnections hostgroup worker facts members) := by
  cases members with
  | nil =>
      exact .nil h
  | cons first rest =>
      rw [WorkerCache.returnReaderConnections]
      have hstays := h.runOthers hostgroup (facts.beforeGroup first.srv)
      refine hstays.leaveAll (hstays.holding.giveUpAll ?_ _ howned honce)
      intro s c h howned
      exact h.returnMember howned _ _

theorem Holding.returnGroups
    (hostgroup : Nat → Nat) (worker : Nat) (facts : PassFacts) (groups : List (Nat × List CachedConn))
    (h : s.Holding)
    (howned : ∀ c ∈ groups.flatMap Prod.snd, c.id ∈ s.owned)
    (honce : ((groups.flatMap Prod.snd).map CachedConn.id).Nodup) :
    LeaveAll worker s (groups.flatMap Prod.snd)
      (s.returnGroups hostgroup worker facts groups) := by
  induction groups generalizing s with
  | nil =>
      exact .nil h
  | cons group groups ih =>
      obtain ⟨srv, members⟩ := group
      rw [List.flatMap_cons] at howned honce ⊢
      have hfirst := h.returnReaderConnections
        (fun c hc => howned c (List.mem_append_left _ hc)) (once_left honce)
        hostgroup worker facts
      have howned' := hfirst.mem_owned (fun c hc => howned c (List.mem_append_right _ hc)) honce
      exact hfirst.append (ih hfirst.holding howned' (once_right honce))

theorem Holding.pushToPoolArray
    (h : s.Holding)
    (howned : ∀ c ∈ conns, c.id ∈ s.owned)
    (honce : (conns.map CachedConn.id).Nodup)
    (hostgroup : Nat → Nat) (worker : Nat) (facts : PassFacts) :
    LeaveAll worker s conns (s.pushToPoolArray hostgroup worker facts conns) := by
  refine h.giveUpAll ?_ conns howned honce
  intro s c h howned
  have hstays := h.runOthers hostgroup (facts.conn c).beforeReturn
  exact hstays.leaves (hstays.holding.pushToPool howned _)

/-- The connections of the classic pool come to the front, the readers stay behind. -/
theorem partitionSwaps_slots
    (slots : List (Option CachedConn)) :
    ∃ generic retained : List CachedConn,
      (((partitionSwaps isGeneric slots).2.take (partitionSwaps isGeneric slots).1).filterMap
        fun slot => slot) = generic ∧
      (((partitionSwaps isGeneric slots).2.drop (partitionSwaps isGeneric slots).1).filterMap
        fun slot => slot) = retained ∧
      (slots.filterMap fun slot => slot).Perm (generic ++ retained) ∧
      (∀ c ∈ generic, c.keyed = false) ∧
      (∀ c ∈ retained, c.keyed = true) := by
  obtain ⟨front, rest, heq, hfront, hrest⟩ := partitionSwaps_spec isGeneric slots
  refine ⟨front.filterMap fun slot => slot, rest.filterMap fun slot => slot, ?_, ?_, ?_, ?_, ?_⟩
  · rw [heq, List.take_left]
  · rw [heq, List.drop_left]
  · rw [← List.filterMap_append]
    have hall := (List.filter_append_perm isGeneric slots).symm.trans
      (hfront.symm.append hrest.symm)
    exact hall.filterMap _
  · intro c hc
    obtain ⟨slot, hslot, rfl⟩ := List.mem_filterMap.mp hc
    have hgeneric := (List.mem_filter.mp (hfront.mem_iff.mp hslot)).2
    simpa [isGeneric] using hgeneric
  · intro c hc
    obtain ⟨slot, hslot, rfl⟩ := List.mem_filterMap.mp hc
    have hgeneric := (List.mem_filter.mp (hrest.mem_iff.mp hslot)).2
    simpa [isGeneric] using hgeneric

theorem countP_keyed
    {b : Bool}
    (h : ∀ c ∈ conns, c.keyed = b) :
    conns.countP CachedConn.keyed = if b then conns.length else 0 := by
  cases b with
  | true =>
      exact List.countP_eq_length.mpr h
  | false =>
      exact List.countP_eq_zero.mpr (by simpa using h)

theorem countReturned_eq
    {returned rest : Nat}
    (h : s.readerCount = returned + rest)
    (slots : List (Option CachedConn)) :
    s.countReturned slots returned = { s with readerCount := rest } := by
  rw [countReturned, if_neg (by omega), h, Nat.add_sub_cancel_left]

theorem repairCount_eq
    {observed : Nat}
    (h : s.readerCount = observed)
    (operation : String) :
    s.repairCount operation observed = s := by
  rw [repairCount, if_pos h]

theorem Pass.Inv.leaveAll
    {done : List CachedConn} {pass : Pass}
    (h : pass.Inv worker s done) :
    LeaveAll worker s (pass.left.map Outcome.conn) (pass.left, pass.cache) :=
  ⟨rfl, h.isTrue, h.holding, by simpa using h.owned, h.readerCount⟩

theorem LeaveAll.withCount
    (h : LeaveAll worker s conns r)
    (count : Nat) :
    LeaveAll worker { s with readerCount := count } conns
      (r.1, { r.2 with readerCount := count }) :=
  ⟨h.left, h.isTrue, ⟨h.holding.pools, h.holding.used, h.holding.faults⟩, h.owned, rfl⟩

/-- The compaction at the end of a pass: what has not left is the new cache. -/
theorem LeaveAll.compact
    {gone retained : List CachedConn}
    (h : s.Inv)
    (hgone : LeaveAll worker { s with readerCount := retained.length } gone r)
    (hparts : s.cached.Perm (gone ++ retained))
    (hkeyed : ∀ c ∈ retained, c.keyed = true)
    (shutdown : Bool) (facts : PassFacts) :
    ((r.2.compact retained).endPass shutdown).Inv ∧
      Accounts worker s (.returnLocal shutdown facts)
        { cache := (r.2.compact retained).endPass shutdown, left := r.1 } := by
  have honce := (hparts.map CachedConn.id).nodup_iff.mp h.once
  have hcount : r.2.readerCount = retained.countP CachedConn.keyed := by
    rw [hgone.readerCount, countP_keyed hkeyed, if_pos rfl]
  have howned : ∀ c ∈ retained, c.id ∈ r.2.owned :=
    hgone.mem_owned (fun c hc => h.cachedOwned c (hparts.mem_iff.mpr
      (List.mem_append_right _ hc))) honce
  have hcompact : r.2.compact retained = { r.2 with cached := retained } := by
    rw [WorkerCache.compact, repairCount, if_pos hcount]
  rw [hcompact]
  refine ⟨⟨⟨hgone.holding.pools, hgone.holding.used, hgone.holding.faults⟩, howned, ?_, hcount⟩,
    ⟨?_, h.once, hgone.isTrue⟩⟩
  · exact once_right honce
  · have hids : r.1.map (fun o => o.conn.id) = gone.map CachedConn.id := by
      rw [← hgone.left, List.map_map]
      rfl
    simpa [CacheOp.entering, hids, endPass] using hparts.map CachedConn.id

theorem Inv.returnCached
    (h : s.Inv)
    (hostgroup : Nat → Nat) (worker : Nat) (shutdown : Bool) (facts : PassFacts) :
    (s.returnCached hostgroup worker shutdown facts).cache.Inv ∧
      Accounts worker s (.returnLocal shutdown facts)
        (s.returnCached hostgroup worker shutdown facts) := by
  have hstart : ({ cache := s } : Pass).Inv worker s [] :=
    ⟨h.holding, rfl, by simp, by simp, List.Perm.refl _, by simp, by simp⟩
  have hpass := hstart.visitAll h.cachedOwned h.once hostgroup shutdown facts
  rw [List.nil_append] at hpass
  rw [WorkerCache.returnCached]
  generalize s.cached.foldl (Pass.visit hostgroup worker shutdown facts) { cache := s } = pass
    at hpass ⊢
  obtain ⟨generic, retained, hgeneric, hretained, hslots, hgenericKey, hretainedKey⟩ :=
    partitionSwaps_slots pass.slots
  have hrotate : ((pass.groups.rotate (groupStart worker pass.groups.length)).flatMap
      Prod.snd).Perm (pass.groups.flatMap Prod.snd) :=
    (List.rotate_perm _ _).flatMap_right _
  generalize pass.groups.rotate (groupStart worker pass.groups.length) = groups at hrotate ⊢
  -- the cache in four parts: reserved, returned in groups, returned one by one, kept
  have hparts : s.cached.Perm (pass.left.map Outcome.conn ++ groups.flatMap Prod.snd ++ generic ++
      retained) := by
    refine hpass.split.trans ?_
    rw [List.append_assoc _ generic]
    exact (hrotate.symm.append_left _).append hslots
  have honce := (hparts.map CachedConn.id).nodup_iff.mp h.once
  have howned : ∀ {c}, c ∈ pass.left.map Outcome.conn ++ groups.flatMap Prod.snd ++ generic ++
      retained → c.id ∈ s.owned :=
    fun hc => h.cachedOwned _ (hparts.mem_iff.mpr hc)
  have honceLeft := once_left honce
  have honceReaders := once_left honceLeft
  have hgroups := hpass.holding.returnGroups hostgroup worker facts groups
    (hpass.leaveAll.mem_owned (fun c hc => howned (List.mem_append_left _
      (List.mem_append_left _ (List.mem_append_right _ hc)))) honceReaders)
    (once_right honceReaders)
  have hcount : pass.cache.readerCount =
      pass.left.length + (groups.flatMap Prod.snd).length + retained.length := by
    have hleftKey : ∀ c ∈ pass.left.map Outcome.conn, c.keyed = true := by
      simpa using hpass.leftKeyed
    have hgroupsKey : ∀ c ∈ groups.flatMap Prod.snd, c.keyed = true :=
      fun c hc => hpass.groupsKeyed c (hrotate.mem_iff.mp hc)
    rw [hpass.readerCount, h.counted, hparts.countP_eq]
    simp only [List.countP_append, countP_keyed hleftKey, countP_keyed hgroupsKey,
      countP_keyed hgenericKey,
      countP_keyed hretainedKey, if_true, List.length_map, Bool.false_eq_true, if_false]
    omega
  have hreaders := (hpass.leaveAll.append hgroups).withCount retained.length
  have hlast := hreaders.holding.pushToPoolArray
    (hreaders.mem_owned (fun c hc => howned (List.mem_append_left _
      (List.mem_append_right _ hc))) honceLeft) (once_right honceLeft) hostgroup worker facts
  dsimp only
  rw [hgeneric, hretained, countReturned_eq (hgroups.readerCount.trans hcount)]
  exact LeaveAll.compact h (hreaders.append hlast) hparts hretainedKey shutdown facts

theorem Inv.returnLocalConnections
    (h : s.Inv)
    (hostgroup : Nat → Nat) (worker : Nat) (shutdown : Bool) (facts : PassFacts) :
    (s.returnLocalConnections hostgroup worker shutdown facts).cache.Inv ∧
      Accounts worker s (.returnLocal shutdown facts)
        (s.returnLocalConnections hostgroup worker shutdown facts) := by
  rw [WorkerCache.returnLocalConnections]
  split
  · rename_i hempty
    have hcount : s.readerCount = 0 := by
      rw [h.counted, List.isEmpty_iff.mp hempty]
      rfl
    simp only [repairCount_eq hcount, assertCount, hcount, decide_true, if_true]
    exact ⟨⟨⟨h.holding.pools, h.holding.used, h.holding.faults⟩, h.cachedOwned, h.once, h.counted⟩,
      h.accounts_nothing rfl rfl⟩
  · exact h.returnCached hostgroup worker shutdown facts

/-! ## Runs -/

theorem Inv.init
    (maxConnections : Nat → Int) :
    (init maxConnections).Inv where
  holding := ⟨PoolSystem.Inv.init maxConnections, by simp [WorkerCache.init], rfl⟩
  cachedOwned := by simp [WorkerCache.init]
  once := by simp [WorkerCache.init]
  counted := rfl

theorem Inv.pushed
    {result : CacheResult} {facts : ReturnFacts}
    (h : s.Inv)
    (howned : c.id ∈ s.owned)
    (hnew : c.id ∉ s.cached.map CachedConn.id)
    (hpush : Pushes worker s c result) :
    result.cache.Inv ∧ Accounts worker s (.push c facts) result := by
  have hdistinct : (CacheOp.entering (.push c facts) ++ s.cached.map CachedConn.id).Nodup :=
    List.nodup_cons.mpr ⟨hnew, h.once⟩
  obtain ⟨htaken, ⟨outcome, hleft, hleaves⟩ |
    ⟨c', hleft, hid, hholding, howned', hcached, hcount⟩⟩ := hpush
  · refine ⟨⟨hleaves.holding, ?_, ?_, ?_⟩, ⟨?_, hdistinct, ?_⟩⟩
    · intro c' hc'
      rw [hleaves.cached] at hc'
      refine (hleaves.owned c'.id).mpr ⟨h.cachedOwned c' hc', ?_⟩
      intro heq
      exact hnew (heq ▸ List.mem_map_of_mem hc')
    · rw [hleaves.cached]
      exact h.once
    · rw [hleaves.cached, hleaves.readerCount, h.counted]
    · have hconn : outcome.conn = c := hleaves.conn
      have hcached : result.cache.cached = s.cached := hleaves.cached
      simp [CacheOp.entering, htaken, hleft, hconn, hcached]
    · intro o ho
      rw [hleft, List.mem_singleton] at ho
      rw [ho]
      exact hleaves.isTrue
  · have honce : ((s.cached ++ [c']).map CachedConn.id).Nodup := by
      rw [List.map_append, List.map_singleton, hid]
      exact (List.perm_append_singleton _ _).nodup_iff.mpr hdistinct
    refine ⟨⟨hholding, ?_, ?_, ?_⟩, ⟨?_, hdistinct, ?_⟩⟩
    · intro c'' hc''
      rw [howned']
      rw [hcached] at hc''
      obtain hc'' | hc'' := List.mem_append.mp hc''
      · exact h.cachedOwned c'' hc''
      · rw [List.mem_singleton.mp hc'', hid]
        exact howned
    · rw [hcached]
      exact honce
    · rw [hcached, hcount, h.counted, List.countP_append]
    · simp only [CacheOp.entering, htaken, hleft, hcached, List.map_append, List.map_singleton, hid,
        Option.toList_none, List.map_nil, List.nil_append, List.singleton_append]
      exact (List.perm_append_singleton _ _).symm
    · simp [hleft]

theorem Inv.step
    {op : CacheOp} {result : CacheResult}
    (h : s.Inv)
    (hstep : s.step hostgroup worker op = some result) :
    result.cache.Inv ∧ Accounts worker s op result := by
  cases op with
  | others ops =>
      obtain rfl := Option.some.inj hstep
      have hstays := h.holding.runOthers hostgroup ops
      exact ⟨⟨hstays.holding, h.cachedOwned, h.once, h.counted⟩, h.accounts_nothing rfl rfl⟩
  | acquire srv conn =>
      simp only [WorkerCache.step] at hstep
      split at hstep
      · rename_i hin
        obtain rfl := Option.some.inj hstep
        refine ⟨⟨⟨h.holding.pools, ?_, h.holding.faults⟩, ?_, h.once, h.counted⟩,
          h.accounts_nothing rfl rfl⟩
        · intro o ho
          obtain rfl | ho := List.mem_cons.mp ho
          · simpa using hin
          · exact h.holding.used o ho
        · exact fun c hc => List.mem_cons_of_mem _ (h.cachedOwned c hc)
      · cases hstep
  | letGo srv conn =>
      simp only [WorkerCache.step] at hstep
      split at hstep
      · cases hstep
      · rename_i hcached
        obtain rfl := Option.some.inj hstep
        refine ⟨⟨⟨h.holding.pools, ?_, h.holding.faults⟩, ?_, h.once, h.counted⟩,
          h.accounts_nothing rfl rfl⟩
        · exact fun o ho => h.holding.used o (List.mem_filter.mp ho).1
        · intro c hc
          refine List.mem_filter.mpr ⟨h.cachedOwned c hc, ?_⟩
          rw [decide_eq_true_eq]
          rintro heq
          exact hcached (by simpa using ⟨c, hc, heq⟩)
  | setRetention retention =>
      obtain rfl := Option.some.inj hstep
      exact ⟨⟨⟨h.holding.pools, h.holding.used, h.holding.faults⟩, h.cachedOwned, h.once,
        h.counted⟩, h.accounts_nothing rfl rfl⟩
  | push c facts =>
      simp only [WorkerCache.step] at hstep
      split at hstep
      · cases hstep
      · rename_i hguard
        obtain rfl := Option.some.inj hstep
        simp only [Bool.or_eq_true, not_or, Bool.not_eq_true', Bool.not_eq_false,
          List.contains_iff_mem] at hguard
        exact h.pushed hguard.1 hguard.2 (h.holding.pushMyConnLocal hguard.1 facts)
  | takeReader srv profileGeneration key =>
      obtain rfl := Option.some.inj hstep
      exact h.takeLocalReader worker srv profileGeneration key
  | getLocal search =>
      obtain rfl := Option.some.inj hstep
      exact h.getMyConnLocal hostgroup worker search
  | returnLocal shutdown facts =>
      obtain rfl := Option.some.inj hstep
      exact h.returnLocalConnections hostgroup worker shutdown facts

/-- The state of the cache along a run. -/
structure Sound (s : WorkerCache) : Prop where
  /-- No repair of the count and no failed assertion, and no connection missed in USED. -/
  faults : s.faults = []
  counted : s.readerCount = s.cached.countP CachedConn.keyed
  once : (s.cached.map CachedConn.id).Nodup
  kept : ∀ c ∈ s.cached, c.conn ∈ (s.pools.servers c.srv).used.conns
  /-- A connection of a server is in one place. -/
  conserved : ∀ srv, (s.pools.servers srv).Conserved

theorem Inv.sound
    (h : s.Inv) :
    s.Sound where
  faults := h.holding.faults
  counted := h.counted
  once := h.once
  kept := fun c hc => h.holding.mem_used (h.cachedOwned c hc)
  conserved := h.holding.pools.conserved

/-- In every state that is reached the count is the number of cached connections with a
key and was never repaired, and every operation accounts once for each connection that
was cached or pushed: it is taken, kept, reserved for another worker, in FREE, or
destroyed. -/
theorem worker_cache_conservation
    (hostgroup : Nat → Nat) (worker : Nat) (maxConnections : Nat → Int)
    {ops : List CacheOp} {s : WorkerCache}
    (hrun : Run (fun s op s' => (s.step hostgroup worker op).map CacheResult.cache = some s')
      (init maxConnections) ops s) :
    s.Sound ∧ ∀ op result, s.step hostgroup worker op = some result →
      result.cache.Sound ∧ Accounts worker s op result := by
  have hinv : s.Inv := by
    refine hrun.invariant (I := Inv) (Inv.init maxConnections) ?_
    intro s op s' h hstep
    obtain ⟨result, hresult, rfl⟩ := Option.map_eq_some_iff.mp hstep
    exact (h.step hresult).1
  refine ⟨hinv.sound, ?_⟩
  intro op result hstep
  obtain ⟨hnext, haccounts⟩ := hinv.step hstep
  exact ⟨hnext.sound, haccounts⟩

/-- A connected backend that PolarDB readers share, with a key. -/
def pooledReader : BackendStartup :=
  let profile : StartupProfile := .fromProtocol .off
  { started := true
    settingsSet := true
    profile := profile
    profileGeneration := profile.generation .proxy
    poolKey := { authHash := 1 } }

/-- The facts of connections that may be stored. -/
def returnable : ReturnFacts :=
  let r : Returning := { facts := {}, protocol := some .off, check := ⟨true, fun _ => true⟩ }
  { atReservation := r, atDecision := r, atReturn := r }

/-- A worker caches a reader and a classic connection while another worker waits for the
key of the reader. -/
def twoCached : List CacheOp :=
  [.others [.server 4 (.openConnection 7), .server 4 (.addUsed 7 none),
      .server 4 (.openConnection 8), .server 4 (.addUsed 8 none)],
    .acquire 4 7, .acquire 4 8,
    .push ⟨4, 7, pooledReader, 0⟩ returnable,
    .push ⟨4, 8, {}, 0⟩ returnable,
    .others [.register 0 3 1 pooledReader.matchKey false]]

/-- The pass without retention: the reader is reserved for the other worker, the classic
connection goes to FREE. -/
theorem worker_cache_conservation_two :
    ∃ s result,
      Run (fun s op s' => (s.step (fun _ => 0) 0 op).map CacheResult.cache = some s')
        (init fun _ => 10) twoCached s ∧
      s.step (fun _ => 0) 0 (.returnLocal false
        { conn := fun _ => returnable, retentionConfigured := false }) = some result ∧
      s.readerCount = 1 ∧
      result.left.map (fun o => (o.conn.id, o.fate)) = [((4, 7), .reserved 3), ((4, 8), .free)] ∧
      s.Sound ∧ result.cache.Sound := by
  have heval : (twoCached.foldlM
      (fun (s : WorkerCache) op => (s.step (fun _ => 0) 0 op).map CacheResult.cache)
      (init fun _ => 10)).map (fun s => (s.readerCount, (s.returnLocalConnections (fun _ => 0) 0
        false { conn := fun _ => returnable, retentionConfigured := false }).left.map
          fun o => (o.conn.id, o.fate))) =
      some (1, [((4, 7), Fate.reserved 3), ((4, 8), Fate.free)]) := by
    decide
  obtain ⟨s, hrun, hs⟩ := Run.exists_of_foldlM_map twoCached heval
  obtain ⟨hcount, hleft⟩ := Prod.mk.inj hs
  obtain ⟨hsound, hnext⟩ := worker_cache_conservation (fun _ => 0) 0 (fun _ => 10) hrun
  exact ⟨s, _, hrun, rfl, hcount, hleft, hsound, (hnext (.returnLocal false _) _ rfl).1⟩

end WorkerCache

end PolarProxy
