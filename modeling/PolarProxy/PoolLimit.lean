import PolarProxy.PoolInvariant

/-!
# The size of a server's pool

A connection is opened by the classic search, or on a reader that was selected
before.  Both count FREE and USED and may first evict connections of FREE; the two
compute the number to evict differently.

Nothing is assumed about the pool here: the counts are the lengths of the lists,
which every list operation stores, and the operations on the lists keep these
lengths right whatever their indexes say.

**Results.** `evictUnreservedFree_spec`, `makeRoomForClassic_spec`, `pool_size_cap`.
-/

namespace PolarProxy

open SwapRemove

/-! ## The connections of a list -/

namespace ConnList

variable {l : ConnList} {marks : PoolMarks} {env : ListEnv} {index conn : Nat}

theorem conns_ensure
    (l : ConnList) (marks : PoolMarks) (env : ListEnv) :
    (l.ensureMatchIndexConsistent marks env).1.conns = l.conns := by
  unfold ensureMatchIndexConsistent
  split
  · rfl
  · split <;> rfl

theorem conns_rebuild
    (l : ConnList) (marks : PoolMarks) (env : ListEnv) :
    (l.rebuildFreeMatchIndex marks env).1.conns = l.conns :=
  rfl

theorem conns_shrinkBucket
    (l : ConnList) (env : ListEnv) (key : PoolMatchKey) (rest : List Nat) :
    (l.shrinkBucket env key rest).conns = l.conns := by
  simp only [shrinkBucket, limitEmptyMatchBuckets]
  split
  · split <;> rfl
  · rfl

theorem conns_unindex
    (l : ConnList) (marks : PoolMarks) (env : ListEnv) (conn : Nat) :
    (l.unindex marks env conn).1.conns = l.conns := by
  have hensure := conns_ensure l marks env
  simp only [unindex]
  split
  · exact hensure
  · split
    · exact hensure
    · split
      · exact hensure
      · rw [conns_shrinkBucket]
        exact hensure

theorem conns_removeUnindexed
    (marks : PoolMarks)
    (hc : l.conns[index]? = some conn) :
    (l.removeUnindexed marks index).1 = some conn ∧
      (l.removeUnindexed marks index).2.1.conns = swapRemove l.conns index := by
  cases hlast : l.conns.getLast? with
  | none =>
      rw [List.getLast?_eq_none_iff.mp hlast] at hc
      cases hc
  | some last =>
      simp only [removeUnindexed, hc, hlast]
      exact ⟨trivial, trivial⟩

/-- `remove_unlocked` takes the connection at the index. -/
theorem conns_removeUnlocked
    (marks : PoolMarks) (env : ListEnv)
    (hc : l.conns[index]? = some conn) :
    (l.removeUnlocked marks env index).1 = some conn ∧
      (l.removeUnlocked marks env index).2.1.conns = swapRemove l.conns index := by
  simp only [removeUnlocked, hc]
  split
  · have hensure := conns_ensure l marks env
    have hremove := conns_removeUnindexed (l := (l.ensureMatchIndexConsistent marks env).1)
      (l.ensureMatchIndexConsistent marks env).2 (hensure ▸ hc)
    rw [hensure] at hremove
    exact hremove
  · have hunindex := conns_unindex l marks env conn
    have hremove := conns_removeUnindexed (l := (l.unindex marks env conn).1)
      (l.unindex marks env conn).2 (hunindex ▸ hc)
    rw [hunindex] at hremove
    exact hremove

theorem conns_add
    (l : ConnList) (marks : PoolMarks) (env : ListEnv) (conn : Nat) (key : Option PoolMatchKey) :
    (l.addUnlocked marks env conn key).1.conns = l.conns ++ [conn] := by
  have hensure := conns_ensure l marks env
  simp only [addUnlocked]
  split <;> simp only [hensure]

theorem conns_removeMatching
    (l : ConnList) (marks : PoolMarks) (env : ListEnv) (key : PoolMatchKey) :
    ((l.removeMatching marks env key).1 = none ∧
        (l.removeMatching marks env key).2.1.conns = l.conns) ∨
      ∃ conn, (l.removeMatching marks env key).1 = some conn ∧
        l.conns.Perm (conn :: (l.removeMatching marks env key).2.1.conns) := by
  have htry : ∀ (l' : ConnList) (marks : PoolMarks) result, l'.conns = l.conns →
      l'.tryRemoveMatching marks env key = some result →
      (result.1 = none ∧ result.2.1.conns = l.conns) ∨
        ∃ conn, result.1 = some conn ∧ l.conns.Perm (conn :: result.2.1.conns) := by
    intro l' marks result hsame h
    have hensure := (conns_ensure l' marks env).trans hsame
    simp only [tryRemoveMatching] at h
    split at h
    · obtain rfl := Option.some.inj h
      exact Or.inl ⟨rfl, hensure⟩
    · split at h
      · rename_i conn hlast position index hfind
        split at h
        · obtain rfl := Option.some.inj h
          have hshrink := (conns_shrinkBucket (l'.ensureMatchIndexConsistent marks env).1 env key
            (Buckets.bucket (l'.ensureMatchIndexConsistent marks env).1.matchingByKey
              key).dropLast).trans hensure
          obtain ⟨c, hc⟩ : ∃ c, l.conns[index]? = some c := by
            rw [ConnList.findIdx] at hfind
            split at hfind
            · rename_i hhint
              simp only [Option.some.injEq] at hfind
              rw [hensure, hfind] at hhint
              exact ⟨_, hhint⟩
            · split at hfind
              · rename_i i hidx
                simp only [Option.some.injEq] at hfind
                subst hfind
                rw [hensure, List.idxOf?_eq_some_iff] at hidx
                exact ⟨_, List.getElem?_eq_getElem hidx.1⟩
              · cases hfind
          obtain ⟨hconn, hconns⟩ := conns_removeUnindexed
            ((l'.ensureMatchIndexConsistent marks env).1.findIdx
              (l'.ensureMatchIndexConsistent marks env).2 conn).2 (hshrink ▸ hc)
          rw [hshrink] at hconns
          refine Or.inr ⟨c, hconn, ?_⟩
          rw [hconns]
          exact swapRemove_perm hc
        · cases h
      · cases h
  have hrebuilt : ((l.ensureMatchIndexConsistent marks env).1.rebuildFreeMatchIndex
      (l.ensureMatchIndexConsistent marks env).2 env).1.conns = l.conns := by
    rw [conns_rebuild, conns_ensure]
  cases hfirst : l.tryRemoveMatching marks env key with
  | some result =>
      have h := htry l marks result rfl hfirst
      simpa only [removeMatching, hfirst] using h
  | none =>
      cases hsecond : ((l.ensureMatchIndexConsistent marks env).1.rebuildFreeMatchIndex
        (l.ensureMatchIndexConsistent marks env).2 env).1.tryRemoveMatching
        ((l.ensureMatchIndexConsistent marks env).1.rebuildFreeMatchIndex
          (l.ensureMatchIndexConsistent marks env).2 env).2 env key with
      | some result =>
          have h := htry _ _ result hrebuilt hsecond
          simpa only [removeMatching, hfirst, hsecond] using h
      | none =>
          left
          simp only [removeMatching, hfirst, hsecond]
          exact ⟨trivial, (conns_rebuild _ _ _).trans hrebuilt⟩

end ConnList

/-! ## Evicting -/

namespace ServerPool

variable {p q : ServerPool} {index conn preferred : Nat} {reason : ReservationEndReason}

theorem forgetReserved_of_unreserved
    (h : p.connectionReserved conn = false) :
    p.forgetReserved conn reason = p := by
  have hnone : p.tokenByConnection.lookup conn = none := by
    simpa [connectionReserved] using h
  simp only [forgetReserved, hnone]

/-- The pool after the eviction of some unreserved connections of FREE. -/
structure Evicts (p q : ServerPool) (evicted : List Nat) : Prop where
  free : p.free.conns.Perm (evicted ++ q.free.conns)
  unreserved : ∀ c ∈ evicted, p.connectionReserved c = false
  used : q.used = p.used
  maxConnections : q.maxConnections = p.maxConnections
  status : q.status = p.status
  tokenByConnection : q.tokenByConnection = p.tokenByConnection
  created : q.created = p.created
  destroyed : q.destroyed = evicted.reverse ++ p.destroyed

theorem Evicts.refl
    (p : ServerPool) :
    Evicts p p [] where
  free := List.Perm.refl _
  unreserved := by simp
  used := rfl
  maxConnections := rfl
  status := rfl
  tokenByConnection := rfl
  created := rfl
  destroyed := rfl

theorem Evicts.trans
    {r : ServerPool} {a b : List Nat}
    (h : Evicts p q a)
    (h' : Evicts q r b) :
    Evicts p r (a ++ b) where
  free := by
    refine h.free.trans ?_
    rw [List.append_assoc]
    exact h'.free.append_left a
  unreserved c hc := by
    rcases List.mem_append.mp hc with hc | hc
    · exact h.unreserved c hc
    · have hunreserved := h'.unreserved c hc
      rwa [connectionReserved, h.tokenByConnection] at hunreserved
  used := h'.used.trans h.used
  maxConnections := h'.maxConnections.trans h.maxConnections
  status := h'.status.trans h.status
  tokenByConnection := h'.tokenByConnection.trans h.tokenByConnection
  created := h'.created.trans h.created
  destroyed := by
    rw [h'.destroyed, h.destroyed, List.reverse_append, List.append_assoc]

variable {evicted : List Nat}

theorem Evicts.connectionReserved_eq
    (h : Evicts p q evicted) :
    q.connectionReserved = p.connectionReserved := by
  funext c
  rw [connectionReserved, connectionReserved, h.tokenByConnection]

theorem Evicts.length_le
    (h : Evicts p q evicted) :
    evicted.length ≤ p.free.conns.countP fun conn => !p.connectionReserved conn := by
  have hall : evicted.countP (fun conn => !p.connectionReserved conn) = evicted.length := by
    rw [List.countP_eq_length]
    intro c hc
    rw [h.unreserved c hc]
    rfl
  rw [h.free.countP_eq, List.countP_append, hall]
  exact Nat.le_add_right _ _

theorem evicts_discardFreeAt
    (hc : p.free.conns[index]? = some conn)
    (hunreserved : p.connectionReserved conn = false) :
    Evicts p (p.discardFreeAt index .createEvict) [conn] ∧
      (p.discardFreeAt index .createEvict).free.conns = swapRemove p.free.conns index := by
  obtain ⟨hconn, hconns⟩ := ConnList.conns_removeUnlocked p.marks p.env hc
  have heq : p.discardFreeAt index .createEvict =
      { p with
        free := (p.free.removeUnlocked p.marks p.env index).2.1
        marks := (p.free.removeUnlocked p.marks p.env index).2.2
        destroyed := conn :: p.destroyed } := by
    simp only [discardFreeAt, removeFreeAt, hc]
    rw [forgetReserved_of_unreserved]
    · simp only [hconn]
      rfl
    · exact hunreserved
  rw [heq]
  refine ⟨⟨?_, ?_, rfl, rfl, rfl, rfl, rfl, rfl⟩, hconns⟩
  · simp only [hconns]
    exact swapRemove_perm hc
  · intro c' hc'
    rw [List.mem_singleton.mp hc']
    exact hunreserved

/-- The loop evicts as many as it is asked to, when there are as many from the
index on. -/
theorem evictLoop_spec
    (rounds index remaining : Nat)
    (hrounds : p.free.conns.length ≤ index + rounds)
    (havailable : remaining ≤
      (p.free.conns.drop index).countP fun c => !p.connectionReserved c) :
    (p.evictLoop rounds index remaining).1 = 0 ∧
      ∃ evicted, Evicts p (p.evictLoop rounds index remaining).2 evicted ∧
        evicted.length = remaining := by
  induction rounds generalizing p index remaining with
  | zero =>
      rw [List.drop_eq_nil_of_le (by omega)] at havailable
      obtain rfl : remaining = 0 := by simpa using havailable
      exact ⟨rfl, [], .refl p, rfl⟩
  | succ rounds ih =>
      rw [evictLoop]
      cases hc : p.free.conns[index]? with
      | none =>
          rw [List.drop_eq_nil_of_le (List.getElem?_eq_none_iff.mp hc)] at havailable
          obtain rfl : remaining = 0 := by simpa using havailable
          exact ⟨rfl, [], .refl p, rfl⟩
      | some conn =>
          simp only
          split
          · rename_i hzero
            subst hzero
            exact ⟨rfl, [], .refl p, rfl⟩
          · rename_i hne
            have hlt := (List.getElem?_eq_some_iff.mp hc).1
            split
            · rename_i hreserved
              refine ih _ _ (by omega) ?_
              rw [List.drop_eq_getElem_cons hlt, List.countP_cons,
                (List.getElem?_eq_some_iff.mp hc).2] at havailable
              simpa [hreserved] using havailable
            · rename_i hunreserved
              rw [Bool.not_eq_true] at hunreserved
              obtain ⟨hevicts, hconns⟩ :=
                evicts_discardFreeAt hc hunreserved
              have hcount := (drop_swapRemove_perm hc).countP_eq fun c => !p.connectionReserved c
              rw [List.countP_cons, hunreserved] at hcount
              obtain ⟨hdone, evicted, hrest, hlength⟩ := ih
                (p := p.discardFreeAt index .createEvict) index (remaining - 1)
                (by rw [hconns, length_swapRemove]; omega)
                (by
                  rw [hconns, hevicts.connectionReserved_eq]
                  simp only [Bool.not_false, ↓reduceIte] at hcount
                  omega)
              refine ⟨hdone, conn :: evicted, hevicts.trans hrest, ?_⟩
              rw [List.length_cons, hlength]
              omega

/-- An eviction takes at least the required number of connections, or changes
nothing. -/
theorem evictUnreservedFree_spec
    (p : ServerPool) (preferred required : Nat) :
    p.evictUnreservedFree preferred required = (false, p) ∨
      ((p.evictUnreservedFree preferred required).1 = true ∧
        ∃ evicted, Evicts p (p.evictUnreservedFree preferred required).2 evicted ∧
          required ≤ evicted.length) := by
  rw [evictUnreservedFree]
  split
  · rename_i hzero
    exact Or.inr ⟨rfl, [], .refl p, by simp [hzero.2]⟩
  · split
    · exact Or.inl rfl
    · rename_i hle
      simp only
      split
      · exact Or.inl rfl
      · rename_i henough
        obtain ⟨hdone, evicted, hevicts, hlength⟩ := evictLoop_spec (p := p)
          p.free.conns.length 0
          (min preferred (p.free.conns.countP fun conn => !p.connectionReserved conn))
          (by omega) (by rw [List.drop_zero]; omega)
        refine Or.inr ⟨by rw [hdone]; rfl, evicted, hevicts, ?_⟩
        omega

/-! ## Making room -/

/-- The connections of FREE and USED. -/
def size (p : ServerPool) : Nat :=
  p.used.conns.length + p.free.conns.length

/-- How many connections have to go before one is opened. -/
def excess (p : ServerPool) : Nat :=
  if p.maxConnectionsWord ≤ p.size then p.size - p.maxConnectionsWord + 1 else 0

/-- USED is below the limit, and enough connections of FREE are unreserved. -/
def CanMakeRoom (p : ServerPool) : Prop :=
  0 < p.maxConnections ∧ p.used.conns.length < p.maxConnectionsWord ∧
    p.excess ≤ p.free.conns.countP fun conn => !p.connectionReserved conn

instance (p : ServerPool) : Decidable p.CanMakeRoom := by
  unfold CanMakeRoom
  infer_instance

theorem maxConnectionsWord_le
    (h : 0 < p.maxConnections) :
    (p.maxConnectionsWord : Int) ≤ p.maxConnections := by
  unfold maxConnectionsWord
  omega

theorem Evicts.size_add
    (h : Evicts p q evicted) :
    q.size + evicted.length = p.size := by
  have hlength := h.free.length_eq
  rw [List.length_append] at hlength
  unfold size
  rw [h.used]
  omega

/-- Once the excess is gone there is a place below the limit. -/
theorem Evicts.size_lt
    (h : Evicts p q evicted)
    (hexcess : p.excess ≤ evicted.length) :
    q.size < p.maxConnectionsWord := by
  have hadd := h.size_add
  unfold excess at hexcess
  split at hexcess
  · omega
  · omega

/-- An eviction that fails found too few unreserved connections. -/
theorem evictUnreservedFree_required
    (required : Nat)
    (hle : required ≤ preferred) :
    (p.evictUnreservedFree preferred required).1 = true ↔
      required ≤ p.free.conns.countP fun conn => !p.connectionReserved conn := by
  constructor
  · intro htrue
    rcases p.evictUnreservedFree_spec preferred required with
      hfalse | ⟨-, evicted, hevicts, hlength⟩
    · rw [hfalse] at htrue
      cases htrue
    · exact hlength.trans hevicts.length_le
  · intro hrequired
    rcases p.evictUnreservedFree_spec preferred required with hfalse | ⟨htrue, -⟩
    · by_cases hzero : preferred = 0 ∧ required = 0
      · rw [evictUnreservedFree, if_pos hzero]
      · have hdone := (evictLoop_spec (p := p) p.free.conns.length 0
          (min preferred (p.free.conns.countP fun conn => !p.connectionReserved conn))
          (by omega) (by rw [List.drop_zero]; omega)).1
        rw [evictUnreservedFree, if_neg hzero, if_neg (by omega)]
        simp only
        rw [if_neg (by omega), hdone]
        rfl
    · exact htrue

/-- Room is made for the classic search by evicting unreserved connections, or the
pool stays as it is. -/
theorem makeRoomForClassic_spec
    (p : ServerPool) (preferred : Nat) :
    (p.makeRoomForClassic preferred = (false, p) ∧ ¬ p.CanMakeRoom) ∨
      ((p.makeRoomForClassic preferred).1 = true ∧ p.CanMakeRoom ∧
        ∃ evicted, Evicts p (p.makeRoomForClassic preferred).2 evicted ∧
          (p.makeRoomForClassic preferred).2.size < p.maxConnectionsWord) := by
  unfold makeRoomForClassic
  by_cases hlimit : p.maxConnections ≤ 0 ∨ p.maxConnectionsWord ≤ p.used.conns.length
  · rw [if_pos hlimit]
    refine Or.inl ⟨rfl, fun hroom => ?_⟩
    rcases hlimit with hlimit | hlimit
    · exact absurd hroom.1 (by omega)
    · exact absurd hroom.2.1 (by omega)
  · rw [if_neg hlimit]
    rw [not_or, not_le, not_le] at hlimit
    have hrequired : (if p.maxConnectionsWord ≤ p.used.conns.length + p.free.conns.length then
        p.used.conns.length + p.free.conns.length - p.maxConnectionsWord + 1 else 0) = p.excess :=
      rfl
    simp only [hrequired]
    have hiff := evictUnreservedFree_required (p := p) p.excess
      (le_max_right preferred p.excess)
    rcases p.evictUnreservedFree_spec (max preferred p.excess) p.excess with
      hfalse | ⟨htrue, evicted, hevicts, hlength⟩
    · refine Or.inl ⟨by rw [hfalse], fun hroom => ?_⟩
      rw [hfalse] at hiff
      exact absurd (hiff.mpr hroom.2.2) (by simp)
    · right
      have hsize := hevicts.size_lt hlength
      have hword : (p.evictUnreservedFree (max preferred p.excess) p.excess).2.maxConnectionsWord =
          p.maxConnectionsWord := by
        unfold maxConnectionsWord
        rw [hevicts.maxConnections]
      have hpair : p.evictUnreservedFree (max preferred p.excess) p.excess =
          (true, (p.evictUnreservedFree (max preferred p.excess) p.excess).2) :=
        Prod.ext htrue rfl
      rw [hpair]
      refine ⟨?_, ⟨hlimit.1, hlimit.2, hiff.mp htrue⟩, evicted, hevicts, hsize⟩
      simp only [hword, hevicts.used, Bool.and_eq_true, decide_eq_true_eq]
      refine ⟨hlimit.2, ?_⟩
      unfold size at hsize
      rwa [hevicts.used] at hsize

/-! ## Opening a connection on a selected reader -/

/-- `take_reusable_connection_unlocked` -/
def takeReusable (p : ServerPool) (key : PoolMatchKey) (allowExactMatch allowReset : Bool)
    (search : PoolSearch) : Option Nat × ServerPool :=
  let exact := if allowExactMatch then p.removeMatchingFree key else (none, p)
  match exact with
  | (some conn, p) => (some conn, p.addUsed conn none)
  | (none, p) =>
      if allowReset then
        p.takeSearched { search with fastForward := false, onlyPooled := true, exactOnly := false }
      else (none, p)

/-- The part of `get_connection_from_selected_server` under the lock of the
hostgroups, for a mode that allows creation.  `admitted` says that the lists and
settings are those the server was selected with, and that its hostgroup, weight and
latency admit it. -/
def createForReader (p : ServerPool) (key : PoolMatchKey) (allowExactMatch allowReset : Bool)
    (search : PoolSearch) (admitted : Bool) : Option Nat × ServerPool :=
  if !admitted ∨ p.status ≠ .online ∨ p.maxConnections ≤ 0 ∨ search.throttled then (none, p)
  else
    match p.takeReusable key allowExactMatch allowReset search with
    | (some conn, p) => (some conn, p)
    | (none, p) =>
        if p.maxConnectionsWord ≤ p.used.conns.length then (none, p)
        else
          let total := p.used.conns.length + p.free.conns.length
          let evictCount :=
            if p.maxConnectionsWord ≤ total then total - p.maxConnectionsWord + 1 else 0
          match p.evictUnreservedFree evictCount evictCount with
          | (false, p) => (none, p)
          | (true, p) =>
              let p := p.createConnection search.fresh
              if p.status ≠ .online then (none, p.destroy search.fresh)
              else (some search.fresh, p.addUsed search.fresh (some key))

/-! ## What a search does to the lists -/

/-- The outcome of a search, before what it found goes to USED: nothing, a
connection of FREE, or a new connection with a place below the limit. -/
inductive Yields (p : ServerPool) (fresh : Nat) : Option Nat × ServerPool → Prop
  | nothing : Yields p fresh (none, p)
  | pooled {conn : Nat} {q : ServerPool}
      (hfree : p.free.conns.Perm (conn :: q.free.conns))
      (hused : q.used = p.used)
      (hmax : q.maxConnections = p.maxConnections)
      (hcreated : q.created = p.created)
      (hdestroyed : q.destroyed = p.destroyed) :
      Yields p fresh (some conn, q)
  | opened {q : ServerPool} {evicted : List Nat}
      (hroom : p.CanMakeRoom)
      (hevicts : Evicts p q evicted)
      (hsize : q.size < p.maxConnectionsWord) :
      Yields p fresh (some fresh, q.createConnection fresh)

theorem yields_removeFreeAt
    (p : ServerPool) (index fresh : Nat) (reason : ReservationEndReason) :
    Yields p fresh (p.removeFreeAt index reason) := by
  cases hc : p.free.conns[index]? with
  | none =>
      simp only [removeFreeAt, hc]
      exact .nothing
  | some conn =>
      obtain ⟨hconn, hconns⟩ := ConnList.conns_removeUnlocked p.marks p.env hc
      simp only [removeFreeAt, hc, hconn]
      refine .pooled ?_ ?_ ?_ ?_ ?_
      · rw [forgetReserved_free]
        simp only [hconns]
        exact swapRemove_perm hc
      · rw [forgetReserved_used]
      · rw [forgetReserved_maxConnections]
      · rw [forgetReserved_created]
      · unfold forgetReserved
        split <;> rfl

theorem yields_createForClassic
    (p : ServerPool) (preferred fresh : Nat) :
    Yields p fresh (p.createForClassic preferred fresh) := by
  rcases p.makeRoomForClassic_spec preferred with
    ⟨hfalse, -⟩ | ⟨htrue, hroom, evicted, hevicts, hsize⟩
  · rw [createForClassic, hfalse]
    exact .nothing
  · have hpair : p.makeRoomForClassic preferred = (true, (p.makeRoomForClassic preferred).2) :=
      Prod.ext htrue rfl
    rw [createForClassic, hpair]
    exact .opened hroom hevicts hsize

theorem yields_getRandomMyConn
    (p : ServerPool) (search : PoolSearch) :
    Yields p search.fresh (p.getRandomMyConn search) := by
  simp only [getRandomMyConn]
  split
  · exact .nothing
  · split
    · split
      · exact yields_removeFreeAt _ _ _ _
      · split
        · split
          · exact .nothing
          · exact yields_removeFreeAt _ _ _ _
        · split
          · split
            · exact .nothing
            · exact yields_createForClassic _ _ _
          · split
            · split
              · exact yields_createForClassic _ _ _
              · exact yields_removeFreeAt _ _ _ _
            · exact yields_removeFreeAt _ _ _ _
    · split
      · exact .nothing
      · exact yields_createForClassic _ _ _

/-! ## The limit -/

/-- The outcome of a way to open a connection.  Either no connection is opened and
none is evicted, or one is opened after unreserved connections were evicted, within
the limit. -/
inductive Opens (p : ServerPool) (fresh : Nat) : Option Nat × ServerPool → Prop
  | kept {given : Option Nat} {q : ServerPool}
      (hsize : q.size = p.size)
      (hmax : q.maxConnections = p.maxConnections)
      (hnone : given = none → q.free.conns = p.free.conns ∧ q.used.conns = p.used.conns)
      (hcreated : q.created = p.created)
      (hdestroyed : q.destroyed = p.destroyed) :
      Opens p fresh (given, q)
  | opened {q : ServerPool} {evicted : List Nat}
      (hroom : p.CanMakeRoom)
      (hmax : q.maxConnections = p.maxConnections)
      (hsize : (q.size : Int) ≤ p.maxConnections)
      (hfree : p.free.conns.Perm (evicted ++ q.free.conns))
      (hused : q.used.conns = p.used.conns ++ [fresh])
      (hunreserved : ∀ c ∈ evicted, p.connectionReserved c = false)
      (hcreated : q.created = fresh :: p.created)
      (hdestroyed : q.destroyed = evicted.reverse ++ p.destroyed) :
      Opens p fresh (some fresh, q)

theorem addUsed_conns
    (p : ServerPool) (conn : Nat) (key : Option PoolMatchKey) :
    (p.addUsed conn key).used.conns = p.used.conns ++ [conn] :=
  ConnList.conns_add _ _ _ _ _

variable {fresh : Nat}

theorem Evicts.opens
    {key : Option PoolMatchKey}
    (h : Evicts p q evicted)
    (hroom : p.CanMakeRoom)
    (hsize : q.size < p.maxConnectionsWord) :
    Opens p fresh (some fresh, (q.createConnection fresh).addUsed fresh key) := by
  have hused : ((q.createConnection fresh).addUsed fresh key).used.conns =
      p.used.conns ++ [fresh] := by
    rw [addUsed_conns, ← h.used]
    rfl
  refine .opened hroom h.maxConnections ?_ h.free hused h.unreserved ?_ h.destroyed
  · have hword := maxConnectionsWord_le hroom.1
    have hlength : ((q.createConnection fresh).addUsed fresh key).size = q.size + 1 := by
      unfold size
      rw [hused, List.length_append, ← h.used]
      simp only [List.length_singleton]
      rw [show ((q.createConnection fresh).addUsed fresh key).free.conns = q.free.conns from rfl]
      omega
    omega
  · rw [← h.created]
    rfl

theorem Yields.opens
    {given : Option Nat}
    (h : Yields p fresh (given, q)) :
    Opens p fresh (given, given.elim q fun conn => q.addUsed conn none) := by
  cases h with
  | nothing =>
      exact .kept rfl rfl (fun _ => ⟨rfl, rfl⟩) rfl rfl
  | @pooled conn _ hfree hused hmax hcreated hdestroyed =>
      refine .kept ?_ hmax (fun hnone => by cases hnone) hcreated hdestroyed
      have hlength := hfree.length_eq
      rw [List.length_cons] at hlength
      simp only [Option.elim_some, size]
      rw [addUsed_conns, hused, List.length_append, List.length_singleton,
        show (q.addUsed conn none).free.conns = q.free.conns from rfl]
      omega
  | opened hroom hevicts hsize =>
      exact hevicts.opens hroom hsize

theorem takeSearched_eq
    (p : ServerPool) (search : PoolSearch) :
    p.takeSearched search = ((p.getRandomMyConn search).1,
      (p.getRandomMyConn search).1.elim (p.getRandomMyConn search).2
        fun conn => (p.getRandomMyConn search).2.addUsed conn none) := by
  rw [takeSearched]
  split <;> rename_i h <;> rw [h] <;> rfl

theorem opens_takeSearched
    (p : ServerPool) (search : PoolSearch) :
    Opens p search.fresh (p.takeSearched search) := by
  rw [takeSearched_eq]
  exact (p.yields_getRandomMyConn search).opens

theorem opens_takeClassic
    (p : ServerPool) (search : PoolSearch) :
    Opens p search.fresh (p.takeClassic search) := by
  rw [takeClassic]
  split
  · exact .kept rfl rfl (fun _ => ⟨rfl, rfl⟩) rfl rfl
  · exact p.opens_takeSearched search

/-- Only the index of FREE and the marks differ. -/
structure SameLists (p q : ServerPool) : Prop where
  free : q.free.conns = p.free.conns
  used : q.used = p.used
  maxConnections : q.maxConnections = p.maxConnections
  status : q.status = p.status
  tokenByConnection : q.tokenByConnection = p.tokenByConnection
  created : q.created = p.created
  destroyed : q.destroyed = p.destroyed

theorem SameLists.size_eq
    (h : SameLists p q) :
    q.size = p.size := by
  unfold size
  rw [h.free, h.used]

theorem SameLists.connectionReserved_eq
    (h : SameLists p q) :
    q.connectionReserved = p.connectionReserved := by
  funext c
  rw [connectionReserved, connectionReserved, h.tokenByConnection]

theorem SameLists.maxConnectionsWord_eq
    (h : SameLists p q) :
    q.maxConnectionsWord = p.maxConnectionsWord := by
  rw [maxConnectionsWord, maxConnectionsWord, h.maxConnections]

theorem SameLists.canMakeRoom_iff
    (h : SameLists p q) :
    q.CanMakeRoom ↔ p.CanMakeRoom := by
  unfold CanMakeRoom excess
  rw [h.maxConnections, h.used, h.maxConnectionsWord_eq, h.size_eq, h.free,
    h.connectionReserved_eq]

theorem SameLists.opens
    {result : Option Nat × ServerPool}
    (h : SameLists p q)
    (hopens : Opens q fresh result) :
    Opens p fresh result := by
  cases hopens with
  | kept hsize hmax hnone hcreated hdestroyed =>
      refine .kept (hsize.trans h.size_eq) (hmax.trans h.maxConnections) (fun hgiven => ?_)
        (hcreated.trans h.created) (hdestroyed.trans h.destroyed)
      obtain ⟨hfree, hused⟩ := hnone hgiven
      rw [hfree, hused, h.free, h.used]
      exact ⟨rfl, rfl⟩
  | opened hroom hmax hsize hfree hused hunreserved hcreated hdestroyed =>
      refine .opened (h.canMakeRoom_iff.mp hroom) (hmax.trans h.maxConnections)
        (h.maxConnections ▸ hsize) (h.free ▸ hfree) (h.used ▸ hused) ?_
        (h.created ▸ hcreated) (h.destroyed ▸ hdestroyed)
      rw [← h.connectionReserved_eq]
      exact hunreserved

/-- A connection that may be reused is taken, or the lists stay as they are. -/
theorem takeReusable_spec
    (p : ServerPool) (key : PoolMatchKey) (allowExactMatch allowReset : Bool)
    (search : PoolSearch) :
    (∃ conn q, p.takeReusable key allowExactMatch allowReset search = (some conn, q) ∧
        Opens p search.fresh (some conn, q)) ∨
      ∃ q, p.takeReusable key allowExactMatch allowReset search = (none, q) ∧ SameLists p q := by
  have hsearch : ∀ q, SameLists p q →
      (∃ conn q', (if allowReset then q.takeSearched { search with
          fastForward := false, onlyPooled := true, exactOnly := false } else (none, q)) =
          (some conn, q') ∧ Opens p search.fresh (some conn, q')) ∨
        ∃ q', (if allowReset then q.takeSearched { search with
          fastForward := false, onlyPooled := true, exactOnly := false } else (none, q)) =
          (none, q') ∧ SameLists p q' := by
    intro q hsame
    split
    · have hopens := hsame.opens (q.opens_takeSearched { search with
        fastForward := false, onlyPooled := true, exactOnly := false })
      have hyields := q.yields_getRandomMyConn { search with
        fastForward := false, onlyPooled := true, exactOnly := false }
      rw [takeSearched_eq] at hopens ⊢
      cases hgiven : (q.getRandomMyConn { search with
        fastForward := false, onlyPooled := true, exactOnly := false }).1 with
      | some conn =>
          rw [hgiven] at hopens
          exact Or.inl ⟨conn, _, rfl, hopens⟩
      | none =>
          rw [show q.getRandomMyConn _ = (none, (q.getRandomMyConn _).2) from
            Prod.ext hgiven rfl] at hyields
          generalize (q.getRandomMyConn { search with
            fastForward := false, onlyPooled := true, exactOnly := false }).2 = q' at hyields
          cases hyields
          exact Or.inr ⟨q, rfl, hsame⟩
    · exact Or.inr ⟨q, rfl, hsame⟩
  unfold takeReusable
  cases allowExactMatch with
  | false =>
      exact hsearch p ⟨rfl, rfl, rfl, rfl, rfl, rfl, rfl⟩
  | true =>
      rcases ConnList.conns_removeMatching p.free p.marks p.env key with
        ⟨hnone, hconns⟩ | ⟨conn, hconn, hperm⟩
      · simp only [removeMatchingFree, ↓reduceIte, hnone]
        exact hsearch _ ⟨hconns, rfl, rfl, rfl, rfl, rfl, rfl⟩
      · simp only [removeMatchingFree, ↓reduceIte, hconn]
        have hyields : Yields p search.fresh (some conn, { p with
            free := (p.free.removeMatching p.marks p.env key).2.1
            marks := (p.free.removeMatching p.marks p.env key).2.2 }) :=
          .pooled hperm rfl rfl rfl rfl
        exact Or.inl ⟨conn, _, rfl, hyields.opens⟩

theorem opens_createForReader
    (p : ServerPool) (key : PoolMatchKey) (allowExactMatch allowReset : Bool)
    (search : PoolSearch) (admitted : Bool) :
    Opens p search.fresh (p.createForReader key allowExactMatch allowReset search admitted) := by
  unfold createForReader
  split
  · exact .kept rfl rfl (fun _ => ⟨rfl, rfl⟩) rfl rfl
  rename_i hadmitted
  simp only [not_or, not_not, not_le] at hadmitted
  obtain ⟨-, honline, hpositive, -⟩ := hadmitted
  rcases p.takeReusable_spec key allowExactMatch allowReset search with
    ⟨conn, q, hsome, hopens⟩ | ⟨q, hnone, hsame⟩
  · rw [hsome]
    exact hopens
  rw [hnone]
  refine hsame.opens ?_
  simp only
  split
  · exact .kept rfl rfl (fun _ => ⟨rfl, rfl⟩) rfl rfl
  rename_i hused
  have hrequired : (if q.maxConnectionsWord ≤ q.used.conns.length + q.free.conns.length then
      q.used.conns.length + q.free.conns.length - q.maxConnectionsWord + 1 else 0) = q.excess :=
    rfl
  rw [hrequired]
  rcases q.evictUnreservedFree_spec q.excess q.excess with
    hfalse | ⟨htrue, evicted, hevicts, hlength⟩
  · rw [hfalse]
    exact .kept rfl rfl (fun _ => ⟨rfl, rfl⟩) rfl rfl
  · have hpair : q.evictUnreservedFree q.excess q.excess =
        (true, (q.evictUnreservedFree q.excess q.excess).2) :=
      Prod.ext htrue rfl
    have hstatus : ¬ ((q.evictUnreservedFree q.excess q.excess).2.createConnection
        search.fresh).status ≠ .online := by
      rw [not_not, ← honline, ← hsame.status, ← hevicts.status]
      rfl
    rw [hpair]
    simp only [if_neg hstatus]
    refine hevicts.opens ⟨?_, by omega, ?_⟩ (hevicts.size_lt hlength)
    · rw [hsame.maxConnections]
      exact hpositive
    · exact (evictUnreservedFree_required q.excess le_rfl).mp htrue

/-- What a way to open a connection guarantees. -/
structure KeepsLimit (p : ServerPool) (result : Option Nat × ServerPool) : Prop where
  limit : (p.size : Int) ≤ p.maxConnections → (result.2.size : Int) ≤ result.2.maxConnections
  /-- No reserved connection is evicted. -/
  unreserved : ∃ evicted : List Nat, result.2.destroyed = evicted.reverse ++ p.destroyed ∧
    ∀ c ∈ evicted, p.connectionReserved c = false
  /-- Without room no connection is evicted and none is opened. -/
  noRoom : ¬ p.CanMakeRoom → result.2.destroyed = p.destroyed ∧ result.2.created = p.created
  /-- The same whenever no connection is found. -/
  notFound : result.1 = none → result.2.free.conns = p.free.conns ∧
    result.2.used.conns = p.used.conns ∧ result.2.destroyed = p.destroyed ∧
    result.2.created = p.created

theorem Opens.keepsLimit
    {result : Option Nat × ServerPool}
    (h : Opens p fresh result) :
    KeepsLimit p result := by
  cases h with
  | kept hsize hmax hnone hcreated hdestroyed =>
      exact
        { limit := fun hle => by
            rw [hsize, hmax]
            exact hle
          unreserved := ⟨[], by simpa using hdestroyed, by simp⟩
          noRoom := fun _ => ⟨hdestroyed, hcreated⟩
          notFound := fun hgiven => ⟨(hnone hgiven).1, (hnone hgiven).2, hdestroyed, hcreated⟩ }
  | opened hroom hmax hsize hfree hused hunreserved hcreated hdestroyed =>
      exact
        { limit := fun _ => by
            rw [hmax]
            exact hsize
          unreserved := ⟨_, hdestroyed, hunreserved⟩
          noRoom := fun hnot => absurd hroom hnot
          notFound := fun hgiven => by cases hgiven }

/-- The classic search, the creation on a selected reader and the eviction before a
creation, from every state of a pool. -/
theorem pool_size_cap
    (p : ServerPool) :
    (∀ search, KeepsLimit p (p.takeClassic search)) ∧
      (∀ key allowExactMatch allowReset search admitted,
        KeepsLimit p (p.createForReader key allowExactMatch allowReset search admitted)) ∧
      ∀ preferred required,
        ((p.size : Int) ≤ p.maxConnections →
          ((p.evictUnreservedFree preferred required).2.size : Int) ≤
            (p.evictUnreservedFree preferred required).2.maxConnections) ∧
        (∃ evicted, Evicts p (p.evictUnreservedFree preferred required).2 evicted) ∧
        ((p.free.conns.countP fun conn => !p.connectionReserved conn) < required →
          p.evictUnreservedFree preferred required = (false, p)) ∧
        ((p.evictUnreservedFree preferred required).1 = false →
          (p.evictUnreservedFree preferred required).2 = p) := by
  refine ⟨fun search => (p.opens_takeClassic search).keepsLimit,
    fun key allowExactMatch allowReset search admitted =>
      (p.opens_createForReader key allowExactMatch allowReset search admitted).keepsLimit,
    fun preferred required => ?_⟩
  rcases p.evictUnreservedFree_spec preferred required with
    hfalse | ⟨htrue, evicted, hevicts, hlength⟩
  · rw [hfalse]
    exact ⟨id, ⟨[], .refl p⟩, fun _ => rfl, fun _ => rfl⟩
  · refine ⟨fun hle => ?_, ⟨evicted, hevicts⟩, fun hfew => ?_, fun hfalse => ?_⟩
    · have hadd := hevicts.size_add
      rw [hevicts.maxConnections]
      omega
    · exact absurd (hlength.trans hevicts.length_le) (Nat.not_le_of_lt hfew)
    · rw [htrue] at hfalse
      cases hfalse

end ServerPool

end PolarProxy
