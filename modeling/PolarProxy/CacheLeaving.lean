import PolarProxy.WorkerCache

/-!
# How a connection leaves a worker

Every connection that a worker gives up was in USED of its server, so each operation of
the pool finds it, and it leaves in one of three ways: reserved for another worker, in
FREE, or destroyed.  What other threads do meanwhile does not touch it.

**Results.** `Holding.runOthers`, `Holding.giveBack`, `Holding.pushClassic`,
`Holding.tryReserveRetained`, `Holding.pushMyConnLocal`.
-/

namespace PolarProxy

/-- The fate of a connection is what the pools say. -/
def Outcome.IsTrue (worker : Nat) (o : Outcome) : Prop :=
  match o.fate with
  | .reserved workerIndex => workerIndex ≠ worker ∧
      (o.pools.servers o.conn.srv).ReservedFor o.conn.conn workerIndex
  | .free => (o.pools.servers o.conn.srv).Available o.conn.conn
  | .destroyed => o.conn.conn ∈ (o.pools.servers o.conn.srv).destroyed

namespace PoolSystem

variable {s s' : PoolSystem} {hostgroup : Nat → Nat} {op : PoolSystemOp} {srv conn : Nat}

/-- A connection stays in USED unless an operation on its server is called with it. -/
theorem used_step
    {owned : List (Nat × Nat)}
    (h : s.Inv)
    (hstep : s.step hostgroup op = some s')
    (howned : (srv, conn) ∈ owned)
    (hop : op.takesFrom owned = false)
    (hc : conn ∈ (s.servers srv).used.conns) :
    conn ∈ (s'.servers srv).used.conns := by
  cases op with
  | server srv' op =>
      simp only [PoolSystem.step, Option.map_eq_some_iff] at hstep
      obtain ⟨result, hresult, rfl⟩ := hstep
      by_cases hsrv : srv = srv'
      · subst hsrv
        simp only [PoolSystem.apply, Function.update_self]
        refine ServerPool.used_step (h.pools srv) hresult hc ?_
        intro hleaves
        simp only [PoolSystemOp.takesFrom, hleaves] at hop
        simp [howned] at hop
      · simp only [PoolSystem.apply, Function.update_of_ne hsrv]
        exact hc
  | register _ _ _ _ _ | cancelRequest _ _ _ =>
      simp only [PoolSystem.step] at hstep
      split at hstep <;> obtain rfl := Option.some.inj hstep <;> exact hc

end PoolSystem

namespace BackendStartup

variable {b : BackendStartup}

theorem ensurePoolKey_keyed
    (hkey : b.poolKey.isEmpty = false)
    (facts : ReuseFacts) (rfq : Bool) :
    b.ensurePoolKey facts rfq = b := by
  simp [ensurePoolKey, hkey]

theorem returnDecision_keyed
    (hkey : b.poolKey.isEmpty = false)
    (facts : ReuseFacts) (profile : Option StartupProfile) :
    (b.returnDecision facts profile).2 = b := by
  cases profile with
  | none =>
      rfl
  | some profile =>
      simp only [returnDecision, ensurePoolKey_keyed hkey]
      split
      · rfl
      · split
        · rfl
        · split <;> rfl

/-- A local decision leaves the connection as it is; only connections with a key are kept. -/
theorem localReturnDecision_startup
    (facts : ReuseFacts) (profile : Option StartupProfile) (served : Bool)
    (wanted : PoolMatchKey → Bool) :
    (b.localReturnDecision facts profile served wanted).2 = b ∧
      ((b.localReturnDecision facts profile served wanted).1 = .keepWithWorker →
        b.poolKey.isEmpty = false) := by
  rw [localReturnDecision]
  cases hkey : b.poolKey.isEmpty with
  | true =>
      simp
  | false =>
      cases served with
      | false =>
          simp
      | true =>
          have hsame := returnDecision_keyed hkey facts profile
          simp only [Bool.not_true, Bool.or_self, Bool.false_eq_true, if_false]
          split <;> rename_i heq <;> rw [heq] at hsame <;> exact ⟨hsame, fun _ => trivial⟩

end BackendStartup

namespace WorkerCache

variable {hostgroup : Nat → Nat} {worker : Nat} {s s' : WorkerCache} {c : CachedConn}

/-! ## Holding connections -/

/-- The connections that the worker holds are in USED. -/
structure Holding (s : WorkerCache) : Prop where
  pools : s.pools.Inv
  used : ∀ o ∈ s.owned, o.2 ∈ (s.pools.servers o.1).used.conns
  faults : s.faults = []

/-- Only the pools and the retention have changed, and the worker holds what it held. -/
structure Stays (s s' : WorkerCache) : Prop where
  holding : s'.Holding
  owned : s'.owned = s.owned
  cached : s'.cached = s.cached
  readerCount : s'.readerCount = s.readerCount

/-- One connection has left the worker. -/
structure Leaves (worker : Nat) (s : WorkerCache) (c : CachedConn) (r : Outcome × WorkerCache) :
    Prop where
  conn : r.1.conn = c
  isTrue : r.1.IsTrue worker
  holding : r.2.Holding
  owned : ∀ o, o ∈ r.2.owned ↔ o ∈ s.owned ∧ o ≠ c.id
  cached : r.2.cached = s.cached
  readerCount : r.2.readerCount = s.readerCount

theorem Stays.refl
    (h : s.Holding) :
    Stays s s :=
  ⟨h, rfl, rfl, rfl⟩

theorem Stays.leaves
    {r : Outcome × WorkerCache}
    (hs : Stays s s')
    (h : Leaves worker s' c r) :
    Leaves worker s c r :=
  { h with
    owned := by
      intro o
      rw [h.owned, hs.owned]
    cached := h.cached.trans hs.cached
    readerCount := h.readerCount.trans hs.readerCount }

theorem holding_otherStep
    (hostgroup : Nat → Nat) (owned : List (Nat × Nat)) (pools : PoolSystem) (op : PoolSystemOp)
    (h : pools.Inv)
    (hused : ∀ o ∈ owned, o.2 ∈ (pools.servers o.1).used.conns) :
    (otherStep hostgroup owned pools op).Inv ∧
      ∀ o ∈ owned, o.2 ∈ ((otherStep hostgroup owned pools op).servers o.1).used.conns := by
  rw [otherStep]
  split
  · exact ⟨h, hused⟩
  · rename_i htakes
    cases hstep : pools.step hostgroup op with
    | none =>
        exact ⟨h, hused⟩
    | some pools' =>
        refine ⟨h.step hstep, ?_⟩
        intro o ho
        exact PoolSystem.used_step h hstep ho (by simpa using htakes) (hused o ho)

/-- Other threads leave the worker what it holds. -/
theorem Holding.runOthers
    (h : s.Holding)
    (hostgroup : Nat → Nat) (ops : List PoolSystemOp) :
    Stays s (s.runOthers hostgroup ops) := by
  have hfold : ∀ (ops : List PoolSystemOp) (pools : PoolSystem), pools.Inv →
      (∀ o ∈ s.owned, o.2 ∈ (pools.servers o.1).used.conns) →
      (ops.foldl (otherStep hostgroup s.owned) pools).Inv ∧
        ∀ o ∈ s.owned,
          o.2 ∈ ((ops.foldl (otherStep hostgroup s.owned) pools).servers o.1).used.conns := by
    intro ops
    induction ops with
    | nil =>
        exact fun pools hinv hused => ⟨hinv, hused⟩
    | cons op ops ih =>
        intro pools hinv hused
        obtain ⟨hinv', hused'⟩ := holding_otherStep hostgroup s.owned pools op hinv hused
        exact ih _ hinv' hused'
  obtain ⟨hinv, hused⟩ := hfold ops s.pools h.pools h.used
  exact ⟨⟨hinv, hused, h.faults⟩, rfl, rfl, rfl⟩

/-! ## One connection leaves -/

theorem Holding.mem_used
    (h : s.Holding)
    (howned : c.id ∈ s.owned) :
    c.conn ∈ (s.pools.servers c.srv).used.conns :=
  h.used c.id howned

theorem Holding.inUsed
    (h : s.Holding)
    (howned : c.id ∈ s.owned) :
    s.inUsed c = true := by
  simpa [WorkerCache.inUsed] using h.mem_used howned

/-- An operation of the worker takes away no connection but its own. -/
theorem pools_applied
    {srv : Nat} {op : PoolOp} {result : PoolResult}
    (h : s.pools.Inv)
    (hstep : (s.pools.servers srv).step (s.pools.requests (hostgroup srv)) op = some result) :
    (s.applied hostgroup srv result).pools.Inv ∧
      ∀ o : Nat × Nat, o.2 ∈ (s.pools.servers o.1).used.conns →
        (o.1 = srv → op.leavesUsed ≠ some o.2) →
        o.2 ∈ ((s.applied hostgroup srv result).pools.servers o.1).used.conns := by
  constructor
  · exact h.apply (ServerPool.step_spec (h.pools srv) (h.pending_tokens _) hstep)
  · intro o ho hleaves
    by_cases hsrv : o.1 = srv
    · subst hsrv
      simp only [applied, PoolSystem.apply, Function.update_self]
      exact ServerPool.used_step (h.pools o.1) hstep ho (hleaves rfl)
    · simp only [applied, PoolSystem.apply, Function.update_of_ne hsrv]
      exact ho

theorem servers_applied
    (hostgroup : Nat → Nat) (s : WorkerCache) (srv : Nat) (result : PoolResult) :
    (s.applied hostgroup srv result).pools.servers srv = result.pool := by
  simp [applied, PoolSystem.apply]

theorem serve_eq
    {srv : Nat} {op : PoolOp} {result : PoolResult}
    (hstep : (s.pools.servers srv).step (s.pools.requests (hostgroup srv)) op = some result) :
    s.serve hostgroup srv op = result := by
  rw [serve, hstep, Option.getD_some]

/-- The pools have changed and the worker holds what it held, apart from one connection. -/
structure Parts (s s' : WorkerCache) (c : CachedConn) : Prop where
  pools : s'.pools.Inv
  used : ∀ o ∈ s.owned, o ≠ c.id → o.2 ∈ (s'.pools.servers o.1).used.conns
  owned : s'.owned = s.owned
  cached : s'.cached = s.cached
  readerCount : s'.readerCount = s.readerCount
  faults : s'.faults = []

theorem Holding.parts
    {op : PoolOp} {result : PoolResult}
    (h : s.Holding)
    (hstep : (s.pools.servers c.srv).step (s.pools.requests (hostgroup c.srv)) op = some result)
    (hleaves : op.leavesUsed = some c.conn) :
    Parts s (s.applied hostgroup c.srv result) c := by
  obtain ⟨hinv, hused⟩ := pools_applied h.pools hstep
  refine ⟨hinv, ?_, rfl, rfl, rfl, h.faults⟩
  intro o ho hne
  refine hused o (h.used o ho) ?_
  intro hsrv hconn
  rw [hleaves, Option.some.injEq] at hconn
  exact hne (Prod.ext hsrv hconn.symm)

theorem Parts.leaves
    {fate : Fate}
    (h : Parts s s' c)
    (htrue : (⟨c, fate, s'.pools⟩ : Outcome).IsTrue worker) :
    Leaves worker s c (s'.leave c fate) where
  conn := rfl
  isTrue := htrue
  holding := by
    refine ⟨h.pools, ?_, h.faults⟩
    intro o ho
    obtain ⟨ho, hne⟩ := List.mem_filter.mp ho
    rw [h.owned] at ho
    exact h.used o ho (by simpa using hne)
  owned := by
    intro o
    simp [leave, h.owned]
  cached := h.cached
  readerCount := h.readerCount

theorem Parts.delete
    (h : Parts s s' c)
    (hhanded : c.conn ∈ (s'.pools.servers c.srv).handed) :
    Leaves worker s c ((s'.applied hostgroup c.srv
      (s'.serve hostgroup c.srv (.deleteHanded c.conn))).leave c .destroyed) := by
  have hstep : (s'.pools.servers c.srv).step (s'.pools.requests (hostgroup c.srv))
      (.deleteHanded c.conn) = some
        { pool := ((s'.pools.servers c.srv).takeBack c.conn).destroy c.conn
          requests := s'.pools.requests (hostgroup c.srv) } := by
    simp [ServerPool.step, hhanded]
  obtain ⟨hinv, hused⟩ := pools_applied h.pools hstep
  rw [serve_eq hstep]
  have hparts : Parts s (s'.applied hostgroup c.srv
      { pool := ((s'.pools.servers c.srv).takeBack c.conn).destroy c.conn
        requests := s'.pools.requests (hostgroup c.srv) }) c := by
    refine ⟨hinv, ?_, h.owned, h.cached, h.readerCount, h.faults⟩
    intro o ho hne
    exact hused o (h.used o ho hne) (fun _ => by simp [PoolOp.leavesUsed])
  refine hparts.leaves ?_
  simp only [Outcome.IsTrue]
  rw [servers_applied]
  exact List.mem_cons_self

/-- A connection is given up: it is reserved, in FREE, or was handed back and deleted. -/
theorem Holding.giveBack
    {op : PoolOp} {result : PoolResult}
    (h : s.Holding)
    (howned : c.id ∈ s.owned)
    (hstep : (s.pools.servers c.srv).step (s.pools.requests (hostgroup c.srv)) op = some result)
    (hleaves : op.leavesUsed = some c.conn)
    (hplace :
      (∃ request, result.wake = some request ∧ request.workerIndex ≠ worker ∧
          result.pool.ReservedFor c.conn request.workerIndex) ∨
        result.wake = none ∧ (result.pool.Available c.conn ∨ c.conn ∈ result.pool.handed)) :
    Leaves worker s c (s.giveBack hostgroup c op) := by
  have hparts := h.parts hstep hleaves
  have hserver := servers_applied hostgroup s c.srv result
  rw [WorkerCache.giveBack, h.inUsed howned]
  simp only [Bool.not_true, Bool.false_eq_true, if_false, serve_eq hstep]
  rcases hplace with ⟨request, hwake, hother, hreserved⟩ | ⟨hwake, hplace⟩
  · rw [hwake]
    refine hparts.leaves ?_
    simp only [Outcome.IsTrue, hserver]
    exact ⟨hother, hreserved⟩
  · rw [hwake]
    rcases hplace with hfree | hhanded
    · have hpool := hparts.pools.pools c.srv
      rw [hserver] at hpool
      have hnot := hpool.notMem_handed (Or.inl hfree.1)
      rw [if_neg (by simpa [hserver] using hnot)]
      refine hparts.leaves ?_
      simp only [Outcome.IsTrue, hserver]
      exact hfree
    · rw [← hserver] at hhanded
      rw [if_pos (by simpa using hhanded)]
      exact hparts.delete hhanded

theorem Holding.removeUsed
    (h : s.Holding)
    (howned : c.id ∈ s.owned) :
    Leaves worker s c (s.giveBack hostgroup c (.removeUsed c.conn)) :=
  h.giveBack howned rfl rfl
    (Or.inr ⟨rfl, Or.inr (ServerPool.removeUsed_place (h.pools.pools c.srv) (h.mem_used howned))⟩)

theorem Holding.returnExact
    (h : s.Holding)
    (howned : c.id ∈ s.owned)
    (r : Returning) (checked : Bool) :
    Leaves worker s c (s.returnExact hostgroup worker c r checked) := by
  rw [WorkerCache.returnExact]
  dsimp only
  split
  · exact h.giveBack howned rfl rfl
      (ServerPool.returnMatching_place (h.pools.pools c.srv) (h.pools.pending_tokens _)
        (h.mem_used howned) _ _ _)
  · exact h.removeUsed howned

theorem Holding.pushClassic
    (h : s.Holding)
    (howned : c.id ∈ s.owned)
    (reusable : Bool) :
    Leaves worker s c (s.pushClassic hostgroup c reusable) := by
  have hin := h.mem_used howned
  have hstep : (s.pools.servers c.srv).step (s.pools.requests (hostgroup c.srv))
      (.returnClassic c.conn reusable) = some
        { pool := (s.pools.servers c.srv).returnClassic c.conn reusable
          requests := s.pools.requests (hostgroup c.srv) } := by
    simp [ServerPool.step, hin]
  have hparts := h.parts hstep rfl
  have hplace := ServerPool.returnClassic_place (h.pools.pools c.srv) hin reusable
  rw [WorkerCache.pushClassic, h.inUsed howned]
  simp only [Bool.not_true, Bool.false_eq_true, if_false, serve_eq hstep]
  refine hparts.leaves ?_
  split at hplace <;> rename_i hcond
  · simp only [if_pos hcond, Outcome.IsTrue, servers_applied]
    exact hplace
  · simp only [if_neg hcond, Outcome.IsTrue, servers_applied]
    exact hplace

theorem Holding.pushToPool
    (h : s.Holding)
    (howned : c.id ∈ s.owned)
    (r : Returning) :
    Leaves worker s c (s.pushToPool hostgroup worker c r) := by
  rw [WorkerCache.pushToPool]
  split
  · exact h.returnExact howned r false
  · exact h.pushClassic howned r.reusable

/-! ## Reserving for another worker -/

/-- The worker still holds the connection, or it is reserved for another worker. -/
def Offers (worker : Nat) (s : WorkerCache) (c : CachedConn) (result : RemoteReservation)
    (s' : WorkerCache) : Prop :=
  match result with
  | .connectionReserved workerIndex => c.keyed = true ∧
      Leaves worker s c (s'.leave c (.reserved workerIndex))
  | .noRemoteRequest => c.keyed = true ∧ Stays s s'
  | _ => Stays s s'

theorem Holding.reserveUsed
    (h : s.Holding)
    (howned : c.id ∈ s.owned)
    (hkeyed : c.keyed = true)
    (key : PoolMatchKey) (check : RequestCheck) :
    Offers worker s c (s.reserveUsed hostgroup worker c key check).1
      (s.reserveUsed hostgroup worker c key check).2 := by
  rw [WorkerCache.reserveUsed]
  split
  · exact .refl h
  · have hstep : (s.pools.servers c.srv).step (s.pools.requests (hostgroup c.srv))
        (.reserveMatchingUsed c.conn key worker check) =
          some ((s.pools.servers c.srv).reserveMatchingUsed (s.pools.requests (hostgroup c.srv))
            c.conn key worker check) := rfl
    have hparts := h.parts hstep rfl
    have hplace := ServerPool.reserveMatchingUsed_place (h.pools.pools c.srv)
      (h.pools.pending_tokens (hostgroup c.srv)) (h.mem_used howned) key worker check
    simp only [serve_eq hstep]
    rcases hplace with ⟨request, hwake, hother, hreserved⟩ | ⟨hwake, hused⟩
    · rw [hwake]
      refine ⟨hkeyed, hparts.leaves ?_⟩
      simp only [Outcome.IsTrue, servers_applied]
      exact ⟨hother, hreserved⟩
    · rw [hwake]
      refine ⟨hkeyed, ⟨hparts.pools, ?_, hparts.faults⟩, rfl, rfl, rfl⟩
      intro o ho
      by_cases ho' : o = c.id
      · subst ho'
        rw [show c.id.1 = c.srv from rfl, servers_applied]
        exact hused
      · exact hparts.used o ho ho'

theorem Offers.after
    {s₁ : WorkerCache} {result : RemoteReservation}
    (hs : Stays s s₁)
    (h : Offers worker s₁ c result s') :
    Offers worker s c result s' := by
  have hstays : Stays s₁ s' → Stays s s' := fun h =>
    ⟨h.holding, h.owned.trans hs.owned, h.cached.trans hs.cached,
      h.readerCount.trans hs.readerCount⟩
  cases result with
  | connectionReserved workerIndex =>
      exact ⟨h.1, hs.leaves h.2⟩
  | noRemoteRequest =>
      exact ⟨h.1, hstays h.2⟩
  | connectionInvalid | notAttempted =>
      exact hstays h

theorem Offers.clearInactiveRetention
    {result : RemoteReservation}
    (h : Offers worker s c result s')
    (scopeActive : Bool) :
    Offers worker s c result (s'.clearInactiveRetention scopeActive) := by
  have hstays : Stays s s' → Stays s (s'.clearInactiveRetention scopeActive) := by
    intro h
    rw [WorkerCache.clearInactiveRetention]
    split
    · exact h
    · exact ⟨⟨h.holding.pools, h.holding.used, h.holding.faults⟩, h.owned, h.cached, h.readerCount⟩
  cases result with
  | connectionReserved workerIndex =>
      refine ⟨h.1, ?_⟩
      rw [WorkerCache.clearInactiveRetention]
      split
      · exact h.2
      · exact ⟨h.2.conn, h.2.isTrue,
          ⟨h.2.holding.pools, h.2.holding.used, h.2.holding.faults⟩, h.2.owned, h.2.cached,
          h.2.readerCount⟩
  | noRemoteRequest =>
      exact ⟨h.1, hstays h.2⟩
  | connectionInvalid | notAttempted =>
      exact hstays h

theorem matchesRequirements_keyed
    {f : ReturnFacts}
    (h : s.matchesRequirements c f = true) :
    c.keyed = true := by
  rw [matchesRequirements] at h
  split at h
  · cases h
  · rename_i r _
    simp only [RetainedIdentity.active, Bool.and_eq_true, beq_iff_eq] at h
    rw [CachedConn.keyed, h.2]
    exact h.1.1.1.2

theorem withStartup_returnDecision
    (hkeyed : c.keyed = true)
    (facts : ReuseFacts) (profile : Option StartupProfile) :
    c.withStartup (c.startup.returnDecision facts profile).2 = c := by
  rw [BackendStartup.returnDecision_keyed (by simpa [CachedConn.keyed] using hkeyed)]
  rfl

theorem Holding.reserveRetained
    (h : s.Holding)
    (howned : c.id ∈ s.owned)
    (hkeyed : c.keyed = true)
    (hostgroup : Nat → Nat) (worker : Nat) (expected : PoolMatchKey) (r : Returning) :
    c.withStartup (s.reserveRetained hostgroup worker c expected r).2.1 = c ∧
      Offers worker s c (s.reserveRetained hostgroup worker c expected r).1
        (s.reserveRetained hostgroup worker c expected r).2.2 := by
  have hsame := withStartup_returnDecision hkeyed r.facts r.profile
  rw [WorkerCache.reserveRetained]
  split
  · exact ⟨rfl, .refl h⟩
  · dsimp only
    split
    · exact ⟨hsame, .refl h⟩
    · exact ⟨hsame, h.reserveUsed howned hkeyed _ _⟩

/-- An offer to other workers leaves the connection itself as it is. -/
theorem Holding.tryReserveRetained
    (h : s.Holding)
    (howned : c.id ∈ s.owned)
    (hostgroup : Nat → Nat) (worker : Nat) (f : ReturnFacts) :
    (s.tryReserveRetained hostgroup worker c f).2.1 = c ∧
      Offers worker s c (s.tryReserveRetained hostgroup worker c f).1
        (s.tryReserveRetained hostgroup worker c f).2.2 := by
  rw [WorkerCache.tryReserveRetained]
  split
  · exact ⟨rfl, .refl h⟩
  · rename_i hcond
    simp only [Bool.or_eq_true, not_or, Bool.not_eq_true', Bool.not_eq_false] at hcond
    have hstays := h.runOthers hostgroup f.beforeReservation
    have howned' : c.id ∈ (s.runOthers hostgroup f.beforeReservation).owned := howned
    obtain ⟨hsame, hoffers⟩ := hstays.holding.reserveRetained howned'
      (matchesRequirements_keyed hcond.1.2) hostgroup worker
      ((s.retention.map fun r => r.poolKey.matchKey r.profileGeneration).getD {}) f.atReservation
    exact ⟨hsame, (hoffers.after hstays).clearInactiveRetention f.scopeActive⟩

/-! ## Pushing -/

theorem localDecision_startup
    (c : CachedConn) (r : Returning) :
    (localDecision c r).2 = c ∧
      ((localDecision c r).1 = .keepWithWorker → c.keyed = true) := by
  obtain ⟨hsame, hkeep⟩ := BackendStartup.localReturnDecision_startup (b := c.startup) r.facts
    r.profile r.served r.wanted
  constructor
  · simp only [localDecision, hsame]
    rfl
  · intro hdecision
    simp [CachedConn.keyed, hkeep hdecision]

/-- A connection that was pushed has left, or it is in the cache and counted if it has a
key. -/
def Pushes (worker : Nat) (s : WorkerCache) (c : CachedConn) (result : CacheResult) : Prop :=
  result.taken = none ∧
    ((∃ outcome, result.left = [outcome] ∧ Leaves worker s c (outcome, result.cache)) ∨
      ∃ c', result.left = [] ∧ c'.id = c.id ∧ result.cache.Holding ∧
        result.cache.owned = s.owned ∧ result.cache.cached = s.cached ++ [c'] ∧
        result.cache.readerCount = s.readerCount + [c'].countP CachedConn.keyed)

theorem Leaves.pushes
    {r : Outcome × WorkerCache}
    (h : Leaves worker s c r) :
    Pushes worker s c (gone r) :=
  ⟨rfl, Or.inl ⟨r.1, rfl, h⟩⟩

theorem Stays.storeReaderLocally
    (h : Stays s s')
    (hkeyed : c.keyed = true) :
    Pushes worker s c (s'.storeReaderLocally c) := by
  refine ⟨rfl, Or.inr ⟨{ c with cacheEpoch := s'.cacheEpoch }, rfl, rfl, ?_, h.owned, ?_, ?_⟩⟩
  · exact ⟨h.holding.pools, h.holding.used, h.holding.faults⟩
  · simp only [WorkerCache.storeReaderLocally, h.cached]
  · have hkeyed' : CachedConn.keyed { c with cacheEpoch := s'.cacheEpoch } = true := hkeyed
    simp only [WorkerCache.storeReaderLocally, h.readerCount, List.countP_singleton, hkeyed',
      if_true]

theorem Stays.pushGeneric
    (h : Stays s s')
    (howned : c.id ∈ s.owned)
    (hkeyed : c.keyed = false)
    (f : ReturnFacts) :
    Pushes worker s c (s'.pushGeneric hostgroup worker c f) := by
  have hpool : ∀ s₁, Stays s s₁ → Pushes worker s c
      (gone ((s₁.runOthers hostgroup f.beforeReturn).pushToPool hostgroup worker c
        f.atReturn)) := by
    intro s₁ h₁
    have hothers := h₁.holding.runOthers hostgroup f.beforeReturn
    have howned' : c.id ∈ (s₁.runOthers hostgroup f.beforeReturn).owned := by
      rw [hothers.owned, h₁.owned]
      exact howned
    exact (h₁.leaves (hothers.leaves (hothers.holding.pushToPool howned' f.atReturn))).pushes
  have hkeep : ∀ s₁, Stays s s₁ →
      Pushes worker s c { cache := { s₁ with cached := s₁.cached ++ [c] } } := by
    intro s₁ h₁
    refine ⟨rfl, Or.inr ⟨c, rfl, rfl, ⟨h₁.holding.pools, h₁.holding.used, h₁.holding.faults⟩,
      h₁.owned, ?_, ?_⟩⟩
    · simp only [h₁.cached]
    · simp only [h₁.readerCount, List.countP_singleton, hkeyed, Bool.false_eq_true, if_false,
        Nat.add_zero]
  have hcounter : Stays s { s' with pushLocalCounter := s'.pushLocalCounter + 1 } :=
    ⟨⟨h.holding.pools, h.holding.used, h.holding.faults⟩, h.owned, h.cached, h.readerCount⟩
  simp only [WorkerCache.pushGeneric]
  split
  · split
    · split
      · exact hpool _ hcounter
      · exact hkeep _ hcounter
    · exact hkeep _ h
  · exact hpool _ h

theorem Stays.pushShared
    (h : Stays s s')
    (howned : c.id ∈ s.owned)
    (f : ReturnFacts) (checked : Bool) :
    Pushes worker s c (s'.pushShared hostgroup worker c f checked) := by
  rw [WorkerCache.pushShared]
  split
  · have hothers := h.holding.runOthers hostgroup f.beforeReturn
    have howned' : c.id ∈ (s'.runOthers hostgroup f.beforeReturn).owned := by
      rw [hothers.owned, h.owned]
      exact howned
    exact (h.leaves (hothers.leaves
      (hothers.holding.returnExact howned' f.atReturn checked))).pushes
  · rename_i hexact
    simp only [inExactPool, Bool.or_eq_true, not_or, Bool.not_eq_true] at hexact
    exact h.pushGeneric howned hexact.1.2 f

theorem Stays.pushUnreserved
    (h : Stays s s')
    (howned : c.id ∈ s.owned)
    (f : ReturnFacts) :
    Pushes worker s c (s'.pushUnreserved hostgroup worker c f) := by
  obtain ⟨hsame, hkeep⟩ := localDecision_startup c f.atDecision
  rw [WorkerCache.pushUnreserved]
  generalize localDecision c f.atDecision = decided at hsame hkeep ⊢
  obtain ⟨decision, c'⟩ := decided
  subst hsame
  cases decision with
  | useSharedPool =>
      exact h.pushShared howned f false
  | useSharedPoolReuseChecked =>
      exact h.pushShared howned f true
  | keepWithWorker =>
      exact h.storeReaderLocally (hkeep rfl)
  | removeConnection =>
      have hothers := h.holding.runOthers hostgroup f.beforeReturn
      have howned' : c'.id ∈ (s'.runOthers hostgroup f.beforeReturn).owned := by
        rw [hothers.owned, h.owned]
        exact howned
      exact (h.leaves (hothers.leaves (hothers.holding.removeUsed howned'))).pushes

theorem Holding.pushMyConnLocal
    (h : s.Holding)
    (howned : c.id ∈ s.owned)
    (f : ReturnFacts) :
    Pushes worker s c (s.pushMyConnLocal hostgroup worker c f) := by
  obtain ⟨hsame, hoffers⟩ := h.tryReserveRetained howned hostgroup worker f
  rw [WorkerCache.pushMyConnLocal]
  generalize s.tryReserveRetained hostgroup worker c f = offer at hsame hoffers ⊢
  obtain ⟨result, c', s'⟩ := offer
  subst hsame
  cases result with
  | connectionReserved workerIndex =>
      exact hoffers.2.pushes
  | noRemoteRequest =>
      exact hoffers.2.storeReaderLocally hoffers.1
  | connectionInvalid | notAttempted =>
      exact Stays.pushUnreserved hoffers howned f

end WorkerCache

end PolarProxy
