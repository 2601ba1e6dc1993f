import PolarProxy.PoolLimit
import PolarProxy.PoolSystem

/-!
# Connections that a caller holds

A connection in USED belongs to the one who took it.  Only four operations take a
connection out of USED, and each is called with the connection; no other operation, on
whatever server, takes it away from its holder.

**Results.** `ServerPool.used_step`, `returnMatching_place`, `returnClassic_place`,
`reserveMatchingUsed_place`, `removeUsed_place`.
-/

namespace PolarProxy

open SwapRemove

/-- The connection that an operation may take out of USED. -/
def PoolOp.leavesUsed : PoolOp → Option Nat
  | .returnMatching conn _ _ _ => some conn
  | .returnClassic conn _ => some conn
  | .reserveMatchingUsed conn _ _ _ => some conn
  | .removeUsed conn => some conn
  | _ => none

namespace ServerPool

variable {p q : ServerPool} {requests : List CapacityRequest} {conn c index : Nat}
variable {reason : ReservationEndReason} {key : PoolMatchKey} {excludedWorker : Nat}
variable {check : RequestCheck}

/-! ## Operations on FREE -/

theorem used_removeFreeAt
    (p : ServerPool) (index : Nat) (reason : ReservationEndReason) :
    (p.removeFreeAt index reason).2.used = p.used := by
  rw [removeFreeAt]
  split
  · rfl
  · exact forgetReserved_used _ _

theorem used_discardFreeAt
    (p : ServerPool) (index : Nat) (reason : ReservationEndReason) :
    (p.discardFreeAt index reason).used = p.used := by
  have hremove := used_removeFreeAt p index reason
  rw [discardFreeAt]
  split <;> rename_i heq <;> rw [heq] at hremove <;> exact hremove

theorem used_detachLoop
    (rounds : Nat) (p : ServerPool) :
    (p.detachLoop reason rounds).used = p.used := by
  induction rounds generalizing p with
  | zero =>
      rfl
  | succ rounds ih =>
      rw [detachLoop]
      split
      · rfl
      · rw [ih, used_discardFreeAt]

theorem used_detachAll
    (p : ServerPool) (reason : ReservationEndReason) :
    (p.detachAll reason).used = p.used :=
  used_detachLoop _ _

theorem used_evictLoop
    (rounds index remaining : Nat) (p : ServerPool) :
    (p.evictLoop rounds index remaining).2.used = p.used := by
  induction rounds generalizing index remaining p with
  | zero =>
      rfl
  | succ rounds ih =>
      rw [evictLoop]
      split
      · rfl
      · split
        · rfl
        · split
          · exact ih _ _ _
          · rw [ih, used_discardFreeAt]

theorem used_evictUnreservedFree
    (p : ServerPool) (preferred required : Nat) :
    (p.evictUnreservedFree preferred required).2.used = p.used := by
  rw [evictUnreservedFree]
  split
  · rfl
  · split
    · rfl
    · dsimp only
      split
      · rfl
      · exact used_evictLoop _ _ _ _

theorem used_trimLoop
    (maxFree rounds index : Nat) (p : ServerPool) :
    (p.trimLoop maxFree rounds index).used = p.used := by
  induction rounds generalizing index p with
  | zero =>
      rfl
  | succ rounds ih =>
      rw [trimLoop]
      split
      · rfl
      · split
        · rfl
        · split
          · rw [ih, used_discardFreeAt]
          · exact ih _ _

theorem used_trimFree
    (p : ServerPool) (maxFree : Nat) :
    (p.trimFree maxFree).used = p.used := by
  simp only [trimFree]
  split <;> exact used_trimLoop _ _ _ _

theorem used_shrinkLoop
    (maxConnections rounds : Nat) (p : ServerPool) :
    (p.shrinkLoop maxConnections rounds).used = p.used := by
  induction rounds generalizing p with
  | zero =>
      rfl
  | succ rounds ih =>
      rw [shrinkLoop]
      split
      · rfl
      · rw [ih, used_discardFreeAt]

theorem used_ageLoop
    (aged : Nat → Bool) (rounds index : Nat) (p : ServerPool) :
    (p.ageLoop aged rounds index).used = p.used := by
  induction rounds generalizing index p with
  | zero =>
      rfl
  | succ rounds ih =>
      rw [ageLoop]
      split
      · rfl
      · split
        · rw [ih, used_discardFreeAt]
        · exact ih _ _

theorem used_dropIdle
    (p : ServerPool) (maxFree : Nat) (aged : Nat → Bool) :
    (p.dropIdle maxFree aged).used = p.used := by
  simp only [dropIdle]
  rw [used_ageLoop, used_trimFree, used_shrinkLoop]
  split
  · exact used_detachAll _ _
  · rfl

theorem used_setStatus
    (p : ServerPool) (status : ServerStatus) :
    (p.setStatus status).used = p.used := by
  simp only [setStatus]
  split
  · exact used_detachAll _ _
  · rfl

theorem used_removeFreeConnection
    (p : ServerPool) (conn : Nat) :
    (p.removeFreeConnection conn).used = p.used := by
  simp only [removeFreeConnection]
  split
  · rfl
  · exact used_removeFreeAt _ _ _

theorem used_storeMatchingFree
    {result : PoolResult}
    (h : p.storeMatchingFree requests conn key excludedWorker check = some result) :
    result.pool.used = p.used := by
  simp only [storeMatchingFree, Option.ite_none_left_eq_some] at h
  obtain ⟨-, h⟩ := h
  split at h <;> obtain rfl := Option.some.inj h <;> rfl

theorem used_cancelReservation
    (p : ServerPool) (requests : List CapacityRequest) (workerIndex token : Nat)
    (check : RequestCheck) :
    (p.cancelReservation requests workerIndex token check).2.pool.used = p.used := by
  have hclear : (cancelReserved.clearRetired p requests workerIndex token).2.pool.used =
      p.used := by
    rw [cancelReserved.clearRetired]
    split
    · rfl
    · split <;> rfl
  rw [cancelReservation]
  split
  · rfl
  · rw [cancelReserved]
    split
    · rename_i r _
      split
      · dsimp only
        split
        · exact forgetReserved_used _ _
        · have hremove := fun i => used_removeFreeAt (p.findFree r.conn).2 i .released
          split
          · rename_i hstore
            rw [used_storeMatchingFree hstore]
            exact hremove _
          · exact hremove _
      · exact hclear
    · exact hclear

/-! ## Operations on USED -/

theorem mem_addUsed
    (key : Option PoolMatchKey)
    (hc : c ∈ p.used.conns) :
    c ∈ (p.addUsed conn key).used.conns := by
  rw [addUsed_conns]
  exact List.mem_append_left _ hc

theorem mem_takeSearched
    (search : PoolSearch)
    (hc : c ∈ p.used.conns) :
    c ∈ (p.takeSearched search).2.used.conns := by
  have hused : (p.getRandomMyConn search).2.used = p.used := by
    generalize hresult : p.getRandomMyConn search = result
    have hyields := yields_getRandomMyConn p search
    rw [hresult] at hyields
    cases hyields with
    | nothing =>
        rfl
    | pooled _ hused _ _ _ =>
        exact hused
    | opened _ hevicts _ =>
        exact hevicts.used
  rw [takeSearched_eq]
  cases (p.getRandomMyConn search).1 with
  | none =>
      exact hused ▸ hc
  | some conn =>
      exact mem_addUsed _ (hused ▸ hc)

theorem mem_takeClassic
    (search : PoolSearch)
    (hc : c ∈ p.used.conns) :
    c ∈ (p.takeClassic search).2.used.conns := by
  rw [takeClassic]
  split
  · exact hc
  · exact mem_takeSearched _ hc

theorem mem_takeExisting
    (key : PoolMatchKey) (allowExactMatch allowReset : Bool) (search : PoolSearch)
    (hc : c ∈ p.used.conns) :
    c ∈ (p.takeExisting key allowExactMatch allowReset search).2.used.conns := by
  have hexact : (if allowExactMatch then p.removeMatchingFree key else (none, p)).2.used =
      p.used := by
    split <;> rfl
  rw [takeExisting]
  split
  · exact hc
  · dsimp only
    split <;> rename_i q heq <;> rw [heq] at hexact
    · exact mem_addUsed _ (hexact ▸ hc)
    · split
      · exact mem_takeSearched _ (hexact ▸ hc)
      · exact hexact ▸ hc

theorem mem_takeMatching
    (key : PoolMatchKey)
    (hc : c ∈ p.used.conns) :
    c ∈ (p.takeMatching key).2.used.conns := by
  have hmatch : (p.removeMatchingFree key).2.used = p.used := rfl
  rw [takeMatching]
  split
  · exact hc
  · split <;> rename_i heq <;> rw [heq] at hmatch
    · exact hmatch ▸ hc
    · exact mem_addUsed _ (hmatch ▸ hc)

theorem mem_takeForPing
    (conn : Nat) (idle : Bool)
    (hc : c ∈ p.used.conns) :
    c ∈ (p.takeForPing conn idle).2.used.conns := by
  rw [takeForPing]
  split
  · exact hc
  · dsimp only
    split
    · exact hc
    · split
      · exact hc
      · split <;> rename_i heq
        · have hremove := congrArg (fun r => r.2.used) heq
          simp only [used_removeFreeAt] at hremove
          exact hremove ▸ hc
        · have hremove := congrArg (fun r => r.2.used) heq
          simp only [used_removeFreeAt] at hremove
          exact mem_addUsed _ (hremove ▸ hc)

theorem used_takeRetired
    (p : ServerPool) (requests : List CapacityRequest) (workerIndex token : Nat) :
    (p.takeRetired requests workerIndex token).2.used = p.used := by
  rw [takeRetired]
  split
  · rfl
  · split
    · rfl
    · split <;> rfl

theorem mem_takeReservation
    (requests : List CapacityRequest) (workerIndex token : Nat)
    (hc : c ∈ p.used.conns) :
    c ∈ (p.takeReservation requests workerIndex token).2.2.used.conns := by
  simp only [takeReservation]
  split
  · rw [used_takeRetired]
    exact hc
  · split
    · rw [used_takeRetired]
      exact hc
    · split
      · rw [used_takeRetired, forgetReserved_used]
        exact hc
      · split
        · rw [used_takeRetired, forgetReserved_used]
          exact hc
        · split <;> rename_i heq
          · have hremove := congrArg (fun r => r.2.used) heq
            simp only [used_removeFreeAt] at hremove
            exact hremove ▸ hc
          · have hremove := congrArg (fun r => r.2.used) heq
            simp only [used_removeFreeAt] at hremove
            exact mem_addUsed _ (hremove ▸ hc)

theorem mem_removeUsedAt
    (hin : p.used.conns[index]? = some conn)
    (hc : c ∈ p.used.conns)
    (hne : c ≠ conn) :
    c ∈ (p.removeUsedAt index).2.used.conns := by
  have hconns := (ConnList.conns_removeUnlocked p.marks p.env hin).2
  change c ∈ (p.used.removeUnlocked p.marks p.env index).2.1.conns
  rw [hconns]
  have hmem := (swapRemove_perm hin).mem_iff.mp hc
  exact (List.mem_cons.mp hmem).resolve_left hne

/-! ## What stays in USED -/

/-- A connection stays in USED unless an operation is called with it. -/
theorem used_step
    {op : PoolOp} {result : PoolResult}
    (h : PoolInv p [])
    (hstep : p.step requests op = some result)
    (hc : c ∈ p.used.conns)
    (hop : op.leavesUsed ≠ some c) :
    c ∈ result.pool.used.conns := by
  have hremoved : ∀ {conn index}, op.leavesUsed = some conn → p.used.conns[index]? = some conn →
      c ∈ (p.removeUsedAt index).2.used.conns := by
    intro conn index hleaves hin
    refine mem_removeUsedAt hin hc ?_
    rintro rfl
    exact hop hleaves
  cases op with
  | openConnection conn =>
      simp only [step, Option.ite_none_left_eq_some, Option.some.injEq] at hstep
      obtain ⟨-, rfl⟩ := hstep
      exact hc
  | addUsed conn key =>
      simp only [step, Option.ite_none_left_eq_some] at hstep
      obtain ⟨-, hstep⟩ := hstep
      split at hstep <;> obtain rfl := Option.some.inj hstep
      · exact hc
      · exact mem_addUsed (p := p.takeBack conn) key hc
  | addMatching conn key check =>
      simp only [step, Option.ite_none_left_eq_some, Option.some.injEq] at hstep
      obtain ⟨-, rfl⟩ := hstep
      cases hstore : (p.takeBack conn).storeMatchingFree requests conn key noWorker check with
      | none =>
          exact hc
      | some result =>
          rw [Option.getD_some, used_storeMatchingFree hstore]
          exact hc
  | takeMatching key =>
      obtain rfl := Option.some.inj hstep
      exact mem_takeMatching key hc
  | takeExisting key allowExactMatch allowReset search =>
      simp only [step, Option.ite_none_left_eq_some, Option.some.injEq] at hstep
      obtain ⟨-, rfl⟩ := hstep
      exact mem_takeExisting key allowExactMatch allowReset search hc
  | takeClassic search =>
      simp only [step, Option.ite_none_left_eq_some, Option.some.injEq] at hstep
      obtain ⟨-, rfl⟩ := hstep
      exact mem_takeClassic search hc
  | takeForPing conn idle =>
      obtain rfl := Option.some.inj hstep
      exact mem_takeForPing conn idle hc
  | returnMatching conn key excludedWorker check =>
      obtain rfl := Option.some.inj hstep
      simp only [returnMatching]
      by_cases hin : conn ∈ p.used.conns
      · obtain ⟨index, hindex⟩ := List.mem_iff_getElem?.mp hin
        have hkept := hremoved rfl hindex
        rw [h.findUsed hindex]
        dsimp only
        split
        · rename_i hstore
          rw [used_storeMatchingFree hstore]
          exact hkept
        · exact hkept
      · rw [PoolInv.findUsed_of_notMem hin]
        exact hc
  | returnClassic conn reusable =>
      simp only [step, Option.ite_none_left_eq_some, Option.some.injEq] at hstep
      obtain ⟨hin, rfl⟩ := hstep
      obtain ⟨index, hindex⟩ := List.mem_iff_getElem?.mp (by simpa using hin : conn ∈ p.used.conns)
      have hkept := hremoved rfl hindex
      simp only [returnClassic, h.findUsed hindex]
      split <;> exact hkept
  | reserveMatchingUsed conn key returningWorker check =>
      obtain rfl := Option.some.inj hstep
      simp only [reserveMatchingUsed]
      split
      · exact hc
      · by_cases hin : conn ∈ p.used.conns
        · obtain ⟨index, hindex⟩ := List.mem_iff_getElem?.mp hin
          have hkept := hremoved rfl hindex
          rw [h.findUsed hindex]
          dsimp only
          split
          · exact hc
          · split
            · exact hc
            · exact hkept
        · rw [PoolInv.findUsed_of_notMem hin]
          exact hc
  | takeReservation workerIndex token =>
      obtain rfl := Option.some.inj hstep
      exact mem_takeReservation requests workerIndex token hc
  | cancelReservation workerIndex token check =>
      obtain rfl := Option.some.inj hstep
      rw [used_cancelReservation]
      exact hc
  | evict preferred required =>
      obtain rfl := Option.some.inj hstep
      dsimp only
      rw [used_evictUnreservedFree]
      exact hc
  | dropIdle maxFree aged =>
      obtain rfl := Option.some.inj hstep
      dsimp only
      rw [used_dropIdle]
      exact hc
  | dropAll =>
      obtain rfl := Option.some.inj hstep
      dsimp only
      rw [used_detachAll]
      exact hc
  | setStatus status =>
      obtain rfl := Option.some.inj hstep
      dsimp only
      rw [used_setStatus]
      exact hc
  | removeUsed conn =>
      obtain rfl := Option.some.inj hstep
      simp only [removeUsedConnection]
      by_cases hin : conn ∈ p.used.conns
      · obtain ⟨index, hindex⟩ := List.mem_iff_getElem?.mp hin
        rw [h.findUsed hindex]
        exact hremoved rfl hindex
      · rw [PoolInv.findUsed_of_notMem hin]
        exact hc
  | removeFree conn =>
      obtain rfl := Option.some.inj hstep
      dsimp only
      rw [used_removeFreeConnection]
      exact hc
  | deleteHanded conn =>
      simp only [step, Option.ite_none_left_eq_some, Option.some.injEq] at hstep
      obtain ⟨-, rfl⟩ := hstep
      exact hc

/-! ## Where a connection goes -/

/-- A connection of FREE that is reserved for a worker. -/
def ReservedFor (p : ServerPool) (conn workerIndex : Nat) : Prop :=
  ∃ t r, p.reservations.lookup t = some r ∧ r.conn = conn ∧ r.workerIndex = workerIndex

/-- A connection of FREE that is reserved for nobody. -/
def Available (p : ServerPool) (conn : Nat) : Prop :=
  conn ∈ p.free.conns ∧ p.connectionReserved conn = false

theorem takeMatchingRequest_other
    {request : CapacityRequest} {rest : List CapacityRequest}
    (h : takeMatchingRequest requests key excludedWorker check = (some request, rest)) :
    request.workerIndex ≠ excludedWorker := by
  rw [takeMatchingRequest] at h
  split at h
  · cases h
  · split at h
    · cases h
    · rename_i hfind
      obtain ⟨rfl, -⟩ : _ = request ∧ _ = rest := by simpa using h
      have hsome := List.find?_some hfind
      simp only [Bool.and_eq_true, bne_iff_ne] at hsome
      exact hsome.1.2

theorem reservedFor_reserveConnection
    {request : CapacityRequest}
    (hnew : request.token ∉ p.tokens) :
    (p.reserveConnection conn request).ReservedFor conn request.workerIndex := by
  have htoken : request.token ∉ (p.addFree conn none).reservations := by
    intro hin
    exact hnew (List.mem_append_left _ (AList.mem_keys.mp hin))
  refine ⟨request.token, ⟨request.workerIndex, request.token, conn, request.matchKey⟩, ?_, rfl, rfl⟩
  simp only [reserveConnection, emplace, if_neg htoken]
  exact AList.lookup_insert _

theorem available_addFree
    {key : Option PoolMatchKey}
    (h : PoolInv p [conn]) :
    (p.addFree conn key).Available conn := by
  constructor
  · have hconns := ConnList.conns_add p.free p.marks p.env conn key
    change conn ∈ (p.free.addUnlocked p.marks p.env conn key).1.conns
    rw [hconns]
    exact List.mem_append_right _ List.mem_cons_self
  · change (p.tokenByConnection.lookup conn).isSome = false
    cases ht : p.tokenByConnection.lookup conn with
    | none =>
        rfl
    | some t =>
        obtain ⟨r, hr, rfl⟩ := h.tied.backward conn t ht
        exact absurd (h.free.mem_conns (h.tied.forward t r hr).2) h.notMem_of_loose.1

theorem PoolInv.notMem_handed
    (h : PoolInv p [])
    (hc : c ∈ p.free.conns ∨ c ∈ p.used.conns) :
    c ∉ p.handed := by
  intro hhanded
  have hle := h.count_le_one c
  have := List.count_pos_iff.mpr hhanded
  rcases hc with hc | hc
  · have := List.count_pos_iff.mpr hc
    omega
  · have := List.count_pos_iff.mpr hc
    omega

/-- The holder gives a connection back under its key: another worker waits for it, or it
is in FREE, or the server is not online and the holder has to delete it. -/
theorem returnMatching_place
    (h : PoolInv p [])
    (hnew : ∀ request ∈ requests, request.token ∉ p.tokens)
    (hin : conn ∈ p.used.conns)
    (key : PoolMatchKey) (excludedWorker : Nat) (check : RequestCheck) :
    (∃ request,
        (p.returnMatching requests conn key excludedWorker check).wake = some request ∧
        request.workerIndex ≠ excludedWorker ∧
        (p.returnMatching requests conn key excludedWorker check).pool.ReservedFor conn
          request.workerIndex) ∨
      (p.returnMatching requests conn key excludedWorker check).wake = none ∧
        ((p.returnMatching requests conn key excludedWorker check).pool.Available conn ∨
          conn ∈ (p.returnMatching requests conn key excludedWorker check).pool.handed) := by
  obtain ⟨index, hc⟩ := List.mem_iff_getElem?.mp hin
  obtain ⟨-, hkeeps⟩ := h.removeUsedAt hc
  simp only [ServerPool.returnMatching, h.findUsed hc]
  by_cases hstatus : (p.removeUsedAt index).2.status ≠ .online
  · simp only [storeMatchingFree, if_pos hstatus]
    exact Or.inr ⟨trivial, Or.inr List.mem_cons_self⟩
  · simp only [storeMatchingFree, if_neg hstatus]
    rcases takeMatchingRequest_cases requests key excludedWorker check with
      hnone | ⟨request, hreq, hsome⟩
    · rw [hnone]
      exact Or.inr ⟨rfl, Or.inl (available_addFree hkeeps.inv)⟩
    · have hother := takeMatchingRequest_other hsome
      rw [hsome]
      exact Or.inl ⟨request, rfl, hother,
        reservedFor_reserveConnection (hkeeps.requests_new hnew request hreq)⟩

/-- The holder offers a connection to another worker and keeps it if none wants it. -/
theorem reserveMatchingUsed_place
    (h : PoolInv p [])
    (hnew : ∀ request ∈ requests, request.token ∉ p.tokens)
    (hin : conn ∈ p.used.conns)
    (key : PoolMatchKey) (returningWorker : Nat) (check : RequestCheck) :
    (∃ request,
        (p.reserveMatchingUsed requests conn key returningWorker check).wake = some request ∧
        request.workerIndex ≠ returningWorker ∧
        (p.reserveMatchingUsed requests conn key returningWorker check).pool.ReservedFor conn
          request.workerIndex) ∨
      (p.reserveMatchingUsed requests conn key returningWorker check).wake = none ∧
        conn ∈ (p.reserveMatchingUsed requests conn key returningWorker check).pool.used.conns := by
  obtain ⟨index, hc⟩ := List.mem_iff_getElem?.mp hin
  obtain ⟨-, hkeeps⟩ := h.removeUsedAt hc
  rw [ServerPool.reserveMatchingUsed]
  split
  · exact Or.inr ⟨rfl, hin⟩
  · rw [h.findUsed hc]
    dsimp only
    split
    · exact Or.inr ⟨rfl, hin⟩
    · rcases takeMatchingRequest_cases requests key returningWorker check with
        hnone | ⟨request, hreq, hsome⟩
      · rw [hnone]
        exact Or.inr ⟨rfl, hin⟩
      · have hother := takeMatchingRequest_other hsome
        rw [hsome]
        exact Or.inl ⟨request, rfl, hother,
          reservedFor_reserveConnection (hkeeps.requests_new hnew request hreq)⟩

theorem returnClassic_place
    (h : PoolInv p [])
    (hin : conn ∈ p.used.conns)
    (reusable : Bool) :
    if reusable = true ∧ p.status = .online then (p.returnClassic conn reusable).Available conn
    else conn ∈ (p.returnClassic conn reusable).destroyed := by
  obtain ⟨index, hc⟩ := List.mem_iff_getElem?.mp hin
  obtain ⟨-, hkeeps⟩ := h.removeUsedAt hc
  simp only [ServerPool.returnClassic, h.findUsed hc, hkeeps.status]
  split
  · exact available_addFree hkeeps.inv
  · exact List.mem_cons_self

theorem removeUsed_place
    (h : PoolInv p [])
    (hin : conn ∈ p.used.conns) :
    conn ∈ (p.removeUsedConnection conn).handed := by
  obtain ⟨index, hc⟩ := List.mem_iff_getElem?.mp hin
  simp only [removeUsedConnection, h.findUsed hc]
  exact List.mem_cons_self

end ServerPool

end PolarProxy
