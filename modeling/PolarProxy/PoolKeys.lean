import PolarProxy.PoolSteps

/-!
# Keys of stored connections, and what a search admits

A connection is stored in a pool under the key its caller gives.  If a request for
the key waits, the connection is reserved, and the reservation carries the key.
A search of the classic pool takes only connections whose startup settings admit
the session.

**Results.** `step_reservation`, `admitted_takeClassic`, `admitted_takeExisting`.
-/

namespace PolarProxy

/-- An operation stores a connection under a key of its caller. -/
def PoolOp.Stores : PoolOp → Nat → PoolMatchKey → Prop
  | .addMatching conn key _, c, k => c = conn ∧ k = key
  | .returnMatching conn key _ _, c, k => c = conn ∧ k = key
  | .reserveMatchingUsed conn key _ _, c, k => c = conn ∧ k = key
  | _, _, _ => False

namespace ServerPool

variable {p : ServerPool} {requests : List CapacityRequest} {conn c t : Nat}
variable {key : PoolMatchKey} {excludedWorker : Nat} {check : RequestCheck}
variable {r : ConnectionReservation}

/-! ## Reservations -/

/-- A reservation that an operation made for a pending request, of a connection
that it stored under the key. -/
structure ReservedFrom (requests : List CapacityRequest) (conn : Nat) (key : PoolMatchKey)
    (t : Nat) (r : ConnectionReservation) : Prop where
  pending : ∃ request ∈ requests, request.token = t ∧ request.matchKey = key
  conn : r.conn = conn
  key : r.matchKey = key

theorem takeMatchingRequest_some
    {request : CapacityRequest} {rest : List CapacityRequest}
    (h : takeMatchingRequest requests key excludedWorker check = (some request, rest)) :
    request ∈ requests ∧ request.matchKey = key := by
  rw [takeMatchingRequest] at h
  split at h
  · cases h
  · split at h
    · cases h
    · rename_i hfind
      obtain ⟨rfl, -⟩ : _ = request ∧ _ = rest := by simpa using h
      have hsome := List.find?_some hfind
      simp only [Bool.and_eq_true, beq_iff_eq] at hsome
      exact ⟨List.mem_of_find?_eq_some hfind, hsome.1.1⟩

theorem reserved_reserveConnection
    {request : CapacityRequest}
    (hr : (p.reserveConnection conn request).reservations.lookup t = some r) :
    p.reservations.lookup t = some r ∨
      t = request.token ∧ r.conn = conn ∧ r.matchKey = request.matchKey := by
  simp only [reserveConnection, emplace] at hr
  split at hr
  · exact Or.inl hr
  · by_cases ht : t = request.token
    · subst ht
      rw [AList.lookup_insert] at hr
      obtain rfl := Option.some.inj hr
      exact Or.inr ⟨rfl, rfl, rfl⟩
    · rw [AList.lookup_insert_ne ht] at hr
      exact Or.inl hr

theorem reserved_storeMatchingFree
    {result : PoolResult}
    (hstore : p.storeMatchingFree requests conn key excludedWorker check = some result)
    (hr : result.pool.reservations.lookup t = some r) :
    p.reservations.lookup t = some r ∨ ReservedFrom requests conn key t r := by
  simp only [storeMatchingFree, Option.ite_none_left_eq_some] at hstore
  obtain ⟨-, hstore⟩ := hstore
  split at hstore
  · obtain rfl := Option.some.inj hstore
    exact Or.inl hr
  · rename_i request rest htake
    obtain rfl := Option.some.inj hstore
    obtain ⟨hin, hkey⟩ := takeMatchingRequest_some htake
    rcases reserved_reserveConnection hr with hold | ⟨rfl, hconn, hmatch⟩
    · exact Or.inl hold
    · exact Or.inr ⟨⟨request, hin, rfl, hkey⟩, hconn, hmatch.trans hkey⟩

theorem reserved_returnMatching
    (hr : (p.returnMatching requests conn key excludedWorker check).pool.reservations.lookup t =
      some r) :
    p.reservations.lookup t = some r ∨ ReservedFrom requests conn key t r := by
  rw [returnMatching] at hr
  dsimp only at hr
  split at hr
  · exact Or.inl hr
  · split at hr
    · rename_i hstore
      rcases reserved_storeMatchingFree hstore hr with hold | hfrom
      · exact Or.inl hold
      · exact Or.inr hfrom
    · exact Or.inl hr

theorem reserved_reserveMatchingUsed
    (hr : (p.reserveMatchingUsed requests conn key excludedWorker
      check).pool.reservations.lookup t = some r) :
    p.reservations.lookup t = some r ∨ ReservedFrom requests conn key t r := by
  rw [reserveMatchingUsed] at hr
  dsimp only at hr
  split at hr
  · exact Or.inl hr
  · split at hr
    · exact Or.inl hr
    · split at hr
      · exact Or.inl hr
      · split at hr
        · exact Or.inl hr
        · rename_i htake
          obtain ⟨hin, hkey⟩ := takeMatchingRequest_some htake
          rcases reserved_reserveConnection hr with hold | ⟨rfl, hconn, hmatch⟩
          · exact Or.inl hold
          · exact Or.inr ⟨⟨_, hin, rfl, hkey⟩, hconn, hmatch.trans hkey⟩

/-- A cancelled reservation may pass its connection on to the next request for its
key. -/
theorem reserved_cancelReservation
    {workerIndex token : Nat}
    (h : PoolInv p [])
    (hr : (p.cancelReservation requests workerIndex token check).2.pool.reservations.lookup t =
      some r) :
    p.reservations.lookup t = some r ∨
      ∃ t' r', p.reservations.lookup t' = some r' ∧
        ReservedFrom requests r'.conn r'.matchKey t r := by
  have hclear : ∀ {r}, (cancelReserved.clearRetired p requests workerIndex
      token).2.pool.reservations.lookup t = some r → p.reservations.lookup t = some r := by
    intro r hr
    rw [cancelReserved.clearRetired] at hr
    split at hr
    · exact hr
    · split at hr <;> exact hr
  rw [cancelReservation] at hr
  split at hr
  · exact Or.inl hr
  · rw [cancelReserved] at hr
    split at hr
    · rename_i r' hr'
      split at hr
      · obtain ⟨index, hc⟩ :=
          List.mem_iff_getElem?.mp (h.free.mem_conns (h.tied.forward token r' hr').2)
        obtain ⟨hconn, hkeeps, -⟩ := h.removeFreeAt hc (show ReservationEndReason.released ≠ .none by decide)
        rw [h.findFree hc] at hr
        dsimp only at hr
        rw [hconn, Option.getD_some] at hr
        split at hr
        · rename_i hstore
          rcases reserved_storeMatchingFree hstore hr with hold | hnew
          · exact Or.inl (hkeeps.held t r hold)
          · exact Or.inr ⟨token, r', hr', hnew⟩
        · exact Or.inl (hkeeps.held t r hr)
      · exact Or.inl (hclear hr)
    · exact Or.inl (hclear hr)

/-- A reservation after an operation was there before, or the operation made it for
a pending request: of a connection it stored, or of one that was reserved under the
same key. -/
theorem step_reservation
    {op : PoolOp} {result : PoolResult}
    (h : PoolInv p [])
    (hnew : ∀ request ∈ requests, request.token ∉ p.tokens)
    (hstep : p.step requests op = some result)
    (hr : result.pool.reservations.lookup t = some r) :
    p.reservations.lookup t = some r ∨
      ∃ conn key, ReservedFrom requests conn key t r ∧
        (op.Stores conn key ∨ ∃ t' r', p.reservations.lookup t' = some r' ∧
          r'.conn = conn ∧ r'.matchKey = key) := by
  have hspec := step_spec h hnew hstep
  -- an operation that wakes nobody made no reservation
  have hquiet : result.wake = none → p.reservations.lookup t = some r := by
    intro hwake
    rcases hspec.outcome with ⟨-, -, -, hheld⟩ | ⟨request, -, hsome, -⟩
    · exact hheld t r hr
    · rw [hwake] at hsome
      cases hsome
  cases op with
  | addMatching conn key check =>
      simp only [step, Option.ite_none_left_eq_some, Option.some.injEq] at hstep
      obtain ⟨-, rfl⟩ := hstep
      cases hstore : (p.takeBack conn).storeMatchingFree requests conn key noWorker check with
      | none =>
          rw [hstore] at hr
          exact Or.inl hr
      | some result =>
          rw [hstore] at hr
          rcases reserved_storeMatchingFree hstore hr with hold | hfrom
          · exact Or.inl hold
          · exact Or.inr ⟨conn, key, hfrom, Or.inl ⟨rfl, rfl⟩⟩
  | returnMatching conn key excludedWorker check =>
      obtain rfl := Option.some.inj hstep
      rcases reserved_returnMatching hr with hold | hfrom
      · exact Or.inl hold
      · exact Or.inr ⟨conn, key, hfrom, Or.inl ⟨rfl, rfl⟩⟩
  | reserveMatchingUsed conn key returningWorker check =>
      obtain rfl := Option.some.inj hstep
      rcases reserved_reserveMatchingUsed hr with hold | hfrom
      · exact Or.inl hold
      · exact Or.inr ⟨conn, key, hfrom, Or.inl ⟨rfl, rfl⟩⟩
  | cancelReservation workerIndex token check =>
      obtain rfl := Option.some.inj hstep
      rcases reserved_cancelReservation h hr with hold | ⟨t', r', hr', hfrom⟩
      · exact Or.inl hold
      · exact Or.inr ⟨r'.conn, r'.matchKey, hfrom, Or.inr ⟨t', r', hr', rfl, rfl⟩⟩
  | addUsed conn key =>
      simp only [step, Option.ite_none_left_eq_some] at hstep
      obtain ⟨-, hstep⟩ := hstep
      split at hstep <;> obtain rfl := Option.some.inj hstep <;> exact Or.inl (hquiet rfl)
  | openConnection conn | returnClassic conn reusable | deleteHanded conn
  | takeExisting key allowExactMatch allowReset search | takeClassic search =>
      simp only [step, Option.ite_none_left_eq_some, Option.some.injEq] at hstep
      obtain ⟨-, rfl⟩ := hstep
      exact Or.inl (hquiet rfl)
  | takeMatching _ | takeForPing _ _ | takeReservation _ _ | evict _ _ | dropIdle _ _ | dropAll
  | setStatus _ | removeUsed _ | removeFree _ =>
      obtain rfl := Option.some.inj hstep
      exact Or.inl (hquiet rfl)

/-! ## Searches -/

/-- What a search gives a session with a client: a connection that it opened, if it
may, or one whose startup settings admit the session. -/
def Admitted (search : PoolSearch) (c : Nat) : Prop :=
  search.onlyPooled = false ∧ c = search.fresh ∨
    ∃ view, search.client = some view ∧ view.startupAdmits c = true

variable {search : PoolSearch}

theorem admitted_createForClassic
    {preferred : Nat}
    (hopens : search.onlyPooled = false)
    (hgiven : (p.createForClassic preferred search.fresh).1 = some c) :
    Admitted search c := by
  rw [createForClassic] at hgiven
  split at hgiven
  · cases hgiven
  · exact Or.inl ⟨hopens, (Option.some.inj hgiven).symm⟩

theorem admitted_found
    {view : ClientView} {best : SearchState}
    (h : PoolInv p [])
    (hfound : p.Found view best)
    (hview : search.client = some view)
    (hquality : best.quality ≠ 0)
    (hgiven : (p.removeFreeAt best.foundIndex .explicitRemove).1 = some c) :
    Admitted search c := by
  obtain ⟨conn, hc, -, hadmits⟩ := hfound hquality
  obtain ⟨hconn, -, -⟩ := h.removeFreeAt hc (show ReservationEndReason.explicitRemove ≠ .none by decide)
  obtain rfl := Option.some.inj (hconn.symm.trans hgiven)
  exact Or.inr ⟨view, hview, hadmits⟩

theorem admitted_getRandomMyConn
    (h : PoolInv p [])
    (hclient : search.client.isSome)
    (hgiven : (p.getRandomMyConn search).1 = some c) :
    Admitted search c := by
  obtain ⟨view, hview⟩ := Option.isSome_iff_exists.mp hclient
  have hfound := found_searchFree (p := p) view (search.random % p.free.conns.length)
  rw [getRandomMyConn] at hgiven
  dsimp only at hgiven
  split at hgiven
  · cases hgiven
  · split at hgiven
    · simp only [hview] at hgiven
      generalize p.searchFree view (search.random % p.free.conns.length) = best at hgiven hfound
      split at hgiven
      · split at hgiven
        · cases hgiven
        · exact admitted_found h hfound hview (by omega) hgiven
      · split at hgiven
        · split at hgiven
          · cases hgiven
          · rename_i hopens
            exact admitted_createForClassic (by simpa using hopens) hgiven
        · split at hgiven
          · split at hgiven
            · rename_i hopens
              exact admitted_createForClassic hopens.1 hgiven
            · exact admitted_found h hfound hview ‹_› hgiven
          · exact admitted_found h hfound hview ‹_› hgiven
    · split at hgiven
      · cases hgiven
      · rename_i hopens
        rw [not_or] at hopens
        exact admitted_createForClassic (by simpa using hopens.1) hgiven

theorem admitted_takeSearched
    (h : PoolInv p [])
    (hclient : search.client.isSome)
    (hgiven : (p.takeSearched search).1 = some c) :
    Admitted search c := by
  rw [takeSearched] at hgiven
  split at hgiven
  · cases hgiven
  · rename_i conn q heq
    apply admitted_getRandomMyConn h hclient
    rw [heq]
    exact hgiven

theorem admitted_takeClassic
    (h : PoolInv p [])
    (hclient : search.client.isSome)
    (hgiven : (p.takeClassic search).1 = some c) :
    Admitted search c := by
  rw [takeClassic] at hgiven
  split at hgiven
  · cases hgiven
  · exact admitted_takeSearched h hclient hgiven

/-- Without a connection of its key a request may have what a search finds, and
nothing is opened. -/
theorem admitted_takeExisting
    {allowExactMatch allowReset : Bool}
    (h : PoolInv p [])
    (hclient : search.client.isSome)
    (hmiss : allowExactMatch = true → (p.removeMatchingFree key).1 = none)
    (hgiven : (p.takeExisting key allowExactMatch allowReset search).1 = some c) :
    ∃ view, search.client = some view ∧ view.startupAdmits c = true := by
  have hexact : (if allowExactMatch = true then p.removeMatchingFree key else (none, p)) =
      (none, p) := by
    split
    · rename_i hallow
      rcases h.removeMatchingFree key with hnone | ⟨conn, -, -, hconn, -⟩
      · exact hnone
      · rw [hmiss hallow] at hconn
        cases hconn
    · rfl
  rw [takeExisting] at hgiven
  split at hgiven
  · cases hgiven
  · rw [hexact] at hgiven
    dsimp only at hgiven
    split at hgiven
    · rcases admitted_takeSearched h (show ({ search with
        fastForward := false, onlyPooled := true, exactOnly := false } : PoolSearch).client.isSome
          from hclient) hgiven with
        ⟨hopens, -⟩ | hview
      · cases hopens
      · exact hview
    · cases hgiven

end ServerPool

end PolarProxy
