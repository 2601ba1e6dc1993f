import PolarProxy.PoolTaking

/-!
# Steps of a server's pool

Each operation of a pool keeps its invariant, reserves at most one token and
gives no reserved connection to anyone but the holder of its token.

**Results.** `ServerPool.step_spec`, `ServerPool.step_given`.
-/

namespace PolarProxy

open Buckets ConnList

namespace ServerPool

variable {p q : ServerPool} {loose : List Nat} {conn c index : Nat}
variable {reason : ReservationEndReason}

/-! ## Requests -/

theorem takeMatchingRequest_cases
    (requests : List CapacityRequest) (key : PoolMatchKey) (excludedWorker : Nat)
    (check : RequestCheck) :
    takeMatchingRequest requests key excludedWorker check = (none, requests) ∨
      ∃ request ∈ requests,
        takeMatchingRequest requests key excludedWorker check =
          (some request, requests.erase request) := by
  rw [takeMatchingRequest]
  split
  · exact Or.inl rfl
  · split
    · exact Or.inl rfl
    · rename_i request hfind
      exact Or.inr ⟨request, List.mem_of_find?_eq_some hfind, rfl⟩

/-- What an operation does to the tokens and the requests. -/
structure StepSpec (p : ServerPool) (requests : List CapacityRequest) (result : PoolResult) :
    Prop where
  inv : PoolInv result.pool []
  outcome :
    (result.wake = none ∧ result.requests.Sublist requests ∧
        result.pool.tokens.Perm p.tokens ∧
        ∀ t r, result.pool.reservations.lookup t = some r → p.reservations.lookup t = some r) ∨
      ∃ request ∈ requests, result.wake = some request ∧
        result.requests = requests.erase request ∧ Reserves p result.pool request []

variable {requests : List CapacityRequest}

theorem Keeps.stepSpec
    {given : Option Nat}
    (h : Keeps p q []) :
    StepSpec p requests { pool := q, requests := requests, given := given } :=
  ⟨h.inv, Or.inl ⟨rfl, List.Sublist.refl _, h.tokens, h.held⟩⟩

theorem StepSpec.after
    {result : PoolResult}
    (h : StepSpec q requests result)
    (hkeeps : Keeps p q loose) :
    StepSpec p requests result := by
  refine ⟨h.inv, ?_⟩
  rcases h.outcome with ⟨hwake, hreq, htokens, hheld⟩ | ⟨request, hin, hwake, hreq, hres⟩
  · exact Or.inl ⟨hwake, hreq, htokens.trans hkeeps.tokens,
      fun t r hr => hkeeps.held t r (hheld t r hr)⟩
  · refine Or.inr ⟨request, hin, hwake, hreq, hres.inv,
      hres.tokens.trans (hkeeps.tokens.cons _), ?_⟩
    intro t r hr
    exact (hres.held t r hr).imp_left (hkeeps.held t r)

/-- Requests that were never reserved stay so while nothing is reserved. -/
theorem Keeps.requests_new
    (h : Keeps p q loose)
    (hnew : ∀ request ∈ requests, request.token ∉ p.tokens) :
    ∀ request ∈ requests, request.token ∉ q.tokens :=
  fun request hin ht => hnew request hin (h.tokens.mem_iff.mp ht)

theorem PoolInv.reserveFor
    {request : CapacityRequest}
    (h : PoolInv p [conn])
    (hnew : ∀ request ∈ requests, request.token ∉ p.tokens)
    (hin : request ∈ requests) :
    StepSpec p requests
      { pool := p.reserveConnection conn request
        requests := requests.erase request
        wake := some request } := by
  have hreserves := h.reserveConnection (hnew request hin)
  exact ⟨hreserves.inv, Or.inr ⟨request, hin, rfl, rfl, hreserves⟩⟩

theorem PoolInv.storeMatchingFree
    {result : PoolResult} {key : PoolMatchKey} {excludedWorker : Nat} {check : RequestCheck}
    (h : PoolInv p [conn])
    (hnew : ∀ request ∈ requests, request.token ∉ p.tokens)
    (hstore : p.storeMatchingFree requests conn key excludedWorker check = some result) :
    StepSpec p requests result := by
  simp only [ServerPool.storeMatchingFree, Option.ite_none_left_eq_some] at hstore
  obtain ⟨-, hstore⟩ := hstore
  rcases takeMatchingRequest_cases requests key excludedWorker check with
    hnone | ⟨request, hin, hsome⟩
  · rw [hnone] at hstore
    obtain rfl := Option.some.inj hstore
    exact (Keeps.refl h).addFree.stepSpec
  · rw [hsome] at hstore
    obtain rfl := Option.some.inj hstore
    exact h.reserveFor hnew hin

theorem PoolInv.returnMatching
    (h : PoolInv p [])
    (hnew : ∀ request ∈ requests, request.token ∉ p.tokens)
    (key : PoolMatchKey) (excludedWorker : Nat) (check : RequestCheck) :
    StepSpec p requests (p.returnMatching requests conn key excludedWorker check) := by
  rw [ServerPool.returnMatching]
  by_cases hin : conn ∈ p.used.conns
  · obtain ⟨index, hc⟩ := List.mem_iff_getElem?.mp hin
    obtain ⟨-, hkeeps⟩ := h.removeUsedAt hc
    rw [h.findUsed hc]
    dsimp only
    split
    · rename_i result hstore
      exact (hkeeps.inv.storeMatchingFree (hkeeps.requests_new hnew) hstore).after hkeeps
    · exact hkeeps.handOver.stepSpec
  · rw [findUsed_of_notMem hin]
    exact (Keeps.refl h).stepSpec

theorem PoolInv.reserveMatchingUsed
    (h : PoolInv p [])
    (hnew : ∀ request ∈ requests, request.token ∉ p.tokens)
    (key : PoolMatchKey) (returningWorker : Nat) (check : RequestCheck) :
    StepSpec p requests (p.reserveMatchingUsed requests conn key returningWorker check) := by
  rw [ServerPool.reserveMatchingUsed]
  split
  · exact (Keeps.refl h).stepSpec
  · by_cases hin : conn ∈ p.used.conns
    · obtain ⟨index, hc⟩ := List.mem_iff_getElem?.mp hin
      obtain ⟨-, hkeeps⟩ := h.removeUsedAt hc
      rw [h.findUsed hc]
      dsimp only
      split
      · exact (Keeps.refl h).stepSpec
      · rcases takeMatchingRequest_cases requests key returningWorker check with
          hnone | ⟨request, hreq, hsome⟩
        · rw [hnone]
          exact (Keeps.refl h).stepSpec
        · rw [hsome]
          exact (hkeeps.inv.reserveFor (hkeeps.requests_new hnew) hreq).after hkeeps
    · rw [findUsed_of_notMem hin]
      exact (Keeps.refl h).stepSpec

/-! ## The holder of a token -/

variable {workerIndex token : Nat}

/-- The worker has no reservation under the token. -/
def Unheld (p : ServerPool) (workerIndex token : Nat) : Prop :=
  ∀ r, p.reservations.lookup token = some r → r.workerIndex ≠ workerIndex

theorem PoolInv.takeRetired
    (h : PoolInv p loose)
    (requests : List CapacityRequest) (workerIndex token : Nat) :
    Keeps p (p.takeRetired requests workerIndex token).2 loose := by
  rw [ServerPool.takeRetired]
  split
  · exact .refl h
  · split
    · exact .refl h
    · rename_i record hrecord
      split
      · exact h.consume hrecord
      · exact .refl h

theorem PoolInv.takeReservation
    (h : PoolInv p [])
    (requests : List CapacityRequest) (workerIndex token : Nat) :
    Keeps p (p.takeReservation requests workerIndex token).2.2 [] ∧
      (p.takeReservation requests workerIndex token).2.2.Unheld workerIndex token ∧
      ∀ conn, (p.takeReservation requests workerIndex token).2.1 = some conn →
        ∃ r, p.reservations.lookup token = some r ∧ r.workerIndex = workerIndex ∧
          r.conn = conn := by
  -- without a reservation of the worker nothing is given
  have hmissed : ∀ {q : ServerPool}, Keeps p q [] → q.Unheld workerIndex token →
      Keeps p (q.takeRetired requests workerIndex token).2 [] ∧
        (q.takeRetired requests workerIndex token).2.Unheld workerIndex token := by
    intro q hq hunheld
    have hkeeps := hq.inv.takeRetired requests workerIndex token
    exact ⟨hq.trans hkeeps, fun r hr => hunheld r (hkeeps.held token r hr)⟩
  have hnothing : ∀ {q : ServerPool} {P : Nat → Prop}, Keeps p q [] →
      q.Unheld workerIndex token →
      Keeps p (q.takeRetired requests workerIndex token).2 [] ∧
        (q.takeRetired requests workerIndex token).2.Unheld workerIndex token ∧
        ∀ conn, (none : Option Nat) = some conn → P conn := by
    intro q P hq hunheld
    exact ⟨(hmissed hq hunheld).1, (hmissed hq hunheld).2, fun _ hc => by cases hc⟩
  rw [ServerPool.takeReservation]
  dsimp only
  split
  · rename_i hnone
    exact hnothing (.refl h) fun r hr => by rw [hnone] at hr; cases hr
  · rename_i r hr
    split
    · rename_i hworker
      refine hnothing (.refl h) ?_
      intro r' hr'
      obtain rfl := Option.some.inj (hr.symm.trans hr')
      exact hworker
    · rename_i hworker
      rw [not_not] at hworker
      obtain ⟨index, hc⟩ := List.mem_iff_getElem?.mp (h.free.mem_conns (h.tied.forward token r hr).2)
      rw [h.findFree hc]
      dsimp only
      have hforgot : ∀ {reason}, (p.forgetReserved r.conn reason).Unheld workerIndex token := by
        intro reason r' hr'
        rw [h.lookup_forgetReserved hr] at hr'
        cases hr'
      split
      · exact hnothing (h.keeps_forgetReserved r.conn (by decide)) hforgot
      · obtain ⟨hconn, hkeeps, -⟩ := h.removeFreeAt hc (show ReservationEndReason.acquired ≠ .none by decide)
        have heq : p.removeFreeAt index .acquired =
            (some r.conn, (p.removeFreeAt index .acquired).2) := by
          rw [← hconn]
        rw [heq]
        refine ⟨hkeeps.addUsed, ?_, ?_⟩
        · intro r' hr'
          change (p.removeFreeAt index .acquired).2.reservations.lookup token = some r' at hr'
          rw [reservations_removeFreeAt hc] at hr'
          exact hforgot r' hr'
        · intro conn hc'
          exact ⟨r, hr, hworker, Option.some.inj hc'⟩

theorem cancelRequest_some
    {requests' : List CapacityRequest}
    (h : cancelRequest requests workerIndex token = some requests') :
    ∃ request ∈ requests, request.workerIndex = workerIndex ∧ request.token = token ∧
      requests' = requests.erase request := by
  rw [cancelRequest] at h
  split at h
  · cases h
  · rename_i request hfind
    have hpred := List.find?_some hfind
    simp only [Bool.and_eq_true, beq_iff_eq] at hpred
    exact ⟨request, List.mem_of_find?_eq_some hfind, hpred.1, hpred.2, (Option.some.inj h).symm⟩

theorem PoolInv.clearRetired
    (h : PoolInv p [])
    (hunheld : p.Unheld workerIndex token) :
    StepSpec p requests (cancelReserved.clearRetired p requests workerIndex token).2 ∧
      (cancelReserved.clearRetired p requests workerIndex token).2.pool.Unheld workerIndex
        token := by
  rw [cancelReserved.clearRetired]
  split
  · exact ⟨(Keeps.refl h).stepSpec, hunheld⟩
  · rename_i record hrecord
    split
    · exact ⟨(h.consume hrecord).stepSpec, hunheld⟩
    · exact ⟨(Keeps.refl h).stepSpec, hunheld⟩

theorem PoolInv.cancelReserved
    (h : PoolInv p [])
    (hnew : ∀ request ∈ requests, request.token ∉ p.tokens)
    (check : RequestCheck) :
    StepSpec p requests (p.cancelReserved requests workerIndex token check).2 ∧
      (p.cancelReserved requests workerIndex token check).2.pool.Unheld workerIndex token := by
  rw [ServerPool.cancelReserved]
  split
  · rename_i r hr
    split
    · obtain ⟨index, hc⟩ := List.mem_iff_getElem?.mp (h.free.mem_conns (h.tied.forward token r hr).2)
      obtain ⟨hconn, hkeeps, -⟩ := h.removeFreeAt hc (show ReservationEndReason.released ≠ .none by decide)
      have hgone : (p.removeFreeAt index .released).2.reservations.lookup token = none := by
        rw [reservations_removeFreeAt hc]
        exact h.lookup_forgetReserved hr
      have hnew' := hkeeps.requests_new hnew
      have hlive : token ∈ p.tokens := List.mem_append_left _
        (AList.mem_keys.mp (AList.lookup_isSome.mp (by rw [hr]; rfl)))
      rw [h.findFree hc]
      dsimp only
      rw [hconn]
      dsimp only [Option.getD_some]
      split
      · rename_i result hstore
        have hspec := hkeeps.inv.storeMatchingFree hnew' hstore
        refine ⟨hspec.after hkeeps, ?_⟩
        intro r' hr'
        rcases hspec.outcome with ⟨-, -, -, hheld⟩ | ⟨request, hin, -, -, hres⟩
        · rw [hheld token r' hr'] at hgone
          cases hgone
        · rcases hres.held token r' hr' with hold | ⟨ht, -⟩
          · rw [hold] at hgone
            cases hgone
          · rw [ht] at hlive
            exact absurd hlive (hnew request hin)
      · refine ⟨hkeeps.addFree.stepSpec, ?_⟩
        intro r' hr'
        change (p.removeFreeAt index .released).2.reservations.lookup token = some r' at hr'
        rw [hgone] at hr'
        cases hr'
    · rename_i hworker
      refine h.clearRetired ?_
      intro r' hr'
      obtain rfl := Option.some.inj (hr.symm.trans hr')
      exact hworker
  · rename_i hnone
    exact h.clearRetired fun r hr => by rw [hnone] at hr; cases hr

theorem PoolInv.cancelReservation
    (h : PoolInv p [])
    (hnew : ∀ request ∈ requests, request.token ∉ p.tokens)
    (check : RequestCheck) :
    StepSpec p requests (p.cancelReservation requests workerIndex token check).2 ∧
      (p.cancelReservation requests workerIndex token check).2.pool.Unheld workerIndex token := by
  rw [ServerPool.cancelReservation]
  split
  · rename_i requests' hcancel
    obtain ⟨request, hin, -, rfl, rfl⟩ := cancelRequest_some hcancel
    refine ⟨⟨h, Or.inl ⟨rfl, List.erase_sublist, List.Perm.refl _, fun _ _ hr => hr⟩⟩, ?_⟩
    intro r hr
    exact absurd (List.mem_append_left _ (AList.mem_keys.mp
      (AList.lookup_isSome.mp (by rw [hr]; rfl)))) (hnew request hin)
  · exact h.cancelReserved hnew check

/-- A connection whose reservation is cancelled is reserved for the next request,
or lies in FREE under its key. -/
theorem PoolInv.cancelReservation_returns
    {r : ConnectionReservation}
    (h : PoolInv p [])
    (hnew : ∀ request ∈ requests, request.token ∉ p.tokens)
    (check : RequestCheck)
    (hr : p.reservations.lookup token = some r)
    (hworker : r.workerIndex = workerIndex) :
    (∃ request, (p.cancelReservation requests workerIndex token check).2.wake = some request ∧
        (p.cancelReservation requests workerIndex token check).2.pool.tokenByConnection.lookup
          r.conn = some request.token) ∨
      (p.cancelReservation requests workerIndex token check).2.wake = none ∧
        (r.conn, r.matchKey) ∈
          (p.cancelReservation requests workerIndex token check).2.pool.free.keyed ∧
        (p.cancelReservation requests workerIndex token check).2.pool.tokenByConnection.lookup
          r.conn = none := by
  have hlive : token ∈ p.tokens := List.mem_append_left _
    (AList.mem_keys.mp (AList.lookup_isSome.mp (by rw [hr]; rfl)))
  have hnone : cancelRequest requests workerIndex token = none := by
    cases hc : cancelRequest requests workerIndex token with
    | none =>
        rfl
    | some requests' =>
        obtain ⟨request, hin, -, rfl, -⟩ := cancelRequest_some hc
        exact absurd hlive (hnew request hin)
  obtain ⟨index, hc⟩ := List.mem_iff_getElem?.mp (h.free.mem_conns (h.tied.forward token r hr).2)
  obtain ⟨hconn, hkeeps, -⟩ := h.removeFreeAt hc (show ReservationEndReason.released ≠ .none by decide)
  have hfree : (p.removeFreeAt index .released).2.tokenByConnection.lookup r.conn = none := by
    simp only [ServerPool.removeFreeAt, hc]
    exact forgetReserved_lookup_self _ _
  -- stored under its key, the connection is in FREE and not reserved
  have hstored : (r.conn, r.matchKey) ∈
        ((p.removeFreeAt index .released).2.addFree r.conn (some r.matchKey)).free.keyed ∧
      ((p.removeFreeAt index .released).2.addFree r.conn
        (some r.matchKey)).tokenByConnection.lookup r.conn = none := by
    refine ⟨?_, hfree⟩
    change _ ∈ (ConnList.addUnlocked _ _ _ _ _).1.keyed
    rw [keyed_addUnlocked hkeeps.inv.free.toPlaced]
    simp
  simp only [ServerPool.cancelReservation, hnone, ServerPool.cancelReserved, hr, if_pos hworker,
    h.findFree hc, hconn, Option.getD_some]
  simp only [ServerPool.storeMatchingFree]
  split
  · rename_i result hstore
    rw [Option.ite_none_left_eq_some] at hstore
    obtain ⟨-, hstore⟩ := hstore
    rcases takeMatchingRequest_cases requests r.matchKey noWorker check with
      hreq | ⟨request, hin, hreq⟩
    · rw [hreq] at hstore
      obtain rfl := Option.some.inj hstore
      exact Or.inr ⟨rfl, hstored⟩
    · rw [hreq] at hstore
      obtain rfl := Option.some.inj hstore
      refine Or.inl ⟨request, rfl, ?_⟩
      simp only [ServerPool.reserveConnection, emplace]
      rw [if_neg (show r.conn ∉ ((p.removeFreeAt index .released).2.addFree r.conn
        none).tokenByConnection from AList.lookup_eq_none.mp hfree)]
      exact AList.lookup_insert _
  · exact Or.inr ⟨rfl, hstored⟩

/-! ## Every operation -/

theorem PoolInv.returnClassic
    (h : PoolInv p [])
    (conn : Nat) (reusable : Bool) :
    Keeps p (p.returnClassic conn reusable) [] := by
  rw [ServerPool.returnClassic]
  by_cases hin : conn ∈ p.used.conns
  · obtain ⟨index, hc⟩ := List.mem_iff_getElem?.mp hin
    obtain ⟨-, hkeeps⟩ := h.removeUsedAt hc
    rw [h.findUsed hc]
    dsimp only
    split
    · exact hkeeps.addFree
    · exact hkeeps.destroy
  · rw [findUsed_of_notMem hin]
    exact .refl h

theorem PoolInv.removeUsedConnection
    (h : PoolInv p [])
    (conn : Nat) :
    Keeps p (p.removeUsedConnection conn) [] := by
  rw [ServerPool.removeUsedConnection]
  by_cases hin : conn ∈ p.used.conns
  · obtain ⟨index, hc⟩ := List.mem_iff_getElem?.mp hin
    rw [h.findUsed hc]
    exact (h.removeUsedAt hc).2.handOver
  · rw [findUsed_of_notMem hin]
    exact .refl h

theorem PoolInv.removeFreeConnection
    (h : PoolInv p [])
    (conn : Nat) :
    Keeps p (p.removeFreeConnection conn) [] := by
  rw [ServerPool.removeFreeConnection]
  by_cases hin : conn ∈ p.free.conns
  · obtain ⟨index, hc⟩ := List.mem_iff_getElem?.mp hin
    rw [h.findFree hc]
    exact (h.removeFreeAt hc (by decide)).2.1.handOver
  · rw [findFree_of_notMem hin]
    exact .refl h

theorem Searches.stepSpec
    {search : PoolSearch} {result : Option Nat × ServerPool}
    (h : p.Searches search result fun _ => []) :
    StepSpec p requests { pool := result.2, requests := requests, given := result.1 } := by
  rcases h with ⟨-, hkeeps⟩ | ⟨conn, -, hpicks⟩
  · exact hkeeps.stepSpec
  · exact ⟨hpicks.inv, Or.inl ⟨rfl, List.Sublist.refl _, hpicks.tokens, hpicks.held⟩⟩

theorem step_spec
    {op : PoolOp} {result : PoolResult}
    (h : PoolInv p [])
    (hnew : ∀ request ∈ requests, request.token ∉ p.tokens)
    (hstep : p.step requests op = some result) :
    StepSpec p requests result := by
  cases op with
  | openConnection conn =>
      simp only [step, Option.ite_none_left_eq_some, Option.some.injEq] at hstep
      obtain ⟨hfresh, rfl⟩ := hstep
      have hinv := h.createConnection (by simpa using hfresh)
      exact ⟨hinv.handOver, Or.inl ⟨rfl, List.Sublist.refl _, List.Perm.refl _, fun _ _ hr => hr⟩⟩
  | addUsed conn key =>
      simp only [step, Option.ite_none_left_eq_some] at hstep
      obtain ⟨hheld, hstep⟩ := hstep
      split at hstep
      · obtain rfl := Option.some.inj hstep
        exact (Keeps.refl h).stepSpec
      · obtain rfl := Option.some.inj hstep
        exact (Keeps.takeBack h (by simpa using hheld)).addUsed.stepSpec
  | addMatching conn key check =>
      simp only [step, Option.ite_none_left_eq_some, Option.some.injEq] at hstep
      obtain ⟨hheld, rfl⟩ := hstep
      have htaken := Keeps.takeBack h (by simpa using hheld)
      cases hstore : (p.takeBack conn).storeMatchingFree requests conn key noWorker check with
      | none =>
          exact (Keeps.refl h).stepSpec
      | some result =>
          exact (htaken.inv.storeMatchingFree (htaken.requests_new hnew) hstore).after htaken
  | takeMatching key =>
      obtain rfl := Option.some.inj hstep
      exact (h.takeMatching key).1.stepSpec
  | takeExisting key allowExactMatch allowReset search =>
      simp only [step, Option.ite_none_left_eq_some, Option.some.injEq] at hstep
      obtain ⟨hfresh, rfl⟩ := hstep
      exact (h.takeExisting (by simpa [searchFresh] using hfresh) key _ _).stepSpec
  | takeClassic search =>
      simp only [step, Option.ite_none_left_eq_some, Option.some.injEq] at hstep
      obtain ⟨hfresh, rfl⟩ := hstep
      exact (h.takeClassic (by simpa [searchFresh] using hfresh)).stepSpec
  | takeForPing conn idle =>
      obtain rfl := Option.some.inj hstep
      exact (h.takeForPing conn idle).1.stepSpec
  | returnMatching conn key excludedWorker check =>
      obtain rfl := Option.some.inj hstep
      exact h.returnMatching hnew key excludedWorker check
  | returnClassic conn reusable =>
      simp only [step, Option.ite_none_left_eq_some, Option.some.injEq] at hstep
      obtain ⟨-, rfl⟩ := hstep
      exact (h.returnClassic conn reusable).stepSpec
  | reserveMatchingUsed conn key returningWorker check =>
      obtain rfl := Option.some.inj hstep
      exact h.reserveMatchingUsed hnew key returningWorker check
  | takeReservation workerIndex token =>
      obtain rfl := Option.some.inj hstep
      exact (h.takeReservation requests workerIndex token).1.stepSpec
  | cancelReservation workerIndex token check =>
      obtain rfl := Option.some.inj hstep
      exact (h.cancelReservation hnew check).1
  | evict preferred required =>
      obtain rfl := Option.some.inj hstep
      exact (h.evictUnreservedFree preferred required).stepSpec
  | dropIdle maxFree aged =>
      obtain rfl := Option.some.inj hstep
      exact (h.dropIdle maxFree aged).stepSpec
  | dropAll =>
      obtain rfl := Option.some.inj hstep
      exact (h.detachAll (by decide)).stepSpec
  | setStatus status =>
      obtain rfl := Option.some.inj hstep
      have hkeeps := h.setStatus status
      exact ⟨hkeeps.inv, Or.inl ⟨rfl, List.Sublist.refl _, hkeeps.tokens, hkeeps.held⟩⟩
  | removeUsed conn =>
      obtain rfl := Option.some.inj hstep
      exact (h.removeUsedConnection conn).stepSpec
  | removeFree conn =>
      obtain rfl := Option.some.inj hstep
      exact (h.removeFreeConnection conn).stepSpec
  | deleteHanded conn =>
      simp only [step, Option.ite_none_left_eq_some, Option.some.injEq] at hstep
      obtain ⟨hheld, rfl⟩ := hstep
      exact (Keeps.takeBack h (by simpa using hheld)).destroy.stepSpec

/-! ## Who is given what -/

theorem given_storeMatchingFree
    {result : PoolResult} {key : PoolMatchKey} {excludedWorker : Nat} {check : RequestCheck}
    (hstore : p.storeMatchingFree requests conn key excludedWorker check = some result) :
    result.given = none := by
  simp only [ServerPool.storeMatchingFree, Option.ite_none_left_eq_some] at hstore
  obtain ⟨-, hstore⟩ := hstore
  split at hstore <;> obtain rfl := Option.some.inj hstore <;> rfl

theorem given_returnMatching
    (key : PoolMatchKey) (excludedWorker : Nat) (check : RequestCheck) :
    (p.returnMatching requests conn key excludedWorker check).given = none := by
  rw [ServerPool.returnMatching]
  dsimp only
  split
  · rfl
  · split
    · rename_i hstore
      exact given_storeMatchingFree hstore
    · rfl

theorem given_reserveMatchingUsed
    (key : PoolMatchKey) (returningWorker : Nat) (check : RequestCheck) :
    (p.reserveMatchingUsed requests conn key returningWorker check).given = none := by
  rw [ServerPool.reserveMatchingUsed]
  dsimp only
  split
  · rfl
  · split
    · rfl
    · split
      · rfl
      · split <;> rfl

theorem given_clearRetired :
    (cancelReserved.clearRetired p requests workerIndex token).2.given = none := by
  rw [cancelReserved.clearRetired]
  split
  · rfl
  · split <;> rfl

theorem given_cancelReservation
    (check : RequestCheck) :
    (p.cancelReservation requests workerIndex token check).2.given = none := by
  rw [ServerPool.cancelReservation]
  split
  · rfl
  · rw [ServerPool.cancelReserved]
    dsimp only
    split
    · split
      · split
        · rfl
        · split
          · rename_i hstore
            exact given_storeMatchingFree hstore
          · rfl
      · exact given_clearRetired
    · exact given_clearRetired

theorem PoolInv.mem_created
    (h : PoolInv p loose)
    (hc : c ∈ p.free.conns) :
    c ∈ p.created := by
  have hcons := h.conserved c
  have := List.count_pos_iff.mpr hc
  exact List.count_pos_iff.mp (by omega)

theorem PoolInv.mem_of_reserved
    (h : PoolInv p loose)
    (hc : p.tokenByConnection.lookup c = some token) :
    c ∈ p.free.conns := by
  obtain ⟨r, hr, rfl⟩ := h.tied.backward c token hc
  exact h.free.mem_conns (h.tied.forward token r hr).2

theorem Searches.unreserved
    {search : PoolSearch} {result : Option Nat × ServerPool} {loose : Nat → List Nat}
    (h : p.Searches search result loose)
    (hinv : PoolInv p [])
    (hfresh : search.fresh ∉ p.created)
    (hclient : search.client.isSome)
    (hgiven : result.1 = some c) :
    p.tokenByConnection.lookup c = none := by
  rcases h with ⟨hnone, -⟩ | ⟨conn, hconn, hpicks⟩
  · rw [hnone] at hgiven
    cases hgiven
  · obtain rfl := Option.some.inj (hconn.symm.trans hgiven)
    rcases hpicks.source with rfl | ⟨-, hfree⟩
    · by_contra hsome
      obtain ⟨t, ht⟩ := Option.ne_none_iff_exists'.mp hsome
      exact hfresh (hinv.mem_created (hinv.mem_of_reserved ht))
    · exact PoolInv.connectionReserved_eq_false.mp (hfree hclient)

/-- A reserved connection is given only to the holder of its token. -/
theorem step_given
    {op : PoolOp} {result : PoolResult}
    (h : PoolInv p [])
    (hclient : op.HasClient)
    (hstep : p.step requests op = some result)
    (hgiven : result.given = some c)
    (hreserved : p.tokenByConnection.lookup c = some token) :
    ∃ r, p.reservations.lookup token = some r ∧ r.conn = c ∧
      op = .takeReservation r.workerIndex token := by
  have hnone : result.given ≠ none := by
    rw [hgiven]
    exact Option.some_ne_none c
  -- all other operations give nobody a connection, or one that is not reserved
  have hfree : p.tokenByConnection.lookup c ≠ none := by
    rw [hreserved]
    exact Option.some_ne_none token
  cases op with
  | takeMatching key =>
      obtain rfl := Option.some.inj hstep
      exact absurd (PoolInv.connectionReserved_eq_false.mp ((h.takeMatching key).2 c hgiven).2) hfree
  | takeForPing conn idle =>
      obtain rfl := Option.some.inj hstep
      exact absurd (PoolInv.connectionReserved_eq_false.mp ((h.takeForPing conn idle).2 c hgiven).2) hfree
  | takeExisting key allowExactMatch allowReset search =>
      simp only [step, Option.ite_none_left_eq_some, Option.some.injEq] at hstep
      obtain ⟨hfresh, rfl⟩ := hstep
      have hfresh' : search.fresh ∉ p.created := by simpa [searchFresh] using hfresh
      exact absurd ((h.takeExisting hfresh' key _ _).unreserved h hfresh' hclient hgiven) hfree
  | takeClassic search =>
      simp only [step, Option.ite_none_left_eq_some, Option.some.injEq] at hstep
      obtain ⟨hfresh, rfl⟩ := hstep
      have hfresh' : search.fresh ∉ p.created := by simpa [searchFresh] using hfresh
      exact absurd ((h.takeClassic hfresh').unreserved h hfresh' hclient hgiven) hfree
  | takeReservation workerIndex token' =>
      obtain rfl := Option.some.inj hstep
      obtain ⟨r, hr, rfl, rfl⟩ := (h.takeReservation requests workerIndex token').2.2 c hgiven
      obtain rfl := Option.some.inj ((h.tied.forward token' r hr).1.symm.trans hreserved)
      exact ⟨r, hr, rfl, rfl⟩
  | returnMatching conn key excludedWorker check =>
      obtain rfl := Option.some.inj hstep
      exact absurd (given_returnMatching key excludedWorker check) hnone
  | reserveMatchingUsed conn key returningWorker check =>
      obtain rfl := Option.some.inj hstep
      exact absurd (given_reserveMatchingUsed key returningWorker check) hnone
  | cancelReservation workerIndex token check =>
      obtain rfl := Option.some.inj hstep
      exact absurd (given_cancelReservation check) hnone
  | addMatching conn key check =>
      simp only [step, Option.ite_none_left_eq_some, Option.some.injEq] at hstep
      obtain ⟨-, rfl⟩ := hstep
      cases hstore : (p.takeBack conn).storeMatchingFree requests conn key noWorker check with
      | none =>
          rw [hstore] at hnone
          exact absurd rfl hnone
      | some result =>
          rw [hstore] at hnone
          exact absurd (given_storeMatchingFree hstore) hnone
  | addUsed conn key =>
      simp only [step, Option.ite_none_left_eq_some] at hstep
      obtain ⟨-, hstep⟩ := hstep
      split at hstep <;> obtain rfl := Option.some.inj hstep <;> exact absurd rfl hnone
  | openConnection conn | returnClassic conn reusable | deleteHanded conn =>
      simp only [step, Option.ite_none_left_eq_some, Option.some.injEq] at hstep
      obtain ⟨-, rfl⟩ := hstep
      exact absurd rfl hnone
  | evict _ _ | dropIdle _ _ | dropAll | setStatus _ | removeUsed _ | removeFree _ =>
      obtain rfl := Option.some.inj hstep
      exact absurd rfl hnone

end ServerPool

end PolarProxy
