import PolarProxy.PoolSteps
import PolarProxy.Library.Runs

/-!
# Servers and the requests of their hostgroups

Workers register requests for connections with a hostgroup, under tokens from one
counter; a token is issued once, as the counter does not come round.  Connections
that come back to a server of the hostgroup are reserved for them.

`granted` and `registeredBy` are not part of the source: they record which tokens
were reserved on which server, and which worker registered each token.

**Results.** `PoolSystem.Inv`, `connection_conservation`.
-/

namespace PolarProxy

open Transition

structure PoolSystem where
  servers : Nat → ServerPool
  requests : Nat → List CapacityRequest := fun _ => []
  nextToken : Nat := 1
  granted : List (Nat × Nat) := []
  registeredBy : List (Nat × Nat) := []

inductive PoolSystemOp
  | server (srv : Nat) (op : PoolOp)
  /-- `polardb_register_reader_capacity_request` -/
  | register (hid workerIndex scopeHash : Nat) (matchKey : PoolMatchKey) (requireReplica : Bool)
  /-- `cancel_reader_pool_capacity_request` -/
  | cancelRequest (hid workerIndex token : Nat)

/-- Each connection is in one place, and the maps of reservations are inverse to
each other, over connections of FREE without a key. -/
structure ServerPool.Conserved (p : ServerPool) : Prop where
  onePlace : ∀ c ∈ p.created,
    p.free.conns.count c + p.used.conns.count c + p.handed.count c + p.destroyed.count c = 1
  noStranger : ∀ c ∉ p.created,
    c ∉ p.free.conns ∧ c ∉ p.used.conns ∧ c ∉ p.handed ∧ c ∉ p.destroyed
  inverse : ∀ c t, p.tokenByConnection.lookup c = some t ↔
    ∃ r, p.reservations.lookup t = some r ∧ r.conn = c
  keyless : ∀ t r, p.reservations.lookup t = some r →
    (r.conn, ({} : PoolMatchKey)) ∈ p.free.keyed

namespace PoolSystem

/-- All servers without connections. -/
def init (maxConnections : Nat → Int) : PoolSystem :=
  { servers := fun srv => { maxConnections := maxConnections srv } }

/-- Store what an operation on a server returned. -/
def apply (s : PoolSystem) (srv hid : Nat) (result : PoolResult) : PoolSystem :=
  { s with
    servers := Function.update s.servers srv result.pool
    requests := Function.update s.requests hid result.requests
    granted := s.granted ++ (result.wake.map fun request => (srv, request.token)).toList }

def step (hostgroup : Nat → Nat) (s : PoolSystem) : PoolSystemOp → Option PoolSystem
  | .server srv op =>
      ((s.servers srv).step (s.requests (hostgroup srv)) op).map (s.apply srv (hostgroup srv))
  | .register hid workerIndex scopeHash matchKey requireReplica =>
      let request : CapacityRequest := ⟨workerIndex, s.nextToken, scopeHash, matchKey⟩
      match registerRequest (s.requests hid) request requireReplica with
      | none => some { s with nextToken := s.nextToken + 1 }
      | some requests =>
          some { s with
            requests := Function.update s.requests hid requests
            nextToken := s.nextToken + 1
            registeredBy := (s.nextToken, workerIndex) :: s.registeredBy }
  | .cancelRequest hid workerIndex token =>
      match cancelRequest (s.requests hid) workerIndex token with
      | none => some s
      | some requests => some { s with requests := Function.update s.requests hid requests }

/-! ## The invariant -/

/-- Pending tokens are issued once and were never reserved; reserved tokens were
issued, to their worker. -/
structure Inv (s : PoolSystem) : Prop where
  pools : ∀ srv, (s.servers srv).PoolInv []
  pending : ∀ hid, ∀ q ∈ s.requests hid,
    (q.token, q.workerIndex) ∈ s.registeredBy ∧ ∀ srv, q.token ∉ (s.servers srv).tokens
  pendingOnce : ∀ hid, ((s.requests hid).map CapacityRequest.token).Nodup
  pendingApart : ∀ hid hid', ∀ q ∈ s.requests hid, ∀ q' ∈ s.requests hid',
    q.token = q'.token → hid = hid'
  granted : ∀ srv t, t ∈ (s.servers srv).tokens ↔ (srv, t) ∈ s.granted
  grantedOnce : (s.granted.map Prod.snd).Nodup
  registered : ∀ srv t, t ∈ (s.servers srv).tokens → ∃ w, (t, w) ∈ s.registeredBy
  holder : ∀ srv t r, (s.servers srv).reservations.lookup t = some r →
    (t, r.workerIndex) ∈ s.registeredBy
  issued : ∀ e ∈ s.registeredBy, e.1 < s.nextToken
  registeredOnce : (s.registeredBy.map Prod.fst).Nodup

theorem Inv.init
    (maxConnections : Nat → Int) :
    (init maxConnections).Inv where
  pools := fun srv => ServerPool.PoolInv.empty (maxConnections srv)
  pending := by simp [PoolSystem.init]
  pendingOnce := by simp [PoolSystem.init]
  pendingApart := by simp [PoolSystem.init]
  granted := by simp [PoolSystem.init, ServerPool.tokens]
  grantedOnce := by simp [PoolSystem.init]
  registered := by simp [PoolSystem.init, ServerPool.tokens]
  holder := by simp [PoolSystem.init]
  issued := by simp [PoolSystem.init]
  registeredOnce := by simp [PoolSystem.init]

variable {s s' : PoolSystem} {srv hid : Nat} {result : PoolResult}

theorem Inv.pending_tokens
    (h : s.Inv)
    (hid : Nat) :
    ∀ request ∈ s.requests hid, request.token ∉ (s.servers srv).tokens :=
  fun request hin => (h.pending hid request hin).2 srv

theorem Inv.fewerRequests
    {requests : List CapacityRequest}
    (h : s.Inv)
    (hsub : requests.Sublist (s.requests hid)) :
    ({ s with requests := Function.update s.requests hid requests } : PoolSystem).Inv := by
  have hmem : ∀ {hid' q}, q ∈ Function.update s.requests hid requests hid' →
      q ∈ s.requests hid' := by
    intro hid' q hq
    by_cases hh : hid' = hid
    · subst hh
      rw [Function.update_self] at hq
      exact hsub.subset hq
    · rwa [Function.update_of_ne hh] at hq
  refine { h with pending := ?_, pendingOnce := ?_, pendingApart := ?_ }
  · intro hid' q hq
    exact h.pending hid' q (hmem hq)
  · intro hid'
    by_cases hh : hid' = hid
    · subst hh
      simp only [Function.update_self]
      exact (h.pendingOnce hid').sublist (hsub.map _)
    · simp only [Function.update_of_ne hh]
      exact h.pendingOnce hid'
  · intro hid₁ hid₂ q hq q' hq'
    exact h.pendingApart hid₁ hid₂ q (hmem hq) q' (hmem hq')

/-- The pool of a server may change as long as nothing is reserved. -/
theorem Inv.withPool
    {pool : ServerPool}
    (h : s.Inv)
    (hinv : pool.PoolInv [])
    (htokens : pool.tokens.Perm (s.servers srv).tokens)
    (hheld : ∀ t r, pool.reservations.lookup t = some r →
      (s.servers srv).reservations.lookup t = some r) :
    ({ s with servers := Function.update s.servers srv pool } : PoolSystem).Inv := by
  have hmem : ∀ {srv' t}, t ∈ (Function.update s.servers srv pool srv').tokens ↔
      t ∈ (s.servers srv').tokens := by
    intro srv' t
    by_cases hs : srv' = srv
    · subst hs
      rw [Function.update_self, htokens.mem_iff]
    · rw [Function.update_of_ne hs]
  refine { h with pools := ?_, pending := ?_, granted := ?_, registered := ?_, holder := ?_ }
  · intro srv'
    by_cases hs : srv' = srv
    · subst hs
      simp only [Function.update_self]
      exact hinv
    · simp only [Function.update_of_ne hs]
      exact h.pools srv'
  · intro hid q hq
    obtain ⟨hreg, hnew⟩ := h.pending hid q hq
    exact ⟨hreg, fun srv' ht => hnew srv' (hmem.mp ht)⟩
  · intro srv' t
    exact hmem.trans (h.granted srv' t)
  · intro srv' t ht
    exact h.registered srv' t (hmem.mp ht)
  · intro srv' t r hr
    by_cases hs : srv' = srv
    · subst hs
      simp only [Function.update_self] at hr
      exact h.holder srv' t r (hheld t r hr)
    · simp only [Function.update_of_ne hs] at hr
      exact h.holder srv' t r hr

theorem Inv.grant
    {pool : ServerPool} {request : CapacityRequest}
    (h : s.Inv)
    (hin : request ∈ s.requests hid)
    (hres : (s.servers srv).Reserves pool request []) :
    ({ s with
      servers := Function.update s.servers srv pool
      requests := Function.update s.requests hid ((s.requests hid).erase request)
      granted := s.granted ++ [(srv, request.token)] } : PoolSystem).Inv := by
  obtain ⟨hreg, hnew⟩ := h.pending hid request hin
  have hmem : ∀ {srv' t}, t ∈ (Function.update s.servers srv pool srv').tokens ↔
      t ∈ (s.servers srv').tokens ∨ srv' = srv ∧ t = request.token := by
    intro srv' t
    by_cases hs : srv' = srv
    · subst hs
      rw [Function.update_self, hres.tokens.mem_iff, List.mem_cons]
      simp [or_comm]
    · rw [Function.update_of_ne hs]
      simp [hs]
  have hother : ∀ {hid' q},
      q ∈ Function.update s.requests hid ((s.requests hid).erase request) hid' →
        q ∈ s.requests hid' ∧ q.token ≠ request.token := by
    intro hid' q hq
    by_cases hh : hid' = hid
    · subst hh
      rw [Function.update_self] at hq
      have honce := h.pendingOnce hid'
      have hq' := List.mem_of_mem_erase hq
      refine ⟨hq', ?_⟩
      intro ht
      obtain rfl := List.inj_on_of_nodup_map honce hq' hin ht
      exact (List.Nodup.not_mem_erase (List.Nodup.of_map _ honce)) hq
    · rw [Function.update_of_ne hh] at hq
      exact ⟨hq, fun ht => hh (h.pendingApart hid' hid q hq request hin ht)⟩
  have hfewer := h.fewerRequests (List.erase_sublist (a := request) (l := s.requests hid))
  refine { h with
    pools := ?_, pending := ?_, pendingOnce := hfewer.pendingOnce,
    pendingApart := hfewer.pendingApart, granted := ?_, grantedOnce := ?_, registered := ?_,
    holder := ?_ }
  · intro srv'
    by_cases hs : srv' = srv
    · subst hs
      simp only [Function.update_self]
      exact hres.inv
    · simp only [Function.update_of_ne hs]
      exact h.pools srv'
  · intro hid' q hq
    obtain ⟨hq', hne⟩ := hother hq
    refine ⟨(h.pending hid' q hq').1, ?_⟩
    intro srv' ht
    rcases hmem.mp ht with ht | ⟨-, ht⟩
    · exact (h.pending hid' q hq').2 srv' ht
    · exact hne ht
  · intro srv' t
    rw [hmem, h.granted, List.mem_append, List.mem_singleton, Prod.mk.injEq]
  · rw [List.map_append, List.map_cons, List.map_nil]
    refine (List.perm_append_singleton _ _).nodup_iff.mpr
      (List.nodup_cons.mpr ⟨?_, h.grantedOnce⟩)
    intro ht
    obtain ⟨⟨srv', t⟩, hin', rfl⟩ := List.mem_map.mp ht
    exact hnew srv' ((h.granted srv' _).mpr hin')
  · intro srv' t ht
    rcases hmem.mp ht with ht | ⟨-, rfl⟩
    · exact h.registered srv' t ht
    · exact ⟨_, hreg⟩
  · intro srv' t r hr
    by_cases hs : srv' = srv
    · subst hs
      simp only [Function.update_self] at hr
      rcases hres.held t r hr with hold | ⟨rfl, hw⟩
      · exact h.holder srv' t r hold
      · rw [hw]
        exact hreg
    · simp only [Function.update_of_ne hs] at hr
      exact h.holder srv' t r hr

theorem Inv.apply
    (h : s.Inv)
    (hspec : (s.servers srv).StepSpec (s.requests hid) result) :
    (s.apply srv hid result).Inv := by
  rcases hspec.outcome with ⟨hwake, hreq, htokens, hheld⟩ | ⟨request, hin, hwake, hreq, hres⟩
  · have hfewer := (h.withPool hspec.inv htokens hheld).fewerRequests hreq
    simpa [PoolSystem.apply, hwake] using hfewer
  · have hgrant := h.grant hin hres
    simpa [PoolSystem.apply, hwake, hreq] using hgrant

theorem registerRequest_some
    {requests requests' : List CapacityRequest} {request : CapacityRequest} {requireReplica : Bool}
    (h : registerRequest requests request requireReplica = some requests') :
    requests' = requests ++ [request] := by
  simp only [registerRequest, Option.ite_none_left_eq_some, Option.some.injEq] at h
  exact h.2.2.symm

theorem Inv.issue
    (h : s.Inv) :
    ({ s with nextToken := s.nextToken + 1 } : PoolSystem).Inv :=
  { h with issued := fun e he => Nat.lt_succ_of_lt (h.issued e he) }

theorem Inv.register
    {request : CapacityRequest}
    (h : s.Inv)
    (htoken : request.token = s.nextToken) :
    ({ s with
      requests := Function.update s.requests hid (s.requests hid ++ [request])
      nextToken := s.nextToken + 1
      registeredBy := (request.token, request.workerIndex) :: s.registeredBy } : PoolSystem).Inv := by
  have hold : ∀ {t w}, (t, w) ∈ s.registeredBy → t ≠ request.token := by
    rintro t w ht rfl
    have := h.issued _ ht
    omega
  have hmem : ∀ {hid' q}, q ∈ Function.update s.requests hid (s.requests hid ++ [request]) hid' →
      q ∈ s.requests hid' ∨ hid' = hid ∧ q = request := by
    intro hid' q hq
    by_cases hh : hid' = hid
    · subst hh
      rw [Function.update_self, List.mem_append, List.mem_singleton] at hq
      exact hq.imp_right fun hq => ⟨rfl, hq⟩
    · rw [Function.update_of_ne hh] at hq
      exact Or.inl hq
  have hpending : ∀ {hid' q}, q ∈ s.requests hid' → q.token ≠ request.token :=
    fun hq => hold (h.pending _ _ hq).1
  refine { h with
    pending := ?_, pendingOnce := ?_, pendingApart := ?_, registered := ?_, holder := ?_,
    issued := ?_, registeredOnce := ?_ }
  · intro hid' q hq
    rcases hmem hq with hq | ⟨-, rfl⟩
    · obtain ⟨hreg, hnew⟩ := h.pending hid' q hq
      exact ⟨List.mem_cons_of_mem _ hreg, hnew⟩
    · refine ⟨List.mem_cons_self .., ?_⟩
      intro srv ht
      obtain ⟨w, hw⟩ := h.registered srv _ ht
      exact hold hw rfl
  · intro hid'
    by_cases hh : hid' = hid
    · subst hh
      simp only [Function.update_self, List.map_append, List.map_cons, List.map_nil]
      refine (List.perm_append_singleton _ _).nodup_iff.mpr
        (List.nodup_cons.mpr ⟨?_, h.pendingOnce hid'⟩)
      intro ht
      obtain ⟨q, hq, heq⟩ := List.mem_map.mp ht
      exact hpending hq heq
    · simp only [Function.update_of_ne hh]
      exact h.pendingOnce hid'
  · intro hid₁ hid₂ q hq q' hq' ht
    rcases hmem hq with hin | ⟨rfl, rfl⟩ <;> rcases hmem hq' with hin' | ⟨rfl, rfl⟩
    · exact h.pendingApart hid₁ hid₂ q hin q' hin' ht
    · exact absurd ht (hpending hin)
    · exact absurd ht.symm (hpending hin')
    · rfl
  · intro srv t ht
    obtain ⟨w, hw⟩ := h.registered srv t ht
    exact ⟨w, List.mem_cons_of_mem _ hw⟩
  · intro srv t r hr
    exact List.mem_cons_of_mem _ (h.holder srv t r hr)
  · intro e he
    rcases List.mem_cons.mp he with rfl | he
    · simp [htoken]
    · exact Nat.lt_succ_of_lt (h.issued e he)
  · rw [List.map_cons]
    refine List.nodup_cons.mpr ⟨?_, h.registeredOnce⟩
    intro ht
    obtain ⟨⟨t, w⟩, hw, heq⟩ := List.mem_map.mp ht
    exact hold hw heq

theorem Inv.step
    {hostgroup : Nat → Nat} {op : PoolSystemOp}
    (h : s.Inv)
    (hstep : s.step hostgroup op = some s') :
    s'.Inv := by
  cases op with
  | server srv op =>
      simp only [PoolSystem.step, Option.map_eq_some_iff] at hstep
      obtain ⟨result, hresult, rfl⟩ := hstep
      exact h.apply (ServerPool.step_spec (h.pools srv) (h.pending_tokens _) hresult)
  | register hid workerIndex scopeHash matchKey requireReplica =>
      simp only [PoolSystem.step] at hstep
      split at hstep
      · obtain rfl := Option.some.inj hstep
        exact h.issue
      · rename_i requests hrequests
        obtain rfl := Option.some.inj hstep
        obtain rfl := registerRequest_some hrequests
        exact h.register rfl
  | cancelRequest hid workerIndex token =>
      simp only [PoolSystem.step] at hstep
      split at hstep
      · obtain rfl := Option.some.inj hstep
        exact h
      · rename_i requests hrequests
        obtain rfl := Option.some.inj hstep
        obtain ⟨request, -, -, -, rfl⟩ := ServerPool.cancelRequest_some hrequests
        exact h.fewerRequests List.erase_sublist

/-! ## What the pools promise -/

/-- Each token that was reserved on a server is reserved there still or has ended
once, and a record of its retirement is read once at most. -/
structure TokensEndOnce (s : PoolSystem) (srv : Nat) : Prop where
  once : ∀ t, (srv, t) ∈ s.granted →
    (s.servers srv).reservations.keys.count t + ((s.servers srv).ended.map Prod.fst).count t = 1
  granted : ∀ t, t ∈ (s.servers srv).tokens → (srv, t) ∈ s.granted
  ends : ∀ e ∈ (s.servers srv).ended,
    e.2 = .acquired ∨ e.2 = .released ∨ e.2.isRetirement = true
  consumedOnce : (s.servers srv).consumed.Nodup
  consumedRetired : ∀ t ∈ (s.servers srv).consumed,
    ∃ reason, reason.isRetirement = true ∧ (t, reason) ∈ (s.servers srv).ended

/-- No operation on a server gives a reserved connection to anyone but the worker
that registered its token. -/
def GivesToHolder (s : PoolSystem) (hostgroup : Nat → Nat) (srv : Nat) : Prop :=
  ∀ op result c t, op.HasClient →
    (s.servers srv).step (s.requests (hostgroup srv)) op = some result →
    result.given = some c → (s.servers srv).tokenByConnection.lookup c = some t →
    ∃ w, op = .takeReservation w t ∧ ∀ w', (t, w') ∈ s.registeredBy ↔ w' = w

theorem Inv.conserved
    (h : s.Inv)
    (srv : Nat) :
    (s.servers srv).Conserved where
  onePlace := by
    intro c hc
    have hcons := (h.pools srv).conserved c
    rw [List.count_nil, List.count_eq_one_of_mem (h.pools srv).created hc] at hcons
    exact hcons
  noStranger := by
    intro c hc
    have hcons := (h.pools srv).conserved c
    rw [List.count_eq_zero_of_not_mem hc] at hcons
    refine ⟨?_, ?_, ?_, ?_⟩ <;> apply List.count_eq_zero.mp <;> omega
  inverse := by
    intro c t
    constructor
    · exact (h.pools srv).tied.backward c t
    · rintro ⟨r, hr, rfl⟩
      exact ((h.pools srv).tied.forward t r hr).1
  keyless := fun t r hr => ((h.pools srv).tied.forward t r hr).2

theorem Inv.tokensEndOnce
    (h : s.Inv)
    (srv : Nat) :
    s.TokensEndOnce srv where
  once := by
    intro t ht
    have hin := (h.granted srv t).mpr ht
    have hcount := List.count_eq_one_of_mem (h.pools srv).once hin
    rwa [ServerPool.tokens, List.count_append] at hcount
  granted := fun t ht => (h.granted srv t).mp ht
  ends := by
    intro e he
    have hreason := (h.pools srv).kept.reason e he
    cases hr : e.2 with
    | none =>
        exact absurd hr hreason
    | acquired =>
        exact Or.inl rfl
    | released =>
        exact Or.inr (Or.inl rfl)
    | _ =>
        exact Or.inr (Or.inr rfl)
  consumedOnce := (h.pools srv).kept.consumedOnce
  consumedRetired := fun t ht => ((h.pools srv).kept.read t ht).2

theorem Inv.givesToHolder
    (h : s.Inv)
    (hostgroup : Nat → Nat) (srv : Nat) :
    s.GivesToHolder hostgroup srv := by
  intro op result c t hclient hstep hgiven hreserved
  obtain ⟨r, hr, -, hop⟩ := ServerPool.step_given (h.pools srv) hclient hstep hgiven hreserved
  have hreg := h.holder srv t r hr
  refine ⟨r.workerIndex, hop, ?_⟩
  intro w
  constructor
  · intro hw
    exact congrArg Prod.snd (List.inj_on_of_nodup_map h.registeredOnce hw hreg rfl)
  · rintro rfl
    exact hreg

/-- In every state that is reached each connection of a server is in one place,
the reservations are tied to connections of FREE, reserved connections go to the
holders of their tokens, and each token ends once. -/
theorem connection_conservation
    (hostgroup : Nat → Nat) (maxConnections : Nat → Int)
    {ops : List PoolSystemOp} {s : PoolSystem}
    (hrun : Run (fun s op s' => step hostgroup s op = some s') (init maxConnections) ops s) :
    (∀ srv, (s.servers srv).Conserved ∧ s.GivesToHolder hostgroup srv ∧ s.TokensEndOnce srv) ∧
      (s.granted.map Prod.snd).Nodup := by
  have hinv : s.Inv := hrun.invariant (I := Inv) (Inv.init maxConnections)
    (fun h hstep => h.step hstep)
  exact ⟨fun srv => ⟨hinv.conserved srv, hinv.givesToHolder hostgroup srv,
    hinv.tokensEndOnce srv⟩, hinv.grantedOnce⟩

/-- A connection comes back, is reserved for a waiting worker, and the server goes
offline before the worker takes it. -/
theorem connection_conservation_offline :
    ∃ s, Run (fun s op s' => step (fun _ => 0) s op = some s') (init fun _ => 10)
        [.server 4 (.openConnection 7), .server 4 (.addUsed 7 none),
          .register 0 3 1 { authHash := 1 } false,
          .server 4 (.returnMatching 7 { authHash := 1 } noWorker ⟨true, fun _ => true⟩),
          .server 4 (.setStatus .offlineHard), .server 4 (.takeReservation 3 1)] s ∧
      (s.servers 4).destroyed = [7] ∧ (s.servers 4).ended = [(1, .serverOffline)] ∧
      (s.servers 4).consumed = [1] ∧ (s.servers 4).Conserved := by
  have hrun := Run.of_foldlM (f := step fun _ => 0) (s := init fun _ => 10)
    [.server 4 (.openConnection 7), .server 4 (.addUsed 7 none),
      .register 0 3 1 { authHash := 1 } false,
      .server 4 (.returnMatching 7 { authHash := 1 } noWorker ⟨true, fun _ => true⟩),
      .server 4 (.setStatus .offlineHard), .server 4 (.takeReservation 3 1)] rfl
  exact ⟨_, hrun, by decide, by decide, by decide,
    ((connection_conservation (fun _ => 0) (fun _ => 10) hrun).1 4).1⟩

end PoolSystem

end PolarProxy
