import PolarProxy.IdentityPool
import PolarProxy.BackendIdentity
import PolarProxy.Library.Runs

/-!
# Connections stay with the clients they were started for

A connection that was started with the identity of a client is had only by sessions
of that client, in every state the pools can reach.

Most ways to take a connection compare the startup settings themselves.  A
reservation does not: it is found by a key, so the invariant says that each
reservation stands under the own key of its connection, and that the key a worker
waits for is the one its token was registered with.
-/

namespace PolarProxy

open Transition BackendStartup SwapRemove

namespace IdentityPool

variable {addresses : AddressSyntax} {hostgroup : Nat → Nat} {streams : Nat → ClientStream}
variable {s s' : IdentityPool} {srv conn : Nat}

/-- What a worker waits for: requests and reservations of the token have the key. -/
structure Awaits (pools : PoolSystem) (awaited : WorkerReservation) : Prop where
  issued : awaited.token < pools.nextToken
  pending : ∀ hid, ∀ q ∈ pools.requests hid, q.token = awaited.token → q.matchKey = awaited.key
  reserved : ∀ srv r, (pools.servers srv).reservations.lookup awaited.token = some r →
    r.matchKey = awaited.key

/-- The invariant of the pools. -/
structure Inv (addresses : AddressSyntax) (streams : Nat → ClientStream) (s : IdentityPool) :
    Prop where
  base : s.pools.Inv
  backends : ∀ srv c, (s.backends srv c).Consistent addresses streams
  sessions : ∀ i, (s.sessions i).stream = streams i ∧ (s.sessions i).Remembers addresses
  awaits : ∀ w awaited, s.awaited w = some awaited → Awaits s.pools awaited
  reserved : ∀ srv t r, (s.pools.servers srv).reservations.lookup t = some r →
    (s.backends srv r.conn).OwnKey r.matchKey
  held : ∀ srv c i, s.holder srv c = some i → (s.backends srv c).CarriesClient →
    (s.backends srv c).Suits addresses (streams i)

theorem Inv.init
    (maxConnections : Nat → Int) :
    (init maxConnections streams).Inv addresses streams where
  base := .init maxConnections
  backends := fun _ _ => .empty
  sessions := fun _ => ⟨rfl, fun h => by cases h⟩
  awaits := fun _ _ h => by cases h
  reserved := by simp [IdentityPool.init, PoolSystem.init]
  held := fun _ _ _ h => by cases h

/-! ## Frames -/

theorem Inv.withCached
    (h : s.Inv addresses streams)
    (cached : Nat → List (Nat × Nat)) :
    Inv addresses streams { s with cached := cached } :=
  { h with }

theorem Inv.dropAwaited
    (h : s.Inv addresses streams)
    (worker : Nat) :
    Inv addresses streams { s with awaited := Function.update s.awaited worker none } := by
  refine { h with awaits := fun w awaited hw => ?_ }
  by_cases heq : w = worker
  · subst heq
    simp at hw
  · exact h.awaits w awaited (by simpa [heq] using hw)

theorem backends_setBackend
    (b : BackendStartup) (srv' c : Nat) :
    (s.setBackend srv conn b).backends srv' c =
      if srv' = srv ∧ c = conn then b else s.backends srv' c := by
  unfold setBackend
  by_cases hs : srv' = srv
  · subst hs
    by_cases hc : c = conn
    · subst hc
      simp
    · simp [hc]
  · simp [hs]

theorem holder_setHolder
    (session : Option Nat) (srv' c : Nat) :
    (s.setHolder srv conn session).holder srv' c =
      if srv' = srv ∧ c = conn then session else s.holder srv' c := by
  unfold setHolder
  by_cases hs : srv' = srv
  · subst hs
    by_cases hc : c = conn
    · subst hc
      simp
    · simp [hc]
  · simp [hs]

theorem Inv.release
    (h : s.Inv addresses streams)
    (srv conn : Nat) :
    (s.setHolder srv conn none).Inv addresses streams := by
  refine { h with held := fun srv' c i hi => ?_ }
  rw [holder_setHolder] at hi
  split at hi
  · cases hi
  · exact h.held srv' c i hi

theorem Inv.give
    {i : Nat}
    (h : s.Inv addresses streams)
    (hsuits : (s.backends srv conn).CarriesClient →
      (s.backends srv conn).Suits addresses (streams i)) :
    (s.setHolder srv conn (some i)).Inv addresses streams := by
  refine { h with held := fun srv' c j hj => ?_ }
  rw [holder_setHolder] at hj
  split at hj
  · rename_i heq
    obtain ⟨rfl, rfl⟩ := heq
    obtain rfl := Option.some.inj hj
    exact hsuits
  · exact h.held srv' c j hj

variable {b : BackendStartup}

theorem Inv.changeBackend
    (h : s.Inv addresses streams)
    (hb : b.Consistent addresses streams)
    (hown : ∀ key, (s.backends srv conn).OwnKey key → b.OwnKey key)
    (hheld : ∀ i, s.holder srv conn = some i → b.CarriesClient → b.Suits addresses (streams i)) :
    (s.setBackend srv conn b).Inv addresses streams := by
  refine { h with backends := ?_, reserved := ?_, held := ?_ }
  · intro srv' c
    rw [backends_setBackend]
    split
    · exact hb
    · exact h.backends srv' c
  · intro srv' t r hr
    rw [backends_setBackend]
    split
    · rename_i heq
      have hold := h.reserved srv' t r hr
      rw [heq.1, heq.2] at hold
      exact hown _ hold
    · exact h.reserved srv' t r hr
  · intro srv' c i hi
    rw [backends_setBackend]
    split
    · rename_i heq
      obtain ⟨rfl, rfl⟩ := heq
      exact hheld i hi
    · exact h.held srv' c i hi

theorem Inv.rekey
    (h : s.Inv addresses streams)
    (hb : b.Consistent addresses streams)
    (hsame : SameStart (s.backends srv conn) b) :
    (s.setBackend srv conn b).Inv addresses streams :=
  h.changeBackend hb (fun _ hown => hown.sameStart hsame) fun i hi hc =>
    hsame.suits (h.held srv conn i hi (hsame.carriesClient hc))

/-! ## The pools -/

variable {op : PoolOp} {given : Option Nat}

theorem serve_some
    (hserve : s.serve hostgroup srv op = some (given, s')) :
    ∃ result, (s.pools.servers srv).step (s.pools.requests (hostgroup srv)) op = some result ∧
      given = result.given ∧ s' = { s with pools := s.pools.apply srv (hostgroup srv) result } := by
  simp only [serve, Option.map_eq_some_iff, Prod.mk.injEq] at hserve
  obtain ⟨result, hstep, rfl, rfl⟩ := hserve
  exact ⟨result, hstep, rfl, rfl⟩

theorem serve_snd
    (hserve : (s.serve hostgroup srv op).map Prod.snd = some s') :
    ∃ given, s.serve hostgroup srv op = some (given, s') := by
  obtain ⟨⟨given, s''⟩, hsome, rfl⟩ := Option.map_eq_some_iff.mp hserve
  exact ⟨given, hsome⟩

theorem mem_requests_apply
    {result : PoolResult} {requests : List CapacityRequest} {hid : Nat} {q : CapacityRequest}
    (hspec : (s.pools.servers srv).StepSpec requests result)
    (hrequests : requests = s.pools.requests (hostgroup srv))
    (hq : q ∈ (s.pools.apply srv (hostgroup srv) result).requests hid) :
    q ∈ s.pools.requests hid := by
  have hsub : ∀ q ∈ result.requests, q ∈ requests := by
    rcases hspec.outcome with ⟨-, hsub, -⟩ | ⟨request, -, -, herase, -⟩
    · exact fun q hq => hsub.subset hq
    · intro q hq
      rw [herase] at hq
      exact List.mem_of_mem_erase hq
  simp only [PoolSystem.apply] at hq
  by_cases hh : hid = hostgroup srv
  · subst hh
    rw [Function.update_self] at hq
    rw [← hrequests]
    exact hsub q hq
  · rwa [Function.update_of_ne hh] at hq

theorem Inv.serve
    (h : s.Inv addresses streams)
    (hstores : ∀ c k, op.Stores c k → (s.backends srv c).OwnKey k)
    (hserve : s.serve hostgroup srv op = some (given, s')) :
    s'.Inv addresses streams := by
  obtain ⟨result, hstep, -, rfl⟩ := serve_some hserve
  have hspec := ServerPool.step_spec (h.base.pools srv) (h.base.pending_tokens _) hstep
  -- where the reservations of a server come from
  have hreserved : ∀ {srv' t r},
      ((s.pools.apply srv (hostgroup srv) result).servers srv').reservations.lookup t = some r →
      (s.pools.servers srv').reservations.lookup t = some r ∨
        srv' = srv ∧ ∃ conn key, ServerPool.ReservedFrom (s.pools.requests (hostgroup srv)) conn key
          t r ∧ (s.backends srv conn).OwnKey key := by
    intro srv' t r hr
    simp only [PoolSystem.apply] at hr
    by_cases hs : srv' = srv
    · subst hs
      rw [Function.update_self] at hr
      rcases ServerPool.step_reservation (h.base.pools srv') (h.base.pending_tokens _) hstep hr with
        hold | ⟨conn, key, hfrom, hop | ⟨t', r', hr', rfl, rfl⟩⟩
      · exact Or.inl hold
      · exact Or.inr ⟨rfl, conn, key, hfrom, hstores conn key hop⟩
      · exact Or.inr ⟨rfl, _, _, hfrom, h.reserved srv' t' r' hr'⟩
    · rw [Function.update_of_ne hs] at hr
      exact Or.inl hr
  refine { h with base := h.base.apply hspec, awaits := ?_, reserved := ?_ }
  · intro w awaited hw
    have hawaits := h.awaits w awaited hw
    refine ⟨hawaits.issued, fun hid q hq => ?_, fun srv' r hr => ?_⟩
    · exact hawaits.pending hid q (mem_requests_apply hspec rfl hq)
    · rcases hreserved hr with hold | ⟨-, conn, key, hfrom, -⟩
      · exact hawaits.reserved srv' r hold
      · obtain ⟨q, hq, htoken, hkey⟩ := hfrom.pending
        rw [hfrom.key, ← hkey]
        exact hawaits.pending _ q hq htoken
  · intro srv' t r hr
    rcases hreserved hr with hold | ⟨rfl, conn, key, hfrom, hown⟩
    · exact h.reserved srv' t r hold
    · rw [hfrom.conn, hfrom.key]
      exact hown

theorem Inv.serveQuiet
    (h : s.Inv addresses streams)
    (hquiet : ∀ c k, ¬ op.Stores c k)
    (hserve : s.serve hostgroup srv op = some (given, s')) :
    s'.Inv addresses streams :=
  h.serve (fun c k hop => absurd hop (hquiet c k)) hserve

theorem Inv.prepare
    (h : s.Inv addresses streams)
    (taker : Taker) :
    (s.prepare addresses taker).2.Inv addresses streams ∧
      Asks addresses taker.config (streams taker.session) (s.prepare addresses taker).1 := by
  obtain ⟨hstream, hremembers⟩ := h.sessions taker.session
  obtain ⟨hasks, hremembers'⟩ := hremembers.preparePoolRequest
    taker.protocol taker.requireRfq taker.authHash taker.optionsHash
  rw [hstream] at hasks
  refine ⟨{ h with sessions := fun i => ?_ }, hasks⟩
  simp only [IdentityPool.prepare]
  by_cases hi : i = taker.session
  · subst hi
    rw [Function.update_self]
    exact ⟨by simpa using hstream, hremembers'⟩
  · rw [Function.update_of_ne hi]
    exact h.sessions i

/-! ## Opening and starting -/

theorem Inv.reserved_old
    {t : Nat} {r : ConnectionReservation}
    (h : s.Inv addresses streams)
    (hquiet : ∀ c k, ¬ op.Stores c k)
    (hserve : s.serve hostgroup srv op = some (given, s'))
    (hr : (s'.pools.servers srv).reservations.lookup t = some r) :
    ∃ t' r', (s.pools.servers srv).reservations.lookup t' = some r' ∧ r'.conn = r.conn := by
  obtain ⟨result, hstep, -, rfl⟩ := serve_some hserve
  simp only [PoolSystem.apply, Function.update_self] at hr
  rcases ServerPool.step_reservation (h.base.pools srv) (h.base.pending_tokens _) hstep hr with
    hold | ⟨conn, key, hfrom, hop | ⟨t', r', hr', hconn, -⟩⟩
  · exact ⟨t, r, hold, rfl⟩
  · exact absurd hop (hquiet conn key)
  · exact ⟨t', r', hr', hconn.trans hfrom.conn.symm⟩

theorem Inv.reserved_created
    {t : Nat} {r : ConnectionReservation}
    (h : s.Inv addresses streams)
    (hr : (s.pools.servers srv).reservations.lookup t = some r) :
    r.conn ∈ (s.pools.servers srv).created :=
  (h.base.pools srv).mem_created
    ((h.base.pools srv).free.mem_conns ((h.base.pools srv).tied.forward t r hr).2)

/-- A connection that nobody reserved gets new settings, and a session that suits
them. -/
theorem Inv.replace
    {session : Option Nat}
    (h : s.Inv addresses streams)
    (hb : b.Consistent addresses streams)
    (hfree : ∀ t r, (s.pools.servers srv).reservations.lookup t = some r → r.conn ≠ conn)
    (hsuits : ∀ i, session = some i → b.CarriesClient → b.Suits addresses (streams i)) :
    ((s.setBackend srv conn b).setHolder srv conn session).Inv addresses streams := by
  refine { h with backends := ?_, reserved := ?_, held := ?_ }
  · intro srv' c
    change ((s.setBackend srv conn b).backends srv' c).Consistent addresses streams
    rw [backends_setBackend]
    split
    · exact hb
    · exact h.backends srv' c
  · intro srv' t r hr
    change ((s.setBackend srv conn b).backends srv' r.conn).OwnKey r.matchKey
    rw [backends_setBackend]
    split
    · rename_i heq
      obtain ⟨rfl, hconn⟩ := heq
      exact absurd hconn (hfree t r hr)
    · exact h.reserved srv' t r hr
  · intro srv' c i hi
    rw [holder_setHolder] at hi
    change ((s.setBackend srv conn b).backends srv' c).CarriesClient →
      ((s.setBackend srv conn b).backends srv' c).Suits addresses (streams i)
    rw [backends_setBackend]
    split at hi
    · rename_i heq
      rw [if_pos heq]
      exact hsuits i hi
    · rename_i hne
      rw [if_neg hne]
      exact h.held srv' c i hi

theorem Inv.openedFor
    (h : s.Inv addresses streams)
    (taker : Taker) :
    (s.openedFor addresses taker).Consistent addresses streams ∧
      ((s.openedFor addresses taker).CarriesClient →
        (s.openedFor addresses taker).Suits addresses (streams taker.session)) := by
  have hstream := (h.sessions taker.session).1
  -- an identity that is none is not started with
  have hown : taker.config.identityMode = .client →
      ((startupClientFromSession addresses taker.config (s.sessions taker.session).stream).getD
        {}).identity.source ≠ .none →
      (streams taker.session).clientContext addresses =
        some ((startupClientFromSession addresses taker.config
          (s.sessions taker.session).stream).getD {}) := by
    intro hmode hsource
    rw [startupClientFromSession_client hmode, hstream] at hsource ⊢
    cases hcontext : (streams taker.session).clientContext addresses with
    | none =>
        rw [hcontext] at hsource
        exact absurd rfl hsource
    | some context =>
        rfl
  refine ⟨consistent_setStartupSettings _ rfl fun _ hmode hsource =>
    ⟨taker.session, hown hmode hsource⟩, fun hc => ?_⟩
  exact .of_eq (hown hc.mode hc.identity) rfl

variable {taker : Taker}

theorem Inv.openFor
    {key : Option PoolMatchKey} {session : Option Nat}
    (h : s.Inv addresses streams)
    (hsession : ∀ i, session = some i → i = taker.session)
    (hstep : s.openFor addresses hostgroup taker srv conn key session = some s') :
    s'.Inv addresses streams := by
  unfold IdentityPool.openFor at hstep
  split at hstep
  · cases hstep
  · split at hstep
    · cases hstep
    · rename_i given s₁ hopen
      split at hstep
      · cases hstep
      · rename_i given' s₂ hadd
        obtain rfl := Option.some.inj hstep
        have h₁ := h.serveQuiet (fun _ _ => id) hopen
        have h₂ := h₁.serveQuiet (fun _ _ => id) hadd
        have hfresh : conn ∉ (s.pools.servers srv).created := by
          obtain ⟨result, hstep, -, -⟩ := serve_some hopen
          simp only [ServerPool.step, Option.ite_none_left_eq_some] at hstep
          simpa using hstep.1
        obtain ⟨hcons, hsuits⟩ := h₂.openedFor taker
        refine h₂.replace hcons (fun t r hr hconn => ?_) fun i hi => ?_
        · obtain ⟨t₁, r₁, hr₁, hconn₁⟩ := h₁.reserved_old (fun _ _ => id) hadd hr
          obtain ⟨t₀, r₀, hr₀, hconn₀⟩ := h.reserved_old (fun _ _ => id) hopen hr₁
          apply hfresh
          rw [← hconn, ← hconn₁, ← hconn₀]
          exact h.reserved_created hr₀
        · rw [hsession i hi]
          exact hsuits

variable {profile : Option ProxyProtocol}

theorem Inv.connect
    {session : Nat} {config : StartupConfig}
    (h : s.Inv addresses streams)
    (hstep : s.connect addresses session srv conn config profile = some s') :
    s'.Inv addresses streams := by
  unfold IdentityPool.connect at hstep
  dsimp only at hstep
  rw [Option.ite_none_left_eq_some, Option.some.injEq] at hstep
  obtain ⟨hguard, rfl⟩ := hstep
  simp only [Bool.or_eq_true, Bool.not_eq_true', Bool.or_eq_false_iff, not_or, not_and,
    Bool.not_eq_true, Bool.not_eq_false, beq_iff_eq] at hguard
  obtain ⟨hnew, hholder⟩ := hguard
  have hcons := h.backends srv conn
  have hstream := (h.sessions session).1
  cases hset : (s.backends srv conn).settingsSet with
  | true =>
      rcases connectStart_of_set hset with
        hsame | hstarted
      · rw [hsame]
        exact h.rekey hcons rfl
      · rw [hstarted]
        refine h.changeBackend (hcons.start hset) (fun key hown => ?_) fun i hi hc => ?_
        · exact ⟨rfl, hown.generation, hown.identity⟩
        · exact h.held srv conn i hi ⟨hc.settings, hc.emits, hc.mode, hc.identity⟩
  | false =>
      obtain ⟨hconnected, hsuits⟩ := connectStart_of_unset
        hcons hnew hset session
      rw [hstream]
      refine h.changeBackend hconnected (fun key hown => ?_) fun i hi hc => ?_
      · rw [hown.started] at hnew
        cases hnew
      · have hsession := hholder hset
        rw [hsession] at hi
        obtain rfl := Option.some.inj hi
        exact hsuits hc

/-! ## Taking -/

theorem Inv.suits_of_admits
    (h : s.Inv addresses streams)
    (hadmits : s.admits addresses taker profile srv conn = true)
    (hc : (s.backends srv conn).CarriesClient) :
    (s.backends srv conn).Suits addresses (streams taker.session) := by
  rw [admits, (h.sessions taker.session).1] at hadmits
  exact suits_of_startupAdmits (h.backends srv conn) hc hadmits

variable {facts : ReuseFacts}

/-- The check of a request that a key or a comparison has found. -/
theorem Inv.classify
    {request : PoolRequest}
    (hapart : KeysApart addresses streams)
    (h : s.Inv addresses streams)
    (hasks : Asks addresses taker.config (streams taker.session) request) :
    (s.setBackend srv conn (s.classify addresses taker facts request srv conn).2).Inv addresses
        streams ∧
      SameStart (s.backends srv conn) (s.classify addresses taker facts request srv conn).2 ∧
      ((s.classify addresses taker facts request srv conn).1.isReusable = true →
        (s.backends srv conn).CarriesClient →
        (s.backends srv conn).Suits addresses (streams taker.session)) := by
  have hcons := h.backends srv conn
  rw [IdentityPool.classify, (h.sessions taker.session).1]
  obtain ⟨hcons', hsame⟩ := hcons.classify hasks
  exact ⟨h.rekey hcons' hsame, hsame,
    fun hstate hc => suits_of_classify hapart hcons hasks hc hstate⟩

/-- A session gets a connection after its key was filled in. -/
theorem Inv.giveRekeyed
    {i : Nat}
    (h : (s.setBackend srv conn b).Inv addresses streams)
    (hsame : SameStart (s.backends srv conn) b)
    (hsuits : (s.backends srv conn).CarriesClient →
      (s.backends srv conn).Suits addresses (streams i)) :
    ((s.setBackend srv conn b).setHolder srv conn (some i)).Inv addresses streams := by
  refine h.give fun hc => ?_
  rw [backends_setBackend, if_pos ⟨rfl, rfl⟩] at hc ⊢
  exact hsame.suits (hsuits (hsame.carriesClient hc))

variable {search : PoolSearch}

theorem client_withStartup
    {admits : Nat → Bool} {view : ClientView}
    (hview : (search.withStartup admits).client = some view) :
    view.startupAdmits = admits := by
  simp only [PoolSearch.withStartup, Option.map_eq_some_iff] at hview
  obtain ⟨view', -, rfl⟩ := hview
  rfl

theorem Inv.takeClassic
    (h : s.Inv addresses streams)
    (hstep : s.takeClassic addresses hostgroup taker profile srv search = some s') :
    s'.Inv addresses streams := by
  unfold IdentityPool.takeClassic at hstep
  rw [Option.ite_none_left_eq_some] at hstep
  obtain ⟨hclient, hstep⟩ := hstep
  split at hstep
  · cases hstep
  · rename_i s₁ hserve
    obtain rfl := Option.some.inj hstep
    exact h.serveQuiet (fun _ _ => id) hserve
  · rename_i conn s₁ hserve
    obtain rfl := Option.some.inj hstep
    have h₁ := h.serveQuiet (fun _ _ => id) hserve
    have hold := fun t r => h.reserved_old (t := t) (r := r) (fun _ _ => id) hserve
    obtain ⟨result, htake, hgiven, rfl⟩ := serve_some hserve
    simp only [ServerPool.step, Option.ite_none_left_eq_some, Option.some.injEq] at htake
    obtain ⟨hfresh, rfl⟩ := htake
    dsimp only at hgiven
    split
    · -- it was opened for the session
      rename_i heq
      refine h₁.replace .empty (fun t r hr hconn => ?_) fun i _ hc => ?_
      · obtain ⟨t', r', hr', hconn'⟩ := hold t r hr
        have hcreated := h.reserved_created hr'
        rw [hconn', hconn, heq] at hcreated
        simp only [ServerPool.searchFresh, PoolSearch.withStartup, Bool.not_not,
          List.contains_eq_mem, decide_eq_true_eq] at hfresh
        exact hfresh (by simpa using hcreated)
      · exact absurd hc.settings Bool.false_ne_true
    · rename_i hne
      refine h₁.give fun hc => ?_
      rcases ServerPool.admitted_takeClassic (h.base.pools srv)
        (by simpa [PoolSearch.withStartup, Option.isSome_iff_ne_none] using hclient)
        hgiven.symm with ⟨-, heq⟩ | ⟨view, hview, hadmits⟩
      · exact absurd heq hne
      · rw [client_withStartup hview] at hadmits
        exact h.suits_of_admits hadmits hc

theorem Inv.takeReader
    {allowReset strict : Bool}
    {facts : Nat → ReuseFacts}
    (hapart : KeysApart addresses streams)
    (h : s.Inv addresses streams)
    (hstep : s.takeReader addresses hostgroup taker profile srv allowReset strict search facts =
      some s') :
    s'.Inv addresses streams := by
  obtain ⟨h₀, hasks⟩ := h.prepare taker
  unfold IdentityPool.takeReader at hstep
  generalize hprepare : s.prepare addresses taker = prepared at hstep h₀ hasks
  obtain ⟨request, s₀⟩ := prepared
  dsimp only at hstep h₀ hasks
  split at hstep
  · obtain rfl := Option.some.inj hstep
    exact h₀
  · rename_i hready
    rw [Bool.or_eq_true, not_or] at hready
    split at hstep
    · cases hstep
    · rename_i s₁ hserve
      obtain rfl := Option.some.inj hstep
      exact h₀.serveQuiet (fun _ _ => id) hserve
    · rename_i conn s₁ hserve
      obtain rfl := Option.some.inj hstep
      have h₁ := h₀.serveQuiet (fun _ _ => id) hserve
      obtain ⟨h₂, hsame, hsuits⟩ := h₁.classify
        hapart hasks
      split
      · split
        · rename_i hstate
          rw [beq_iff_eq] at hstate
          exact h₂.giveRekeyed hsame (hsuits (by rw [hstate]; rfl))
        · exact h₂
      · rename_i hexact
        split
        · rename_i hacceptable
          refine h₂.giveRekeyed hsame fun hc => ?_
          rw [Bool.or_eq_true] at hacceptable
          rcases hacceptable with hdead | hreusable
          · -- a connection that is not connected was found by the search
            obtain ⟨result, htake, hgiven, rfl⟩ := serve_some hserve
            simp only [ServerPool.step, Option.ite_none_left_eq_some, Option.some.injEq] at htake
            obtain ⟨-, rfl⟩ := htake
            rw [Bool.or_eq_true, not_or, exactHit, Bool.not_eq_true,
              Option.isSome_eq_false_iff, Option.isNone_iff_eq_none] at hexact
            obtain ⟨view, hview, hadmits⟩ := ServerPool.admitted_takeExisting
              (h₀.base.pools srv)
              (by simpa [PoolSearch.withStartup, Option.isSome_iff_ne_none] using hready.1)
              (fun _ => hexact.1) hgiven.symm
            rw [client_withStartup hview] at hadmits
            exact h₀.suits_of_admits hadmits hc
          · exact hsuits hreusable hc
        · exact h₂

variable {worker : Nat}

theorem Inv.takeLocalReader
    {facts : Nat → ReuseFacts}
    (hapart : KeysApart addresses streams)
    (h : s.Inv addresses streams)
    (hstep : s.takeLocalReader addresses worker taker srv facts = some s') :
    s'.Inv addresses streams := by
  obtain ⟨h₀, hasks⟩ := h.prepare taker
  unfold IdentityPool.takeLocalReader at hstep
  generalize hprepare : s.prepare addresses taker = prepared at hstep h₀ hasks
  obtain ⟨request, s₀⟩ := prepared
  dsimp only at hstep h₀ hasks
  split at hstep
  · obtain rfl := Option.some.inj hstep
    exact h₀
  · split at hstep
    · obtain rfl := Option.some.inj hstep
      exact h₀
    · rename_i index _
      split at hstep
      · obtain rfl := Option.some.inj hstep
        exact h₀
      · rename_i conn _
        obtain rfl := Option.some.inj hstep
        obtain ⟨h₂, hsame, hsuits⟩ := (h₀.withCached (Function.update s₀.cached worker
          (swapRemove (s₀.cached worker) index))).classify hapart hasks
        split
        · rename_i hexact
          exact h₂.giveRekeyed hsame (hsuits (by rw [hexact]; rfl))
        · exact h₂

theorem Inv.suits_of_localMatches
    {request : Option PoolRequest} {hid : Nat}
    {facts : Nat → Nat → ReuseFacts}
    (hapart : KeysApart addresses streams)
    (h : s.Inv addresses streams)
    (hasks : ∀ q, request = some q → Asks addresses taker.config (streams taker.session) q)
    (hmatch : s.localMatches addresses hostgroup taker profile request hid facts (srv, conn) = true)
    (hc : (s.backends srv conn).CarriesClient) :
    (s.backends srv conn).Suits addresses (streams taker.session) := by
  unfold localMatches at hmatch
  dsimp only at hmatch
  split at hmatch
  · cases hmatch
  · split at hmatch
    · split at hmatch
      · cases hmatch
      · rename_i q
        rw [beq_iff_eq] at hmatch
        exact (h.classify hapart (hasks q rfl)).2.2 (by rw [hmatch]; rfl) hc
    · simp only [Bool.and_eq_true] at hmatch
      exact h.suits_of_admits hmatch.1.1.1 hc

theorem Inv.takeLocal
    {keyedReuse : Bool} {hid : Nat}
    {facts : Nat → Nat → ReuseFacts}
    (hapart : KeysApart addresses streams)
    (h : s.Inv addresses streams)
    (hstep : s.takeLocal addresses hostgroup worker taker profile keyedReuse hid facts = some s') :
    s'.Inv addresses streams := by
  obtain ⟨h₀, hasks⟩ := h.prepare taker
  unfold IdentityPool.takeLocal at hstep
  generalize hprepare : (if keyedReuse = true then
    (some (s.prepare addresses taker).1, (s.prepare addresses taker).2) else (none, s)) = prepared
    at hstep
  obtain ⟨request, s₁⟩ := prepared
  have h₁ : s₁.Inv addresses streams ∧
      ∀ q, request = some q → Asks addresses taker.config (streams taker.session) q := by
    split at hprepare
    · cases hprepare
      exact ⟨h₀, fun q hq => by obtain rfl := Option.some.inj hq; exact hasks⟩
    · cases hprepare
      exact ⟨h, fun q hq => by cases hq⟩
  dsimp only at hstep
  split at hstep
  · obtain rfl := Option.some.inj hstep
    exact h₁.1
  · rename_i index hindex
    split at hstep
    · obtain rfl := Option.some.inj hstep
      exact h₁.1
    · rename_i srv conn hentry
      obtain rfl := Option.some.inj hstep
      refine (h₁.1.withCached _).give fun hc => ?_
      obtain ⟨hlt, hmatch, -⟩ := List.findIdx?_eq_some_iff_getElem.mp hindex
      rw [List.getElem?_eq_getElem hlt, Option.some.injEq] at hentry
      rw [hentry] at hmatch
      have hsuits := h₁.1.suits_of_localMatches hapart h₁.2 hmatch hc
      exact hsuits

variable {check : RequestCheck}

theorem Inv.cancelAwaited
    (h : s.Inv addresses streams)
    (hstep : s.cancelAwaited hostgroup worker srv check = some s') :
    s'.Inv addresses streams := by
  unfold IdentityPool.cancelAwaited at hstep
  split at hstep
  · cases hstep
  · obtain ⟨⟨given, s₁⟩, hserve, rfl⟩ := Option.map_eq_some_iff.mp hstep
    exact (h.serveQuiet (fun _ _ => id) hserve).dropAwaited worker

theorem Inv.takeReservation
    (hapart : KeysApart addresses streams)
    (h : s.Inv addresses streams)
    (hstep : s.takeReservation addresses hostgroup worker taker srv check = some s') :
    s'.Inv addresses streams := by
  obtain ⟨h₀, hasks⟩ := h.prepare taker
  have hawaited : (s.prepare addresses taker).2.awaited = s.awaited := rfl
  unfold IdentityPool.takeReservation at hstep
  split at hstep
  · cases hstep
  · rename_i awaited hw
    rw [Option.ite_none_left_eq_some] at hstep
    obtain ⟨-, hstep⟩ := hstep
    generalize hprepare : s.prepare addresses taker = prepared at hstep h₀ hasks hawaited
    obtain ⟨request, s₀⟩ := prepared
    dsimp only at hstep h₀ hasks hawaited
    split at hstep
    · exact h₀.cancelAwaited hstep
    · rename_i hkey
      simp only [Bool.or_eq_true, decide_eq_true_eq, not_or, ne_eq, not_not] at hkey
      split at hstep
      · cases hstep
      · rename_i given s₁ hserve
        have h₁ := h₀.serveQuiet (fun _ _ => id) hserve
        have h₂ : ∀ {b : Prop} [Decidable b], (if b then s₁ else
            { s₁ with awaited := Function.update s₁.awaited worker none } :
              IdentityPool).Inv addresses streams := by
          intro b _
          split
          · exact h₁
          · exact h₁.dropAwaited worker
        split at hstep
        · obtain rfl := Option.some.inj hstep
          exact h₂
        · rename_i conn
          obtain rfl := Option.some.inj hstep
          refine h₂.give fun hc => ?_
          -- the connection was reserved under the key of the request
          obtain ⟨result, htake, hgiven, rfl⟩ := serve_some hserve
          obtain rfl := Option.some.inj htake
          obtain ⟨r, hr, -, rfl⟩ := ((h₀.base.pools srv).takeReservation _ worker
            awaited.token).2.2 conn hgiven.symm
          have hreserved := (h₀.awaits worker awaited (by rw [hawaited]; exact hw)).reserved srv r hr
          have hsuits := suits_of_matchKey hapart (h₀.backends srv r.conn) hasks
            (by split at hc <;> exact hc) (h₀.reserved srv awaited.token r hr)
            (hkey.2.trans hreserved.symm)
          split <;> exact hsuits

/-! ## Returning -/

variable {r : Returning}

theorem Consistent.returnCheck
    {checked : Bool}
    (h : b.Consistent addresses streams)
    (hchecked : checked = true → b.OwnKey b.matchKey) :
    (b.returnCheck r checked).2.Consistent addresses streams ∧
      SameStart b (b.returnCheck r checked).2 ∧
      ((b.returnCheck r checked).1 = true →
        (b.returnCheck r checked).2.OwnKey (b.returnCheck r checked).2.matchKey) := by
  obtain ⟨hdecided, hsame, hown⟩ := h.returnDecision r.facts r.profile
  unfold BackendStartup.returnCheck
  split
  · exact ⟨h, rfl, fun hr => by cases hr⟩
  · split
    · rename_i hck
      exact ⟨h, rfl, fun _ => hchecked hck⟩
    · exact ⟨hdecided, hsame, fun hr => hown (by simpa using hr)⟩

/-- A connection that is given back is stored under its own key. -/
theorem Inv.returnExact
    {excludedWorker : Nat} {checked : Bool}
    (h : s.Inv addresses streams)
    (hchecked : checked = true → (s.backends srv conn).OwnKey (s.backends srv conn).matchKey)
    (hstep : s.returnExact hostgroup srv conn excludedWorker r checked = some s') :
    s'.Inv addresses streams := by
  obtain ⟨hcons, hsame, hown⟩ := Consistent.returnCheck (r := r) (h.backends srv conn) hchecked
  unfold IdentityPool.returnExact at hstep
  generalize hcheck : (s.backends srv conn).returnCheck r checked = decided
    at hstep hcons hsame hown
  obtain ⟨returnable, b⟩ := decided
  dsimp only at hstep hcons hsame hown
  obtain ⟨given, hserve⟩ := serve_snd hstep
  refine ((h.rekey hcons hsame).release srv conn).serve ?_ hserve
  intro c k hop
  split at hop
  · rename_i hr
    obtain ⟨rfl, rfl⟩ := hop
    change ((s.setBackend srv c b).backends srv c).OwnKey b.matchKey
    rw [backends_setBackend, if_pos ⟨rfl, rfl⟩]
    exact hown hr
  · exact absurd hop id

theorem Inv.returnShared
    {excludedWorker : Nat}
    (h : s.Inv addresses streams)
    (hstep : s.returnShared hostgroup srv conn excludedWorker r = some s') :
    s'.Inv addresses streams := by
  unfold IdentityPool.returnShared at hstep
  split at hstep
  · exact h.returnExact (fun hc => absurd hc Bool.false_ne_true) hstep
  · obtain ⟨given, hserve⟩ := serve_snd hstep
    exact (h.release srv conn).serveQuiet (fun _ _ => id) hserve

theorem Inv.keepLocal
    (h : s.Inv addresses streams)
    (worker srv conn : Nat) :
    (s.keepLocal worker srv conn).Inv addresses streams :=
  (h.withCached _).release srv conn

theorem Consistent.localReturnDecision
    {profile : Option StartupProfile} {served : Bool}
    {wanted : PoolMatchKey → Bool}
    (h : b.Consistent addresses streams) :
    (b.localReturnDecision facts profile served wanted).2.Consistent addresses streams ∧
      SameStart b (b.localReturnDecision facts profile served wanted).2 ∧
      ((b.localReturnDecision facts profile served wanted).1 = .useSharedPoolReuseChecked →
        (b.localReturnDecision facts profile served wanted).2.OwnKey
          (b.localReturnDecision facts profile served wanted).2.matchKey) := by
  have hdecided := h.returnDecision facts profile
  unfold BackendStartup.localReturnDecision
  split
  · exact ⟨h, rfl, fun hs => by cases hs⟩
  · split
    · rename_i b' heq
      rw [heq] at hdecided
      exact ⟨hdecided.1, hdecided.2.1, fun _ => hdecided.2.2 rfl⟩
    · rename_i status b' hne heq
      rw [heq] at hdecided
      exact ⟨hdecided.1, hdecided.2.1, fun hs => by cases hs⟩

theorem Inv.returnLocal
    (h : s.Inv addresses streams)
    (hstep : s.returnLocal hostgroup worker srv conn r = some s') :
    s'.Inv addresses streams := by
  obtain ⟨hcons, hsame, hown⟩ := Consistent.localReturnDecision (h.backends srv conn)
  unfold IdentityPool.returnLocal at hstep
  generalize hdecision : (s.backends srv conn).localReturnDecision r.facts r.profile r.served
    r.wanted = decided at hstep hcons hsame hown
  obtain ⟨decision, b⟩ := decided
  dsimp only at hstep hcons hsame hown
  have h₁ := h.rekey hcons hsame
  split at hstep
  · obtain rfl := Option.some.inj hstep
    exact h₁.keepLocal worker srv conn
  · obtain ⟨given, hserve⟩ := serve_snd hstep
    exact (h₁.release srv conn).serveQuiet (fun _ _ => id) hserve
  · refine h₁.returnExact (fun _ => ?_) hstep
    rw [backends_setBackend, if_pos ⟨rfl, rfl⟩]
    exact hown rfl
  · split at hstep
    · exact h₁.returnExact (fun hc => absurd hc Bool.false_ne_true) hstep
    · split at hstep
      · obtain rfl := Option.some.inj hstep
        exact h₁.keepLocal worker srv conn
      · exact h₁.returnShared hstep

theorem Inv.returnCached
    {worker index : Nat}
    (h : s.Inv addresses streams)
    (hstep : s.returnCached hostgroup worker index r = some s') :
    s'.Inv addresses streams := by
  unfold IdentityPool.returnCached at hstep
  split at hstep
  · cases hstep
  · exact (h.withCached _).returnShared hstep

theorem Inv.reserveRetained
    {retained : PoolMatchKey}
    (h : s.Inv addresses streams)
    (hstep : s.reserveRetained hostgroup worker srv conn retained r = some s') :
    s'.Inv addresses streams := by
  obtain ⟨hcons, hsame, hown⟩ := (h.backends srv conn).returnDecision r.facts r.profile
  unfold IdentityPool.reserveRetained at hstep
  generalize hdecision : (s.backends srv conn).returnDecision r.facts r.profile = decided
    at hstep hcons hsame hown
  obtain ⟨status, b⟩ := decided
  dsimp only at hstep hcons hsame hown
  split at hstep
  · obtain rfl := Option.some.inj hstep
    exact h
  · split at hstep
    · obtain rfl := Option.some.inj hstep
      exact h.rekey hcons hsame
    · rename_i hreturnable
      rw [not_or, not_not, not_not] at hreturnable
      obtain ⟨given, hserve⟩ := serve_snd hstep
      refine ((h.rekey hcons hsame).release srv conn).serve ?_ hserve
      rintro c k ⟨rfl, rfl⟩
      change ((s.setBackend srv c b).backends srv c).OwnKey b.matchKey
      rw [backends_setBackend, if_pos ⟨rfl, rfl⟩]
      exact hown hreturnable.1

theorem Inv.addWarm
    (h : s.Inv addresses streams)
    (hstep : s.addWarm hostgroup srv conn facts check = some s') :
    s'.Inv addresses streams := by
  unfold IdentityPool.addWarm at hstep
  dsimp only at hstep
  rw [Option.ite_none_left_eq_some] at hstep
  obtain ⟨hconnected, hstep⟩ := hstep
  have hsame := sameStart_ensurePoolKey (b := s.backends srv conn) facts
    (s.backends srv conn).profile.emitsStartupParams
  have hstarted : (s.backends srv conn).started = true := by
    rw [hsame] at hconnected
    simp only [isConnected, Bool.not_eq_true', Bool.not_eq_false, Bool.and_eq_true] at hconnected
    exact hconnected.1
  have hcons := h.backends srv conn
  obtain ⟨given, hserve⟩ := serve_snd hstep
  refine (h.rekey (hcons.ensurePoolKey hstarted id) hsame).serve ?_ hserve
  rintro c k ⟨rfl, rfl⟩
  rw [backends_setBackend, if_pos ⟨rfl, rfl⟩]
  exact hcons.ownKey_ensurePoolKey hstarted

/-! ## Requests -/

theorem Inv.cancelRequest
    {hid worker token : Nat} {pools : PoolSystem}
    (h : s.Inv addresses streams)
    (hstep : s.pools.step hostgroup (.cancelRequest hid worker token) = some pools) :
    Inv addresses streams { s with pools := pools } := by
  have hbase := h.base.step hstep
  simp only [PoolSystem.step] at hstep
  split at hstep
  · obtain rfl := Option.some.inj hstep
    exact h
  · rename_i requests hcancel
    obtain ⟨request, -, -, -, rfl⟩ := ServerPool.cancelRequest_some hcancel
    obtain rfl := Option.some.inj hstep
    refine { h with base := hbase, awaits := fun w awaited hw => ?_ }
    have hawaits := h.awaits w awaited hw
    refine ⟨hawaits.issued, fun hid' q hq => ?_, hawaits.reserved⟩
    dsimp only at hq
    by_cases hh : hid' = hid
    · subst hh
      rw [Function.update_self] at hq
      exact hawaits.pending hid' q (List.mem_of_mem_erase hq)
    · rw [Function.update_of_ne hh] at hq
      exact hawaits.pending hid' q hq

/-- A token that is not issued yet is neither pending nor reserved. -/
theorem Inv.nextToken_new
    (h : s.Inv addresses streams) :
    (∀ hid, ∀ q ∈ s.pools.requests hid, q.token < s.pools.nextToken) ∧
      ∀ srv t r, (s.pools.servers srv).reservations.lookup t = some r → t < s.pools.nextToken :=
  ⟨fun hid q hq => h.base.issued _ (h.base.pending hid q hq).1,
    fun srv t r hr => h.base.issued _ (h.base.holder srv t r hr)⟩

theorem Inv.register
    {worker session hid scopeHash : Nat} {key : PoolMatchKey} {requireReplica : Bool}
    (h : s.Inv addresses streams)
    (hstep : s.register hostgroup worker session hid scopeHash key requireReplica = some s') :
    s'.Inv addresses streams := by
  obtain ⟨pools, hpools, rfl⟩ := Option.map_eq_some_iff.mp hstep
  have hbase := h.base.step hpools
  obtain ⟨hpending, hreserved⟩ := h.nextToken_new
  simp only [PoolSystem.step] at hpools
  split at hpools
  · rename_i hrefused
    obtain rfl := Option.some.inj hpools
    rw [hrefused]
    refine { h with base := hbase, awaits := fun w awaited hw => ?_ }
    have hawaits := h.awaits w awaited hw
    exact ⟨Nat.lt_succ_of_lt hawaits.issued, hawaits.pending, hawaits.reserved⟩
  · rename_i requests hregistered
    obtain rfl := PoolSystem.registerRequest_some hregistered
    obtain rfl := Option.some.inj hpools
    rw [hregistered]
    -- the requests of any hostgroup, with the new one
    have hrequests : ∀ hid', ∀ q ∈ Function.update s.pools.requests hid (s.pools.requests hid ++
        [⟨worker, s.pools.nextToken, scopeHash, key⟩]) hid',
        q ∈ s.pools.requests hid' ∨ q = ⟨worker, s.pools.nextToken, scopeHash, key⟩ := by
      intro hid' q hq
      by_cases hh : hid' = hid
      · subst hh
        rw [Function.update_self, List.mem_append, List.mem_singleton] at hq
        exact hq
      · rw [Function.update_of_ne hh] at hq
        exact Or.inl hq
    refine { h with base := hbase, awaits := fun w awaited hw => ?_ }
    simp only [Option.isSome_some, ↓reduceIte] at hw
    by_cases hworker : w = worker
    · subst hworker
      rw [Function.update_self] at hw
      obtain rfl := Option.some.inj hw
      refine ⟨Nat.lt_succ_self _, fun hid' q hq htoken => ?_, fun srv r hr => ?_⟩
      · rcases hrequests hid' q hq with hold | rfl
        · exact absurd htoken (Nat.ne_of_lt (hpending hid' q hold))
        · rfl
      · exact absurd (hreserved srv _ r hr) (Nat.lt_irrefl _)
    · rw [Function.update_of_ne hworker] at hw
      have hawaits := h.awaits w awaited hw
      refine ⟨Nat.lt_succ_of_lt hawaits.issued, fun hid' q hq htoken => ?_, hawaits.reserved⟩
      rcases hrequests hid' q hq with hold | rfl
      · exact hawaits.pending hid' q hold htoken
      · exact absurd htoken.symm (Nat.ne_of_lt hawaits.issued)

/-! ## Runs -/

theorem quiet_of_isMaintenance
    (hop : op.isMaintenance = true)
    (c : Nat) (k : PoolMatchKey) :
    ¬ op.Stores c k := by
  cases op <;> first | exact id | cases hop

theorem Inv.step
    {op : IdentityOp}
    (hapart : KeysApart addresses streams)
    (h : s.Inv addresses streams)
    (hstep : step addresses hostgroup s op = some s') :
    s'.Inv addresses streams := by
  cases op with
  | maintain srv op =>
      simp only [IdentityPool.step, Option.ite_none_left_eq_some] at hstep
      obtain ⟨hop, hstep⟩ := hstep
      obtain ⟨given, hserve⟩ := serve_snd hstep
      exact h.serveQuiet (quiet_of_isMaintenance (by simpa using hop)) hserve
  | cancelRequest hid worker token =>
      obtain ⟨pools, hpools, rfl⟩ := Option.map_eq_some_iff.mp hstep
      exact h.cancelRequest hpools
  | clearKey srv conn =>
      obtain rfl := Option.some.inj hstep
      exact h.rekey (h.backends srv conn).clearKey rfl
  | createReader taker srv conn =>
      exact (h.prepare taker).1.openFor (fun i hi => (Option.some.inj hi).symm) hstep
  | warmup taker srv conn =>
      exact h.openFor (fun i hi => by cases hi) hstep
  | addWarm srv conn facts check =>
      exact h.addWarm hstep
  | connect session srv conn config profile =>
      exact h.connect hstep
  | takeClassic taker profile srv search =>
      exact h.takeClassic hstep
  | takeReader taker profile srv allowReset strict search facts =>
      exact h.takeReader hapart hstep
  | takeLocalReader worker taker srv facts =>
      exact h.takeLocalReader hapart hstep
  | takeLocal worker taker profile keyedReuse hid facts =>
      exact h.takeLocal hapart hstep
  | takeReservation worker taker srv check =>
      exact h.takeReservation hapart hstep
  | cancelAwaited worker srv check =>
      exact h.cancelAwaited hstep
  | register worker session hid scopeHash key requireReplica =>
      exact h.register hstep
  | returnShared srv conn excludedWorker r =>
      exact h.returnShared hstep
  | returnLocal worker srv conn r =>
      exact h.returnLocal hstep
  | returnCached worker index r =>
      exact h.returnCached hstep
  | reserveRetained worker srv conn retained r =>
      exact h.reserveRetained hstep

/-- A connection that was started with the identity of a client is had only by
sessions whose startup context is compatible with the one it was started with,
whatever operations the pools, the workers and the sessions run. -/
theorem client_identity_isolation
    (addresses : AddressSyntax) (hostgroup : Nat → Nat) (maxConnections : Nat → Int)
    (streams : Nat → ClientStream)
    (hapart : KeysApart addresses streams)
    {ops : List IdentityOp} {s : IdentityPool}
    (hrun : Run (fun s op s' => step addresses hostgroup s op = some s')
      (init maxConnections streams) ops s)
    {srv conn session : Nat}
    (hheld : s.holder srv conn = some session)
    (hclient : (s.backends srv conn).CarriesClient) :
    (s.backends srv conn).Suits addresses (streams session) := by
  have hinv : s.Inv addresses streams := hrun.invariant (I := Inv addresses streams)
    (Inv.init maxConnections) (fun h hstep => h.step hapart hstep)
  exact hinv.held srv conn session hheld hclient

/-- A client at one address, all others at another. -/
def twoClients : Nat → ClientStream :=
  fun i => { addr := ⟨if i = 0 then "10.0.0.1" else "10.0.0.2", 5000⟩ }

/-- `inet_pton` on the addresses of the two. -/
def twoAddresses : AddressSyntax :=
  ⟨fun host => host == "10.0.0.1" || host == "10.0.0.2", fun _ => false⟩

theorem keysApart_twoClients :
    KeysApart twoAddresses twoClients := by
  have hcontext : ∀ i, (twoClients i).clientContext twoAddresses =
      some { identity := ⟨if i = 0 then "10.0.0.1" else "10.0.0.2", 5000, .client⟩ } := by
    intro i
    by_cases hi : i = 0
    · subst hi
      rfl
    · simp only [twoClients, hi, ↓reduceIte]
      rfl
  have hne : ({ identity := ⟨"10.0.0.1", 5000, .client⟩ } : StartupClientContext).reuseKey ≠
      ({ identity := ⟨"10.0.0.2", 5000, .client⟩ } : StartupClientContext).reuseKey := by
    decide +kernel
  intro i j a b ha hb hkey
  rw [hcontext, Option.some.injEq] at ha hb
  subst ha hb
  by_cases hi : i = 0 <;> by_cases hj : j = 0
  · simp [hi, hj]
  · simp only [hi, hj, ↓reduceIte] at hkey
    exact absurd hkey hne
  · simp only [hi, hj, ↓reduceIte] at hkey
    exact absurd hkey.symm hne
  · simp [hi, hj]

/-- A session looks for a connection to a server, and may open a given one. -/
def looksFor (session srv fresh : Nat) : IdentityOp :=
  .takeClassic ⟨session, ⟨.client, "", 0, 1⟩, .v15, false, 1, 1⟩ (some .v15) srv
    { client := some ⟨fun _ => true, fun _ => true, fun _ => false, fun _ => (1, 0)⟩
      random := 0
      fresh := fresh }

/-- Two clients take turns: the connection that one of them started goes back to it, and
the other one opens its own. -/
theorem client_identity_isolation_turns :
    ∃ s, Run (fun s op s' => step twoAddresses (fun _ => 0) s op = some s')
        (init (fun _ => 10) twoClients)
        [looksFor 0 4 7, .connect 0 4 7 ⟨.client, "", 0, 1⟩ (some .v15),
          .returnShared 4 7 noWorker
            { facts := {}, protocol := some .v15, check := ⟨true, fun _ => true⟩ },
          looksFor 1 4 8, looksFor 0 4 9] s ∧
      s.holder 4 7 = some 0 ∧ s.holder 4 8 = some 1 ∧ (s.backends 4 7).CarriesClient ∧
      (s.backends 4 7).Suits twoAddresses (twoClients 0) := by
  have hrun := Run.of_foldlM (f := step twoAddresses fun _ => 0)
    (s := init (fun _ => 10) twoClients)
    [looksFor 0 4 7, .connect 0 4 7 ⟨.client, "", 0, 1⟩ (some .v15),
      .returnShared 4 7 noWorker
        { facts := {}, protocol := some .v15, check := ⟨true, fun _ => true⟩ },
      looksFor 1 4 8, looksFor 0 4 9] rfl
  refine ⟨_, hrun, rfl, rfl, ⟨rfl, by decide, rfl, by decide⟩, ?_⟩
  exact client_identity_isolation twoAddresses (fun _ => 0) (fun _ => 10) twoClients
    keysApart_twoClients hrun rfl ⟨rfl, by decide, rfl, by decide⟩

end IdentityPool

end PolarProxy
