import PolarProxy.StartupIdentity

/-!
# What the checks of a startup identity guarantee

A connection keeps its startup settings from its start on, and its key agrees with
them.  A check that lets a session have a connection that carries the identity of a
client then shows that the session is one of the same client, provided the reuse key
tells the clients apart (`KeysApart`).

**Results.** `Consistent`, `suits_of_startupAdmits`, `suits_of_classify`, `suits_of_matchKey`.
-/

namespace PolarProxy

/-- The reuse key is injective on the contexts of the clients. -/
def KeysApart (addresses : AddressSyntax) (streams : Nat → ClientStream) : Prop :=
  ∀ i j a b, (streams i).clientContext addresses = some a →
    (streams j).clientContext addresses = some b → a.reuseKey = b.reuseKey → a = b

namespace BackendStartup

/-- The connection was started with the identity of a client. -/
structure CarriesClient (b : BackendStartup) : Prop where
  settings : b.settingsSet = true
  emits : b.profile.emitsStartupParams = true
  mode : b.identityMode = .client
  identity : b.client.identity.source ≠ .none

/-- The context of a client is compatible with the one the connection was started
with. -/
def Suits (addresses : AddressSyntax) (b : BackendStartup) (stream : ClientStream) : Prop :=
  ∃ context, stream.clientContext addresses = some context ∧
    b.client.compatibleForReuse context = true

/-- The settings of a connection agree with each other, with its key, and with the
client they came from. -/
structure Consistent (addresses : AddressSyntax) (streams : Nat → ClientStream)
    (b : BackendStartup) : Prop where
  profile : b.profile = .fromProtocol b.profile.protocol
  generation : b.settingsSet = true → b.profileGeneration = b.profile.generation b.identityMode
  unset : b.started = true → b.settingsSet = false → b.profile.emitsStartupParams = false
  origin : b.CarriesClient → ∃ i, (streams i).clientContext addresses = some b.client
  key : b.poolKey.isEmpty = false → b.started = true ∧
    (b.profile.emitsStartupParams = true → b.poolKey.startupIdentityHash = b.client.reuseKey)

variable {addresses : AddressSyntax} {streams : Nat → ClientStream} {config : StartupConfig}
variable {b b' : BackendStartup} {stream : ClientStream} {facts : ReuseFacts}
variable {request : PoolRequest} {p : ProxyProtocol} {m : IdentityMode}

theorem Suits.of_eq
    {context : StartupClientContext}
    (hcontext : stream.clientContext addresses = some context)
    (heq : b.client = context) :
    b.Suits addresses stream :=
  ⟨context, hcontext, (b.client.compatibleForReuse_iff context).mpr heq⟩

theorem Consistent.empty :
    Consistent addresses streams {} where
  profile := rfl
  generation := by simp
  unset := by simp [StartupProfile.emitsStartupParams]
  origin := fun h => absurd h.settings Bool.false_ne_true
  key := by simp [PoolKey.isEmpty]

/-! ## Changing the key -/

/-- The connections differ in their keys at most. -/
def SameStart (b b' : BackendStartup) : Prop :=
  b' = { b with poolKey := b'.poolKey }

theorem SameStart.carriesClient
    (h : SameStart b b')
    (hc : b'.CarriesClient) :
    b.CarriesClient := by
  rw [h] at hc
  exact ⟨hc.settings, hc.emits, hc.mode, hc.identity⟩

theorem SameStart.suits
    (h : SameStart b b')
    (hs : b.Suits addresses stream) :
    b'.Suits addresses stream := by
  rw [h]
  exact hs

theorem sameStart_ensurePoolKey
    (facts : ReuseFacts) (rfq : Bool) :
    SameStart b (b.ensurePoolKey facts rfq) := by
  unfold ensurePoolKey
  split <;> rfl

theorem Consistent.ensurePoolKey
    {rfq : Bool}
    (h : b.Consistent addresses streams)
    (hstarted : b.started = true)
    (hrfq : b.profile.emitsStartupParams = true → rfq = true) :
    (b.ensurePoolKey facts rfq).Consistent addresses streams := by
  unfold BackendStartup.ensurePoolKey
  split
  · exact h
  · refine { h with
      origin := fun hc => h.origin ⟨hc.settings, hc.emits, hc.mode, hc.identity⟩
      key := fun _ => ⟨hstarted, ?_⟩ }
    intro hemits
    dsimp only
    rw [hrfq hemits, if_pos rfl]

theorem Consistent.clearKey
    (h : b.Consistent addresses streams) :
    Consistent addresses streams { b with poolKey := {} } :=
  { h with
    origin := fun hc => h.origin ⟨hc.settings, hc.emits, hc.mode, hc.identity⟩
    key := by simp [PoolKey.isEmpty] }

/-! ## Starting -/

theorem connectStart_of_set
    {profile : Option StartupProfile}
    (hset : b.settingsSet = true) :
    b.connectStart addresses config profile stream = b ∨
      b.connectStart addresses config profile stream = { b with started := true } := by
  obtain ⟨started, settingsSet, installed, mode, generation, configGeneration, client, key⟩ := b
  obtain rfl : settingsSet = true := hset
  simp only [connectStart, appendStartupParams, resolveStartupIdentity, Bool.or_true, ↓reduceIte]
  split
  · exact Or.inl rfl
  · rename_i b' hb
    right
    split at hb
    · obtain rfl := Option.some.inj hb
      rfl
    · split at hb
      · cases hb
      · obtain rfl := Option.some.inj hb
        rfl

theorem Consistent.start
    (h : b.Consistent addresses streams)
    (hset : b.settingsSet = true) :
    Consistent addresses streams { b with started := true } := by
  refine { h with
    unset := fun _ hunset => ?_
    origin := fun hc => h.origin ⟨hc.settings, hc.emits, hc.mode, hc.identity⟩
    key := fun hk => ⟨rfl, (h.key hk).2⟩ }
  rw [hset] at hunset
  cases hunset

/-- The settings a session gives a connection that has none. -/
theorem consistent_setStartupSettings
    {context : StartupClientContext} (generation : Nat)
    (hkey : b.poolKey.isEmpty = true)
    (horigin : (StartupProfile.fromProtocol p).emitsStartupParams = true → m = .client →
      context.identity.source ≠ .none → ∃ i, (streams i).clientContext addresses = some context) :
    (b.setStartupSettings (.fromProtocol p) m generation context).Consistent addresses streams where
  profile := rfl
  generation := fun _ => rfl
  unset := fun _ hset => absurd hset.symm Bool.false_ne_true
  origin := fun hc => horigin hc.emits hc.mode hc.identity
  key := by
    intro hk
    change b.poolKey.isEmpty = false at hk
    rw [hkey] at hk
    cases hk

theorem appendStartupParams_of_unset
    (hset : b.settingsSet = false)
    (happend : b.appendStartupParams addresses config (.fromProtocol p) stream = some b') :
    ∃ context, b' = b.setStartupSettings (.fromProtocol p) config.identityMode config.generation
        context ∧
      ((StartupProfile.fromProtocol p).emitsStartupParams = true → config.identityMode = .client →
        stream.clientContext addresses = some context) := by
  simp only [appendStartupParams, resolveStartupIdentity, hset, Bool.false_eq_true, ↓reduceIte]
    at happend
  split at happend
  · rename_i hquiet
    obtain rfl := Option.some.inj happend
    refine ⟨{}, rfl, fun hemits => ?_⟩
    rw [hemits] at hquiet
    cases hquiet
  · rw [Option.ite_none_left_eq_some, Option.some.injEq] at happend
    obtain ⟨hsource, rfl⟩ := happend
    refine ⟨_, rfl, fun _ hmode => ?_⟩
    rw [hmode] at hsource ⊢
    dsimp only at hsource ⊢
    cases hidentity : stream.clientIdentity addresses with
    | none =>
        rw [hidentity] at hsource
        exact absurd rfl hsource
    | some identity =>
        rw [ClientStream.clientContext, hidentity]
        rfl

/-- The first start of a connection takes the settings from its session. -/
theorem connectStart_of_unset
    {profile : Option ProxyProtocol}
    (h : b.Consistent addresses streams)
    (hnew : b.started = false)
    (hset : b.settingsSet = false)
    (i : Nat) :
    (b.connectStart addresses config (profile.map .fromProtocol) (streams i)).Consistent
        addresses streams ∧
      ((b.connectStart addresses config (profile.map .fromProtocol) (streams i)).CarriesClient →
        (b.connectStart addresses config (profile.map .fromProtocol) (streams i)).Suits addresses
          (streams i)) := by
  have hkey : b.poolKey.isEmpty = true := by
    by_contra hne
    have hstarted := (h.key (by simpa using hne)).1
    rw [hnew] at hstarted
    cases hstarted
  obtain ⟨started, settingsSet, installed, mode, generation, configGeneration, client, key⟩ := b
  obtain rfl : started = false := hnew
  obtain rfl : settingsSet = false := hset
  cases profile with
  | none =>
      -- in another hostgroup the settings stay unset
      refine ⟨⟨rfl, fun hs => ?_, fun _ _ => rfl, fun hc => ?_, fun hk => ?_⟩, fun hc => ?_⟩
      · exact absurd hs Bool.false_ne_true
      · exact absurd hc.settings Bool.false_ne_true
      · exact absurd (hkey.symm.trans hk) Bool.true_eq_false.mp
      · exact absurd hc.settings Bool.false_ne_true
  | some p =>
      simp only [connectStart, Option.map_some, Option.isSome_some, Bool.true_or,
        Bool.false_eq_true, ↓reduceIte, Option.getD_some]
      split
      · -- the connection is refused
        refine ⟨⟨rfl, fun hs => ?_, fun hs => ?_, fun hc => ?_, fun hk => ?_⟩, fun hc => ?_⟩
        · exact absurd hs Bool.false_ne_true
        · exact absurd hs Bool.false_ne_true
        · exact absurd hc.settings Bool.false_ne_true
        · exact absurd (hkey.symm.trans hk) Bool.true_eq_false.mp
        · exact absurd hc.settings Bool.false_ne_true
      · rename_i b' happend
        obtain ⟨context, rfl, hcontext⟩ := appendStartupParams_of_unset rfl happend
        have hcons := consistent_setStartupSettings config.generation
          (b := ⟨false, false, .fromProtocol p, config.identityMode,
            (StartupProfile.fromProtocol p).generation config.identityMode, configGeneration, client,
            key⟩)
          (p := p) (m := config.identityMode) hkey
          fun hemits hmode _ => ⟨i, hcontext hemits hmode⟩
        exact ⟨hcons.start rfl, fun hc => .of_eq (hcontext hc.emits hc.mode) rfl⟩

/-! ## Checking -/

/-- The word that carries profile and identity mode agrees with a request only if the
request is one of client mode. -/
theorem Consistent.mode_of_generation
    (h : b.Consistent addresses streams)
    (hc : b.CarriesClient)
    (hgeneration : b.profileGeneration = (StartupProfile.fromProtocol p).generation m) :
    b.profile = .fromProtocol p ∧ m = .client := by
  have hemits := hc.emits
  rw [h.generation hc.settings, hc.mode, h.profile] at hgeneration
  rw [h.profile] at hemits
  obtain ⟨hp, hm⟩ := StartupProfile.generation_inj hemits hgeneration
  exact ⟨by rw [h.profile, hp], hm.symm⟩

/-- The startup check of a search lets a session have the connections of its client. -/
theorem suits_of_startupAdmits
    {profile : Option ProxyProtocol}
    (h : b.Consistent addresses streams)
    (hc : b.CarriesClient)
    (hadmits : b.startupAdmits addresses config (profile.map .fromProtocol) stream = true) :
    b.Suits addresses stream := by
  cases profile with
  | none =>
      simp [startupAdmits, hc.settings, hc.emits] at hadmits
  | some p =>
      simp only [startupAdmits, Option.map_some, settingsMatch, hc.settings, Bool.not_true,
        Bool.false_or, Bool.not_eq_true', Bool.if_false_left, Bool.and_eq_true, Bool.not_eq_true',
        decide_eq_false_iff_not, Bool.not_eq_false, StartupProfile.matchesRequestGeneration,
        beq_iff_eq] at hadmits
      obtain ⟨⟨hgeneration, hprofile⟩, hmatch⟩ := hadmits
      obtain ⟨-, hmode⟩ := h.mode_of_generation hc hgeneration
      rw [← hprofile, hc.emits, if_pos rfl, startupClientFromSession_client hmode] at hmatch
      cases hcontext : stream.clientContext addresses with
      | none =>
          simp [hcontext] at hmatch
      | some context =>
          simp only [hcontext, Bool.true_eq_false, ↓reduceIte, Bool.and_eq_true] at hmatch
          exact ⟨context, hcontext, hmatch.2⟩

theorem Consistent.suits_of_hash
    {hash : Nat}
    (hapart : KeysApart addresses streams)
    (h : b.Consistent addresses streams)
    (hc : b.CarriesClient)
    (hown : hash = b.client.reuseKey)
    {i : Nat} {context : StartupClientContext}
    (hcontext : (streams i).clientContext addresses = some context)
    (hhash : hash = context.reuseKey) :
    b.Suits addresses (streams i) := by
  obtain ⟨j, horigin⟩ := h.origin hc
  exact .of_eq hcontext (hapart j i _ _ horigin hcontext (hown.symm.trans hhash))

/-- The comparison of the cached key finds no mismatch of state that could be reused. -/
theorem isReusable_cachedKeyMismatch
    {state : ReuseState}
    (h : b.cachedKeyMismatch request = some state) :
    state.isReusable = false := by
  unfold cachedKeyMismatch at h
  split at h
  · cases h
  · split at h
    · obtain rfl := Option.some.inj h
      rfl
    · split at h
      · obtain rfl := Option.some.inj h
        rfl
      · split at h
        · obtain rfl := Option.some.inj h
          rfl
        · cases h

/-- The request has the identity of the connection by the key or by comparison. -/
def SharesIdentity (addresses : AddressSyntax) (config : StartupConfig) (stream : ClientStream)
    (request : PoolRequest) (b : BackendStartup) : Prop :=
  b.poolKey.isEmpty = false ∧ b.poolKey.startupIdentityHash = request.key.startupIdentityHash ∨
    b.contextMatches addresses config stream = true

theorem classifyFully_reusable
    (hstate : (b.classifyFully addresses config stream facts request).1.isReusable = true)
    (hrfq : request.expectsRfq = true) :
    b.SharesIdentity addresses config stream request := by
  unfold classifyFully at hstate
  dsimp only at hstate
  split at hstate
  · cases hstate
  · split at hstate
    · cases hstate
    · rename_i hidentity
      rw [hrfq, Bool.true_and, Bool.true_and, Bool.and_eq_true, not_and_or] at hidentity
      rcases hidentity with hkey | hcontext
      · simp only [Bool.not_eq_true, Bool.not_eq_false', Bool.and_eq_true, beq_iff_eq] at hkey
        exact Or.inl ⟨by simpa using hkey.1.1, hkey.2⟩
      · exact Or.inr (by simpa using hcontext)

/-- A connection that a request may have is started and has the profile of the request,
and its identity if the request wants one. -/
theorem classify_reusable
    (hstate : (b.classify addresses config stream facts request).1.isReusable = true) :
    b.started = true ∧
      b.profileGeneration = request.startupProfile.generation request.identityMode ∧
      b.profile = request.startupProfile ∧
      (request.expectsRfq = true → b.SharesIdentity addresses config stream request) := by
  unfold classify at hstate
  split at hstate
  · cases hstate
  · split at hstate
    · cases hstate
    · rename_i hprofile
      split at hstate
      · cases hstate
      · split at hstate
        · cases hstate
        · rename_i hconnected
          simp only [Bool.or_eq_true, Bool.not_eq_true', not_or, Bool.not_eq_false,
            StartupProfile.matchesRequestGeneration, Bool.and_eq_true, beq_iff_eq] at hprofile
          simp only [isConnected, Bool.not_eq_true', Bool.not_eq_false, Bool.and_eq_true]
            at hconnected
          refine ⟨hconnected.1, hprofile.2.1, hprofile.2.2, fun hrfq => ?_⟩
          split at hstate
          · rename_i hmismatch
            rw [isReusable_cachedKeyMismatch hmismatch] at hstate
            cases hstate
          · split at hstate
            · cases hstate
            · split at hstate
              · rename_i hexact
                simp only [Bool.and_eq_true, Bool.not_eq_true', beq_iff_eq] at hexact
                exact Or.inl ⟨hexact.1.1, by rw [hexact.2]⟩
              · exact classifyFully_reusable hstate hrfq

/-- What a request of a session says of the session. -/
structure Asks (addresses : AddressSyntax) (config : StartupConfig) (stream : ClientStream)
    (request : PoolRequest) : Prop where
  mode : request.identityMode = config.identityMode
  profile : ∃ p, request.startupProfile = .fromProtocol p
  rfq : request.startupProfile.emitsStartupParams = true → request.expectsRfq = true
  identity : config.identityMode = .client → request.key.startupIdentityHash ≠ 0 →
    ∃ context, stream.clientContext addresses = some context ∧
      request.key.startupIdentityHash = context.reuseKey

/-- A request may have a connection that carries the identity of a client only if it is
one of the same client. -/
theorem suits_of_classify
    {i : Nat}
    (hapart : KeysApart addresses streams)
    (h : b.Consistent addresses streams)
    (hasks : Asks addresses config (streams i) request)
    (hc : b.CarriesClient)
    (hstate : (b.classify addresses config (streams i) facts request).1.isReusable = true) :
    b.Suits addresses (streams i) := by
  obtain ⟨hstarted, hgeneration, hprofile, hshares⟩ := classify_reusable hstate
  obtain ⟨p, hp⟩ := hasks.profile
  rw [hp] at hgeneration
  obtain ⟨-, hmode⟩ := h.mode_of_generation hc hgeneration
  rw [hasks.mode] at hmode
  have hemits := hc.emits
  rw [hprofile] at hemits
  rcases hshares (hasks.rfq hemits) with ⟨hkey, hhash⟩ | hcontext
  · have hown := (h.key hkey).2 hc.emits
    rw [hhash] at hown
    have hne : request.key.startupIdentityHash ≠ 0 := by
      rw [hown]
      exact b.client.reuseKey_ne_zero
    obtain ⟨context, hctx, hreuse⟩ := hasks.identity hmode hne
    exact h.suits_of_hash hapart hc hown hctx hreuse
  · rw [contextMatches, startupClientFromSession_client hmode] at hcontext
    cases hctx : (streams i).clientContext addresses with
    | none =>
        simp [hctx] at hcontext
    | some context =>
        exact ⟨context, hctx, by simpa [hctx] using hcontext⟩

/-- A key under which a connection may be stored. -/
structure OwnKey (b : BackendStartup) (key : PoolMatchKey) : Prop where
  started : b.started = true
  generation : key.profileGeneration = b.profileGeneration
  identity : b.profile.emitsStartupParams = true → key.startupIdentityHash = b.client.reuseKey

theorem OwnKey.sameStart
    {b b' : BackendStartup} {key : PoolMatchKey}
    (h : b.OwnKey key)
    (hsame : SameStart b b') :
    b'.OwnKey key := by
  rw [hsame]
  exact ⟨h.started, h.generation, h.identity⟩

/-- A request may have a connection that is reserved under its key. -/
theorem suits_of_matchKey
    {i : Nat} {key : PoolMatchKey}
    (hapart : KeysApart addresses streams)
    (h : b.Consistent addresses streams)
    (hasks : Asks addresses config (streams i) request)
    (hc : b.CarriesClient)
    (hown : b.OwnKey key)
    (hkey : request.matchKey = key) :
    b.Suits addresses (streams i) := by
  have hhash := hown.identity hc.emits
  have hgeneration := hown.generation
  rw [← hkey, PoolRequest.matchKey] at hhash hgeneration
  obtain ⟨p, hp⟩ := hasks.profile
  split at hhash
  · rename_i hready
    rw [if_pos hready] at hgeneration
    simp only [PoolKey.matchKey] at hhash hgeneration
    rw [hp] at hgeneration
    obtain ⟨-, hmode⟩ := h.mode_of_generation hc hgeneration.symm
    rw [hasks.mode] at hmode
    have hne : request.key.startupIdentityHash ≠ 0 := by
      rw [hhash]
      exact b.client.reuseKey_ne_zero
    obtain ⟨context, hctx, hreuse⟩ := hasks.identity hmode hne
    exact h.suits_of_hash hapart hc hhash hctx hreuse
  · exact absurd hhash.symm b.client.reuseKey_ne_zero

/-! ## Returning -/

theorem classifyFully_snd :
    (b.classifyFully addresses config stream facts request).2 = b ∨
      (b.classifyFully addresses config stream facts request).1 = .exact ∧
        (b.classifyFully addresses config stream facts request).2 =
          b.ensurePoolKey facts request.expectsRfq := by
  unfold classifyFully
  dsimp only
  repeat' split
  all_goals first | exact Or.inl rfl | exact Or.inr ⟨rfl, rfl⟩

/-- A classification fills the key in if the connection is an exact match. -/
theorem classify_snd :
    (b.classify addresses config stream facts request).2 = b ∨
      (b.classify addresses config stream facts request).1 = .exact ∧
        (b.classify addresses config stream facts request).2 =
          b.ensurePoolKey facts request.expectsRfq := by
  unfold classify
  repeat' split
  all_goals first | exact Or.inl rfl | exact classifyFully_snd

theorem Consistent.classify
    (h : b.Consistent addresses streams)
    (hasks : Asks addresses config stream request) :
    (b.classify addresses config stream facts request).2.Consistent addresses streams ∧
      SameStart b (b.classify addresses config stream facts request).2 := by
  rcases classify_snd (b := b) with hsame | ⟨hexact, hfilled⟩
  · rw [hsame]
    exact ⟨h, rfl⟩
  · obtain ⟨hstarted, -, hprofile, -⟩ := classify_reusable (by rw [hexact]; rfl)
    rw [hfilled]
    refine ⟨h.ensurePoolKey hstarted fun hemits => ?_, sameStart_ensurePoolKey _ _⟩
    rw [hprofile] at hemits
    exact hasks.rfq hemits

/-! ## Returning -/

theorem Consistent.ownKey
    (h : b.Consistent addresses streams)
    (hkey : b.poolKey.isEmpty = false) :
    b.OwnKey b.matchKey where
  started := (h.key hkey).1
  generation := rfl
  identity := (h.key hkey).2

/-- The key that `polardb_ensure_pool_key` fills in is the connection's own. -/
theorem Consistent.ownKey_ensurePoolKey
    (h : b.Consistent addresses streams)
    (hstarted : b.started = true) :
    (b.ensurePoolKey facts b.profile.emitsStartupParams).OwnKey
      (b.ensurePoolKey facts b.profile.emitsStartupParams).matchKey := by
  cases hkey : b.poolKey.isEmpty with
  | false =>
      have hsame : b.ensurePoolKey facts b.profile.emitsStartupParams = b := by
        simp [BackendStartup.ensurePoolKey, hkey]
      rw [hsame]
      exact h.ownKey hkey
  | true =>
      have hfilled : (b.ensurePoolKey facts b.profile.emitsStartupParams) =
          { b with
            poolKey :=
              { authHash := facts.authHash
                startupIdentityHash :=
                  if b.profile.emitsStartupParams then b.client.reuseKey else 0
                startupOptionsHash := facts.optionsHash } } := by
        simp [BackendStartup.ensurePoolKey, hkey]
      rw [hfilled]
      refine ⟨hstarted, rfl, fun hemits => ?_⟩
      simp only [matchKey, PoolKey.matchKey]
      rw [if_pos hemits]

theorem started_of_returnState
    {profile : StartupProfile}
    (h : b.returnState facts profile = .exact) :
    b.started = true := by
  unfold returnState at h
  split at h
  · cases h
  · split at h
    · cases h
    · split at h
      · cases h
      · rename_i hconnected
        simp only [isConnected, Bool.not_eq_true', Bool.not_eq_false, Bool.and_eq_true]
          at hconnected
        exact hconnected.1

/-- A connection that may go back to a pool goes back under its own key. -/
theorem Consistent.returnDecision
    (h : b.Consistent addresses streams)
    (facts : ReuseFacts) (profile : Option StartupProfile) :
    (b.returnDecision facts profile).2.Consistent addresses streams ∧
      SameStart b (b.returnDecision facts profile).2 ∧
      ((b.returnDecision facts profile).1 = .returnable →
        (b.returnDecision facts profile).2.OwnKey (b.returnDecision facts profile).2.matchKey) := by
  unfold BackendStartup.returnDecision
  split
  · exact ⟨h, rfl, fun hs => by cases hs⟩
  · split
    · exact ⟨h, rfl, fun hs => by cases hs⟩
    · split
      · exact ⟨h, rfl, fun hs => by cases hs⟩
      · split
        · exact ⟨h, rfl, fun hs => by cases hs⟩
        · rename_i hexact
          have hstarted := started_of_returnState (not_not.mp hexact)
          exact ⟨h.ensurePoolKey hstarted id, sameStart_ensurePoolKey _ _,
            fun _ => h.ownKey_ensurePoolKey hstarted⟩

end BackendStartup

/-! ## Asking -/

/-- The hash a session remembers for client mode is the one of its client. -/
def SessionIdentity.Remembers (addresses : AddressSyntax) (sess : SessionIdentity) : Prop :=
  sess.identityMode = some .client →
    ∃ context, sess.stream.clientContext addresses = some context ∧
      sess.identityHash = context.reuseKey

@[simp]
theorem SessionIdentity.stream_preparePoolRequest
    {addresses : AddressSyntax} {config : StartupConfig} {sess : SessionIdentity}
    (profile : StartupProfile) (requireRfq : Bool) (authHash optionsHash : Nat) :
    (sess.preparePoolRequest addresses config profile requireRfq authHash optionsHash).2.stream =
      sess.stream := by
  unfold SessionIdentity.preparePoolRequest
  dsimp only
  split
  · rfl
  · split
    · rfl
    · split <;> rfl

theorem SessionIdentity.Remembers.preparePoolRequest
    {addresses : AddressSyntax} {config : StartupConfig} {sess : SessionIdentity}
    (h : sess.Remembers addresses)
    (p : ProxyProtocol) (requireRfq : Bool) (authHash optionsHash : Nat) :
    BackendStartup.Asks addresses config sess.stream (sess.preparePoolRequest addresses config
        (.fromProtocol p) requireRfq authHash optionsHash).1 ∧
      (sess.preparePoolRequest addresses config (.fromProtocol p) requireRfq authHash
        optionsHash).2.Remembers addresses := by
  unfold SessionIdentity.preparePoolRequest
  dsimp only
  split
  · rename_i hquiet
    refine ⟨⟨rfl, ⟨p, rfl⟩, fun hemits => ?_, fun _ hne => absurd rfl hne⟩, h⟩
    simp only at hemits
    rw [hemits, Bool.or_true] at hquiet
    cases hquiet
  · rename_i hrfq
    have hemits : (requireRfq || (StartupProfile.fromProtocol p).emitsStartupParams) = true := by
      rw [Bool.not_eq_true', Bool.not_eq_false] at hrfq
      exact hrfq
    split
    · rename_i hcached
      refine ⟨⟨rfl, ⟨p, rfl⟩, fun _ => hemits, fun hmode _ => ?_⟩, h⟩
      exact h (by rw [hcached.1, hmode])
    · split
      · exact ⟨⟨rfl, ⟨p, rfl⟩, fun _ => hemits, fun _ hne => absurd rfl hne⟩, h⟩
      · rename_i hash hhash
        obtain ⟨client, hclient, hreuse⟩ := Option.map_eq_some_iff.mp hhash
        have hown : config.identityMode = .client →
            sess.stream.clientContext addresses = some client := by
          intro hmode
          rw [← startupClientFromSession_client hmode]
          exact hclient
        refine ⟨⟨rfl, ⟨p, rfl⟩, fun _ => hemits, fun hmode _ => ?_⟩, fun hmode => ?_⟩
        · exact ⟨client, hown hmode, hreuse.symm⟩
        · exact ⟨client, hown (Option.some.inj hmode), hreuse.symm⟩

end PolarProxy
