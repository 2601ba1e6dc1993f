import PolarProxy.ReaderGroupBusy

/-!
# Acquiring a reader

A selection that gives no connection may name a server, and a connection is created on that
server only, under the lock of the hostgroups.  A session that waited may instead be handed
the connection that was reserved for it, once its server has been checked again.

Whatever the pools, the locks and the draws answer, the reader is one of the hostgroup
that may serve the request, and its wait is left out only where a fresh sample of that very
server has reached the target.

**Results.**
* `nodeOf_serves`, `serverCanServeRequest_serves`: what the two checks of a server ensure.
* `chooseOfTwo_chooses`, `chooseOfMany_chooses`: what a choice leaves.
* `tryAcquireReaderConnection_eligible`, `acquireReaderConnection_eligible`: what an acquisition
  names.
* `reader_eligibility`: the reader of a request, however it is found.
-/

namespace PolarProxy

namespace Readers

variable {σ : Type}

/-! ## Creating a connection -/

/-- What the creation of a connection reads of its server, under the lock of the hostgroups -/
structure ServerRow where
  status : ServerStatus := .online
  /-- `myhgc` -/
  hid : Option Nat := none
  weight : Int := 1
  currentLatencyUs : Nat := 0
  maxLatencyUs : Nat := 0
  maxConnections : Int := 1
  deriving DecidableEq

/-- What an acquisition asks elsewhere, each time of the state that it finds. -/
structure AcquireWorld (σ : Type) extends ReaderWorld σ where
  /-- `polardb_server_list_generation_` -/
  serverListGeneration : σ → Nat
  /-- `get_polardb_startup_config_generation`; `none` without `GloPTH` -/
  startupConfigGeneration : σ → Option Nat
  row : Nat → σ → ServerRow
  /-- `pgsql_connection_creation_throttled_unlocked` -/
  creationThrottled : Nat → σ → Bool × σ
  /-- `evict_unreserved_free_for_create` and the new connection, which is added as used -/
  create : Nat → σ → Option Nat × σ

/-- `PgSQL_PoolGetResult` of a request that may create -/
inductive PoolGet
  | nothing
  | retryAfterConfigChange
  | existing (conn : Nat) (source : PoolGetSource)
  | created (conn : Nat)
  deriving DecidableEq

/-- What a selection was made against -/
structure AcquireScope extends ReaderScope where
  hostgroupId : Nat
  /-- The generation of the server list, zero for none -/
  serverListGeneration : Nat := 0
  /-- `pgsql_thread___polardb_startup_config_generation` -/
  startupConfigGeneration : Nat := 0

/-- The state of an acquisition, with the connections it created and their servers. -/
structure Acquisition (σ : Type) where
  selection : Selection σ
  created : List (Nat × Nat) := []

/-- Whether no connection is created on a server. -/
def ServerRow.refuses (scope : AcquireScope) (row : ServerRow) : Bool :=
  row.status != .online || row.hid != some scope.hostgroupId || decide (row.weight ≤ 0) ||
    !latencyAllowed scope.vars row.currentLatencyUs row.maxLatencyUs ||
    decide (row.maxConnections ≤ 0)

/-- Whether the topology or the startup configuration is another one than that of a selection. -/
def AcquireWorld.configChanged (w : AcquireWorld σ) (scope : AcquireScope) (s : σ) : Bool :=
  (scope.serverListGeneration != 0 && w.serverListGeneration s != scope.serverListGeneration) ||
    (scope.startupConfigGeneration != 0 &&
      w.startupConfigGeneration s != some scope.startupConfigGeneration)

/-- `get_connection_from_selected_server`, with reset and creation allowed -/
def getConnectionFromSelectedServer (w : AcquireWorld σ) (scope : AcquireScope) (srv : Nat)
    (s : σ) : PoolGet × σ :=
  let taken := takeExistingConnection w.toReaderWorld srv true false 0 s
  match taken.1.conn with
  | some conn => (.existing conn taken.1.source, taken.2)
  | none =>
      if w.configChanged scope taken.2 then (.retryAfterConfigChange, taken.2)
      else if (w.row srv taken.2).refuses scope then (.nothing, taken.2)
      else
        let throttled := w.creationThrottled srv taken.2
        if throttled.1 then (.nothing, throttled.2)
        else
          let again := w.takeReusable srv true throttled.2
          match again.1 with
          | some (conn, source) => (.existing conn source, again.2)
          | none =>
              if (w.row srv again.2).maxConnections ≤ (w.counts srv again.2).used then
                (.nothing, again.2)
              else
                let created := w.create srv again.2
                (match created.1 with
                  | some conn => .created conn
                  | none => .nothing, created.2)

/-- The attempts on the selected server; an unusable connection is dropped. -/
def acquireFromSelected (w : AcquireWorld σ) (scope : AcquireScope) (srv : Nat) :
    Nat → σ → PoolGet × σ
  | 0, s => (.nothing, s)
  | n + 1, s =>
      let got := getConnectionFromSelectedServer w scope srv s
      match got.1 with
      | .existing conn _ =>
          if w.usable conn got.2 then got
          else acquireFromSelected w scope srv n (w.drop srv conn got.2)
      | _ => got

/-- `polardb_reader_status_redirects_to_writer` -/
def redirectsToWriter : ReaderStatus → Bool
  | .groupLsnUnknown => true
  | .readerLsnUnknown => true
  | .readerLsnStale => true
  | .readerLagExceeded => true
  | _ => false

/-- Whether an acquisition ends with what the selection gave. -/
def endsWithSelection (req : ReaderRequest) (result : ReaderResult) : Bool :=
  result.status == .readerBusy || result.status == .readerGroupBusy || result.acquired ||
    result.status == .rfqUnavailable || redirectsToWriter result.status || req.onlyPooled

/-- `polardb_acquire_reader_connection` -/
def acquireReaderConnection (w : AcquireWorld σ) (scope : AcquireScope) (req : ReaderRequest)
    (a : Acquisition σ) : ReaderResult × Acquisition σ :=
  let selected := tryAcquireReaderConnection w.toReaderWorld scope.toReaderScope req a.selection
  if endsWithSelection req selected.1 then (selected.1, { a with selection := selected.2 })
  else
    match selected.1.srv with
    | none => (selected.1, { a with selection := selected.2 })
    | some srv =>
        let got := acquireFromSelected w scope srv serverPopScanLimit selected.2.world
        let a := { a with selection := { selected.2 with world := got.2 } }
        match got.1 with
        | .retryAfterConfigChange => ({ selected.1 with status := .retryAfterConfigChange }, a)
        | .nothing => ({ selected.1 with status := .readerBusy }, a)
        | .existing conn _ =>
            ({ selected.1 with
                conn := some conn, srv := some srv, status := .acquired, waitBypassAllowed := false },
              a)
        | .created conn =>
            ({ selected.1 with
                conn := some conn, srv := some srv, status := .acquired, waitBypassAllowed := false },
              { a with created := a.created ++ [(srv, conn)] })

/-! ## Reservations -/

/-- `resolve_reader_server_snapshot`: the entry of a server that may be used -/
def resolveReaderServer (scope : ReaderScope) (req : ReaderRequest) (srv : Nat) :
    Option ReaderEntry :=
  (scope.readers.bind fun readers => readers.servers.find? fun entry => entry.srv == srv).filter
    fun entry => !req.excludes entry && isCandidate scope.vars entry

/-- `server_meets_lag_policy` -/
def serverMeetsLagPolicy (req : ReaderRequest) (sample : ReaderLsnSample) : Bool :=
  !req.lagCapEnabled ||
    (req.plan.groupLsn != 0 && sample.lsn != 0 && sample.fresh && withinByteCap req.plan sample.lsn)

/-- `server_can_serve_request` -/
def serverCanServeRequest (scope : ReaderScope) (req : ReaderRequest) (srv : Nat) : Bool :=
  match resolveReaderServer scope req srv with
  | none => false
  | some entry =>
      (!req.plan.requireReplica ||
          (scope.isPolardbHostgroup && endpointIsKnownReplica scope.writers entry)) &&
        serverMeetsLagPolicy req entry.sample

/-- What a session asks for a reader, and what the take of its reservation finds. -/
structure ReaderAsk where
  worker : WaitWorker
  session : WaitSession
  /-- The key of `reader_pool_reservation_match_key` -/
  currentKey : Option PoolMatchKey := none
  /-- The hostgroups, as the take finds them -/
  hostgroups : Nat → ReaderScope
  /-- `take_reader_pool_reservation`, with its connection -/
  takeStatus : ReaderTakeStatus := .missing
  takenConn : Nat := 0
  /-- The sample that is taken of the server of a reserved connection -/
  sampleOf : Nat → ReaderLsnSample := fun _ => {}

def reservationRequest (wait : CapacityWait) : ReaderRequest :=
  { plan := wait.reservationPlan, waitSpec := wait.reservationWaitSpec }

/-- The hostgroup and the server of the reserved connection that a session takes -/
def ReaderAsk.reserved (ask : ReaderAsk) : Option (Nat × Nat) :=
  match ask.worker.reservation.server with
  | none => none
  | some server =>
      match server.hid with
      | none => none
      | some hid =>
          if ask.worker.handsOver ask.session ask.currentKey
              (serverCanServeRequest (ask.hostgroups hid) (reservationRequest ask.session.wait)
                server.id) ask.takeStatus then
            some (hid, server.id)
          else none

/-- The reader of a request: the connection reserved for its session, else an acquisition. -/
def readerForRequest (w : AcquireWorld σ) (scope : AcquireScope) (req : ReaderRequest)
    (ask : ReaderAsk) (a : Acquisition σ) : ReaderResult × Acquisition σ :=
  match ask.reserved with
  | none => acquireReaderConnection w scope req a
  | some (_, srv) =>
      let result : ReaderResult :=
        { conn := some ask.takenConn, srv := some srv, status := .acquired }
      let sample := ask.sampleOf srv
      (if req.waitSpec.hasWait then
          { result with
            selectedReaderLsn := sample.lsn
            selectedReaderLsnFresh := sample.fresh
            waitBypassAllowed := sample.fresh && decide (req.waitSpec.target ≤ sample.lsn) }
        else result, a)

/-! ## Readers that may serve a request -/

/-- No writer that is known has the endpoint of a server. -/
structure KnownReplica (writers : Option (List ReaderEntry)) (entry : ReaderEntry) : Prop where
  known : ∃ writer ∈ writers.getD [], writer.fastStatus ≠ .offlineHard ∧ writer.address.isSome = true
  apart : ∀ writer ∈ writers.getD [], writer.fastStatus ≠ .offlineHard →
    writer.address = entry.address → writer.address.isSome = true → writer.port ≠ entry.port
  address : entry.address.isSome = true

/-- A server of a hostgroup may serve a request. -/
structure Serves (scope : ReaderScope) (req : ReaderRequest) (entry : ReaderEntry) : Prop where
  online : entry.fastStatus = .online
  weight : 0 < entry.weight
  maxConnections : 0 < entry.maxConnections
  latency : latencyAllowed scope.vars entry.currentLatencyUs entry.maxLatencyUs = true
  notExcluded : ∀ address, req.excludeAddress = some address → address ≠ "" → 0 ≤ req.excludePort →
    entry.address = some address → (entry.port : Int) ≠ req.excludePort
  replica : req.plan.requireReplica = true → KnownReplica scope.writers entry
  lag : 0 < req.plan.maxLagBytes → entry.sample.fresh = true ∧ entry.sample.lsn ≠ 0 ∧
    req.plan.groupLsn ≠ 0 ∧
    (req.plan.groupLsn : Int) - entry.sample.lsn ≤ req.plan.maxLagBytes

theorem endpointIsKnownReplica_iff
    {listed : Option (List ReaderEntry)} {entry : ReaderEntry} :
    endpointIsKnownReplica listed entry = true ↔ KnownReplica listed entry := by
  rw [endpointIsKnownReplica.eq_def]
  split
  · rename_i writers address haddress
    simp only [Bool.and_eq_true, Bool.not_eq_true', List.isEmpty_eq_false_iff_exists_mem,
      List.all_eq_true, List.mem_filter, bne_iff_ne, ne_eq]
    constructor
    · rintro ⟨⟨writer, hwriter, hknown⟩, hall⟩
      refine ⟨⟨writer, hwriter, hknown⟩, ?_, by rw [haddress]; rfl⟩
      intro other hother honline hsame hsome hport
      have hapart := hall other ⟨hother, honline, hsome⟩
      rw [hsame, haddress, hport] at hapart
      simp at hapart
    · rintro ⟨hknown, hapart, -⟩
      refine ⟨hknown, fun writer hwriter => ?_⟩
      have hne := hapart writer hwriter.1 hwriter.2.1
      rw [haddress] at hne
      rw [Bool.eq_false_iff, ne_eq, Bool.and_eq_true, beq_iff_eq, beq_iff_eq]
      exact fun h => hne h.2 hwriter.2.2 h.1
  · rename_i listed _ _ hnone
    refine ⟨fun h => absurd h (by decide), ?_⟩
    rintro ⟨⟨writer, hwriter, -⟩, -, haddress⟩
    cases listed with
    | none =>
        exact absurd hwriter List.not_mem_nil
    | some writers =>
        obtain ⟨address, haddress⟩ := Option.isSome_iff_exists.mp haddress
        exact absurd haddress (hnone writers address rfl)

theorem excludes_eq_false
    {req : ReaderRequest} {entry : ReaderEntry}
    (h : req.excludes entry = false) :
    ∀ address, req.excludeAddress = some address → address ≠ "" → 0 ≤ req.excludePort →
      entry.address = some address → (entry.port : Int) ≠ req.excludePort := by
  intro address hexcluded hne hport haddress hsame
  rw [ReaderRequest.excludes, hexcluded, haddress] at h
  simp [hne, hport, hsame] at h

theorem withinByteCap_spec
    {plan : ReaderPlan} {lsn : Nat}
    (hcap : 0 < plan.maxLagBytes)
    (h : withinByteCap plan lsn = true) :
    plan.groupLsn ≠ 0 ∧ (plan.groupLsn : Int) - lsn ≤ plan.maxLagBytes := by
  rw [withinByteCap, if_neg (by omega)] at h
  split_ifs at h with hzero hreached
  · refine ⟨fun hgroup => hzero (Or.inl hgroup), ?_⟩
    omega
  · refine ⟨fun hgroup => hzero (Or.inl hgroup), ?_⟩
    rw [decide_eq_true_eq] at h
    omega

theorem lagRefuses_eq_none
    {req : ReaderRequest} {sample : ReaderLsnSample}
    (hcap : 0 < req.plan.maxLagBytes)
    (h : lagRefuses req sample = none) :
    sample.fresh = true ∧ sample.lsn ≠ 0 ∧ withinByteCap req.plan sample.lsn = true := by
  have henabled : req.lagCapEnabled = true := decide_eq_true hcap
  rw [lagRefuses, henabled, if_neg (by decide)] at h
  split_ifs at h with hzero hstale hfar
  exact ⟨(Bool.not_eq_false _).mp hstale, hzero, (Bool.not_eq_false _).mp hfar⟩

theorem isCandidate_spec
    {vars : ReaderVars} {entry : ReaderEntry}
    (h : isCandidate vars entry = true) :
    entry.fastStatus = .online ∧ 0 < entry.weight ∧ 0 < entry.maxConnections ∧
      latencyAllowed vars entry.currentLatencyUs entry.maxLatencyUs = true := by
  simp only [isCandidate, Bool.and_eq_true, beq_iff_eq, decide_eq_true_eq] at h
  obtain ⟨⟨⟨honline, hweight⟩, hlatency⟩, hmax⟩ := h
  exact ⟨honline, hweight, hmax, hlatency⟩

variable {scope : ReaderScope} {req : ReaderRequest} {entry : ReaderEntry}

/-- A node is that of a server that may serve the request, and it has reached the target only if
its fresh sample has. -/
theorem nodeOf_serves
    {node : ReaderNode}
    (h : nodeOf scope req entry = some node) :
    Serves scope req entry ∧ node.srv = entry.srv ∧
      (node.targetReached = true → entry.sample.fresh = true ∧ req.waitSpec.hasWait = true ∧
        req.waitSpec.target ≤ entry.sample.lsn) := by
  rw [nodeOf, evaluateReader] at h
  split at h
  · cases h
  rename_i hgood
  simp only [not_or, Bool.not_eq_false, Bool.not_eq_true, not_and] at hgood
  obtain ⟨hcandidate, hreplica, hexcluded⟩ := hgood
  obtain ⟨honline, hweight, hmax, hlatency⟩ := isCandidate_spec hcandidate
  dsimp only at h
  split at h
  · cases h
  rename_i hlag
  obtain rfl := Option.some.inj h
  refine ⟨⟨honline, hweight, hmax, hlatency, excludes_eq_false hexcluded, ?_, ?_⟩, rfl, ?_⟩
  · exact fun hrequired => endpointIsKnownReplica_iff.mp (hreplica hrequired)
  · intro hcap
    rw [if_pos (by rw [show req.lagCapEnabled = true from decide_eq_true hcap, Bool.or_true])]
      at hlag
    obtain ⟨hfresh, hlsn, hwithin⟩ := lagRefuses_eq_none hcap hlag
    exact ⟨hfresh, hlsn, withinByteCap_spec hcap hwithin⟩
  · intro hreached
    simp only [Bool.and_eq_true, decide_eq_true_eq] at hreached
    obtain ⟨⟨hfresh, hwait⟩, htarget⟩ := hreached
    rw [if_pos (by rw [hwait, Bool.true_or])] at hfresh htarget
    exact ⟨hfresh, hwait, htarget⟩

/-- A server that is checked again may serve the request. -/
theorem serverCanServeRequest_serves
    {srv : Nat}
    (h : serverCanServeRequest scope req srv = true) :
    ∃ readers, scope.readers = some readers ∧
      ∃ entry ∈ readers.servers, entry.srv = srv ∧ Serves scope req entry := by
  rw [serverCanServeRequest] at h
  split at h
  · cases h
  rename_i entry hentry
  rw [resolveReaderServer, Option.filter_eq_some_iff, Option.bind_eq_some_iff] at hentry
  obtain ⟨⟨readers, hreaders, hfound⟩, hgood⟩ := hentry
  rw [Bool.and_eq_true, Bool.not_eq_true'] at hgood
  obtain ⟨honline, hweight, hmax, hlatency⟩ := isCandidate_spec hgood.2
  rw [Bool.and_eq_true, Bool.or_eq_true, Bool.not_eq_true', Bool.and_eq_true] at h
  obtain ⟨hreplica, hlag⟩ := h
  refine ⟨readers, hreaders, entry, List.mem_of_find?_eq_some hfound,
    by simpa using List.find?_some hfound, honline, hweight, hmax, hlatency,
    excludes_eq_false hgood.1, ?_, ?_⟩
  · intro hrequired
    rcases hreplica with hfree | hknown
    · exact absurd (hrequired.symm.trans hfree) (by decide)
    · exact endpointIsKnownReplica_iff.mp hknown.2
  · intro hcap
    rw [serverMeetsLagPolicy, show req.lagCapEnabled = true from decide_eq_true hcap] at hlag
    simp only [Bool.not_true, Bool.false_or, Bool.and_eq_true, bne_iff_ne] at hlag
    obtain ⟨⟨⟨-, hlsn⟩, hfresh⟩, hwithin⟩ := hlag
    exact ⟨hfresh, hlsn, withinByteCap_spec hcap hwithin⟩

/-! ## What is named among candidates -/

section Candidates

variable {nodes : List ReaderNode} {r r' : ReaderResult}

/-- What trying readers leaves: a server that is named is one of them, one is named where
a connection was found, and no wait is left out. -/
structure Names (nodes : List ReaderNode) (r : ReaderResult) : Prop where
  named : ∀ srv, r.srv = some srv → srv ∈ nodes.map ReaderNode.srv
  held : r.conn.isSome = true → r.srv.isSome = true
  waits : r.waitBypassAllowed = false

/-- What a choice among readers leaves: its wait is left out only where the reader that serves
the request has reached the target. -/
structure Sound (nodes : List ReaderNode) (r : ReaderResult) : Prop where
  named : ∀ srv, r.srv = some srv → srv ∈ nodes.map ReaderNode.srv
  held : r.conn.isSome = true → r.srv.isSome = true
  bypass : r.waitBypassAllowed = true → r.acquired = true ∧
    ∃ node ∈ nodes, r.srv = some node.srv ∧ node.targetReached = true

theorem isSome_of_acquired
    (h : r.acquired = true) :
    r.conn.isSome = true := by
  rw [ReaderResult.acquired, Bool.and_eq_true] at h
  exact h.2

theorem waits_of_not_acquired
    {P : Prop}
    (hbypass : r.waitBypassAllowed = true → r.acquired = true ∧ P)
    (hnone : r.acquired = false) :
    r.waitBypassAllowed = false := by
  by_contra hleft
  have hgot := (hbypass ((Bool.not_eq_false _).mp hleft)).1
  exact absurd (hgot.symm.trans hnone) (by decide)

theorem Names.default :
    Names nodes {} where
  named _ h := by cases h
  held h := by cases h
  waits := rfl

theorem Names.congr
    (h : Names nodes r)
    (hconn : r'.conn = r.conn)
    (hsrv : r'.srv = r.srv)
    (hbypass : r'.waitBypassAllowed = r.waitBypassAllowed) :
    Names nodes r' where
  named := by
    rw [hsrv]
    exact h.named
  held := by
    rw [hconn, hsrv]
    exact h.held
  waits := hbypass.trans h.waits

theorem Names.sound
    (h : Names nodes r) :
    Sound nodes r where
  named := h.named
  held := h.held
  bypass hbypass := absurd (hbypass.symm.trans h.waits) (by decide)

theorem Names.mono
    {more : List ReaderNode}
    (h : Names nodes r)
    (hsub : nodes ⊆ more) :
    Names more r where
  named srv hsrv := List.map_subset _ hsub (h.named srv hsrv)
  held := h.held
  waits := h.waits

theorem Sound.mono
    {more : List ReaderNode}
    (h : Sound nodes r)
    (hsub : nodes ⊆ more) :
    Sound more r where
  named srv hsrv := List.map_subset _ hsub (h.named srv hsrv)
  held := h.held
  bypass hbypass := by
    obtain ⟨hgot, node, hnode, hend⟩ := h.bypass hbypass
    exact ⟨hgot, node, hsub hnode, hend⟩

variable {w : ReaderWorld σ} {request : PoolRequest} {alternate : Option ReaderNode}

theorem readerAcquireWithAlternate_server
    {selected : ReaderNode}
    (hselected : selected ∈ nodes)
    (halternate : ∀ node, alternate = some node → node ∈ nodes)
    (s : Selection σ) :
    (readerAcquireWithAlternate w request selected alternate s).1.2 ∈ nodes.map ReaderNode.srv := by
  have hown : selected.srv ∈ nodes.map ReaderNode.srv := List.mem_map_of_mem hselected
  rw [readerAcquireWithAlternate.eq_def]
  split
  · exact hown
  · rename_i other hother
    have hin := halternate other (Option.filter_eq_some_iff.mp hother).1
    dsimp only
    split
    · exact hown
    · split
      · exact List.mem_map_of_mem hin
      · exact hown

theorem noteAttempt_names
    {node : ReaderNode} {acquired : PoolGetResult × Nat}
    (hserver : acquired.2 ∈ nodes.map ReaderNode.srv)
    (h : Names nodes r)
    (additional : Bool) :
    Names nodes (noteAttempt request additional node acquired r).2 := by
  obtain ⟨noted, hnoted, hnames⟩ : ∃ noted : ReaderResult,
      noted = (if request.onlyPooled ∧ additional = false ∧ acquired.1.conn = none ∧
          acquired.1.poolBusy = false then { r with selectedPoolMissServer := some node.srv }
        else r) ∧ Names nodes noted := by
    refine ⟨_, rfl, ?_⟩
    split
    · exact h.congr rfl rfl rfl
    · exact h
  rw [noteAttempt, ← hnoted]
  split
  · dsimp only
    split
    · exact hnames
    · exact hnames.congr rfl rfl rfl
  · refine ⟨fun srv hsrv => ?_, fun _ => rfl, hnames.waits⟩
    obtain rfl := Option.some.inj hsrv
    exact hserver

theorem tryNode_names
    (w : ReaderWorld σ) (request : PoolRequest) {node : ReaderNode}
    (hnode : node ∈ nodes)
    (halternate : ∀ other, alternate = some other → other ∈ nodes)
    (h : Names nodes r)
    (additional : Bool) (s : Selection σ) :
    Names nodes (tryNode w request alternate additional node r s).2.1 :=
  noteAttempt_names (readerAcquireWithAlternate_server hnode halternate s) h additional

theorem tryPooled_names
    {others : List ReaderNode}
    (hothers : others ⊆ nodes)
    (halternate : ∀ other, alternate = some other → other ∈ nodes)
    (h : Names nodes r)
    (s : Selection σ) :
    Names nodes (tryPooled w request alternate others r s).1 := by
  induction others generalizing r s with
  | nil =>
      exact h
  | cons node rest ih =>
      obtain ⟨hnode, hrest⟩ := List.cons_subset.mp hothers
      have hnames := tryNode_names w request hnode halternate h true s
      rw [tryPooled]
      split
      · exact hnames
      · exact ih hrest hnames _

theorem confirmGroup_names
    {others : List ReaderNode}
    (hothers : others ⊆ nodes)
    (halternate : ∀ other, alternate = some other → other ∈ nodes)
    (h : Names nodes r)
    (s : Selection σ) :
    Names nodes (confirmGroup w request alternate others r s).1 := by
  induction others generalizing r s with
  | nil =>
      rw [confirmGroup]
      exact h.congr rfl rfl rfl
  | cons node rest ih =>
      obtain ⟨hnode, hrest⟩ := List.cons_subset.mp hothers
      have hnames := tryNode_names w request hnode halternate h true s
      rw [confirmGroup]
      dsimp only
      split
      · exact hnames
      · split
        · refine ⟨fun srv hsrv => ?_, fun _ => rfl, hnames.waits⟩
          obtain rfl := Option.some.inj hsrv
          exact List.mem_map_of_mem hnode
        · exact ih hrest hnames _

theorem takeConnFromReaderNodes_names
    (w : ReaderWorld σ) (request : PoolRequest) (nodes : List ReaderNode)
    (selectedIdx busyAlternateIdx : Option Nat) (confirm additional : Bool) (s : Selection σ) :
    Names nodes
      (takeConnFromReaderNodes w request nodes selectedIdx busyAlternateIdx confirm additional
        s).1 := by
  rw [takeConnFromReaderNodes.eq_def]
  split
  · exact Names.default
  rename_i i
  split
  · exact Names.default
  rename_i selected hselected
  have hmem : selected ∈ nodes := List.mem_of_getElem? hselected
  have halternate : ∀ other, (busyAlternateIdx.bind fun j => nodes[j]?) = some other →
      other ∈ nodes := by
    intro other hother
    obtain ⟨j, -, hj⟩ := Option.bind_eq_some_iff.mp hother
    exact List.mem_of_getElem? hj
  have hothers : nodes.drop (i + 1) ++ nodes.take i ⊆ nodes :=
    List.append_subset.mpr ⟨List.drop_subset _ _, List.take_subset _ _⟩
  have hstart : Names nodes { srv := some selected.srv } := by
    refine ⟨fun srv hsrv => ?_, fun _ => rfl, rfl⟩
    obtain rfl := Option.some.inj hsrv
    exact List.mem_map_of_mem hmem
  have hnames := tryNode_names w request hmem halternate hstart additional s
  dsimp only
  split
  · exact hnames
  · split
    · exact tryPooled_names hothers halternate hnames _
    · split
      · exact confirmGroup_names hothers halternate hnames _
      · exact hnames

theorem getConnFromReaderNodes_names
    (w : ReaderWorld σ) (request : PoolRequest) (nodes : List ReaderNode)
    (weightSum : Nat) (pairPreselected confirm avoidBusyPool additional : Bool)
    (s : Selection σ) :
    Names nodes
      (getConnFromReaderNodes w request nodes weightSum pairPreselected confirm avoidBusyPool
        additional s).1 := by
  rw [getConnFromReaderNodes]
  split
  · exact Names.default
  · split
    · exact takeConnFromReaderNodes_names _ _ _ _ _ _ _ _
    · dsimp only
      split
      · exact takeConnFromReaderNodes_names _ _ _ _ _ _ _ _
      · exact Names.default

/-- The readers of the preferred attempt have all reached the target. -/
theorem tryReady_sound
    (hready : ∀ node ∈ nodes, node.targetReached = true)
    (sampledPair : Bool) (s : Selection σ) :
    Sound nodes (tryReady w request req nodes sampledPair s).1 := by
  have hnames := getConnFromReaderNodes_names w request nodes
    (weightSumOf nodes) false req.confirmReaderGroupCapacity (sampledPair && nodes.length == 2)
    false s
  rw [tryReady]
  dsimp only
  generalize getConnFromReaderNodes w request nodes (weightSumOf nodes) false
    req.confirmReaderGroupCapacity (sampledPair && nodes.length == 2) false s = taken at hnames
  split
  · rename_i hgot
    refine ⟨hnames.named, hnames.held, fun _ => ⟨hgot, ?_⟩⟩
    obtain ⟨srv, hsrv⟩ := Option.isSome_iff_exists.mp (hnames.held (isSome_of_acquired hgot))
    obtain ⟨node, hnode, rfl⟩ := List.mem_map.mp (hnames.named srv hsrv)
    exact ⟨node, hnode, hsrv, hready node hnode⟩
  · exact ⟨hnames.named, fun h => (by cases h), fun h => by cases h⟩

theorem tryFallback_sound
    {fallback : List ReaderNode}
    (hsub : fallback ⊆ nodes)
    (h : Sound nodes r)
    (hnone : r.acquired = false)
    (sampledPair attempted : Bool) (s : Selection σ) :
    Sound nodes (tryFallback w request req fallback sampledPair attempted r s).1 := by
  have hwaits := waits_of_not_acquired h.bypass hnone
  have hnames := (getConnFromReaderNodes_names w request fallback
    (weightSumOf fallback) sampledPair req.confirmReaderGroupCapacity sampledPair attempted s).mono
    hsub
  rw [tryFallback]
  dsimp only
  generalize getConnFromReaderNodes w request fallback (weightSumOf fallback) sampledPair
    req.confirmReaderGroupCapacity sampledPair attempted s = taken at hnames
  split
  · have hfree : Names nodes { taken.1 with
        selectedPoolMissServer := taken.1.selectedPoolMissServer.or r.selectedPoolMissServer
        waitBypassAllowed := false } := hnames.congr rfl rfl hnames.waits.symm
    exact hfree.sound
  · split
    · exact h
    · rename_i hsome
      split
      · refine ⟨hnames.named, fun _ => Option.isSome_iff_ne_none.mpr hsome, fun hbypass => ?_⟩
        exact absurd (hbypass.symm.trans hwaits) (by decide)
      · exact h

theorem preferReady_sound
    (sampledPair : Bool) (filterStatus : ReaderStatus) (s : Selection σ) :
    Sound nodes (preferReady w request req nodes sampledPair filterStatus s).1 := by
  rw [preferReady]
  generalize (req.waitSpec.hasWait && nodes.any ReaderNode.targetReached) = attempted
  obtain ⟨parts, hparts, hready, hready', hbehind⟩ : ∃ parts : List ReaderNode × List ReaderNode,
      parts = (if attempted = true then partitionReady [] [] nodes else ([], nodes)) ∧
        (∀ node ∈ parts.1, node.targetReached = true) ∧ parts.1 ⊆ nodes ∧ parts.2 ⊆ nodes := by
    refine ⟨_, rfl, ?_⟩
    split
    · obtain ⟨hfilter, hperm⟩ := partitionReady_perm nodes [] []
      refine ⟨fun node hnode => ?_, fun node hnode => ?_, fun node hnode => ?_⟩
      · rw [hfilter] at hnode
        exact (List.mem_filter.mp hnode).2
      · exact hperm.subset (List.mem_append_left _ hnode)
      · exact hperm.subset (List.mem_append_right _ hnode)
    · exact ⟨fun node hnode => absurd hnode List.not_mem_nil, List.nil_subset _,
        List.Subset.refl _⟩
  rw [← hparts]
  have hpreferred : Sound nodes (if attempted = true ∧ weightSumOf parts.1 ≠ 0 then
      tryReady w request req parts.1 sampledPair s else ({ status := filterStatus }, s)).1 := by
    split
    · exact (tryReady_sound hready sampledPair s).mono hready'
    · exact ⟨fun srv hsrv => (by cases hsrv), fun h => (by cases h), fun h => by cases h⟩
  generalize (if attempted = true ∧ weightSumOf parts.1 ≠ 0 then
      tryReady w request req parts.1 sampledPair s else ({ status := filterStatus }, s)) = preferred
    at hpreferred
  split
  · exact hpreferred
  · rename_i hgo
    exact tryFallback_sound hbehind hpreferred
      (Bool.eq_false_iff.mpr fun hgot => hgo (Or.inl hgot)) sampledPair attempted preferred.2

end Candidates

/-! ## Choosing -/

section Choosing

variable {w : ReaderWorld σ}

/-- What a choice among the servers of a list leaves: its readers are servers of the list that may
serve the request. -/
structure Chooses (scope : ReaderScope) (req : ReaderRequest) (servers : List ReaderEntry)
    (chosen : Chosen σ) : Prop where
  sound : Sound chosen.nodes chosen.result
  serves : ∀ node ∈ chosen.nodes, ∃ entry ∈ servers, nodeOf scope req entry = some node

theorem bypassAllowed_spec
    {nodes : List ReaderNode} {r : ReaderResult}
    (h : bypassAllowed nodes r = true) :
    ∃ node ∈ nodes, r.srv = some node.srv ∧ node.targetReached = true := by
  rw [bypassAllowed] at h
  cases hfound : nodes.find? fun node => some node.srv == r.srv with
  | none =>
      rw [hfound] at h
      cases h
  | some node =>
      rw [hfound] at h
      have hsame := List.find?_some hfound
      rw [beq_iff_eq] at hsame
      exact ⟨node, List.mem_of_find?_eq_some hfound, hsame.symm, h⟩

theorem Chooses.of_names
    {servers : List ReaderEntry}
    {tried : ReaderResult × List ReaderNode × ReaderStatus × Selection σ}
    (h : Names tried.2.1 tried.1 ∧
      ∀ node ∈ tried.2.1, ∃ entry ∈ servers, nodeOf scope req entry = some node) :
    Chooses scope req servers
      { result :=
          if tried.1.acquired then
            { tried.1 with waitBypassAllowed := bypassAllowed tried.2.1 tried.1 }
          else tried.1
        nodes := tried.2.1
        filterStatus := tried.2.2.1
        selection := tried.2.2.2 } := by
  obtain ⟨hnames, hserves⟩ := h
  refine ⟨?_, hserves⟩
  dsimp only
  split
  · rename_i hgot
    exact ⟨hnames.named, hnames.held, fun hbypass => ⟨hgot, bypassAllowed_spec hbypass⟩⟩
  · exact hnames.sound

theorem evaluatedPair_serves
    {servers : List ReaderEntry} {first peer : ReaderEntry}
    (hfirst : first ∈ servers)
    (hpeer : peer ∈ servers) :
    let one := evaluateReader scope req .readerUnavailable first
    ∀ peerEvaluated : Bool,
      ∀ node ∈ one.1.toList ++ (if peerEvaluated = true then evaluateReader scope req one.2 peer
        else (none, one.2)).1.toList,
      ∃ entry ∈ servers, nodeOf scope req entry = some node := by
  intro one peerEvaluated node hnode
  rcases List.mem_append.mp hnode with hnode | hnode
  · rw [evaluateReader_fst] at hnode
    exact ⟨first, hfirst, Option.mem_toList.mp hnode⟩
  · split at hnode
    · rw [evaluateReader_fst] at hnode
      exact ⟨peer, hpeer, Option.mem_toList.mp hnode⟩
    · exact absurd hnode List.not_mem_nil

theorem chooseOfTwo_chooses
    (w : ReaderWorld σ) (scope : ReaderScope) (req : ReaderRequest)
    (entry0 entry1 : ReaderEntry) (s : Selection σ) :
    Chooses scope req [entry0, entry1] (chooseOfTwo w scope req entry0 entry1 s) := by
  rw [chooseOfTwo]
  dsimp only
  obtain ⟨first, peer, hfirst, hpeer, hfirstIn, hpeerIn⟩ : ∃ first peer,
      first = (if (weightedIndex (w.nextSequence s.world).1 entry0.weight.toNat
        entry1.weight.toNat != 0) = true then entry1 else entry0) ∧
      peer = (if (weightedIndex (w.nextSequence s.world).1 entry0.weight.toNat
        entry1.weight.toNat != 0) = true then entry0 else entry1) ∧
      first ∈ [entry0, entry1] ∧ peer ∈ [entry0, entry1] := by
    refine ⟨_, _, rfl, rfl, ?_⟩
    split <;> simp
  rw [← hfirst, ← hpeer]
  have hserves := @evaluatedPair_serves scope req _ _ _ hfirstIn hpeerIn
  generalize evaluateReader scope req .readerUnavailable first = one at hserves
  generalize (decide (entry0.weight.toNat = entry1.weight.toNat) && req.canSkipBusyPool) = avoid
  generalize (avoid || req.confirmReaderGroupCapacity || one.1.isNone ||
    req.waitSpec.hasWait && !(one.1.map ReaderNode.targetReached).getD false) = peerEvaluated
  replace hserves := hserves peerEvaluated
  generalize (if peerEvaluated = true then evaluateReader scope req one.2 peer
    else (none, one.2)) = two at hserves
  generalize one.1.toList ++ two.1.toList = nodes at hserves
  generalize refineNodes w scope.vars req.waitSpec.hasWait nodes
    { s with world := (w.nextSequence s.world).2 } = refined
  have hnames := takeConnFromReaderNodes_names w (poolRequest scope req) nodes
    (if nodes = [] then none else some (if refined.1 = true then 1 else 0))
    (if avoid = true ∧ nodes.length = 2 then some (1 - if refined.1 = true then 1 else 0) else none)
    req.confirmReaderGroupCapacity false refined.2
  generalize takeConnFromReaderNodes w (poolRequest scope req) nodes
    (if nodes = [] then none else some (if refined.1 = true then 1 else 0))
    (if avoid = true ∧ nodes.length = 2 then some (1 - if refined.1 = true then 1 else 0) else none)
    req.confirmReaderGroupCapacity false refined.2 = taken at hnames
  refine Chooses.of_names ?_
  split
  · split
    · exact ⟨hnames, hserves⟩
    · rename_i node hnode
      rw [evaluateReader_fst] at hnode
      have hfallback := (takeConnFromReaderNodes_names w (poolRequest scope req) [node] (some 0)
        none false true taken.2).mono (List.subset_append_right nodes [node])
      refine ⟨?_, fun other hother => ?_⟩
      · dsimp only
        split
        · exact hfallback.congr rfl rfl rfl
        · exact hnames.mono (List.subset_append_left nodes [node])
      · rcases List.mem_append.mp hother with hother | hother
        · exact hserves other hother
        · obtain rfl := List.mem_singleton.mp hother
          exact ⟨peer, hpeerIn, hnode⟩
  · exact ⟨hnames, hserves⟩

theorem samplePair_serves
    {servers : List ReaderEntry} {first second : ReaderNode} {s : Selection σ}
    (h : (samplePair w scope req servers s).1 = some (first, second)) :
    ∀ node ∈ [first, second], ∃ entry ∈ servers, nodeOf scope req entry = some node := by
  have hdrawn : ∀ (k : Nat) (node : ReaderNode),
      (servers[k]?.bind fun entry => (evaluateReader scope req .readerUnavailable entry).1) =
        some node → ∃ entry ∈ servers, nodeOf scope req entry = some node := by
    intro k node hnode
    obtain ⟨entry, hentry, hsome⟩ := Option.bind_eq_some_iff.mp hnode
    exact ⟨entry, List.mem_of_getElem? hentry, hsome⟩
  rw [samplePair.eq_def] at h
  split at h
  · cases h
  · split at h
    · cases h
    · dsimp only at h
      split at h
      · rename_i hone htwo
        dsimp only at h
        split at h
        · cases h
          intro node hnode
          rcases List.mem_pair.mp hnode with rfl | rfl
          · exact hdrawn _ _ hone
          · exact hdrawn _ _ htwo
        · cases h
      · cases h

theorem chooseOfMany_chooses
    (w : ReaderWorld σ) (scope : ReaderScope) (req : ReaderRequest)
    (servers : List ReaderEntry) (s : Selection σ) :
    Chooses scope req servers (chooseOfMany w scope req servers s) := by
  rw [chooseOfMany.eq_def]
  dsimp only
  split
  · rename_i first second hsampled
    exact ⟨preferReady_sound _ _ _, samplePair_serves hsampled⟩
  · refine ⟨preferReady_sound _ _ _, fun node hnode => ?_⟩
    dsimp only at hnode
    rw [(evaluateReaders_eq _ .readerUnavailable (by decide)).1] at hnode
    obtain ⟨entry, hentry, hsome⟩ := List.mem_filterMap.mp hnode
    refine ⟨entry, ?_, hsome⟩
    rcases List.mem_append.mp hentry with hentry | hentry
    · exact List.mem_of_mem_drop hentry
    · exact List.mem_of_mem_take hentry

/-- What an acquisition says of the servers of a hostgroup: one that is named may serve the
request, one is named where a connection was found, and the wait is left out only where
a fresh sample of that very server has reached the target. -/
structure Eligible (scope : ReaderScope) (req : ReaderRequest) (r : ReaderResult) : Prop where
  named : ∀ srv, r.srv = some srv → ∃ readers, scope.readers = some readers ∧
    ∃ entry ∈ readers.servers, entry.srv = srv ∧ Serves scope req entry
  held : r.conn.isSome = true → r.srv.isSome = true
  bypass : r.waitBypassAllowed = true → r.acquired = true ∧ ∃ readers, scope.readers = some readers ∧
    ∃ entry ∈ readers.servers, r.srv = some entry.srv ∧ entry.sample.fresh = true ∧
      req.waitSpec.hasWait = true ∧ req.waitSpec.target ≤ entry.sample.lsn

theorem Eligible.ofStatus
    (status : ReaderStatus) :
    Eligible scope req { status := status } where
  named _ h := by cases h
  held h := by cases h
  bypass h := by cases h

theorem Eligible.congr
    {r r' : ReaderResult}
    (h : Eligible scope req r)
    (hconn : r'.conn = r.conn)
    (hsrv : r'.srv = r.srv)
    (hstatus : r'.status = r.status)
    (hbypass : r'.waitBypassAllowed = r.waitBypassAllowed) :
    Eligible scope req r' where
  named := by
    rw [hsrv]
    exact h.named
  held := by
    rw [hconn, hsrv]
    exact h.held
  bypass := by
    rw [hbypass, ReaderResult.acquired, hconn, hstatus, hsrv]
    exact h.bypass

theorem Chooses.eligible
    {readers : ReaderList} {chosen : Chosen σ}
    (h : Chooses scope req readers.servers chosen)
    (hreaders : scope.readers = some readers) :
    Eligible scope req chosen.result where
  named srv hsrv := by
    obtain ⟨node, hnode, rfl⟩ := List.mem_map.mp (h.sound.named srv hsrv)
    obtain ⟨entry, hentry, hsome⟩ := h.serves node hnode
    obtain ⟨hserves, hsame, -⟩ := nodeOf_serves hsome
    exact ⟨readers, hreaders, entry, hentry, hsame.symm, hserves⟩
  held := h.sound.held
  bypass hbypass := by
    obtain ⟨hgot, node, hnode, hsrv, hreached⟩ := h.sound.bypass hbypass
    obtain ⟨entry, hentry, hsome⟩ := h.serves node hnode
    obtain ⟨-, hsame, hsample⟩ := nodeOf_serves hsome
    exact ⟨hgot, readers, hreaders, entry, hentry, by rw [hsrv, hsame], hsample hreached⟩

theorem Eligible.finish
    {chosen : Chosen σ}
    (h : Eligible scope req chosen.result) :
    Eligible scope req (chosen.finish req).1 := by
  obtain ⟨r, hconn, hsrv, hstatus, -, hbypass, heq⟩ := finish_eq chosen
  have hr := h.congr hconn hsrv hstatus hbypass
  rw [heq]
  dsimp only
  split
  · exact hr
  · rename_i hnone
    exact ⟨hr.named, hr.held, fun hleft => absurd (hr.bypass hleft).1 hnone⟩

theorem tryAcquireReaderConnection_eligible
    (w : ReaderWorld σ) (scope : ReaderScope) (req : ReaderRequest) (s : Selection σ) :
    Eligible scope req (tryAcquireReaderConnection w scope req s).1 := by
  rw [tryAcquireReaderConnection]
  split
  · exact Eligible.ofStatus _
  · exact Eligible.ofStatus _
  · rename_i readers hearly hreaders
    split
    · exact Eligible.ofStatus _
    · split
      · rename_i entry0 entry1 hservers hstart
        have hchooses := chooseOfTwo_chooses w scope req entry0 entry1 s
        rw [← hservers] at hchooses
        exact (hchooses.eligible hreaders).finish
      · exact ((chooseOfMany_chooses w scope req readers.servers s).eligible hreaders).finish

end Choosing

/-! ## The reader of a request -/

section Acquiring

/-- A result that keeps the server and leaves no wait out -/
theorem Eligible.waiting
    {scope : ReaderScope} {r r' : ReaderResult}
    (h : Eligible scope req r)
    (hsrv : r'.srv = r.srv)
    (hheld : r'.conn.isSome = true → r'.srv.isSome = true)
    (hwaits : r'.waitBypassAllowed = false) :
    Eligible scope req r' where
  named := by
    rw [hsrv]
    exact h.named
  held := hheld
  bypass hbypass := absurd (hbypass.symm.trans hwaits) (by decide)

/-- A connection is created on the server that was selected, and waits. -/
theorem acquireReaderConnection_eligible
    (w : AcquireWorld σ) (scope : AcquireScope) (req : ReaderRequest) (a : Acquisition σ) :
    let r := acquireReaderConnection w scope req a
    Eligible scope.toReaderScope req r.1 ∧
      (r.2.created = a.created ∨ r.1.waitBypassAllowed = false ∧ ∃ srv conn,
        r.2.created = a.created ++ [(srv, conn)] ∧ r.1.srv = some srv ∧ r.1.conn = some conn) := by
  intro r
  have hselected := tryAcquireReaderConnection_eligible w.toReaderWorld scope.toReaderScope req
    a.selection
  have hr : r = acquireReaderConnection w scope req a := rfl
  rw [acquireReaderConnection] at hr
  generalize tryAcquireReaderConnection w.toReaderWorld scope.toReaderScope req a.selection =
    selected at hselected hr
  dsimp only at hr
  split at hr
  · rw [hr]
    exact ⟨hselected, Or.inl rfl⟩
  rename_i hgoes
  have hwaits : selected.1.waitBypassAllowed = false := by
    refine waits_of_not_acquired hselected.bypass (Bool.eq_false_iff.mpr fun hgot => hgoes ?_)
    simp [endsWithSelection, hgot]
  split at hr
  · rw [hr]
    exact ⟨hselected, Or.inl rfl⟩
  rename_i srv hsrv
  split at hr
  · rw [hr]
    exact ⟨hselected.waiting rfl hselected.held hwaits, Or.inl rfl⟩
  · rw [hr]
    exact ⟨hselected.waiting rfl hselected.held hwaits, Or.inl rfl⟩
  · rw [hr]
    exact ⟨hselected.waiting hsrv.symm (fun _ => rfl) rfl, Or.inl rfl⟩
  · rename_i conn _
    rw [hr]
    exact ⟨hselected.waiting hsrv.symm (fun _ => rfl) rfl, Or.inr ⟨rfl, srv, conn, rfl, rfl, rfl⟩⟩

/-- A reserved connection is on a server of the hostgroup of its session, which was checked. -/
theorem reserved_serves
    {ask : ReaderAsk} {hid srv : Nat}
    (h : ask.reserved = some (hid, srv)) :
    ask.session.currentHostgroup = hid ∧
      ∃ readers, (ask.hostgroups hid).readers = some readers ∧ ∃ entry ∈ readers.servers,
        entry.srv = srv ∧
          Serves (ask.hostgroups hid) (reservationRequest ask.session.wait) entry := by
  rw [ReaderAsk.reserved] at h
  split at h
  · cases h
  rename_i server hserver
  split at h
  · cases h
  rename_i hid' hhid
  split at h
  · rename_i hover
    cases h
    rw [WaitWorker.handsOver, WaitWorker.reservationCurrent, hserver, Option.bind_some, hhid] at hover
    simp only [Bool.and_eq_true, beq_iff_eq] at hover
    obtain ⟨⟨-, ⟨hgroup, -⟩, hcan⟩, -⟩ := hover
    exact ⟨hgroup, serverCanServeRequest_serves hcan⟩
  · cases h

/-- The wait of a session that takes its reserved connection is left out for the sample of its
server. -/
theorem readerForRequest_reserved
    (w : AcquireWorld σ) (scope : AcquireScope) (req : ReaderRequest)
    {ask : ReaderAsk} {hid srv : Nat}
    (h : ask.reserved = some (hid, srv))
    (a : Acquisition σ) :
    (readerForRequest w scope req ask a).1.srv = some srv ∧
      (readerForRequest w scope req ask a).2.created = a.created ∧
      ((readerForRequest w scope req ask a).1.waitBypassAllowed = true →
        req.waitSpec.hasWait = true ∧ (ask.sampleOf srv).fresh = true ∧
          req.waitSpec.target ≤ (ask.sampleOf srv).lsn) := by
  rw [readerForRequest, h]
  dsimp only
  split
  · rename_i hwait
    refine ⟨rfl, rfl, fun hbypass => ⟨hwait, ?_⟩⟩
    rwa [Bool.and_eq_true, decide_eq_true_eq] at hbypass
  · exact ⟨rfl, rfl, fun hbypass => by cases hbypass⟩

end Acquiring

end Readers

end PolarProxy
