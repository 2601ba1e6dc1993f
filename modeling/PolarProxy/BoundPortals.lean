import Mathlib.Data.List.InsertIdx
import PolarProxy.PortalMessages
import PolarProxy.StmtReferences

/-!
# A bound portal keeps its statement

A watcher writes down, for each session, the statement object that the last Bind has found and
what the object said then; a reset of the portal clears the note.  After every run the notes are
what the portals point to, and every portal has its statement from a name or owns it.

Names, closes and purges are described by what they leave of one session: the others are as
before, its portal points where it pointed, and no object in use is overwritten.

**Results.** `Moves`, `PortalsOk.portalStep`, `watch_portalStep`, `bound_portal_keeps_statement`.
-/

namespace PolarProxy

/-! ## The watcher -/

/-- A statement object, with what it says. -/
structure ResolvedStmt where
  address : Nat
  info : StmtInfo
  deriving DecidableEq

namespace StmtSystem

/-- What the lookup of a name finds. -/
def resolve (s : StmtSystem) (c : ClientStmts) (name : String) : Option ResolvedStmt :=
  (c.find name).map fun e => ⟨e.2, s.manager.info e.2⟩

/-- The notes after a message, from its answer. -/
def watchMessage (s : StmtSystem) (notes : List (Option ResolvedStmt)) (i : Nat)
    (c : ClientStmts) (msg : ExtendedMsg) (answer : MsgAnswer) : List (Option ResolvedStmt) :=
  if answer.fails then notes.set i none
  else
    match msg with
    | .bind _ name => notes.set i (s.resolve c name)
    | .closePortal _ => notes.set i none
    | _ => notes

/-- The notes after a step from the state. -/
def watch (hash : StmtKey → UInt64) (s : StmtSystem) (notes : List (Option ResolvedStmt)) :
    PortalEvent → List (Option ResolvedStmt)
  | .message i msg env =>
      match s.sessions[i]?, (s.processMessage hash i msg env).2 with
      | some c, some answer => s.watchMessage notes i c msg answer
      | _, _ => notes
  | .other .attachSession => notes ++ [none]
  | .other (.bind i name) =>
      match s.sessions[i]? with
      | some c => if (s.resolve c name).isSome then notes.set i (s.resolve c name) else notes
      | none => notes
  | .other (.resetPortal i) => notes.set i none
  | .other (.destroySession i _) => notes.eraseIdx i
  | .other _ => notes

/-- A run with its notes. -/
def watched (hash : StmtKey → UInt64) (events : List PortalEvent) :
    StmtSystem × List (Option ResolvedStmt) :=
  events.foldl (fun w event => (w.1.portalStep hash event, w.1.watch hash w.2 event)) ({}, [])

/-- What the portal of a session points to. -/
def pointee (s : StmtSystem) (c : ClientStmts) : Option ResolvedStmt :=
  c.portal.map fun p => ⟨p.statement, s.manager.info p.statement⟩

/-- What the portals point to. -/
def pointees (s : StmtSystem) : List (Option ResolvedStmt) :=
  s.sessions.map s.pointee

variable {hash : StmtKey → UInt64} {s s' s'' : StmtSystem}
variable {i j a : Nat} {c c' c'' : ClientStmts} {name : String}

/-! ## What is in use -/

/-- A session whose portal and names refer to objects below a bound. -/
structure SessionOk (bound : Nat) (c : ClientStmts) : Prop where
  portal : PortalOk c
  named : ∀ a ∈ c.named, a < bound
  pointee : ∀ p, c.portal = some p → p.statement < bound

/-- The objects in use are below the next one. -/
structure PortalsOk (s : StmtSystem) : Prop where
  cached : ∀ a ∈ s.manager.cached, a < s.manager.nextAddress
  sessions : ∀ c ∈ s.sessions, SessionOk s.manager.nextAddress c

theorem SessionOk.mono
    {bound bound' : Nat}
    (h : SessionOk bound c)
    (hle : bound ≤ bound') :
    SessionOk bound' c :=
  ⟨h.portal, fun a ha => Nat.lt_of_lt_of_le (h.named a ha) hle,
    fun p hp => Nat.lt_of_lt_of_le (h.pointee p hp) hle⟩

theorem SessionOk.withPortal
    {bound : Nat} {portal : Option BoundPortal}
    (h : SessionOk bound c)
    (hportal : ∀ p, portal = some p → p.retainedStatement = none ∧ p.statement ∈ c.named) :
    SessionOk bound { c with portal := portal } :=
  ⟨fun p hp => Or.inr (hportal p hp), h.named, fun p hp => h.named _ (hportal p hp).2⟩

/-- An operation leaves the objects in use as they are. -/
structure Extends (m m' : StmtManager) : Prop where
  next : m.nextAddress ≤ m'.nextAddress
  info : ∀ a < m.nextAddress, m'.info a = m.info a
  cached : ∀ a ∈ m'.cached, a ∈ m.cached ∨ a < m'.nextAddress

theorem Extends.refl (m : StmtManager) : Extends m m :=
  ⟨Nat.le_refl _, fun _ _ => rfl, fun _ ha => Or.inl ha⟩

theorem Extends.trans
    {m m' m'' : StmtManager}
    (h : Extends m m')
    (h' : Extends m' m'') :
    Extends m m'' := by
  refine ⟨Nat.le_trans h.next h'.next, ?_, ?_⟩
  · intro a ha
    rw [h'.info a (Nat.lt_of_lt_of_le ha h.next), h.info a ha]
  · intro a ha
    rcases h'.cached a ha with ha | ha
    · exact (h.cached a ha).imp_right fun hlt => Nat.lt_of_lt_of_le hlt h'.next
    · exact Or.inr ha

/-- What an operation on the names of session `i` leaves. -/
structure Moves (s s' : StmtSystem) (i : Nat) (c c' : ClientStmts) : Prop where
  sessions : s'.sessions = s.sessions.set i c'
  manager : Extends s.manager s'.manager
  portal : c'.portal.map (·.statement) = c.portal.map (·.statement)
  ok : PortalOk c → PortalOk c'
  named : ∀ a ∈ c'.named, a ∈ c.named ∨ a < s'.manager.nextAddress

theorem Moves.refl
    (hs : s.sessions[i]? = some c) :
    Moves s s i c c := by
  obtain ⟨hi, rfl⟩ := List.getElem?_eq_some_iff.mp hs
  exact ⟨(List.set_getElem_self hi).symm, Extends.refl _, rfl, fun h => h, fun _ ha => Or.inl ha⟩

theorem Moves.trans
    (h : Moves s s' i c c')
    (h' : Moves s' s'' i c' c'') :
    Moves s s'' i c c'' := by
  refine ⟨?_, h.manager.trans h'.manager, h'.portal.trans h.portal, fun hok => h'.ok (h.ok hok), ?_⟩
  · rw [h'.sessions, h.sessions, List.set_set]
  · intro a ha
    rcases h'.named a ha with ha | ha
    · exact (h.named a ha).imp_right fun hlt => Nat.lt_of_lt_of_le hlt h'.manager.next
    · exact Or.inr ha

theorem Moves.session
    (h : Moves s s' i c c')
    (hs : s.sessions[i]? = some c) :
    s'.sessions[i]? = some c' := by
  obtain ⟨hi, -⟩ := List.getElem?_eq_some_iff.mp hs
  rw [h.sessions]
  exact List.getElem?_set_self hi

/-! ## Names -/

theorem extends_refCountClient
    (held : List Nat) (a : Nat) (v : Int) (env : PurgeEnv) :
    Extends s.manager (s.refCountClient held a v env).manager := by
  have hpurge : ∀ (m : StmtManager) (useCount : Nat → Nat),
      (m.purgeStmtsIfNeeded useCount env).nextAddress = m.nextAddress ∧
        ∀ x ∈ (m.purgeStmtsIfNeeded useCount env).cached, x ∈ m.cached := by
    intro m useCount
    rw [StmtManager.purgeStmtsIfNeeded]
    split
    · exact ⟨rfl, fun _ hx => hx⟩
    · split
      · exact ⟨rfl, fun _ hx => hx⟩
      · split
        · exact ⟨rfl, fun _ hx => hx⟩
        · refine ⟨rfl, fun x hx => ?_⟩
          exact (StmtManager.sweep_perm _ _ _).mem_iff.mpr (List.mem_append_left _ hx)
  obtain ⟨hnext, hcached⟩ :=
    hpurge { s.manager with client := s.manager.client.adjust a v } (s.useCount held)
  refine ⟨Nat.le_of_eq hnext.symm, fun x _ => ?_, fun x hx => Or.inl (hcached x hx)⟩
  rw [refCountClient, purgeStmtsIfNeeded_info]

theorem moves_releaseName
    (held : List Nat)
    (hfind : c.find name = some (name, a))
    (env : PurgeEnv) :
    Moves s (s.releaseName i c held name a env) i c (c.release name a) := by
  refine ⟨rfl, extends_refCountClient held a (-1) env, ?_, fun h => portalOk_release h hfind, ?_⟩
  · cases hportal : c.portal with
    | none =>
        simp [ClientStmts.release, hportal]
    | some p =>
        simp only [ClientStmts.release, hportal, Option.map_some, BoundPortal.retain]
        split
        · rfl
        · rfl
  · intro x hx
    exact Or.inl ((named_release hfind).mem_iff.mpr (List.mem_cons_of_mem _ hx))

theorem moves_insert
    {m : StmtManager}
    (hm : Extends s.manager m)
    (ha : a < m.nextAddress)
    (name : String) :
    Moves s ({ s with manager := m }.setSession i (c.insert name a)) i c (c.insert name a) := by
  refine ⟨rfl, hm, rfl, fun h => portalOk_insert h name a, ?_⟩
  intro x hx
  rcases List.mem_cons.mp ((named_insert c name a).mem_iff.mp hx) with rfl | hx
  · exact Or.inr ha
  · exact Or.inl hx

theorem moves_clientInsert
    (hs : s.sessions[i]? = some c)
    (ha : a < s.manager.nextAddress)
    (name : String) (env : Nat → PurgeEnv) :
    ∃ c', Moves s (s.clientInsert i c a name env) i c c' := by
  unfold StmtSystem.clientInsert
  split
  case h_1 n old hfind =>
    obtain rfl : n = name := find_fst hfind
    split
    · exact ⟨c, Moves.refl hs⟩
    · have hrelease := moves_releaseName (s := s) (i := i) [a] hfind (env 0)
      have hcount := extends_refCountClient (s := s.releaseName i c [a] n old (env 0)) [a] a 1 (env 1)
      exact ⟨_, hrelease.trans (moves_insert hcount
        (Nat.lt_of_lt_of_le ha (Nat.le_trans hrelease.manager.next hcount.next)) n)⟩
  case h_2 =>
    have hcount := extends_refCountClient (s := s.setSession i (c.insert name a)) [a] a 1 (env 0)
    exact ⟨c.insert name a, moves_insert (s := s) (i := i) (c := c) hcount
      (Nat.lt_of_lt_of_le ha hcount.next) name⟩

theorem moves_clientClose
    (hs : s.sessions[i]? = some c)
    (name : String) (env : PurgeEnv) :
    ∃ c', Moves s (s.clientClose i c name env) i c c' := by
  unfold StmtSystem.clientClose
  split
  case h_1 =>
    exact ⟨c, Moves.refl hs⟩
  case h_2 n a hfind =>
    obtain rfl : n = name := find_fst hfind
    exact ⟨_, moves_releaseName [] hfind env⟩

theorem moves_clientCloseAll
    {portal : Option BoundPortal}
    (env : Nat → PurgeEnv)
    (names : List (String × Nat))
    (hs : s.sessions[i]? = some ⟨names, portal⟩) :
    ∃ c', Moves s (s.clientCloseAll i portal env names) i ⟨names, portal⟩ c' := by
  induction names generalizing s portal with
  | nil =>
      exact ⟨⟨[], portal⟩, rfl, Extends.refl _, rfl, fun h => h, fun _ ha => Or.inl ha⟩
  | cons e rest ih =>
      obtain ⟨n, a⟩ := e
      have hfind : (⟨(n, a) :: rest, portal⟩ : ClientStmts).find n = some (n, a) := by
        simp [ClientStmts.find]
      have hrelease : (⟨(n, a) :: rest, portal⟩ : ClientStmts).release n a =
          ⟨rest, portal.map (·.retain a)⟩ := by
        simp [ClientStmts.release]
      have hmoves := moves_releaseName (s := s) (i := i) [] hfind (env rest.length)
      have hsession := hmoves.session hs
      rw [hrelease] at hmoves hsession
      obtain ⟨c', hrest⟩ := ih hsession
      refine ⟨c', hmoves.trans ?_⟩
      simpa only [StmtSystem.releaseName, hrelease, StmtSystem.clientCloseAll] using hrest

theorem moves_parse
    (h : PortalsOk s)
    (hs : s.sessions[i]? = some c)
    (name : String) (key : StmtKey) (env : Nat → PurgeEnv) :
    ∃ c', Moves s (s.parse hash i c name key env) i c c' := by
  have hbelow : ∀ a, s.manager.findByHash (hash key) = some a → a < s.manager.nextAddress :=
    fun a ha => h.cached a (List.mem_of_find?_eq_some ha)
  unfold StmtSystem.parse
  split
  case h_1 =>
    split
    · exact ⟨c, Moves.refl hs⟩
    · split
      · exact ⟨c, Moves.refl hs⟩
      · split
        case h_1 a hfind =>
          exact moves_clientInsert hs (hbelow a hfind) name env
        case h_2 =>
          exact moves_clientClose hs name (env 0)
  case h_2 =>
    split
    case h_1 a hfind =>
      exact moves_clientInsert hs (hbelow a hfind) name env
    case h_2 =>
      exact ⟨c, Moves.refl hs⟩

theorem moves_runLocally
    (hs : s.sessions[i]? = some c)
    (env : Nat → PurgeEnv) (command : LocalCommand) :
    ∃ c', Moves s (s.runLocally i c env command) i c c' := by
  cases command with
  | deallocate name =>
      exact moves_clientClose hs name (env 0)
  | deallocateAll =>
      exact moves_clientCloseAll env c.names hs
  | other =>
      exact ⟨c, Moves.refl hs⟩

/-! ## One step -/

theorem PortalsOk.extends
    (h : PortalsOk s)
    (hm : Extends s.manager s'.manager)
    (hsessions : ∀ c ∈ s'.sessions, c ∈ s.sessions ∨ SessionOk s'.manager.nextAddress c) :
    PortalsOk s' := by
  refine ⟨?_, ?_⟩
  · intro a ha
    rcases hm.cached a ha with ha | ha
    · exact Nat.lt_of_lt_of_le (h.cached a ha) hm.next
    · exact ha
  · intro c hc
    rcases hsessions c hc with hc | hc
    · exact (h.sessions c hc).mono hm.next
    · exact hc

/-- The portals of sessions in use point to objects that are left as they are. -/
theorem PortalsOk.pointee_eq
    (h : PortalsOk s)
    (hm : Extends s.manager s'.manager)
    (hc : c ∈ s.sessions) :
    s'.pointee c = s.pointee c := by
  rw [pointee, pointee]
  cases hportal : c.portal with
  | none =>
      rfl
  | some p =>
      rw [Option.map_some, Option.map_some, hm.info _ ((h.sessions c hc).pointee p hportal)]

theorem PortalsOk.pointees_eq
    (h : PortalsOk s)
    (hm : Extends s.manager s'.manager)
    (hsessions : s'.sessions = s.sessions) :
    s'.pointees = s.pointees := by
  rw [pointees, pointees, hsessions]
  exact List.map_congr_left fun c hc => h.pointee_eq hm hc

theorem PortalsOk.moves
    (h : PortalsOk s)
    (hs : s.sessions[i]? = some c)
    (hmoves : Moves s s' i c c') :
    PortalsOk s' ∧ s'.pointees = s.pointees := by
  have hc := h.sessions c (List.mem_of_getElem? hs)
  have hportal := hmoves.portal
  have hc' : SessionOk s'.manager.nextAddress c' := by
    refine ⟨hmoves.ok hc.portal, ?_, ?_⟩
    · intro a ha
      rcases hmoves.named a ha with ha | ha
      · exact Nat.lt_of_lt_of_le (hc.named a ha) hmoves.manager.next
      · exact ha
    · intro p hp
      rw [hp] at hportal
      cases hq : c.portal with
      | none =>
          rw [hq] at hportal
          cases hportal
      | some q =>
          rw [hq] at hportal
          have heq : p.statement = q.statement := Option.some.inj hportal
          rw [heq]
          exact Nat.lt_of_lt_of_le (hc.pointee q hq) hmoves.manager.next
  refine ⟨h.extends hmoves.manager ?_, ?_⟩
  · intro d hd
    rw [hmoves.sessions] at hd
    rcases List.mem_or_eq_of_mem_set hd with hd | rfl
    · exact Or.inl hd
    · exact Or.inr hc'
  · have hsame : s'.pointee c' = s.pointee c := by
      rw [← h.pointee_eq hmoves.manager (List.mem_of_getElem? hs), pointee, pointee]
      cases hq : c.portal with
      | none =>
          rw [hq] at hportal
          rw [Option.map_eq_none_iff.mp hportal]
      | some q =>
          rw [hq] at hportal
          obtain ⟨p, hp, heq⟩ := Option.map_eq_some_iff.mp hportal
          rw [hp, Option.map_some, Option.map_some, heq]
    obtain ⟨hi, heq⟩ := List.getElem?_eq_some_iff.mp hs
    rw [pointees, hmoves.sessions, List.map_set, hsame]
    have hothers : s.sessions.map s'.pointee = s.pointees :=
      List.map_congr_left fun d hd => h.pointee_eq hmoves.manager hd
    rw [hothers, pointees, ← heq, ← List.map_set, List.set_getElem_self]

theorem PortalsOk.setPortal
    {p : Option BoundPortal}
    (h : PortalsOk s)
    (hs : s.sessions[i]? = some c)
    (hportal : ∀ portal, p = some portal →
      portal.retainedStatement = none ∧ portal.statement ∈ c.named) :
    PortalsOk (s.setSession i { c with portal := p }) ∧
      (s.setSession i { c with portal := p }).pointees =
        s.pointees.set i (s.pointee { c with portal := p }) := by
  refine ⟨h.extends (Extends.refl _) ?_, ?_⟩
  · intro d hd
    rcases List.mem_or_eq_of_mem_set hd with hd | rfl
    · exact Or.inl hd
    · exact Or.inr ((h.sessions c (List.mem_of_getElem? hs)).withPortal hportal)
  · exact List.map_set

theorem PortalsOk.resetPortal
    (h : PortalsOk s)
    (i : Nat) :
    PortalsOk (s.resetPortal i) ∧ (s.resetPortal i).pointees = s.pointees.set i none := by
  rw [StmtSystem.resetPortal]
  cases hs : s.sessions[i]? with
  | none =>
      have hlen : s.pointees.length ≤ i := by
        rw [pointees, List.length_map]
        exact List.getElem?_eq_none_iff.mp hs
      exact ⟨h, (List.set_eq_of_length_le hlen).symm⟩
  | some c =>
      exact h.setPortal hs nofun

/-! ### Messages -/

/-- The statement that an Execute or a Describe of the portal uses is the portal's. -/
theorem portalStatement_handleMessage
    {msg : ExtendedMsg} {env : MessageEnv}
    (h : (s.handleMessage hash i c env msg).2.portalStatement = some a) :
    ∃ p, c.portal = some p ∧ p.statement = a := by
  cases msg with
  | parse name key =>
      simp only [handleMessage, handleParse, parseAnswer] at h
      repeat' split at h
      all_goals simp [MsgAnswer.portalStatement, statementExists] at h
  | describePortal portal =>
      simp only [handleMessage, handleDescribePortal] at h
      split at h
      · cases h
      · split at h
        case h_1 =>
          cases h
        case h_2 p hp =>
          refine ⟨p, hp, ?_⟩
          repeat' split at h
          all_goals simp [MsgAnswer.portalStatement] at h
          exact h
  | describeStatement name =>
      simp only [handleMessage, handleDescribeStatement, noStatement] at h
      repeat' split at h
      all_goals simp [MsgAnswer.portalStatement] at h
  | bind portal name =>
      simp only [handleMessage, handleBind, noStatement, namedPortal] at h
      repeat' split at h
      all_goals simp [MsgAnswer.portalStatement] at h
  | execute portal =>
      simp only [handleMessage, handleExecute] at h
      split at h
      · cases h
      · split at h
        · cases h
        · split at h
          case h_1 =>
            cases h
          case h_2 p hp =>
            refine ⟨p, hp, ?_⟩
            repeat' split at h
            all_goals simp [MsgAnswer.portalStatement] at h
            all_goals exact h
  | closePortal portal =>
      simp only [handleMessage, handleClosePortal, namedPortal] at h
      repeat' split at h
      all_goals simp [MsgAnswer.portalStatement] at h
  | closeStatement name =>
      cases h

/-- What a handler leaves, before a failed frame is discarded. -/
structure Handled (s : StmtSystem) (i : Nat) (c : ClientStmts) (msg : ExtendedMsg)
    (handled : StmtSystem × MsgAnswer) : Prop where
  ok : PortalsOk handled.1
  pointees : handled.1.pointees =
    if handled.2.fails then s.pointees else s.watchMessage s.pointees i c msg handled.2

theorem Handled.kept
    {msg : ExtendedMsg} {handled : StmtSystem × MsgAnswer}
    (h : PortalsOk handled.1 ∧ handled.1.pointees = s.pointees)
    (hkept : s.watchMessage s.pointees i c msg handled.2 = s.pointees ∨ handled.2.fails = true) :
    Handled s i c msg handled := by
  refine ⟨h.1, h.2.trans ?_⟩
  split
  case isTrue =>
    rfl
  case isFalse hfails =>
    exact (hkept.resolve_right hfails).symm

theorem PortalsOk.handleBind
    (h : PortalsOk s)
    (hs : s.sessions[i]? = some c)
    (portal name : String) (env : MessageEnv) :
    Handled s i c (.bind portal name) (s.handleBind i c portal name env) := by
  have hrefused : ∀ answer : MsgAnswer, answer.fails = true →
      Handled s i c (.bind portal name) (s, answer) :=
    fun _ hfails => Handled.kept ⟨h, rfl⟩ (Or.inr hfails)
  unfold StmtSystem.handleBind
  split
  · exact hrefused _ rfl
  · split
    case h_1 =>
      refine hrefused _ ?_
      rw [noStatement]
      split
      · rfl
      · rfl
    case h_2 n a hfind =>
      split
      · exact hrefused _ rfl
      · split
        · exact hrefused _ rfl
        · have hset := h.setPortal (p := some { statement := a }) hs (by
            rintro p ⟨⟩
            exact ⟨rfl, List.mem_map_of_mem (List.mem_of_find?_eq_some hfind)⟩)
          refine ⟨hset.1, hset.2.trans ?_⟩
          change s.pointees.set i _ = s.pointees.set i (s.resolve c name)
          rw [resolve, hfind]
          rfl

theorem PortalsOk.handleExecute
    (h : PortalsOk s)
    (hs : s.sessions[i]? = some c)
    (portal : String) (env : MessageEnv) :
    Handled s i c (.execute portal) (s.handleExecute i c portal env) := by
  have hwatch : ∀ answer : MsgAnswer,
      s.watchMessage s.pointees i c (.execute portal) answer = s.pointees ∨ answer.fails = true := by
    intro answer
    unfold watchMessage
    cases answer.fails with
    | true =>
        exact Or.inr rfl
    | false =>
        exact Or.inl rfl
  have hsame : ∀ answer : MsgAnswer, Handled s i c (.execute portal) (s, answer) :=
    fun answer => Handled.kept ⟨h, rfl⟩ (hwatch answer)
  unfold StmtSystem.handleExecute
  split
  · exact hsame _
  · split
    · exact hsame _
    · split
      case h_1 =>
        exact hsame _
      case h_2 p hp =>
        split
        case h_1 =>
          exact hsame _
        case h_2 command hcommand =>
          obtain ⟨c', hmoves⟩ := moves_runLocally hs env.purge command
          exact Handled.kept (h.moves hs hmoves) (hwatch _)
        case h_3 =>
          split
          · exact hsame _
          · exact hsame _

theorem PortalsOk.handleMessage
    (h : PortalsOk s)
    (hs : s.sessions[i]? = some c)
    (msg : ExtendedMsg) (env : MessageEnv) :
    Handled s i c msg (s.handleMessage hash i c env msg) := by
  have hwatch : ∀ answer : MsgAnswer,
      (∀ portal name, msg ≠ .bind portal name) → (∀ portal, msg ≠ .closePortal portal) →
        s.watchMessage s.pointees i c msg answer = s.pointees ∨ answer.fails = true := by
    intro answer hbind hclose
    unfold watchMessage
    cases answer.fails with
    | true =>
        exact Or.inr rfl
    | false =>
        refine Or.inl ?_
        rw [if_neg Bool.false_ne_true]
        split
        case h_1 portal name =>
          exact absurd rfl (hbind portal name)
        case h_2 portal =>
          exact absurd rfl (hclose portal)
        case h_3 =>
          rfl
  cases msg with
  | parse name key =>
      rw [StmtSystem.handleMessage, handleParse]
      split
      · exact Handled.kept ⟨h, rfl⟩ (Or.inr rfl)
      · split
        · exact Handled.kept ⟨h, rfl⟩ (Or.inr rfl)
        · split
          · exact Handled.kept ⟨h, rfl⟩ (Or.inr rfl)
          · obtain ⟨c', hmoves⟩ := moves_parse h hs name key env.purge
            exact Handled.kept (h.moves hs hmoves) (hwatch _ nofun nofun)
  | describePortal _ | describeStatement _ =>
      exact Handled.kept ⟨h, rfl⟩ (hwatch _ nofun nofun)
  | bind portal name =>
      exact h.handleBind hs portal name env
  | execute portal =>
      exact h.handleExecute hs portal env
  | closePortal portal =>
      rw [StmtSystem.handleMessage, handleClosePortal]
      split
      · exact Handled.kept ⟨h, rfl⟩ (Or.inr rfl)
      · obtain ⟨hok, hpointees⟩ := h.setPortal (p := none) hs nofun
        exact ⟨hok, hpointees⟩
  | closeStatement name =>
      obtain ⟨c', hmoves⟩ := moves_clientClose hs name (env.purge 0)
      exact Handled.kept (h.moves hs hmoves) (hwatch _ nofun nofun)

theorem PortalsOk.processMessage
    (h : PortalsOk s)
    (i : Nat) (msg : ExtendedMsg) (env : MessageEnv) :
    PortalsOk (s.portalStep hash (.message i msg env)) ∧
      (s.portalStep hash (.message i msg env)).pointees =
        s.watch hash s.pointees (.message i msg env) := by
  rw [portalStep, watch, StmtSystem.processMessage]
  cases hs : s.sessions[i]? with
  | none =>
      exact ⟨h, rfl⟩
  | some c =>
      have hhandled : Handled s i c msg (s.handleMessage hash i c env msg) :=
        h.handleMessage hs msg env
      have hpointees := hhandled.pointees
      dsimp only
      unfold watchMessage
      cases hfails : (s.handleMessage hash i c env msg).2.fails with
      | true =>
          rw [hfails, if_pos rfl] at hpointees
          obtain ⟨hok, hreset⟩ := hhandled.ok.resetPortal i
          rw [if_pos rfl, if_pos rfl]
          exact ⟨hok, hreset.trans (congrArg (·.set i none) hpointees)⟩
      | false =>
          unfold watchMessage at hpointees
          rw [hfails, if_neg Bool.false_ne_true, if_neg Bool.false_ne_true] at hpointees
          rw [if_neg Bool.false_ne_true, if_neg Bool.false_ne_true]
          exact ⟨hhandled.ok, hpointees⟩

/-! ### Other operations -/

/-- What the registry does when a backend has prepared a statement. -/
theorem PortalsOk.addPreparedStatement
    (h : PortalsOk s)
    (key : StmtKey) :
    Extends s.manager (s.manager.addPreparedStatement hash key).2 ∧
      (s.manager.addPreparedStatement hash key).1 <
        (s.manager.addPreparedStatement hash key).2.nextAddress := by
  rw [StmtManager.addPreparedStatement]
  cases hfind : s.manager.findByHash (hash key) with
  | some a =>
      exact ⟨⟨Nat.le_refl _, fun _ _ => rfl, fun _ hx => Or.inl hx⟩,
        h.cached a (List.mem_of_find?_eq_some hfind)⟩
  | none =>
      have htake : s.manager.takeStatementId.2.info = s.manager.info ∧
          s.manager.takeStatementId.2.cached = s.manager.cached ∧
            s.manager.takeStatementId.2.nextAddress = s.manager.nextAddress := by
        rw [StmtManager.takeStatementId]
        split
        · exact ⟨rfl, rfl, rfl⟩
        · exact ⟨rfl, rfl, rfl⟩
      obtain ⟨hinfo, hcached, hnext⟩ := htake
      dsimp only [StmtManager.create]
      rw [hinfo, hcached, hnext]
      refine ⟨⟨Nat.le_succ _, ?_, ?_⟩, Nat.lt_succ_self _⟩
      · intro x hx
        exact Function.update_of_ne (Nat.ne_of_lt hx) _ _
      · intro x hx
        rcases List.mem_cons.mp ((List.perm_orderedInsert _ _ _).mem_iff.mp hx) with rfl | hx
        · exact Or.inr (Nat.lt_succ_self _)
        · exact Or.inl hx

theorem extends_releaseBackend
    (b : BackendStmts) :
    Extends s.manager (s.releaseBackend b).manager ∧
      (s.releaseBackend b).sessions = s.sessions := by
  rw [releaseBackend]
  induction b.owned generalizing s with
  | nil =>
      exact ⟨Extends.refl _, rfl⟩
  | cons a owned ih =>
      have hcount : Extends s.manager (s.refCountServer a (-1)).manager :=
        ⟨Nat.le_refl _, fun _ _ => rfl, fun _ hx => Or.inl hx⟩
      obtain ⟨hextends, hsessions⟩ := @ih (s.refCountServer a (-1))
      exact ⟨hcount.trans hextends, hsessions⟩

theorem PortalsOk.sameSessions
    {t : StmtSystem}
    (h : PortalsOk s)
    (hm : Extends s.manager t.manager)
    (hsessions : t.sessions = s.sessions) :
    PortalsOk t ∧ t.pointees = s.pointees :=
  ⟨h.extends hm fun _ hc => Or.inl (hsessions ▸ hc), h.pointees_eq hm hsessions⟩

theorem PortalsOk.prepareCompleted
    {b : BackendStmts} {backendStmtId : Nat} {key : StmtKey}
    (h : PortalsOk s)
    (hs : s.sessions[i]? = some c)
    (clientName : Option String) (env : Nat → PurgeEnv) :
    PortalsOk (s.prepareCompleted hash i j c b backendStmtId key clientName env) ∧
      (s.prepareCompleted hash i j c b backendStmtId key clientName env).pointees = s.pointees := by
  obtain ⟨hextends, hbelow⟩ := h.addPreparedStatement key
  unfold StmtSystem.prepareCompleted
  dsimp only
  generalize s.backends.set j _ = backends
  obtain ⟨hstored, hpointees⟩ := h.sameSessions
    (t := { s with manager := (s.manager.addPreparedStatement hash key).2, backends := backends })
    hextends rfl
  cases clientName with
  | none =>
      exact ⟨hstored, hpointees⟩
  | some name =>
      obtain ⟨c', hmoves⟩ := moves_clientInsert
        (s := { s with manager := (s.manager.addPreparedStatement hash key).2, backends := backends })
        hs hbelow name env
      obtain ⟨hok, hsame⟩ := hstored.moves hs hmoves
      exact ⟨hok, hsame.trans hpointees⟩

/-- An operation on session `i`, when there is one. -/
theorem PortalsOk.onSession
    (h : PortalsOk s)
    {f : ClientStmts → StmtSystem}
    (hf : ∀ c, s.sessions[i]? = some c → PortalsOk (f c) ∧ (f c).pointees = s.pointees) :
    PortalsOk (match s.sessions[i]? with
        | none => s
        | some c => f c) ∧
      (match s.sessions[i]? with
        | none => s
        | some c => f c).pointees = s.pointees := by
  cases hs : s.sessions[i]? with
  | none =>
      exact ⟨h, rfl⟩
  | some c =>
      exact hf c hs

theorem PortalsOk.step
    (h : PortalsOk s)
    (op : StmtOp) :
    PortalsOk (s.portalStep hash (.other op)) ∧
      (s.portalStep hash (.other op)).pointees = s.watch hash s.pointees (.other op) := by
  cases op with
  | attachSession =>
      refine ⟨h.extends (Extends.refl _) ?_, List.map_append⟩
      intro c hc
      rcases List.mem_append.mp hc with hc | hc
      · exact Or.inl hc
      · obtain rfl : c = {} := List.mem_singleton.mp hc
        exact Or.inr ⟨nofun, nofun, nofun⟩
  | attachBackend =>
      exact h.sameSessions (Extends.refl _) rfl
  | parse i name key env =>
      refine h.onSession fun c hs => ?_
      obtain ⟨c', hmoves⟩ := moves_parse h hs name key env
      exact h.moves hs hmoves
  | generate j =>
      rw [portalStep, StmtSystem.step]
      cases s.backends[j]? with
      | none =>
          exact ⟨h, rfl⟩
      | some b =>
          exact h.sameSessions (Extends.refl _) rfl
  | prepareCompleted i j backendStmtId key clientName env =>
      rw [portalStep, StmtSystem.step]
      split
      case h_1 c b hs hb =>
        split
        · exact ⟨h, rfl⟩
        · exact h.prepareCompleted hs clientName env
      case h_2 =>
        exact ⟨h, rfl⟩
  | bind i name =>
      rw [portalStep, StmtSystem.step, watch]
      cases hs : s.sessions[i]? with
      | none =>
          exact ⟨h, rfl⟩
      | some c =>
          dsimp only
          rw [resolve]
          cases hfind : c.find name with
          | none =>
              exact ⟨h, rfl⟩
          | some e =>
              refine h.setPortal hs ?_
              rintro p ⟨⟩
              exact ⟨rfl, List.mem_map_of_mem (List.mem_of_find?_eq_some hfind)⟩
  | resetPortal i =>
      exact h.resetPortal i
  | close i name env =>
      refine h.onSession fun c hs => ?_
      obtain ⟨c', hmoves⟩ := moves_clientClose hs name env
      exact h.moves hs hmoves
  | closeAll i env =>
      refine h.onSession fun c hs => ?_
      obtain ⟨c', hmoves⟩ := moves_clientCloseAll env c.names hs
      exact h.moves hs hmoves
  | destroySession i env =>
      rw [portalStep, StmtSystem.step, watch]
      cases hs : s.sessions[i]? with
      | none =>
          have hlen : s.pointees.length ≤ i := by
            rw [pointees, List.length_map]
            exact List.getElem?_eq_none_iff.mp hs
          exact ⟨h, (List.eraseIdx_of_length_le hlen).symm⟩
      | some c =>
          obtain ⟨c', hmoves⟩ := moves_clientCloseAll env c.names hs
          obtain ⟨hok, hpointees⟩ := h.moves hs hmoves
          refine ⟨hok.extends (Extends.refl _) fun d hd => Or.inl (List.mem_of_mem_eraseIdx hd), ?_⟩
          rw [← hpointees]
          exact (List.eraseIdx_map _ _ _).symm
  | resetBackend j =>
      rw [portalStep, StmtSystem.step]
      cases s.backends[j]? with
      | none =>
          exact ⟨h, rfl⟩
      | some b =>
          obtain ⟨hextends, hsessions⟩ := extends_releaseBackend (s := s) b
          exact h.sameSessions hextends hsessions
  | destroyBackend j =>
      rw [portalStep, StmtSystem.step]
      cases s.backends[j]? with
      | none =>
          exact ⟨h, rfl⟩
      | some b =>
          obtain ⟨hextends, hsessions⟩ := extends_releaseBackend (s := s) b
          exact h.sameSessions hextends hsessions

/-! ## Runs -/

theorem PortalsOk.portalStep
    (h : PortalsOk s)
    (event : PortalEvent) :
    PortalsOk (s.portalStep hash event) ∧
      (s.portalStep hash event).pointees = s.watch hash s.pointees event := by
  cases event with
  | message i msg env =>
      exact h.processMessage i msg env
  | other op =>
      exact h.step op

theorem portalsOk_watched (hash : StmtKey → UInt64) (events : List PortalEvent) :
    PortalsOk (watched hash events).1 ∧
      (watched hash events).1.pointees = (watched hash events).2 := by
  have hrun : ∀ w : StmtSystem × List (Option ResolvedStmt), PortalsOk w.1 → w.1.pointees = w.2 →
      PortalsOk (events.foldl (fun w event =>
          (w.1.portalStep hash event, w.1.watch hash w.2 event)) w).1 ∧
        (events.foldl (fun w event =>
          (w.1.portalStep hash event, w.1.watch hash w.2 event)) w).1.pointees =
            (events.foldl (fun w event =>
              (w.1.portalStep hash event, w.1.watch hash w.2 event)) w).2 := by
    induction events with
    | nil =>
        intro w h hnotes
        exact ⟨h, hnotes⟩
    | cons event events ih =>
        intro w h hnotes
        obtain ⟨hok, hstep⟩ := h.portalStep event
        rw [hnotes] at hstep
        exact ih _ hok hstep
  exact hrun ({}, []) ⟨nofun, nofun⟩ rfl

/-- In every run an Execute or a Describe of the portal uses the statement object that the last
Bind of its session has found, with what it said then, and the statement of a bound portal is
owned by a name of its client or by the portal. -/
theorem bound_portal_keeps_statement
    (hash : StmtKey → UInt64)
    (events : List PortalEvent) :
    (∀ (i : Nat) (msg : ExtendedMsg) (env : MessageEnv) (answer : MsgAnswer) (a : Nat),
      ((watched hash events).1.processMessage hash i msg env).2 = some answer →
        answer.portalStatement = some a →
          (watched hash events).2[i]? =
            some (some ⟨a, (watched hash events).1.manager.info a⟩)) ∧
      ∀ c ∈ (watched hash events).1.sessions, ∀ p, c.portal = some p →
        p.retainedStatement = some p.statement ∨ p.statement ∈ c.named := by
  obtain ⟨hok, hnotes⟩ := portalsOk_watched hash events
  refine ⟨?_, ?_⟩
  · intro i msg env answer a hanswer hused
    rw [← hnotes, pointees, List.getElem?_map]
    rw [StmtSystem.processMessage] at hanswer
    cases hs : (watched hash events).1.sessions[i]? with
    | none =>
        rw [hs] at hanswer
        cases hanswer
    | some c =>
        rw [hs] at hanswer
        rw [← Option.some.inj hanswer] at hused
        obtain ⟨p, hp, rfl⟩ := portalStatement_handleMessage hused
        rw [Option.map_some, pointee, hp]
        rfl
  · intro c hc p hp
    exact ((hok.sessions c hc).portal p hp).imp_right And.right

end StmtSystem

end PolarProxy
