import Mathlib.Data.Multiset.AddSub
import PolarProxy.StmtInvariant

/-!
# References to prepared statements

The invariant of the registry with all its sessions and connections.  The multisets of
the registry are those of the entries that the sessions and connections have; a bound
portal has its statement from a name of its session or owns it; and a connection maps
an identifier to a number under which its backend has the query of the statement.

**Results.** `SystemOk.releaseName`, `SystemOk.clientInsert`, `SystemOk.prepareCompleted`,
`SystemOk.releaseBackend`, `statement_registry_invariant`.
-/

namespace PolarProxy

open RefCounts StmtManager

/-! ## Entries of a list of sessions or connections -/

section Entries

variable {α β : Type} {l : List β} {i : Nat} {c : β}

theorem flatMap_split
    (f : β → List α)
    (h : l[i]? = some c) :
    (l.flatMap f : Multiset α) = (f c : Multiset α) + ((l.eraseIdx i).flatMap f : Multiset α) := by
  obtain ⟨hi, rfl⟩ := List.getElem?_eq_some_iff.mp h
  exact Multiset.coe_eq_coe.mpr
    ((List.getElem_cons_eraseIdx_perm hi).symm.flatMap_right f)

theorem flatMap_set
    (f : β → List α)
    (h : l[i]? = some c)
    (c' : β) :
    ((l.set i c').flatMap f : Multiset α) =
      (f c' : Multiset α) + ((l.eraseIdx i).flatMap f : Multiset α) := by
  obtain ⟨hi, _⟩ := List.getElem?_eq_some_iff.mp h
  exact Multiset.coe_eq_coe.mpr ((List.set_perm_cons_eraseIdx hi c').flatMap_right f)

theorem forall_mem_set
    {p : β → Prop} {c' : β}
    (h : ∀ b ∈ l, p b)
    (hc : p c') :
    ∀ b ∈ l.set i c', p b := by
  intro b hb
  rcases List.mem_or_eq_of_mem_set hb with hmem | rfl
  · exact h b hmem
  · exact hc

end Entries

namespace StmtSystem

variable {hash : StmtKey → UInt64} {keys : Set StmtKey} {s : StmtSystem}
variable {i j a : Nat} {c : ClientStmts} {b : BackendStmts} {held : List Nat} {name : String}

/-- All that owns a statement besides the registry. -/
def owners (s : StmtSystem) : Multiset Nat :=
  (s.clientEntries : Multiset Nat) + (s.portalEntries : Multiset Nat) +
    (s.serverEntries : Multiset Nat)

/-- A bound portal has its statement from a name, or owns it. -/
def PortalOk (c : ClientStmts) : Prop :=
  ∀ p, c.portal = some p →
    p.retainedStatement = some p.statement ∨
      p.retainedStatement = none ∧ p.statement ∈ c.named

/-- The backend has the queries of the statements that its connection maps. -/
structure BackendOk (info : Nat → StmtInfo) (b : BackendStmts) : Prop where
  prepared : ∀ e ∈ b.toGlobal, b.preparedQuery e.1 = some (info e.2).key.query
  mapped : ∀ e ∈ b.toBackend, ∃ a, (e.2, a) ∈ b.toGlobal ∧ (info a).statementId = e.1

structure SystemOk (hash : StmtKey → UInt64) (keys : Set StmtKey) (s : StmtSystem) : Prop where
  manager : ManagerOk hash keys s.manager s.clientEntries s.serverEntries s.owners
  portals : ∀ c ∈ s.sessions, PortalOk c
  backends : ∀ b ∈ s.backends, BackendOk s.manager.info b

/-! ## Counting -/

@[simp]
theorem purgeStmtsIfNeeded_info (m : StmtManager) (useCount : Nat → Nat) (env : PurgeEnv) :
    (m.purgeStmtsIfNeeded useCount env).info = m.info := by
  simp only [purgeStmtsIfNeeded]
  split
  next => rfl
  next =>
      split
      next => rfl
      next =>
          split
          next => rfl
          next => rfl

theorem useCount_ne_one
    (h : a ∈ s.owners + (held : Multiset Nat)) :
    s.useCount held a ≠ 1 := by
  have hpos := Multiset.count_pos.mpr h
  simp only [owners, Multiset.count_add, Multiset.coe_count] at hpos
  simp only [useCount]
  omega

theorem refCountClient_release
    {clients servers : Multiset Nat}
    (h : ManagerOk hash keys s.manager (a ::ₘ clients) servers (s.owners + (held : Multiset Nat)))
    (env : PurgeEnv) :
    ManagerOk hash keys (s.refCountClient held a (-1) env).manager clients servers
      (s.owners + (held : Multiset Nat)) :=
  h.releaseClient.purge (fun _ hb => useCount_ne_one hb) env

theorem refCountClient_acquire
    {clients servers : Multiset Nat}
    (h : ManagerOk hash keys s.manager clients servers (s.owners + (held : Multiset Nat)))
    (ha : a ∈ s.manager.cached)
    (env : PurgeEnv) :
    ManagerOk hash keys (s.refCountClient held a 1 env).manager (a ::ₘ clients) servers
      (s.owners + (held : Multiset Nat)) :=
  (h.acquireClient ha).purge (fun _ hb => useCount_ne_one hb) env

/-! ## One session -/

/-- The statements of the other sessions. -/
def others (s : StmtSystem) (i : Nat) (f : ClientStmts → List Nat) : Multiset Nat :=
  ((s.sessions.eraseIdx i).flatMap f : List Nat)

theorem mem_owners {x : Nat} :
    x ∈ s.owners ↔ x ∈ s.clientEntries ∨ x ∈ s.portalEntries ∨ x ∈ s.serverEntries := by
  simp [owners]

theorem clientEntries_split
    (hs : s.sessions[i]? = some c) :
    (s.clientEntries : Multiset Nat) = (c.named : Multiset Nat) + s.others i ClientStmts.named :=
  flatMap_split ClientStmts.named hs

variable {x : Nat}

theorem SystemOk.mem_cached
    (h : SystemOk hash keys s)
    (hx : x ∈ s.clientEntries ∨ x ∈ s.portalEntries ∨ x ∈ s.serverEntries) :
    x ∈ s.manager.cached :=
  h.manager.ownerLive x (mem_owners.mpr hx)

theorem mem_clientEntries
    (hs : s.sessions[i]? = some c)
    (hx : x ∈ c.named) :
    x ∈ s.clientEntries :=
  List.mem_flatMap.mpr ⟨c, List.mem_of_getElem? hs, hx⟩

theorem mem_portalEntries
    (hs : s.sessions[i]? = some c)
    (hx : x ∈ c.retained) :
    x ∈ s.portalEntries :=
  List.mem_flatMap.mpr ⟨c, List.mem_of_getElem? hs, hx⟩

variable {m : StmtManager}

/-- What is left to show after a change of one session and the registry. -/
theorem SystemOk.setSession
    {c' : ClientStmts}
    (h : SystemOk hash keys s)
    (hs : s.sessions[i]? = some c)
    (hm : ManagerOk hash keys m ((c'.named : Multiset Nat) + s.others i ClientStmts.named)
      s.serverEntries (s.owners + (held : Multiset Nat)))
    (hinfo : m.info = s.manager.info)
    (hnamed : ∀ x ∈ c'.named, x ∈ m.cached)
    (hretained : ∀ x ∈ c'.retained, x ∈ m.cached)
    (hportal : PortalOk c') :
    SystemOk hash keys ({ s with manager := m }.setSession i c') := by
  have hclients : ((({ s with manager := m }.setSession i c').clientEntries : List Nat) :
      Multiset Nat) = (c'.named : Multiset Nat) + s.others i ClientStmts.named :=
    flatMap_set ClientStmts.named hs c'
  have hothers (f : ClientStmts → List Nat) (x : Nat) (hx : x ∈ (s.sessions.set i c').flatMap f) :
      x ∈ f c' ∨ x ∈ s.sessions.flatMap f := by
    obtain ⟨d, hd, hxd⟩ := List.mem_flatMap.mp hx
    rcases List.mem_or_eq_of_mem_set hd with hmem | rfl
    · exact .inr (List.mem_flatMap.mpr ⟨d, hmem, hxd⟩)
    · exact .inl hxd
  have hlive (x : Nat) (hx : x ∈ s.owners) : x ∈ m.cached :=
    hm.ownerLive x (Multiset.mem_add.mpr (.inl hx))
  refine ⟨?_, forall_mem_set h.portals hportal, ?_⟩
  · rw [hclients]
    refine hm.withOwners fun x hx => ?_
    rcases mem_owners.mp hx with hx | hx | hx
    · exact (hothers _ x hx).elim (hnamed x) fun hx => hlive x (mem_owners.mpr (.inl hx))
    · exact (hothers _ x hx).elim (hretained x) fun hx => hlive x (mem_owners.mpr (.inr (.inl hx)))
    · exact hlive x (mem_owners.mpr (.inr (.inr hx)))
  · intro b hb
    change BackendOk m.info b
    rw [hinfo]
    exact h.backends b hb

/-- Pointers that a running operation holds keep their statements. -/
theorem SystemOk.withHeld
    (h : SystemOk hash keys s)
    (held : List Nat)
    (hheld : ∀ x ∈ held, x ∈ s.manager.cached) :
    ManagerOk hash keys s.manager s.clientEntries s.serverEntries
      (s.owners + (held : Multiset Nat)) := by
  refine h.manager.withOwners fun x hx => ?_
  rcases Multiset.mem_add.mp hx with hx | hx
  · exact h.manager.ownerLive x hx
  · exact hheld x hx

theorem named_release
    (hfind : c.find name = some (name, a)) :
    c.named.Perm (a :: (c.release name a).named) := by
  have hperm : c.names.Perm ((name, a) :: c.names.eraseP (·.1 == name)) := by
    obtain ⟨_, before, after, hnames, hnot⟩ := List.find?_eq_some_iff_append.mp hfind
    have herase : c.names.eraseP (·.1 == name) = before ++ after := by
      rw [hnames, List.eraseP_append_right _ (by simpa using hnot), List.eraseP_cons_of_pos (by simp)]
    rw [herase, hnames]
    exact List.perm_middle
  exact hperm.map (·.2)

theorem find_fst
    {e : String × Nat}
    (hfind : c.find name = some e) :
    e.1 = name := by
  simpa using List.find?_some hfind

theorem mem_retained_release
    (hx : x ∈ (c.release name a).retained) :
    x = a ∨ x ∈ c.retained := by
  cases hportal : c.portal with
  | none =>
      simp [ClientStmts.retained, ClientStmts.release, hportal] at hx
  | some p =>
      simp only [ClientStmts.retained, ClientStmts.release, hportal, Option.map_some,
        Option.bind_some, BoundPortal.retain] at hx ⊢
      split at hx
      next =>
          exact .inl (by simpa using hx)
      next =>
          exact .inr hx

theorem portalOk_release
    (h : PortalOk c)
    (hfind : c.find name = some (name, a)) :
    PortalOk (c.release name a) := by
  intro p hp
  cases hportal : c.portal with
  | none =>
      simp [ClientStmts.release, hportal] at hp
  | some q =>
      obtain rfl : q.retain a = p := by simpa [ClientStmts.release, hportal] using hp
      simp only [BoundPortal.retain]
      split
      next hkeep =>
          simp only [Bool.and_eq_true, beq_iff_eq] at hkeep
          exact .inl (by rw [hkeep.1])
      next hkeep =>
          rcases h q hportal with hretained | ⟨hnone, hnamed⟩
          · exact .inl hretained
          · have hne : q.statement ≠ a := fun heq => hkeep (by simp [heq, hnone])
            exact .inr ⟨hnone, (List.mem_cons.mp
              ((named_release hfind).mem_iff.mp hnamed)).resolve_left hne⟩

/-- What an operation on a session leaves as it is. -/
structure KeepsSystem (s s' : StmtSystem) (i : Nat) (c' : ClientStmts) : Prop where
  info : s'.manager.info = s.manager.info
  backends : s'.backends = s.backends
  session : s'.sessions[i]? = some c'

theorem getElem?_setSession
    {c' : ClientStmts}
    (hs : s.sessions[i]? = some c) :
    ({ s with manager := m }.setSession i c').sessions[i]? = some c' := by
  obtain ⟨hi, _⟩ := List.getElem?_eq_some_iff.mp hs
  simp [StmtSystem.setSession, hi]

theorem SystemOk.releaseName
    (h : SystemOk hash keys s)
    (held : List Nat)
    (hs : s.sessions[i]? = some c)
    (hfind : c.find name = some (name, a))
    (hheld : ∀ x ∈ held, x ∈ s.manager.cached)
    (env : PurgeEnv) :
    SystemOk hash keys (s.releaseName i c held name a env) ∧
      KeepsSystem s (s.releaseName i c held name a env) i (c.release name a) ∧
      ∀ x ∈ held, x ∈ (s.releaseName i c held name a env).manager.cached := by
  have hperm := named_release hfind
  have hclients : (s.clientEntries : Multiset Nat) =
      a ::ₘ (((c.release name a).named : Multiset Nat) + s.others i ClientStmts.named) := by
    rw [clientEntries_split hs, Multiset.coe_eq_coe.mpr hperm, ← Multiset.cons_coe,
      Multiset.cons_add]
  have hbefore := h.withHeld held hheld
  rw [hclients] at hbefore
  have hafter := refCountClient_release hbefore env
  have hlive (x : Nat) (hx : x ∈ s.owners) :
      x ∈ (s.refCountClient held a (-1) env).manager.cached :=
    hafter.ownerLive x (Multiset.mem_add.mpr (.inl hx))
  have ha : a ∈ s.clientEntries :=
    mem_clientEntries hs (hperm.mem_iff.mpr List.mem_cons_self)
  refine ⟨h.setSession hs hafter (by simp) ?_ ?_ ?_, ?_, ?_⟩
  · intro x hx
    have hmem := mem_clientEntries hs (hperm.mem_iff.mpr (List.mem_cons_of_mem _ hx))
    exact hlive x (mem_owners.mpr (.inl hmem))
  · intro x hx
    rcases mem_retained_release hx with rfl | hx
    · exact hlive x (mem_owners.mpr (.inl ha))
    · exact hlive x (mem_owners.mpr (.inr (.inl (mem_portalEntries hs hx))))
  · exact portalOk_release (h.portals c (List.mem_of_getElem? hs)) hfind
  · exact ⟨by simp [StmtSystem.releaseName, StmtSystem.setSession, refCountClient], rfl,
      getElem?_setSession hs⟩
  · exact fun x hx => hafter.ownerLive x (Multiset.mem_add.mpr (.inr hx))

theorem named_insert (c : ClientStmts) (name : String) (a : Nat) :
    (c.insert name a).named.Perm (a :: c.named) :=
  List.Perm.map Prod.snd (List.perm_orderedInsert _ (name, a) c.names)

theorem portalOk_insert
    (h : PortalOk c)
    (name : String) (a : Nat) :
    PortalOk (c.insert name a) := by
  intro p hp
  rcases h p hp with hretained | ⟨hnone, hnamed⟩
  · exact .inl hretained
  · exact .inr ⟨hnone, (named_insert c name a).mem_iff.mpr (List.mem_cons_of_mem _ hnamed)⟩

theorem clientEntries_insert
    (hs : s.sessions[i]? = some c)
    (name : String) (a : Nat) :
    ((s.setSession i (c.insert name a)).clientEntries : Multiset Nat) =
      a ::ₘ (s.clientEntries : Multiset Nat) := by
  rw [clientEntries_split hs, ← Multiset.cons_add, Multiset.cons_coe,
    ← Multiset.coe_eq_coe.mpr (named_insert c name a)]
  exact flatMap_set ClientStmts.named hs (c.insert name a)

theorem owners_insert
    (hs : s.sessions[i]? = some c)
    (name : String) (a : Nat) :
    (s.setSession i (c.insert name a)).owners = a ::ₘ s.owners := by
  have hportals : ((s.setSession i (c.insert name a)).portalEntries : Multiset Nat) =
      (s.portalEntries : Multiset Nat) :=
    (flatMap_set ClientStmts.retained hs (c.insert name a)).trans
      (flatMap_split ClientStmts.retained hs).symm
  simp only [owners, clientEntries_insert hs, hportals, Multiset.cons_add]
  rfl

theorem SystemOk.insertName
    (h : SystemOk hash keys s)
    (hs : s.sessions[i]? = some c)
    (hm : ManagerOk hash keys m (a ::ₘ (s.clientEntries : Multiset Nat)) s.serverEntries
      (s.owners + (held : Multiset Nat)))
    (hinfo : m.info = s.manager.info)
    (name : String) :
    SystemOk hash keys ({ s with manager := m }.setSession i (c.insert name a)) := by
  have hperm := named_insert c name a
  have hclients : a ::ₘ (s.clientEntries : Multiset Nat) =
      ((c.insert name a).named : Multiset Nat) + s.others i ClientStmts.named :=
    (clientEntries_insert hs name a).symm.trans
      (flatMap_set ClientStmts.named hs (c.insert name a))
  have hlive := hm.clientLive
  rw [hclients] at hm
  have hportal := portalOk_insert (h.portals c (List.mem_of_getElem? hs)) name a
  refine h.setSession hs hm hinfo ?_ ?_ hportal
  · intro x hx
    rcases List.mem_cons.mp (hperm.mem_iff.mp hx) with rfl | hx
    · exact hlive x (Multiset.mem_cons_self ..)
    · exact hlive x (Multiset.mem_cons_of_mem (mem_clientEntries hs hx))
  · intro x hx
    have hmem := mem_owners.mpr (.inr (.inl (mem_portalEntries hs hx)))
    exact hm.ownerLive x (Multiset.mem_add.mpr (.inl hmem))

theorem SystemOk.clientInsert
    (h : SystemOk hash keys s)
    (hs : s.sessions[i]? = some c)
    (ha : a ∈ s.manager.cached)
    (name : String) (env : Nat → PurgeEnv) :
    SystemOk hash keys (s.clientInsert i c a name env) := by
  have hheld : ∀ x ∈ [a], x ∈ s.manager.cached := by simpa using ha
  unfold StmtSystem.clientInsert
  split
  next n old hfind =>
      obtain rfl : n = name := find_fst hfind
      split
      next =>
          exact h
      next =>
          obtain ⟨hreleased, hkeeps, hlive⟩ := h.releaseName [a] hs hfind hheld (env 0)
          have hacquired := refCountClient_acquire (hreleased.withHeld [a] hlive)
            (hlive a (List.mem_singleton_self a)) (env 1)
          exact hreleased.insertName hkeeps.session hacquired (by simp [refCountClient]) n
  next =>
      -- the name is there when the reference is counted
      have howners := owners_insert hs name a
      have hbefore : ManagerOk hash keys (s.setSession i (c.insert name a)).manager s.clientEntries
          s.serverEntries ((s.setSession i (c.insert name a)).owners + ([a] : Multiset Nat)) := by
        refine (h.withHeld [a] hheld).withOwners fun x hx => ?_
        rw [howners, Multiset.cons_add] at hx
        rcases Multiset.mem_cons.mp hx with rfl | hx
        · exact ha
        · exact (h.withHeld [a] hheld).ownerLive x hx
      have hacquired := refCountClient_acquire hbefore ha (env 0)
      rw [howners, Multiset.cons_add] at hacquired
      have hm := hacquired.withOwners fun x hx =>
        hacquired.ownerLive x (Multiset.mem_cons_of_mem hx)
      exact h.insertName hs hm (by simp [refCountClient, StmtSystem.setSession]) name

theorem SystemOk.clientClose
    (h : SystemOk hash keys s)
    (hs : s.sessions[i]? = some c)
    (name : String) (env : PurgeEnv) :
    SystemOk hash keys (s.clientClose i c name env) := by
  unfold StmtSystem.clientClose
  split
  next =>
      exact h
  next n a hfind =>
      obtain rfl : n = name := find_fst hfind
      exact (h.releaseName [] hs hfind (by simp) env).1

theorem SystemOk.parse
    (h : SystemOk hash keys s)
    (hs : s.sessions[i]? = some c)
    (name : String) (key : StmtKey) (env : Nat → PurgeEnv) :
    SystemOk hash keys (s.parse hash i c name key env) := by
  have hcached (a : Nat) (hfind : s.manager.findByHash (hash key) = some a) :
      a ∈ s.manager.cached :=
    List.mem_of_find?_eq_some hfind
  unfold StmtSystem.parse
  split
  next =>
      split
      next =>
          exact h
      next =>
          split
          next =>
              exact h
          next =>
              split
              next a hfind =>
                  exact h.clientInsert hs (hcached a hfind) name env
              next =>
                  exact h.clientClose hs name (env 0)
  next =>
      split
      next a hfind =>
          exact h.clientInsert hs (hcached a hfind) name env
      next =>
          exact h

variable {portal : Option BoundPortal}

theorem SystemOk.clientCloseAll
    (h : SystemOk hash keys s)
    (env : Nat → PurgeEnv)
    (names : List (String × Nat))
    (hs : s.sessions[i]? = some ⟨names, portal⟩) :
    SystemOk hash keys (s.clientCloseAll i portal env names) ∧
      ∃ portal', (s.clientCloseAll i portal env names).sessions[i]? = some ⟨[], portal'⟩ := by
  induction names generalizing s portal with
  | nil =>
      have hsame : s.setSession i ⟨[], portal⟩ = s := by
        obtain ⟨hi, heq⟩ := List.getElem?_eq_some_iff.mp hs
        simp [StmtSystem.setSession, ← heq]
      simp only [StmtSystem.clientCloseAll, hsame]
      exact ⟨h, portal, hs⟩
  | cons e rest ih =>
      obtain ⟨n, a⟩ := e
      have hfind : (⟨(n, a) :: rest, portal⟩ : ClientStmts).find n = some (n, a) := by
        simp [ClientStmts.find]
      have hrelease : (⟨(n, a) :: rest, portal⟩ : ClientStmts).release n a =
          ⟨rest, portal.map (·.retain a)⟩ := by
        simp [ClientStmts.release]
      obtain ⟨hok, hkeeps, _⟩ := h.releaseName [] hs hfind (by simp) (env rest.length)
      have hsession := hkeeps.session
      rw [hrelease] at hsession
      have hnext := ih hok hsession
      simpa only [StmtSystem.releaseName, hrelease, StmtSystem.clientCloseAll] using hnext

theorem SystemOk.eraseSession
    (h : SystemOk hash keys s)
    (hs : s.sessions[i]? = some ⟨[], portal⟩) :
    SystemOk hash keys { s with sessions := s.sessions.eraseIdx i } := by
  have hclients : (({ s with sessions := s.sessions.eraseIdx i } : StmtSystem).clientEntries :
      Multiset Nat) = (s.clientEntries : Multiset Nat) := by
    rw [clientEntries_split hs]
    simp [ClientStmts.named, others, clientEntries]
  refine ⟨?_, fun c hc => h.portals c (List.mem_of_mem_eraseIdx hc), h.backends⟩
  rw [hclients]
  refine h.manager.withOwners fun x hx => h.mem_cached ?_
  rcases mem_owners.mp hx with hx | hx | hx
  · have hmem : x ∈ (s.clientEntries : Multiset Nat) := hclients ▸ hx
    exact .inl hmem
  · obtain ⟨c, hc, hxc⟩ := List.mem_flatMap.mp hx
    exact .inr (.inl (List.mem_flatMap.mpr ⟨c, List.mem_of_mem_eraseIdx hc, hxc⟩))
  · exact .inr (.inr hx)

theorem SystemOk.setPortal
    (h : SystemOk hash keys s)
    (hs : s.sessions[i]? = some c)
    (hportal : ∀ p, portal = some p → p.retainedStatement = none ∧ p.statement ∈ c.named) :
    SystemOk hash keys (s.setSession i { c with portal := portal }) := by
  have hm := h.withHeld [] (by simp)
  rw [clientEntries_split hs] at hm
  have hnone : ∀ x ∈ ({ c with portal := portal } : ClientStmts).retained, False := by
    intro x hx
    cases hp : portal with
    | none =>
        simp [ClientStmts.retained, hp] at hx
    | some p =>
        simp [ClientStmts.retained, hp, (hportal p hp).1] at hx
  refine h.setSession hs hm rfl ?_ (fun x hx => (hnone x hx).elim) fun p hp => .inr (hportal p hp)
  exact fun x hx => h.mem_cached (.inl (mem_clientEntries hs hx))

/-! ## One connection -/

theorem serverEntries_split
    (hb : s.backends[j]? = some b) :
    (s.serverEntries : Multiset Nat) =
      (b.owned : Multiset Nat) + ((s.backends.eraseIdx j).flatMap BackendStmts.owned : Multiset Nat) :=
  flatMap_split BackendStmts.owned hb

theorem mem_serverEntries
    (hb : b ∈ s.backends)
    (hx : x ∈ b.owned) :
    x ∈ s.serverEntries :=
  List.mem_flatMap.mpr ⟨b, hb, hx⟩

/-- A connection whose numbers were counted off loses them. -/
theorem ManagerOk.foldl_refCountServer
    {clients servers owners : Multiset Nat}
    (l : List Nat)
    (h : ManagerOk hash keys s.manager clients ((l : Multiset Nat) + servers) owners) :
    ManagerOk hash keys (l.foldl (fun s a => s.refCountServer a (-1)) s).manager clients servers
      owners := by
  induction l generalizing s with
  | nil =>
      simpa using h
  | cons a l ih =>
      rw [← Multiset.cons_coe, Multiset.cons_add] at h
      exact ih (s := s.refCountServer a (-1)) h.releaseServer

theorem foldl_refCountServer_frame
    (l : List Nat) (s : StmtSystem) :
    (l.foldl (fun s a => s.refCountServer a (-1)) s).sessions = s.sessions ∧
      (l.foldl (fun s a => s.refCountServer a (-1)) s).backends = s.backends ∧
      (l.foldl (fun s a => s.refCountServer a (-1)) s).manager.info = s.manager.info := by
  induction l generalizing s with
  | nil =>
      exact ⟨rfl, rfl, rfl⟩
  | cons a l ih =>
      exact ih (s.refCountServer a (-1))

theorem releaseBackend_backends (s : StmtSystem) (b : BackendStmts) :
    (s.releaseBackend b).backends = s.backends :=
  (foldl_refCountServer_frame b.owned s).2.1

/-- The end of the numbers of a connection; the other connections stay. -/
theorem SystemOk.releaseBackend
    (h : SystemOk hash keys s)
    (hb : s.backends[j]? = some b)
    (backends : List BackendStmts)
    (hentries : (backends.flatMap BackendStmts.owned : Multiset Nat) =
      ((s.backends.eraseIdx j).flatMap BackendStmts.owned : Multiset Nat))
    (hbackends : ∀ d ∈ backends, BackendOk s.manager.info d) :
    SystemOk hash keys { s.releaseBackend b with backends := backends } := by
  obtain ⟨hsessions, _, hinfo⟩ := foldl_refCountServer_frame b.owned s
  have hm := h.manager
  rw [serverEntries_split hb] at hm
  have hreleased := ManagerOk.foldl_refCountServer b.owned hm
  have hclients : ({ s.releaseBackend b with backends := backends } : StmtSystem).clientEntries =
      s.clientEntries := by
    simp only [clientEntries, StmtSystem.releaseBackend, hsessions]
  have hportals : ({ s.releaseBackend b with backends := backends } : StmtSystem).portalEntries =
      s.portalEntries := by
    simp only [portalEntries, StmtSystem.releaseBackend, hsessions]
  refine ⟨?_, ?_, ?_⟩
  · rw [hclients]
    change ManagerOk hash keys _ _ (backends.flatMap BackendStmts.owned : Multiset Nat) _
    rw [hentries]
    refine hreleased.withOwners fun x hx => hreleased.ownerLive x (mem_owners.mpr ?_)
    rcases mem_owners.mp hx with hx | hx | hx
    · exact .inl (hclients ▸ hx)
    · exact .inr (.inl (hportals ▸ hx))
    · have hmem : x ∈ (backends.flatMap BackendStmts.owned : Multiset Nat) := hx
      rw [hentries] at hmem
      obtain ⟨d, hd, hxd⟩ := List.mem_flatMap.mp hmem
      exact .inr (.inr (mem_serverEntries (List.mem_of_mem_eraseIdx hd) hxd))
  · simpa only [StmtSystem.releaseBackend, hsessions] using h.portals
  · intro d hd
    change BackendOk (s.releaseBackend b).manager.info d
    rw [StmtSystem.releaseBackend, hinfo]
    exact hbackends d hd

theorem mapEmplace_of_none
    {α β : Type} [DecidableEq α]
    {l : List (α × β)} {key : α}
    (h : ∀ e ∈ l, e.1 ≠ key)
    (value : β) :
    mapEmplace l key value = (key, value) :: l := by
  have hnone : l.find? (·.1 == key) = none :=
    List.find?_eq_none.mpr fun e he => by simpa using h e he
  simp [mapEmplace, hnone]

theorem mem_mapEmplace
    {α β : Type} [DecidableEq α]
    {l : List (α × β)} {key : α} {value : β} {e : α × β}
    (h : e ∈ mapEmplace l key value) :
    e = (key, value) ∨ e ∈ l := by
  simp only [mapEmplace] at h
  split at h
  next => exact .inr h
  next => exact List.mem_cons.mp h

/-- A number that the backend did not have names the new statement. -/
theorem backendOk_insert
    {info : Nat → StmtInfo} {backendStmtId : Nat}
    (h : BackendOk info b)
    (hnew : b.preparedQuery backendStmtId = none) :
    BackendOk info
        ({ b with prepared := (backendStmtId, (info a).key.query) :: b.prepared }.backendInsert a
          (info a).statementId backendStmtId) ∧
      ({ b with prepared := (backendStmtId, (info a).key.query) :: b.prepared }.backendInsert a
          (info a).statementId backendStmtId).owned = a :: b.owned := by
  have hkeys : ∀ e ∈ b.toGlobal, e.1 ≠ backendStmtId := by
    rintro e he rfl
    simp [h.prepared e he] at hnew
  have htoGlobal := mapEmplace_of_none hkeys a
  refine ⟨⟨?_, ?_⟩, by simp [BackendStmts.owned, BackendStmts.backendInsert, htoGlobal]⟩
  · intro e he
    simp only [BackendStmts.backendInsert, htoGlobal] at he
    rcases List.mem_cons.mp he with rfl | he
    · simp [BackendStmts.preparedQuery, BackendStmts.backendInsert]
    · have hne : (backendStmtId == e.1) = false := by simpa using (hkeys e he).symm
      have hold := h.prepared e he
      simpa only [BackendStmts.preparedQuery, BackendStmts.backendInsert, List.find?_cons, hne]
        using hold
  · intro e he
    simp only [BackendStmts.backendInsert, htoGlobal] at he ⊢
    rcases mem_mapEmplace he with rfl | he
    · exact ⟨a, List.mem_cons_self, rfl⟩
    · obtain ⟨d, hd, hid⟩ := h.mapped e he
      exact ⟨d, List.mem_cons_of_mem _ hd, hid⟩

/-- What a connection maps depends on the statements that it owns only. -/
theorem BackendOk.congr
    {info info' : Nat → StmtInfo}
    (h : BackendOk info b)
    (hinfo : ∀ x ∈ b.owned, info' x = info x) :
    BackendOk info' b := by
  have hmem : ∀ e ∈ b.toGlobal, e.2 ∈ b.owned := fun e he => List.mem_map_of_mem he
  constructor
  · intro e he
    rw [hinfo e.2 (hmem e he)]
    exact h.prepared e he
  · intro e he
    obtain ⟨a, ha, hid⟩ := h.mapped e he
    exact ⟨a, ha, by rw [hinfo a (hmem _ ha), hid]⟩

theorem SystemOk.prepareCompleted
    {backendStmtId : Nat} {key : StmtKey}
    (h : SystemOk hash keys s)
    (hinj : Set.InjOn hash keys)
    (hkey : key ∈ keys)
    (hs : s.sessions[i]? = some c)
    (hb : s.backends[j]? = some b)
    (hnew : b.preparedQuery backendStmtId = none)
    (clientName : Option String) (env : Nat → PurgeEnv) :
    SystemOk hash keys (s.prepareCompleted hash i j c b backendStmtId key clientName env) := by
  obtain ⟨hadds, hm⟩ := h.manager.addPreparedStatement hkey
  let added := s.manager.addPreparedStatement hash key
  have hquery : (added.2.info added.1).key = key :=
    hinj (hm.keyed _ hadds.cached) hkey ((hm.hashes _ hadds.cached).symm.trans hadds.hashed)
  have hcongr (d : BackendStmts) (hd : d ∈ s.backends) : BackendOk added.2.info d :=
    (h.backends d hd).congr fun x hx =>
      (hadds.kept x (h.manager.serverLive x (mem_serverEntries hd hx))).2
  obtain ⟨hbackend, howned⟩ := backendOk_insert (a := added.1)
    (hcongr b (List.mem_of_getElem? hb)) hnew
  rw [hquery] at hbackend howned
  let inserted := { b with prepared := (backendStmtId, key.query) :: b.prepared }.backendInsert
    added.1 (added.2.info added.1).statementId backendStmtId
  have hentries : ((s.backends.set j inserted).flatMap BackendStmts.owned : Multiset Nat) =
      added.1 ::ₘ (s.serverEntries : Multiset Nat) := by
    rw [flatMap_set BackendStmts.owned hb inserted, serverEntries_split hb, howned,
      ← Multiset.cons_coe, Multiset.cons_add]
  have hstored : SystemOk hash keys
      { s with manager := added.2, backends := s.backends.set j inserted } := by
    refine ⟨?_, h.portals, forall_mem_set hcongr hbackend⟩
    change ManagerOk hash keys added.2 s.clientEntries
      ((s.backends.set j inserted).flatMap BackendStmts.owned : Multiset Nat) _
    rw [hentries]
    refine hm.withOwners fun x hx => ?_
    rcases mem_owners.mp hx with hx | hx | hx
    · exact hm.clientLive x hx
    · exact hm.ownerLive x (mem_owners.mpr (.inr (.inl hx)))
    · have hmem : x ∈ ((s.backends.set j inserted).flatMap BackendStmts.owned : Multiset Nat) := hx
      rw [hentries] at hmem
      exact hm.serverLive x hmem
  unfold StmtSystem.prepareCompleted
  cases clientName with
  | none =>
      exact hstored
  | some name =>
      exact hstored.clientInsert hs hadds.cached name env

/-! ## Runs -/

theorem SystemOk.step
    (h : SystemOk hash keys s)
    (hinj : Set.InjOn hash keys)
    (op : StmtOp)
    (hop : ∀ key ∈ op.key, key ∈ keys) :
    SystemOk hash keys (s.step hash op) := by
  cases op with
  | attachSession =>
      have hclients : ({ s with sessions := s.sessions ++ [{}] } : StmtSystem).clientEntries =
          s.clientEntries := by
        simp [clientEntries, ClientStmts.named]
      have hportals : ({ s with sessions := s.sessions ++ [{}] } : StmtSystem).portalEntries =
          s.portalEntries := by
        simp [portalEntries, ClientStmts.retained]
      refine ⟨?_, ?_, h.backends⟩
      · simp only [StmtSystem.step, owners, hclients, hportals]
        exact h.manager
      · intro c hc
        rcases List.mem_append.mp hc with hc | hc
        · exact h.portals c hc
        · obtain rfl : c = {} := by simpa using hc
          exact fun p hp => by simp at hp
  | attachBackend =>
      have hservers : ({ s with backends := s.backends ++ [{}] } : StmtSystem).serverEntries =
          s.serverEntries := by
        simp [serverEntries, BackendStmts.owned]
      refine ⟨?_, h.portals, ?_⟩
      · simp only [StmtSystem.step, owners, hservers]
        exact h.manager
      · intro b hb
        rcases List.mem_append.mp hb with hb | hb
        · exact h.backends b hb
        · obtain rfl : b = {} := by simpa using hb
          exact ⟨by simp, by simp⟩
  | parse i name key env =>
      simp only [StmtSystem.step]
      split
      next => exact h
      next c hs => exact h.parse hs name key env
  | generate j =>
      simp only [StmtSystem.step]
      split
      next => exact h
      next b hb =>
          have hgenerate : b.generateNewBackendStmtId.2.owned = b.owned ∧
              BackendOk s.manager.info b.generateNewBackendStmtId.2 := by
            unfold BackendStmts.generateNewBackendStmtId
            have hok := h.backends b (List.mem_of_getElem? hb)
            split <;> exact ⟨rfl, ⟨hok.prepared, hok.mapped⟩⟩
          have hentries : ((s.backends.set j b.generateNewBackendStmtId.2).flatMap
              BackendStmts.owned : Multiset Nat) = (s.serverEntries : Multiset Nat) := by
            rw [flatMap_set BackendStmts.owned hb, hgenerate.1, serverEntries_split hb]
          refine ⟨?_, h.portals, forall_mem_set h.backends hgenerate.2⟩
          simp only [owners, serverEntries, hentries]
          exact h.manager
  | prepareCompleted i j backendStmtId key clientName env =>
      simp only [StmtSystem.step]
      split
      next c b hs hb =>
          split
          next => exact h
          next hnew =>
              exact h.prepareCompleted hinj (hop key rfl) hs hb (by simpa using hnew) clientName env
      next => exact h
  | bind i name =>
      simp only [StmtSystem.step]
      split
      next => exact h
      next c hs =>
          split
          next => exact h
          next n a hfind =>
              refine h.setPortal hs ?_
              rintro p ⟨⟩
              exact ⟨rfl, List.mem_map_of_mem (List.mem_of_find?_eq_some hfind)⟩
  | resetPortal i =>
      simp only [StmtSystem.step]
      split
      next => exact h
      next c hs => exact h.setPortal hs (by simp)
  | close i name env =>
      simp only [StmtSystem.step]
      split
      next => exact h
      next c hs => exact h.clientClose hs name env
  | closeAll i env =>
      simp only [StmtSystem.step]
      split
      next => exact h
      next c hs => exact (h.clientCloseAll env c.names hs).1
  | destroySession i env =>
      simp only [StmtSystem.step]
      split
      next => exact h
      next c hs =>
          obtain ⟨hclosed, portal, hsession⟩ := h.clientCloseAll env c.names hs
          exact hclosed.eraseSession hsession
  | resetBackend j =>
      simp only [StmtSystem.step]
      split
      next => exact h
      next b hb =>
          rw [releaseBackend_backends]
          exact h.releaseBackend hb (s.backends.set j {})
            (by simp [flatMap_set BackendStmts.owned hb, BackendStmts.owned])
            (forall_mem_set h.backends ⟨by simp, by simp⟩)
  | destroyBackend j =>
      simp only [StmtSystem.step]
      split
      next => exact h
      next b hb =>
          rw [releaseBackend_backends]
          exact h.releaseBackend hb (s.backends.eraseIdx j) rfl
            fun d hd => h.backends d (List.mem_of_mem_eraseIdx hd)

theorem systemOk_init : SystemOk hash keys {} := by
  refine ⟨⟨?_, ?_, ?_, ?_, ?_, ⟨?_, ?_⟩, ⟨?_, ?_⟩, ?_, ?_, ?_, ?_, ?_, ?_, ?_⟩, ?_, ?_⟩ <;>
    simp [clientEntries, serverEntries, portalEntries, owners, unused]

theorem systemOk_run
    (ops : List StmtOp)
    (hinj : Set.InjOn hash keys)
    (hops : ∀ op ∈ ops, ∀ key ∈ op.key, key ∈ keys) :
    SystemOk hash keys (run hash ops) := by
  suffices hfold : ∀ s, SystemOk hash keys s → SystemOk hash keys (ops.foldl (step hash) s) from
    hfold {} systemOk_init
  induction ops with
  | nil =>
      exact fun s h => h
  | cons op ops ih =>
      intro s h
      have hrest : ∀ op' ∈ ops, ∀ key ∈ op'.key, key ∈ keys := fun op' hop' =>
        hops op' (List.mem_cons_of_mem _ hop')
      exact ih hrest _ (h.step hinj op (hops op List.mem_cons_self))

/-- A statement that a session, a bound portal or a connection refers to. -/
def Referenced (s : StmtSystem) (a : Nat) : Prop :=
  (∃ c ∈ s.sessions, a ∈ c.named ∨ ∃ p, c.portal = some p ∧ p.statement = a) ∨
    ∃ b ∈ s.backends, a ∈ b.owned

structure RegistryInvariant (s : StmtSystem) : Prop where
  /-- Identifiers in use are distinct. -/
  ids_distinct : ∀ a ∈ s.manager.cached, ∀ a' ∈ s.manager.cached,
    (s.manager.info a).statementId = (s.manager.info a').statementId → a = a'
  ids_not_free : ∀ a ∈ s.manager.cached, (s.manager.info a).statementId ∉ s.manager.freeStmtIds
  client_count : ∀ a ∈ s.manager.cached, s.manager.client.count a = s.clientEntries.count a
  server_count : ∀ a ∈ s.manager.cached, s.manager.server.count a = s.serverEntries.count a
  client_zero : s.manager.client.zero =
    s.manager.cached.countP fun a => s.manager.client.count a = 0
  server_zero : s.manager.server.zero =
    s.manager.cached.countP fun a => s.manager.server.count a = 0
  referenced : ∀ a, s.Referenced a → a ∈ s.manager.cached
  /-- The number found for an identifier has the query of its statement. -/
  backend_query : ∀ b ∈ s.backends, ∀ a ∈ s.manager.cached,
    b.findBackendStmtId (s.manager.info a).statementId ≠ 0 →
      b.preparedQuery (b.findBackendStmtId (s.manager.info a).statementId) =
        some (s.manager.info a).key.query

theorem SystemOk.ids_distinct
    (h : SystemOk hash keys s) :
    ∀ a ∈ s.manager.cached, ∀ a' ∈ s.manager.cached,
      (s.manager.info a).statementId = (s.manager.info a').statementId → a = a' :=
  fun _ ha _ ha' heq => List.inj_on_of_nodup_map h.manager.ids ha ha' heq

theorem zero_eq_countP
    {counters : Counters Nat} {live : List Nat} {refs : Multiset Nat}
    (h : Matches counters live refs) :
    counters.zero = live.countP fun a => counters.count a = 0 := by
  rw [h.zero, unused]
  congr 1
  refine List.countP_congr fun a ha => ?_
  simp [h.count a ha]

theorem SystemOk.referenced
    (h : SystemOk hash keys s)
    (a : Nat)
    (ha : s.Referenced a) :
    a ∈ s.manager.cached := by
  rcases ha with ⟨c, hc, hnamed | ⟨p, hp, rfl⟩⟩ | ⟨b, hb, howned⟩
  · exact h.mem_cached (.inl (List.mem_flatMap.mpr ⟨c, hc, hnamed⟩))
  · rcases h.portals c hc p hp with hretained | ⟨_, hnamed⟩
    · refine h.mem_cached (.inr (.inl (List.mem_flatMap.mpr ⟨c, hc, ?_⟩)))
      simp [ClientStmts.retained, hp, hretained]
    · exact h.mem_cached (.inl (List.mem_flatMap.mpr ⟨c, hc, hnamed⟩))
  · exact h.mem_cached (.inr (.inr (mem_serverEntries hb howned)))

theorem SystemOk.backend_query
    (h : SystemOk hash keys s)
    (hb : b ∈ s.backends)
    (ha : a ∈ s.manager.cached)
    (hfound : b.findBackendStmtId (s.manager.info a).statementId ≠ 0) :
    b.preparedQuery (b.findBackendStmtId (s.manager.info a).statementId) =
      some (s.manager.info a).key.query := by
  unfold BackendStmts.findBackendStmtId at hfound ⊢
  cases hfind : b.toBackend.find? (·.1 == (s.manager.info a).statementId) with
  | none =>
      simp [hfind] at hfound
  | some e =>
      have hid : e.1 = (s.manager.info a).statementId := by simpa using List.find?_some hfind
      obtain ⟨a', ha', hid'⟩ := (h.backends b hb).mapped e (List.mem_of_find?_eq_some hfind)
      have hcached : a' ∈ s.manager.cached :=
        h.mem_cached (.inr (.inr (mem_serverEntries hb (List.mem_map_of_mem ha'))))
      obtain rfl : a' = a := h.ids_distinct a' hcached a ha (hid'.trans hid)
      exact (h.backends b hb).prepared _ ha'

/-- In every run the identifiers, the counts, the purges and the numbers on the backends
are consistent, if the hash tells apart the statements that the run prepares. -/
theorem statement_registry_invariant
    (hash : StmtKey → UInt64)
    (ops : List StmtOp)
    (hinj : Set.InjOn hash { key | ∃ op ∈ ops, op.key = some key }) :
    RegistryInvariant (run hash ops) := by
  have h := systemOk_run ops hinj fun op hop key hkey => ⟨op, hop, hkey⟩
  exact
    { ids_distinct := h.ids_distinct
      ids_not_free := h.manager.disjoint
      client_count := fun a ha => by simpa using h.manager.client.count a ha
      server_count := fun a ha => by simpa using h.manager.server.count a ha
      client_zero := zero_eq_countP h.manager.client
      server_zero := zero_eq_countP h.manager.server
      referenced := h.referenced
      backend_query := fun b hb a ha => h.backend_query hb ha }

/-- A clock and a cache size at which a purge may run. -/
def purgeAt (time : Nat) : PurgeEnv :=
  ⟨time, time, 0⟩

/-- A statement is prepared, bound and closed, its connection is destroyed, and it is
purged after its portal is gone; its identifier goes to the next statement. -/
def purgedAndPrepared : List StmtOp :=
  [.attachSession, .attachBackend, .attachSession, .attachBackend,
    .prepareCompleted 0 0 1 ⟨"u", "d", "select 1", []⟩ (some "") fun _ => purgeAt 1,
    .bind 0 "",
    .close 0 "" (purgeAt 1),
    .destroyBackend 0,
    .resetPortal 0,
    .prepareCompleted 1 0 1 ⟨"u", "d", "select 2", []⟩ (some "p") fun _ => purgeAt 1,
    .close 1 "p" (purgeAt 5),
    .prepareCompleted 0 0 2 ⟨"u", "d", "select 33", []⟩ (some "") fun _ => purgeAt 9]

def queryHash (key : StmtKey) : UInt64 :=
  key.query.toList.foldl (fun hash char => hash * 31 + char.toNat.toUInt64) 7

def preparedKeys : List StmtKey :=
  [⟨"u", "d", "select 1", []⟩, ⟨"u", "d", "select 2", []⟩, ⟨"u", "d", "select 33", []⟩]

theorem statement_registry_purged :
    RegistryInvariant (run queryHash purgedAndPrepared) ∧
      ((run queryHash purgedAndPrepared).manager.cached.map fun a =>
        ((run queryHash purgedAndPrepared).manager.info a).statementId) = [2, 1] := by
  refine ⟨statement_registry_invariant queryHash purgedAndPrepared ?_, by decide +kernel⟩
  have hkeys : { key | ∃ op ∈ purgedAndPrepared, op.key = some key } ⊆
      { key | key ∈ preparedKeys } := by
    rintro key ⟨op, hop, hkey⟩
    simp only [purgedAndPrepared, List.mem_cons, List.not_mem_nil, or_false] at hop
    rcases hop with rfl | rfl | rfl | rfl | rfl | rfl | rfl | rfl | rfl | rfl | rfl | rfl <;>
      simp_all [StmtOp.key, preparedKeys]
  refine Set.InjOn.mono hkeys ?_
  have hall : ∀ k ∈ preparedKeys, ∀ k' ∈ preparedKeys, queryHash k = queryHash k' → k = k' := by
    decide +kernel
  exact fun k hk k' hk' => hall k hk k' hk'

end StmtSystem

end PolarProxy
