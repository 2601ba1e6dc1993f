import PolarProxy.PoolInvariant

/-!
# Taking from a server's pool, and trimming it

None of these operations reserves a connection.  Trimming may end reservations;
taking by key or by a search passes the reserved connections over.
-/

namespace PolarProxy

open Buckets ConnList

namespace ServerPool

variable {p q : ServerPool} {loose : List Nat} {conn c index : Nat}
variable {reason : ReservationEndReason}

/-! ## Discarding -/

theorem PoolInv.discardFreeAt
    (h : PoolInv p loose)
    (index : Nat)
    (hreason : reason ≠ .none) :
    Keeps p (p.discardFreeAt index reason) loose ∧
      (p.discardFreeAt index reason).free.conns.length = p.free.conns.length -
        (if index < p.free.conns.length then 1 else 0) := by
  cases hc : p.free.conns[index]? with
  | none =>
      have hlen : ¬ index < p.free.conns.length := by
        intro hlt
        rw [List.getElem?_eq_getElem hlt] at hc
        cases hc
      simp only [ServerPool.discardFreeAt, ServerPool.removeFreeAt, hc, if_neg hlen]
      exact ⟨.refl h, rfl⟩
  | some conn =>
      obtain ⟨hconn, hkeeps, hperm⟩ := h.removeFreeAt hc hreason
      have hlen : index < p.free.conns.length := (List.getElem?_eq_some_iff.mp hc).1
      have heq : p.discardFreeAt index reason = (p.removeFreeAt index reason).2.destroy conn := by
        unfold ServerPool.discardFreeAt
        rw [← Prod.mk.eta (p := p.removeFreeAt index reason), hconn]
      rw [heq, if_pos hlen, hperm.length_eq]
      exact ⟨hkeeps.destroy, rfl⟩

theorem PoolInv.reservations_eq_empty
    (h : PoolInv p loose)
    (hnil : p.free.conns = []) :
    p.reservations = ∅ ∧ p.tokenByConnection = ∅ := by
  have hnone : ∀ t r, p.reservations.lookup t ≠ some r := by
    intro t r hr
    have hin := h.free.mem_conns (h.tied.forward t r hr).2
    rw [hnil] at hin
    exact List.not_mem_nil hin
  constructor
  · apply AList.ext
    rw [AList.empty_entries, List.eq_nil_iff_forall_not_mem]
    intro e he
    exact hnone e.1 e.2 (List.mem_dlookup p.reservations.nodupKeys he)
  · apply AList.ext
    rw [AList.empty_entries, List.eq_nil_iff_forall_not_mem]
    intro e he
    obtain ⟨r, hr, -⟩ := h.tied.backward e.1 e.2 (List.mem_dlookup p.tokenByConnection.nodupKeys he)
    exact hnone e.2 r hr

theorem PoolInv.detachLoop
    (h : PoolInv p loose)
    (hreason : reason ≠ .none)
    {rounds : Nat}
    (hrounds : p.free.conns.length ≤ rounds) :
    Keeps p (p.detachLoop reason rounds) loose ∧ (p.detachLoop reason rounds).free.conns = [] := by
  induction rounds generalizing p with
  | zero =>
      exact ⟨.refl h, List.eq_nil_of_length_eq_zero (Nat.le_zero.mp hrounds)⟩
  | succ rounds ih =>
      rw [ServerPool.detachLoop]
      split
      · rename_i hempty
        exact ⟨.refl h, List.isEmpty_iff.mp hempty⟩
      · rename_i hfull
        have hpos : 0 < p.free.conns.length := by
          rw [List.length_pos_iff]
          intro hnil
          exact hfull (List.isEmpty_iff.mpr hnil)
        obtain ⟨hkeeps, hlen⟩ := h.discardFreeAt 0 hreason
        rw [if_pos hpos] at hlen
        obtain ⟨hrest, hnil⟩ := ih hkeeps.inv (by omega)
        exact ⟨hkeeps.trans hrest, hnil⟩

theorem PoolInv.prune
    (h : PoolInv p loose) :
    Keeps p { p with free := p.free.pruneEmptyMatchBuckets } loose := by
  have hconns : p.free.pruneEmptyMatchBuckets.conns = p.free.conns := by
    unfold ConnList.pruneEmptyMatchBuckets
    split <;> rfl
  refine ⟨{ h with free := h.free.pruneEmptyMatchBuckets, conserved := ?_, tied := ?_ },
    List.Perm.refl _, rfl, rfl, fun _ _ hr => hr⟩
  · simp only [hconns]
    exact h.conserved
  · simp only [keyed_pruneEmptyMatchBuckets]
    exact h.tied

theorem PoolInv.retireReservations
    (h : PoolInv p loose)
    (hnil : p.free.conns = []) :
    p.retireReservations reason = p := by
  obtain ⟨hres, htok⟩ := h.reservations_eq_empty hnil
  simp only [ServerPool.retireReservations, hres, AList.empty_entries, List.foldl_nil, ite_self,
    AList.keys_empty, List.map_nil, List.append_nil]
  rw [← hres, ← htok]

theorem PoolInv.detachAll
    (h : PoolInv p loose)
    (hreason : reason ≠ .none) :
    Keeps p (p.detachAll reason) loose := by
  obtain ⟨hloop, hnil⟩ := h.detachLoop hreason (Nat.le_refl _)
  have hprune := hloop.inv.prune
  rw [ServerPool.detachAll, hprune.inv.retireReservations]
  · exact hloop.trans hprune
  · dsimp only
    unfold ConnList.pruneEmptyMatchBuckets
    split <;> exact hnil

/-! ## Evicting and trimming -/

theorem PoolInv.evictLoop
    (h : PoolInv p loose)
    (rounds index remaining : Nat) :
    Keeps p (p.evictLoop rounds index remaining).2 loose := by
  induction rounds generalizing p index remaining with
  | zero =>
      exact .refl h
  | succ rounds ih =>
      rw [ServerPool.evictLoop]
      split
      · exact .refl h
      · split
        · exact .refl h
        · split
          · exact ih h _ _
          · have hkeeps := (h.discardFreeAt index
              (show ReservationEndReason.createEvict ≠ .none by decide)).1
            exact hkeeps.trans (ih hkeeps.inv _ _)

theorem PoolInv.evictUnreservedFree
    (h : PoolInv p loose)
    (preferred required : Nat) :
    Keeps p (p.evictUnreservedFree preferred required).2 loose := by
  rw [ServerPool.evictUnreservedFree]
  split
  · exact .refl h
  · split
    · exact .refl h
    · dsimp only
      split
      · exact .refl h
      · exact h.evictLoop _ _ _

theorem PoolInv.makeRoomForClassic
    (h : PoolInv p loose)
    (preferred : Nat) :
    Keeps p (p.makeRoomForClassic preferred).2 loose := by
  rw [ServerPool.makeRoomForClassic]
  split
  · exact .refl h
  · have hkeeps := h.evictUnreservedFree (max preferred (if p.maxConnectionsWord ≤
      p.used.conns.length + p.free.conns.length then
        p.used.conns.length + p.free.conns.length - p.maxConnectionsWord + 1 else 0))
      (if p.maxConnectionsWord ≤ p.used.conns.length + p.free.conns.length then
        p.used.conns.length + p.free.conns.length - p.maxConnectionsWord + 1 else 0)
    dsimp only
    split <;> rename_i heq <;> rw [heq] at hkeeps <;> exact hkeeps

theorem PoolInv.trimLoop
    (h : PoolInv p loose)
    (maxFree rounds index : Nat) :
    Keeps p (p.trimLoop maxFree rounds index) loose := by
  induction rounds generalizing p index with
  | zero =>
      exact .refl h
  | succ rounds ih =>
      rw [ServerPool.trimLoop]
      split
      · exact .refl h
      · split
        · exact .refl h
        · split
          · have hkeeps := (h.discardFreeAt index
              (show ReservationEndReason.idleTrim ≠ .none by decide)).1
            exact hkeeps.trans (ih hkeeps.inv _)
          · exact ih h _

theorem PoolInv.ageLoop
    (h : PoolInv p loose)
    (aged : Nat → Bool) (rounds index : Nat) :
    Keeps p (p.ageLoop aged rounds index) loose := by
  induction rounds generalizing p index with
  | zero =>
      exact .refl h
  | succ rounds ih =>
      rw [ServerPool.ageLoop]
      split
      · exact .refl h
      · split
        · have hkeeps := (h.discardFreeAt index
            (show ReservationEndReason.maxAge ≠ .none by decide)).1
          exact hkeeps.trans (ih hkeeps.inv _)
        · exact ih h _

theorem PoolInv.shrinkLoop
    (h : PoolInv p loose)
    (maxConnections rounds : Nat) :
    Keeps p (p.shrinkLoop maxConnections rounds) loose := by
  induction rounds generalizing p with
  | zero =>
      exact .refl h
  | succ rounds ih =>
      rw [ServerPool.shrinkLoop]
      split
      · exact .refl h
      · have hkeeps := (h.discardFreeAt 0
          (show ReservationEndReason.idleTrim ≠ .none by decide)).1
        exact hkeeps.trans (ih hkeeps.inv)

theorem position_markExcess
    (conns : List Nat) (excess : Nat) (marks : PoolMarks) (d : Nat) :
    (markExcess conns excess marks d).corePoolPosition = (marks d).corePoolPosition := by
  induction conns generalizing excess marks with
  | nil =>
      rfl
  | cons conn rest ih =>
      cases excess with
      | zero =>
          rfl
      | succ excess =>
          rw [markExcess]
          split
          · exact ih _ _
          · rw [ih]
            by_cases hd : d = conn
            · subst hd
              simp
            · simp [hd]

theorem position_foldl_finishIdleTrim
    (conns : List Nat) (marks : PoolMarks) (d : Nat) :
    (conns.foldl PoolMarks.finishIdleTrim marks d).corePoolPosition =
      (marks d).corePoolPosition := by
  induction conns generalizing marks with
  | nil =>
      rfl
  | cons conn rest ih =>
      rw [List.foldl_cons, ih]
      by_cases hd : d = conn
      · subst hd
        simp [PoolMarks.finishIdleTrim]
      · simp [PoolMarks.finishIdleTrim, hd]

theorem PoolInv.trimFree
    (h : PoolInv p loose)
    (maxFree : Nat) :
    Keeps p (p.trimFree maxFree) loose := by
  have hloop := h.trimLoop maxFree p.free.conns.length 0
  rw [ServerPool.trimFree]
  split
  · refine hloop.trans ⟨hloop.inv.withMarks ?_, List.Perm.refl _, rfl, rfl, fun _ _ hr => hr⟩
    intro c _
    exact position_foldl_finishIdleTrim _ _ _
  · refine hloop.trans ⟨hloop.inv.withMarks ?_, List.Perm.refl _, rfl, rfl, fun _ _ hr => hr⟩
    intro c _
    exact position_markExcess _ _ _ _

theorem PoolInv.dropIdle
    (h : PoolInv p loose)
    (maxFree : Nat) (aged : Nat → Bool) :
    Keeps p (p.dropIdle maxFree aged) loose := by
  have hoffline : Keeps p (if p.status ≠ .online then p.detachAll .serverOffline else p) loose := by
    split
    · exact h.detachAll (by decide)
    · exact .refl h
  have hshrink := hoffline.andThen
    (f := fun p => p.shrinkLoop p.maxConnections.toNat p.free.conns.length)
    fun h => h.shrinkLoop _ _
  have htrim := hshrink.andThen (f := fun p => p.trimFree maxFree) fun h => h.trimFree maxFree
  have hage := htrim.andThen (f := fun p => p.ageLoop aged p.free.conns.length 0)
    fun h => h.ageLoop aged _ 0
  exact hage.trans hage.inv.prune

theorem PoolInv.setStatus
    (h : PoolInv p loose)
    (status : ServerStatus) :
    Keeps { p with status := status } (p.setStatus status) loose := by
  have hset : PoolInv { p with status := status } loose := { h with }
  rw [ServerPool.setStatus]
  split
  · exact hset.detachAll (by decide)
  · exact .refl hset

/-! ## Searching -/

/-- A search that found something found a connection the session may have. -/
def Found (p : ServerPool) (view : ClientView) (best : SearchState) : Prop :=
  best.quality ≠ 0 → ∃ conn, p.free.conns[best.foundIndex]? = some conn ∧
    p.connectionReserved conn = false ∧ view.startupAdmits conn = true

theorem found_innerSearch
    {view : ClientView} {entries : List (Nat × Nat)} {best : SearchState}
    (hentries : ∀ e ∈ entries, p.free.conns[e.2]? = some e.1)
    (h : p.Found view best) :
    p.Found view (innerSearch view p.connectionReserved entries best) := by
  induction entries generalizing best with
  | nil =>
      exact h
  | cons e rest ih =>
      obtain ⟨conn, k⟩ := e
      have hrest : ∀ e ∈ rest, p.free.conns[e.2]? = some e.1 :=
        fun e he => hentries e (List.mem_cons_of_mem _ he)
      have hconn := hentries (conn, k) (List.mem_cons_self ..)
      rw [innerSearch]
      split
      · exact ih hrest h
      · rename_i hskip
        have hok : p.connectionReserved conn = false ∧ view.startupAdmits conn = true := by
          simpa using (by simpa using hskip : _ ∧ _).1
        -- every update records the connection at hand
        have hhere : ∀ {st : SearchState}, st.foundIndex = k → p.Found view st := by
          intro st hst _
          exact ⟨conn, by rw [hst]; exact hconn, hok⟩
        have hfirst : p.Found view
            (if best.quality = 0 then { best with quality := 1, foundIndex := k } else best) := by
          split
          · exact hhere rfl
          · exact h
        generalize (if best.quality = 0 then { best with quality := 1, foundIndex := k }
          else best) = first at hfirst ⊢
        split
        · exact ih hrest hfirst
        · have hsecond : p.Found view
              (if first.quality = 1 then { first with quality := 2, foundIndex := k }
                else first) := by
            split
            · exact hhere rfl
            · exact hfirst
          dsimp only
          generalize (if first.quality = 1 then { first with quality := 2, foundIndex := k }
            else first) = second at hsecond ⊢
          split
          · exact hhere rfl
          · split
            · exact ih hrest (hhere rfl)
            · exact ih hrest hsecond

theorem found_searchFree
    (view : ClientView) (start : Nat) :
    p.Found view (p.searchFree view start) := by
  have hentries : ∀ e ∈ p.free.conns.zipIdx, p.free.conns[e.2]? = some e.1 :=
    fun e he => List.mk_mem_zipIdx_iff_getElem?.mp he
  have hnone : p.Found view {} := fun h => absurd rfl h
  have hfirst := found_innerSearch
    (fun e he => hentries e (List.mem_of_mem_drop (i := start) he)) hnone
  rw [ServerPool.searchFree]
  split
  · exact hfirst
  · exact found_innerSearch (fun e he => hentries e (List.mem_of_mem_take (i := start) he)) hfirst

/-! ## Taking -/

/-- What a search of the classic pool may return: a connection of FREE, which is
not reserved when the session has a client, or one it opened. -/
structure Picks (p q : ServerPool) (search : PoolSearch) (conn : Nat) (loose : List Nat) :
    Prop where
  inv : PoolInv q loose
  tokens : q.tokens.Perm p.tokens
  held : ∀ t r, q.reservations.lookup t = some r → p.reservations.lookup t = some r
  source : conn = search.fresh ∨
    conn ∈ p.free.conns ∧ (search.client.isSome → p.connectionReserved conn = false)

variable {search : PoolSearch}

theorem Keeps.picks
    (h : Keeps p q loose)
    (hsource : conn = search.fresh ∨
      conn ∈ p.free.conns ∧ (search.client.isSome → p.connectionReserved conn = false)) :
    Picks p q search conn loose :=
  ⟨h.inv, h.tokens, h.held, hsource⟩

/-- An operation that gives nobody a connection, or one that a search picked. -/
def Searches (p : ServerPool) (search : PoolSearch) (result : Option Nat × ServerPool)
    (loose : Nat → List Nat) : Prop :=
  (result.1 = none ∧ Keeps p result.2 []) ∨
    ∃ conn, result.1 = some conn ∧ Picks p result.2 search conn (loose conn)

theorem PoolInv.createForClassic
    (h : PoolInv p [])
    (hfresh : search.fresh ∉ p.created)
    (preferred : Nat) :
    p.Searches search (p.createForClassic preferred search.fresh) fun conn => [conn] := by
  have hroom := h.makeRoomForClassic preferred
  rw [ServerPool.createForClassic]
  split
  · rename_i heq
    rw [heq] at hroom
    exact Or.inl ⟨rfl, hroom⟩
  · rename_i heq
    rw [heq] at hroom
    refine Or.inr ⟨search.fresh, rfl, ?_, hroom.tokens, hroom.held, Or.inl rfl⟩
    apply hroom.inv.createConnection
    rw [hroom.created]
    exact hfresh

theorem PoolInv.pickFreeAt
    (h : PoolInv p [])
    (hc : p.free.conns[index]? = some conn)
    (hfree : search.client.isSome → p.connectionReserved conn = false) :
    p.Searches search (p.removeFreeAt index .explicitRemove) fun conn => [conn] := by
  obtain ⟨hconn, hkeeps, -⟩ := h.removeFreeAt hc (show ReservationEndReason.explicitRemove ≠ .none by decide)
  exact Or.inr ⟨conn, hconn, hkeeps.picks (Or.inr ⟨List.mem_of_getElem? hc, hfree⟩)⟩

theorem PoolInv.pickFound
    {view : ClientView} {best : SearchState}
    (h : PoolInv p [])
    (hfound : p.Found view best)
    (hbest : best.quality ≠ 0) :
    p.Searches search (p.removeFreeAt best.foundIndex .explicitRemove) fun conn => [conn] := by
  obtain ⟨conn, hc, hfree, -⟩ := hfound hbest
  exact h.pickFreeAt hc fun _ => hfree

theorem PoolInv.getRandomMyConn
    (h : PoolInv p [])
    (hfresh : search.fresh ∉ p.created) :
    p.Searches search (p.getRandomMyConn search) fun conn => [conn] := by
  have hnothing : p.Searches search (none, p) fun conn => [conn] := Or.inl ⟨rfl, .refl h⟩
  rw [ServerPool.getRandomMyConn]
  dsimp only
  split
  · exact hnothing
  split
  · rename_i hsearch
    split
    · rename_i hclient
      have hlt : search.random % p.free.conns.length < p.free.conns.length :=
        Nat.mod_lt _ hsearch.1
      exact h.pickFreeAt (List.getElem?_eq_getElem hlt) (by simp [hclient])
    · rename_i view hclient
      have hfound := found_searchFree (p := p) view (search.random % p.free.conns.length)
      split
      · split
        · exact hnothing
        · exact h.pickFound hfound (by omega)
      · split
        · split
          · exact hnothing
          · exact h.createForClassic hfresh _
        · rename_i hquality
          split
          · split
            · exact h.createForClassic hfresh _
            · exact h.pickFound hfound hquality
          · exact h.pickFound hfound hquality
  · split
    · exact hnothing
    · exact h.createForClassic hfresh _

theorem PoolInv.takeSearched
    (h : PoolInv p [])
    (hfresh : search.fresh ∉ p.created) :
    p.Searches search (p.takeSearched search) fun _ => [] := by
  rw [ServerPool.takeSearched]
  rcases h.getRandomMyConn hfresh with ⟨hnone, hkeeps⟩ | ⟨conn, hconn, hpicks⟩
  · rw [← Prod.mk.eta (p := p.getRandomMyConn search), hnone]
    exact Or.inl ⟨rfl, hkeeps⟩
  · rw [← Prod.mk.eta (p := p.getRandomMyConn search), hconn]
    exact Or.inr ⟨conn, rfl, hpicks.inv.addUsed, hpicks.tokens, hpicks.held, hpicks.source⟩

theorem PoolInv.takeClassic
    (h : PoolInv p [])
    (hfresh : search.fresh ∉ p.created) :
    p.Searches search (p.takeClassic search) fun _ => [] := by
  rw [ServerPool.takeClassic]
  split
  · exact Or.inl ⟨rfl, .refl h⟩
  · exact h.takeSearched hfresh

theorem PoolInv.takeExisting
    (h : PoolInv p [])
    (hfresh : search.fresh ∉ p.created)
    (key : PoolMatchKey) (allowExactMatch allowReset : Bool) :
    p.Searches search (p.takeExisting key allowExactMatch allowReset search) fun _ => [] := by
  have hreset : p.Searches search (if allowReset then p.takeSearched
      { search with fastForward := false, onlyPooled := true, exactOnly := false }
      else (none, p)) fun _ => [] := by
    split
    · rcases h.takeSearched (show ({ search with
        fastForward := false, onlyPooled := true, exactOnly := false } : PoolSearch).fresh ∉
          p.created from hfresh) with
        hnone | ⟨conn, hconn, hpicks⟩
      · exact Or.inl hnone
      · exact Or.inr ⟨conn, hconn, hpicks.inv, hpicks.tokens, hpicks.held, hpicks.source⟩
    · exact Or.inl ⟨rfl, .refl h⟩
  rw [ServerPool.takeExisting]
  split
  · exact Or.inl ⟨rfl, .refl h⟩
  · cases allowExactMatch with
    | false =>
        exact hreset
    | true =>
        rcases h.removeMatchingFree key with hnone | ⟨conn, hin, hfree, hconn, hkeeps⟩
        · dsimp only [if_true]
          rw [hnone]
          exact hreset
        · dsimp only [if_true]
          rw [← Prod.mk.eta (p := p.removeMatchingFree key), hconn]
          exact Or.inr ⟨conn, rfl, hkeeps.addUsed.picks (Or.inr ⟨hin, fun _ => hfree⟩)⟩

/-- An operation that gives nobody a connection, or one of FREE that is not
reserved. -/
def TakesFree (p : ServerPool) (result : Option Nat × ServerPool) : Prop :=
  Keeps p result.2 [] ∧
    ∀ conn, result.1 = some conn → conn ∈ p.free.conns ∧ p.connectionReserved conn = false

theorem TakesFree.nothing
    (h : PoolInv p []) :
    p.TakesFree (none, p) :=
  ⟨.refl h, fun _ hc => by cases hc⟩

theorem PoolInv.takeMatching
    (h : PoolInv p [])
    (key : PoolMatchKey) :
    p.TakesFree (p.takeMatching key) := by
  rw [ServerPool.takeMatching]
  split
  · exact .nothing h
  · rcases h.removeMatchingFree key with hnone | ⟨conn, hin, hfree, hconn, hkeeps⟩
    · rw [hnone]
      exact .nothing h
    · rw [← Prod.mk.eta (p := p.removeMatchingFree key), hconn]
      refine ⟨hkeeps.addUsed, ?_⟩
      intro c hc
      obtain rfl := Option.some.inj hc
      exact ⟨hin, hfree⟩

theorem PoolInv.findMatchKey
    (h : PoolInv p loose)
    (hc : p.free.conns[index]? = some conn) :
    (p.free.findMatchKey p.marks conn).2 = p.marks := by
  simp only [ConnList.findMatchKey, h.free.findIdx hc]

theorem PoolInv.takeForPing
    (h : PoolInv p [])
    (conn : Nat) (idle : Bool) :
    p.TakesFree (p.takeForPing conn idle) := by
  rw [ServerPool.takeForPing]
  split
  · exact .nothing h
  · rw [h.free.ensureMatchIndexConsistent]
    dsimp only
    by_cases hin : conn ∈ p.free.conns
    · obtain ⟨index, hc⟩ := List.mem_iff_getElem?.mp hin
      rw [h.findFree hc]
      dsimp only
      split
      · exact .nothing h
      · rename_i hgo
        have hfree : p.connectionReserved conn = false := by
          simpa using (by simpa using hgo : _ ∧ _).2
        obtain ⟨hconn, hkeeps, -⟩ := h.removeFreeAt hc (show ReservationEndReason.acquired ≠ .none by decide)
        rw [h.findMatchKey hc]
        have heq : p.removeFreeAt index .acquired =
            (some conn, (p.removeFreeAt index .acquired).2) := by
          rw [← hconn]
        rw [heq]
        refine ⟨hkeeps.addUsed, ?_⟩
        intro c hc'
        obtain rfl := Option.some.inj hc'
        exact ⟨hin, hfree⟩
    · rw [findFree_of_notMem hin]
      exact .nothing h

end ServerPool

end PolarProxy
