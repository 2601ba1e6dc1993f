import PolarProxy.PoolOps
import PolarProxy.MatchIndex

/-!
# The invariant of a server's pool

An operation of the pool takes a connection out of one place and puts it into
another.  `PoolInv p loose` is the invariant of a pool in the middle of an
operation that holds the connections `loose`; between operations it holds none.

**Results.**
* one lemma for each way of moving a connection that the invariant survives it.
* `ServerPool.tokens` only grows by a reservation.
-/

namespace PolarProxy

open Buckets ConnList

namespace ServerPool

/-- Every token that was ever reserved on the server. -/
def tokens (p : ServerPool) : List Nat :=
  p.reservations.keys ++ p.ended.map Prod.fst

/-- The two maps of reservations tie tokens to connections of FREE that have no
key. -/
structure ReservationsTied (reservations : AList fun _ : Nat => ConnectionReservation)
    (tokenByConnection : AList fun _ : Nat => Nat) (keyed : List (Nat × PoolMatchKey)) :
    Prop where
  forward : ∀ t r, reservations.lookup t = some r →
    tokenByConnection.lookup r.conn = some t ∧ (r.conn, {}) ∈ keyed
  backward : ∀ c t, tokenByConnection.lookup c = some t →
    ∃ r, reservations.lookup t = some r ∧ r.conn = c

/-- A token that was retired has a record until the record is consumed. -/
structure RetirementsKept (ended : List (Nat × ReservationEndReason))
    (retired : AList fun _ : Nat => RetiredReservation) (consumed : List Nat) : Prop where
  reason : ∀ e ∈ ended, e.2 ≠ .none
  record : ∀ t record, retired.lookup t = some record →
    record.reason.isRetirement = true ∧ (t, record.reason) ∈ ended
  read : ∀ t ∈ consumed, retired.lookup t = none ∧
    ∃ reason, reason.isRetirement = true ∧ (t, reason) ∈ ended
  kept : ∀ e ∈ ended, e.2.isRetirement = true →
    e.1 ∈ consumed ∨ ∃ record, retired.lookup e.1 = some record
  consumedOnce : consumed.Nodup

theorem RetirementsKept.endToken
    {ended : List (Nat × ReservationEndReason)} {retired : AList fun _ : Nat => RetiredReservation}
    {consumed : List Nat} {token worker : Nat} {reason : ReservationEndReason}
    (h : RetirementsKept ended retired consumed)
    (hnew : token ∉ ended.map Prod.fst)
    (hreason : reason ≠ .none) :
    RetirementsKept (ended ++ [(token, reason)])
      (if reason.isRetirement then retired.insert token ⟨worker, reason⟩ else retired)
      consumed := by
  have hother : ∀ {t}, t ≠ token →
      (if reason.isRetirement then retired.insert token ⟨worker, reason⟩ else retired).lookup t =
        retired.lookup t := by
    intro t ht
    split
    · exact AList.lookup_insert_ne ht
    · rfl
  have hended : ∀ {t r}, (t, r) ∈ ended → t ≠ token := by
    rintro t r ht rfl
    exact hnew (List.mem_map_of_mem (f := Prod.fst) ht)
  refine ⟨?_, ?_, ?_, ?_, h.consumedOnce⟩
  · intro e he
    rcases List.mem_append.mp he with he | he
    · exact h.reason e he
    · obtain rfl := List.mem_singleton.mp he
      exact hreason
  · intro t record hrecord
    by_cases ht : t = token
    · subst ht
      split at hrecord
      · rename_i hret
        rw [AList.lookup_insert] at hrecord
        obtain rfl := Option.some.inj hrecord
        exact ⟨hret, by simp⟩
      · exact absurd (List.mem_map_of_mem (f := Prod.fst) (h.record t record hrecord).2) hnew
    · rw [hother ht] at hrecord
      obtain ⟨hret, hin⟩ := h.record t record hrecord
      exact ⟨hret, List.mem_append_left _ hin⟩
  · intro t ht
    obtain ⟨hnone, r, hret, hin⟩ := h.read t ht
    exact ⟨by rw [hother (hended hin)]; exact hnone, r, hret, List.mem_append_left _ hin⟩
  · intro e he hret
    rcases List.mem_append.mp he with he | he
    · rw [hother (hended he)]
      exact h.kept e he hret
    · obtain rfl := List.mem_singleton.mp he
      right
      simp only at hret
      rw [hret]
      exact ⟨_, AList.lookup_insert _⟩

theorem RetirementsKept.consume
    {ended : List (Nat × ReservationEndReason)} {retired : AList fun _ : Nat => RetiredReservation}
    {consumed : List Nat} {token : Nat} {record : RetiredReservation}
    (h : RetirementsKept ended retired consumed)
    (hrecord : retired.lookup token = some record) :
    RetirementsKept ended (retired.erase token) (token :: consumed) := by
  obtain ⟨hret, hended⟩ := h.record token record hrecord
  refine ⟨h.reason, ?_, ?_, ?_, ?_⟩
  · intro t record' hr
    have hne : t ≠ token := by
      rintro rfl
      rw [AList.lookup_erase] at hr
      cases hr
    rw [AList.lookup_erase_ne hne] at hr
    exact h.record t record' hr
  · intro t ht
    by_cases heq : t = token
    · subst heq
      exact ⟨AList.lookup_erase _ _, record.reason, hret, hended⟩
    · rw [AList.lookup_erase_ne heq]
      exact h.read t ((List.mem_cons.mp ht).resolve_left heq)
  · intro e he her
    by_cases heq : e.1 = token
    · exact Or.inl (List.mem_cons.mpr (Or.inl heq))
    · rw [AList.lookup_erase_ne heq]
      exact (h.kept e he her).imp_left (List.mem_cons_of_mem _)
  · refine List.nodup_cons.mpr ⟨?_, h.consumedOnce⟩
    intro hin
    rw [(h.read token hin).1] at hrecord
    cases hrecord

structure PoolInv (p : ServerPool) (loose : List Nat) : Prop where
  free : p.free.Indexed p.marks p.maxConnections.toNat []
  used : p.used.Placed p.marks
  usedList : p.used.usedList = true
  created : p.created.Nodup
  conserved : ∀ c,
    p.free.conns.count c + p.used.conns.count c + p.handed.count c + p.destroyed.count c +
      loose.count c = p.created.count c
  tied : ReservationsTied p.reservations p.tokenByConnection p.free.keyed
  once : p.tokens.Nodup
  kept : RetirementsKept p.ended p.retired p.consumed

variable {p : ServerPool} {loose : List Nat} {conn c index : Nat}
variable {reason : ReservationEndReason} {key : Option PoolMatchKey}

@[simp]
theorem forgetReserved_free (conn : Nat) (reason : ReservationEndReason) :
    (p.forgetReserved conn reason).free = p.free := by
  unfold forgetReserved
  split <;> rfl

@[simp]
theorem forgetReserved_used (conn : Nat) (reason : ReservationEndReason) :
    (p.forgetReserved conn reason).used = p.used := by
  unfold forgetReserved
  split <;> rfl

@[simp]
theorem forgetReserved_marks (conn : Nat) (reason : ReservationEndReason) :
    (p.forgetReserved conn reason).marks = p.marks := by
  unfold forgetReserved
  split <;> rfl

@[simp]
theorem forgetReserved_maxConnections (conn : Nat) (reason : ReservationEndReason) :
    (p.forgetReserved conn reason).maxConnections = p.maxConnections := by
  unfold forgetReserved
  split <;> rfl

@[simp]
theorem forgetReserved_status (conn : Nat) (reason : ReservationEndReason) :
    (p.forgetReserved conn reason).status = p.status := by
  unfold forgetReserved
  split <;> rfl

@[simp]
theorem forgetReserved_created (conn : Nat) (reason : ReservationEndReason) :
    (p.forgetReserved conn reason).created = p.created := by
  unfold forgetReserved
  split <;> rfl

theorem forgetReserved_lookup_self (conn : Nat) (reason : ReservationEndReason) :
    (p.forgetReserved conn reason).tokenByConnection.lookup conn = none := by
  unfold forgetReserved
  split
  · assumption
  · exact AList.lookup_erase _ _

theorem forgetReserved_withFree (free : ConnList) (marks : PoolMarks) (conn : Nat)
    (reason : ReservationEndReason) :
    { p with free := free, marks := marks }.forgetReserved conn reason =
      { p.forgetReserved conn reason with free := free, marks := marks } := by
  unfold forgetReserved
  dsimp only
  split <;> rfl

namespace PoolInv

theorem empty
    (maxConnections : Int) :
    PoolInv { maxConnections := maxConnections } [] where
  free := Indexed.empty
  used := ⟨List.nodup_nil, rfl, by simp⟩
  usedList := rfl
  created := List.nodup_nil
  conserved := by simp
  tied := ⟨by simp, by simp⟩
  once := by simp [tokens]
  kept := ⟨by simp, by simp, by simp, by simp, by simp⟩

theorem count_le_one
    (h : PoolInv p loose)
    (c : Nat) :
    p.free.conns.count c + p.used.conns.count c + p.handed.count c + p.destroyed.count c +
      loose.count c ≤ 1 := by
  rw [h.conserved]
  exact List.nodup_iff_count_le_one.mp h.created c

theorem notMem_used
    (h : PoolInv p loose)
    (hc : c ∈ p.free.conns) :
    c ∉ p.used.conns := by
  intro hu
  have := h.count_le_one c
  have := List.count_pos_iff.mpr hc
  have := List.count_pos_iff.mpr hu
  omega

theorem notMem_of_loose
    (h : PoolInv p (conn :: loose)) :
    conn ∉ p.free.conns ∧ conn ∉ p.used.conns := by
  have hle := h.count_le_one conn
  rw [List.count_cons_self] at hle
  constructor
  · intro hc
    have := List.count_pos_iff.mpr hc
    omega
  · intro hc
    have := List.count_pos_iff.mpr hc
    omega

theorem withMarks
    {marks : PoolMarks}
    (h : PoolInv p loose)
    (hsame : ∀ c ∈ p.free.conns ++ p.used.conns,
      (marks c).corePoolPosition = (p.marks c).corePoolPosition) :
    PoolInv { p with marks := marks } loose :=
  { h with
    free := h.free.frame fun c hc => hsame c (List.mem_append_left _ hc)
    used := h.used.frame fun c hc => hsame c (List.mem_append_right _ hc) }

theorem findFree
    (h : PoolInv p loose)
    (hc : p.free.conns[index]? = some conn) :
    p.findFree conn = (some index, p) := by
  simp only [ServerPool.findFree, h.free.findIdx hc]

theorem findFree_of_notMem
    (hc : conn ∉ p.free.conns) :
    p.findFree conn = (none, p) := by
  simp only [ServerPool.findFree, findIdx_of_notMem hc]

theorem findUsed
    (h : PoolInv p loose)
    (hc : p.used.conns[index]? = some conn) :
    p.findUsed conn = (some index, p) := by
  simp only [ServerPool.findUsed, h.used.findIdx hc]

theorem findUsed_of_notMem
    (hc : conn ∉ p.used.conns) :
    p.findUsed conn = (none, p) := by
  simp only [ServerPool.findUsed, findIdx_of_notMem hc]

/-! ## Callers -/

theorem handOver
    (h : PoolInv p (conn :: loose)) :
    PoolInv (p.handOver conn) loose := by
  refine { h with conserved := ?_ }
  intro c
  have hc := h.conserved c
  simp only [ServerPool.handOver, List.count_cons] at hc ⊢
  omega

theorem takeBack
    (h : PoolInv p loose)
    (hc : conn ∈ p.handed) :
    PoolInv (p.takeBack conn) (conn :: loose) := by
  refine { h with conserved := ?_ }
  intro c
  have hc' := h.conserved c
  have hperm := (List.perm_cons_erase hc).count_eq c
  simp only [ServerPool.takeBack, List.count_cons] at hperm ⊢
  omega

theorem destroy
    (h : PoolInv p (conn :: loose)) :
    PoolInv (p.destroy conn) loose := by
  refine { h with conserved := ?_ }
  intro c
  have hc := h.conserved c
  simp only [ServerPool.destroy, List.count_cons] at hc ⊢
  omega

theorem createConnection
    (h : PoolInv p loose)
    (hnew : conn ∉ p.created) :
    PoolInv (p.createConnection conn) (conn :: loose) := by
  refine { h with created := List.nodup_cons.mpr ⟨hnew, h.created⟩, conserved := ?_ }
  intro c
  have hc := h.conserved c
  simp only [ServerPool.createConnection, List.count_cons]
  omega

/-! ## Adding -/

theorem addUsed
    (h : PoolInv p (conn :: loose)) :
    PoolInv (p.addUsed conn key) loose := by
  obtain ⟨hfree, hused⟩ := h.notMem_of_loose
  refine { h with
    free := ?_, used := h.used.addUnlocked hused key, usedList := ?_, conserved := ?_ }
  · apply h.free.frame
    intro c hc
    have hne : c ≠ conn := by
      rintro rfl
      exact hfree hc
    simp only [ServerPool.addUsed]
    rw [position_addUnlocked h.used, if_neg hne]
  · exact (usedList_addUnlocked h.used key).trans h.usedList
  · intro c
    have hc := h.conserved c
    simp only [ServerPool.addUsed]
    rw [conns_addUnlocked h.used, List.count_append, List.count_singleton]
    rw [List.count_cons] at hc
    omega

theorem addFree
    (h : PoolInv p (conn :: loose)) :
    PoolInv (p.addFree conn key) loose := by
  obtain ⟨hfree, hused⟩ := h.notMem_of_loose
  have hkeyed : ∀ e ∈ p.free.keyed, e ∈ (p.addFree conn key).free.keyed := by
    intro e he
    change e ∈ (p.free.addUnlocked p.marks p.env conn key).1.keyed
    rw [keyed_addUnlocked h.free.toPlaced]
    exact List.mem_append_left _ he
  refine { h with
    free := h.free.addUnlocked hfree key, used := ?_, conserved := ?_, tied := ?_ }
  · apply h.used.frame
    intro c hc
    have hne : c ≠ conn := by
      rintro rfl
      exact hused hc
    simp only [ServerPool.addFree]
    rw [position_addUnlocked h.free.toPlaced, if_neg hne]
  · intro c
    have hc := h.conserved c
    simp only [ServerPool.addFree]
    rw [conns_addUnlocked h.free.toPlaced, List.count_append, List.count_singleton]
    rw [List.count_cons] at hc
    omega
  · refine ⟨?_, h.tied.backward⟩
    intro t r hr
    obtain ⟨htoken, hin⟩ := h.tied.forward t r hr
    exact ⟨htoken, hkeyed _ hin⟩

end PoolInv

/-! ## Steps that reserve nothing -/

variable {q : ServerPool}

/-- The pool goes from `p` to `q`, holding `loose` afterwards, and reserves
nothing. -/
structure Keeps (p q : ServerPool) (loose : List Nat) : Prop where
  inv : PoolInv q loose
  tokens : q.tokens.Perm p.tokens
  created : q.created = p.created
  status : q.status = p.status
  held : ∀ t r, q.reservations.lookup t = some r → p.reservations.lookup t = some r

/-- The pool goes from `p` to `q` and reserves a connection for a request. -/
structure Reserves (p q : ServerPool) (request : CapacityRequest) (loose : List Nat) : Prop where
  inv : PoolInv q loose
  tokens : q.tokens.Perm (request.token :: p.tokens)
  held : ∀ t r, q.reservations.lookup t = some r → p.reservations.lookup t = some r ∨
    t = request.token ∧ r.workerIndex = request.workerIndex

theorem Keeps.refl
    (h : PoolInv p loose) :
    Keeps p p loose :=
  ⟨h, List.Perm.refl _, rfl, rfl, fun _ _ hr => hr⟩

theorem Keeps.trans
    {r : ServerPool} {loose' : List Nat}
    (h : Keeps p q loose)
    (h' : Keeps q r loose') :
    Keeps p r loose' :=
  ⟨h'.inv, h'.tokens.trans h.tokens, h'.created.trans h.created, h'.status.trans h.status,
    fun t r hr => h.held t r (h'.held t r hr)⟩

theorem Keeps.andThen
    {f : ServerPool → ServerPool}
    (h : Keeps p q loose)
    (hf : PoolInv q loose → Keeps q (f q) loose) :
    Keeps p (f q) loose :=
  h.trans (hf h.inv)

theorem Keeps.addUsed
    (h : Keeps p q (conn :: loose)) :
    Keeps p (q.addUsed conn key) loose :=
  ⟨h.inv.addUsed, h.tokens, h.created, h.status, h.held⟩

theorem Keeps.addFree
    (h : Keeps p q (conn :: loose)) :
    Keeps p (q.addFree conn key) loose :=
  ⟨h.inv.addFree, h.tokens, h.created, h.status, h.held⟩

theorem Keeps.handOver
    (h : Keeps p q (conn :: loose)) :
    Keeps p (q.handOver conn) loose :=
  ⟨h.inv.handOver, h.tokens, h.created, h.status, h.held⟩

theorem Keeps.destroy
    (h : Keeps p q (conn :: loose)) :
    Keeps p (q.destroy conn) loose :=
  ⟨h.inv.destroy, h.tokens, h.created, h.status, h.held⟩

theorem Keeps.takeBack
    (h : PoolInv p loose)
    (hc : conn ∈ p.handed) :
    Keeps p (p.takeBack conn) (conn :: loose) :=
  ⟨h.takeBack hc, List.Perm.refl _, rfl, rfl, fun _ _ hr => hr⟩

namespace PoolInv

/-! ## Ending reservations -/

theorem connectionReserved_eq_false :
    p.connectionReserved conn = false ↔ p.tokenByConnection.lookup conn = none := by
  rw [connectionReserved, Option.isSome_eq_false_iff, Option.isNone_iff_eq_none]

theorem forgetReserved_eq
    {token : Nat}
    (h : PoolInv p loose)
    (ht : p.tokenByConnection.lookup conn = some token) :
    ∃ r, p.reservations.lookup token = some r ∧ r.conn = conn ∧
      p.retired.lookup token = none ∧
      p.forgetReserved conn reason = { p with
        retired := if reason.isRetirement then p.retired.insert token ⟨r.workerIndex, reason⟩
          else p.retired
        reservations := p.reservations.erase token
        tokenByConnection := p.tokenByConnection.erase conn
        ended := p.ended ++ [(token, reason)] } := by
  obtain ⟨r, hr, hconn⟩ := h.tied.backward conn token ht
  have hlive : token ∈ p.reservations.keys := AList.mem_keys.mp
    (AList.lookup_isSome.mp (by rw [hr]; rfl))
  have hretired : p.retired.lookup token = none := by
    by_contra hsome
    obtain ⟨record, hrecord⟩ := Option.ne_none_iff_exists'.mp hsome
    have hended := (h.kept.record token record hrecord).2
    have hdisjoint := (List.nodup_append.mp h.once).2.2
    exact hdisjoint token hlive token (List.mem_map_of_mem (f := Prod.fst) hended) rfl
  refine ⟨r, hr, hconn, hretired, ?_⟩
  simp only [ServerPool.forgetReserved, ht, hr, emplace,
    if_neg (AList.lookup_eq_none.mp hretired)]

theorem tokens_forgetReserved
    (conn : Nat) (reason : ReservationEndReason)
    (h : PoolInv p loose) :
    (p.forgetReserved conn reason).tokens.Perm p.tokens := by
  cases ht : p.tokenByConnection.lookup conn with
  | none =>
      simp only [ServerPool.forgetReserved, ht]
      exact List.Perm.refl _
  | some token =>
      obtain ⟨r, hr, -, -, heq⟩ := forgetReserved_eq h ht
      have hlive : token ∈ p.reservations.keys := AList.mem_keys.mp
        (AList.lookup_isSome.mp (by rw [hr]; rfl))
      rw [heq]
      simp only [tokens, AList.keys_erase, List.map_append, List.map_cons, List.map_nil]
      rw [← List.append_assoc]
      calc (p.reservations.keys.erase token ++ p.ended.map Prod.fst ++ [token]).Perm
            (token :: (p.reservations.keys.erase token ++ p.ended.map Prod.fst)) :=
            List.perm_append_singleton _ _
        _ = (token :: p.reservations.keys.erase token) ++ p.ended.map Prod.fst := rfl
        _ |>.Perm (p.reservations.keys ++ p.ended.map Prod.fst) :=
            (List.perm_cons_erase hlive).symm.append_right _

theorem held_forgetReserved
    {t : Nat} {r : ConnectionReservation}
    (hr : (p.forgetReserved conn reason).reservations.lookup t = some r) :
    p.reservations.lookup t = some r := by
  unfold ServerPool.forgetReserved at hr
  split at hr
  · exact hr
  · rename_i token _
    by_cases ht : t = token
    · subst ht
      rw [AList.lookup_erase] at hr
      cases hr
    · rwa [AList.lookup_erase_ne ht] at hr

theorem forgetReserved
    (h : PoolInv p loose)
    (hreason : reason ≠ .none) :
    PoolInv (p.forgetReserved conn reason) loose := by
  cases ht : p.tokenByConnection.lookup conn with
  | none =>
      simp only [ServerPool.forgetReserved, ht]
      exact h
  | some token =>
      obtain ⟨r, hr, hconn, hretired, heq⟩ := forgetReserved_eq h ht
      have honce := (tokens_forgetReserved conn reason h).nodup_iff.mpr h.once
      rw [heq] at honce ⊢
      have hended : token ∉ p.ended.map Prod.fst := by
        intro hin
        exact (List.nodup_append.mp h.once).2.2 token
          (AList.mem_keys.mp (AList.lookup_isSome.mp (by rw [hr]; rfl))) token hin rfl
      refine { h with
        tied := ⟨?_, ?_⟩, once := honce, kept := h.kept.endToken hended hreason }
      · intro t r' hr'
        have hne : t ≠ token := by
          rintro rfl
          rw [AList.lookup_erase] at hr'
          cases hr'
        rw [AList.lookup_erase_ne hne] at hr'
        obtain ⟨ht', hin⟩ := h.tied.forward t r' hr'
        refine ⟨?_, hin⟩
        rw [AList.lookup_erase_ne, ht']
        intro hcc
        rw [hcc, ht] at ht'
        exact hne (Option.some.inj ht').symm
      · intro c t hct
        have hne : c ≠ conn := by
          rintro rfl
          rw [AList.lookup_erase] at hct
          cases hct
        rw [AList.lookup_erase_ne hne] at hct
        obtain ⟨r', hr', hc⟩ := h.tied.backward c t hct
        refine ⟨r', ?_, hc⟩
        rw [AList.lookup_erase_ne, hr']
        rintro rfl
        obtain rfl := Option.some.inj (hr.symm.trans hr')
        exact hne (hc.symm.trans hconn)

theorem keeps_forgetReserved
    (conn : Nat)
    (h : PoolInv p loose)
    (hreason : reason ≠ .none) :
    Keeps p (p.forgetReserved conn reason) loose :=
  ⟨h.forgetReserved hreason, tokens_forgetReserved conn reason h, forgetReserved_created conn reason,
    forgetReserved_status conn reason, fun _ _ hr => held_forgetReserved hr⟩

theorem lookup_forgetReserved
    {t : Nat} {r : ConnectionReservation}
    (h : PoolInv p loose)
    (hr : p.reservations.lookup t = some r) :
    (p.forgetReserved r.conn reason).reservations.lookup t = none := by
  simp only [ServerPool.forgetReserved, (h.tied.forward t r hr).1]
  exact AList.lookup_erase _ _

theorem consume
    {token : Nat} {record : RetiredReservation}
    (h : PoolInv p loose)
    (hrecord : p.retired.lookup token = some record) :
    Keeps p { p with retired := p.retired.erase token, consumed := token :: p.consumed } loose :=
  ⟨{ h with kept := h.kept.consume hrecord }, List.Perm.refl _, rfl, rfl, fun _ _ hr => hr⟩

/-! ## Removing -/

theorem withoutFree
    {l' : ConnList} {marks' : PoolMarks} {k : PoolMatchKey}
    (h : PoolInv p loose)
    (hr : p.free.Removes p.marks conn k l' marks')
    (hi : l'.Indexed marks' p.maxConnections.toNat [])
    (hfree : p.tokenByConnection.lookup conn = none) :
    PoolInv { p with free := l', marks := marks' } (conn :: loose) := by
  have hperm := hr.conns h.free.toPlaced
  have hconn : conn ∈ p.free.conns := hperm.mem_iff.mpr (List.mem_cons_self ..)
  refine { h with free := hi, used := ?_, conserved := ?_, tied := ⟨?_, h.tied.backward⟩ }
  · apply h.used.frame
    intro c hc
    apply hr.frame
    intro hin
    exact h.notMem_used hin hc
  · intro c
    have hc := h.conserved c
    have hcount := hperm.count_eq c
    rw [List.count_cons] at hcount ⊢
    dsimp only
    omega
  · intro t r hrt
    obtain ⟨ht, hin⟩ := h.tied.forward t r hrt
    refine ⟨ht, (hr.mem_keyed h.free.toPlaced).mpr ⟨hin, ?_⟩⟩
    intro hcc
    rw [hcc, hfree] at ht
    cases ht

/-- `remove_unlocked` on FREE ends the reservation of the connection it takes. -/
theorem removeFreeAt
    (h : PoolInv p loose)
    (hc : p.free.conns[index]? = some conn)
    (hreason : reason ≠ .none) :
    (p.removeFreeAt index reason).1 = some conn ∧
      Keeps p (p.removeFreeAt index reason).2 (conn :: loose) ∧
      p.free.conns.Perm (conn :: (p.removeFreeAt index reason).2.free.conns) := by
  obtain ⟨hconn, ⟨k, hr⟩, hi⟩ := Indexed.removeUnlocked p.env h.free hc
  have hforgot := h.keeps_forgetReserved conn hreason
  have heq : p.removeFreeAt index reason =
      ((p.free.removeUnlocked p.marks p.env index).1,
        { p.forgetReserved conn reason with
          free := (p.free.removeUnlocked p.marks p.env index).2.1
          marks := (p.free.removeUnlocked p.marks p.env index).2.2 }) := by
    simp only [ServerPool.removeFreeAt, hc]
    rw [forgetReserved_withFree]
  rw [heq]
  refine ⟨hconn, ⟨?_, hforgot.tokens, hforgot.created, hforgot.status, hforgot.held⟩,
    hr.conns h.free.toPlaced⟩
  apply hforgot.inv.withoutFree (k := k)
  · rw [forgetReserved_free, forgetReserved_marks]
    exact hr
  · rw [forgetReserved_maxConnections]
    exact hi
  · exact forgetReserved_lookup_self conn reason

theorem reservations_removeFreeAt
    (hc : p.free.conns[index]? = some conn) :
    (p.removeFreeAt index reason).2.reservations =
      (p.forgetReserved conn reason).reservations := by
  simp only [ServerPool.removeFreeAt, hc]
  rw [forgetReserved_withFree]

theorem removeUsedAt
    (h : PoolInv p loose)
    (hc : p.used.conns[index]? = some conn) :
    (p.removeUsedAt index).1 = some conn ∧ Keeps p (p.removeUsedAt index).2 (conn :: loose) := by
  obtain ⟨k, hk, -⟩ := h.used.getElem?_keyed hc
  obtain ⟨hconn, hr⟩ := h.used.removeUnindexed hc hk
  have heq : p.used.removeUnlocked p.marks p.env index = p.used.removeUnindexed p.marks index := by
    simp only [removeUnlocked, hc, h.usedList, h.used.ensureMatchIndexConsistent, if_true]
  have hperm := hr.conns h.used
  simp only [ServerPool.removeUsedAt, heq]
  refine ⟨hconn, { h with
    free := ?_, used := hr.placed, usedList := hr.usedList.trans h.usedList, conserved := ?_ },
    List.Perm.refl _, rfl, rfl, fun _ _ hr => hr⟩
  · apply h.free.frame
    intro c hin
    exact hr.frame c (h.notMem_used hin)
  · intro c
    have hcons := h.conserved c
    have hcount := hperm.count_eq c
    change p.free.conns.count c + (p.used.removeUnindexed p.marks index).2.1.conns.count c +
      p.handed.count c + p.destroyed.count c + (conn :: loose).count c = p.created.count c
    rw [List.count_cons] at hcount ⊢
    omega

theorem removeMatchingFree
    (h : PoolInv p loose)
    (key : PoolMatchKey) :
    p.removeMatchingFree key = (none, p) ∨
      ∃ conn ∈ p.free.conns, p.connectionReserved conn = false ∧
        (p.removeMatchingFree key).1 = some conn ∧
        Keeps p (p.removeMatchingFree key).2 (conn :: loose) := by
  rcases Indexed.removeMatching p.env h.free key with
    ⟨-, hnone⟩ | ⟨conn, hmem, hconn, hr, hi⟩
  · left
    simp only [ServerPool.removeMatchingFree, hnone]
  · right
    obtain ⟨hin, hk, -⟩ := (h.free.mem_bucket conn key).mp hmem
    have hfree : p.tokenByConnection.lookup conn = none := by
      by_contra hsome
      obtain ⟨t, ht⟩ := Option.ne_none_iff_exists'.mp hsome
      obtain ⟨r, hrt, rfl⟩ := h.tied.backward conn t ht
      rw [h.free.key_unique hin (h.tied.forward t r hrt).2] at hk
      cases hk
    exact ⟨conn, h.free.mem_conns hin, connectionReserved_eq_false.mpr hfree, hconn,
      h.withoutFree hr hi hfree, List.Perm.refl _, rfl, rfl, fun _ _ hr => hr⟩

/-! ## Reserving -/

/-- A connection is reserved for a token that was never reserved here. -/
theorem reserveConnection
    {request : CapacityRequest}
    (h : PoolInv p (conn :: loose))
    (hnew : request.token ∉ p.tokens) :
    Reserves p (p.reserveConnection conn request) request loose := by
  have hadd : PoolInv (p.addFree conn none) loose := h.addFree
  have hkeyed : (conn, ({} : PoolMatchKey)) ∈ (p.addFree conn none).free.keyed := by
    change _ ∈ (p.free.addUnlocked p.marks p.env conn none).1.keyed
    rw [keyed_addUnlocked h.free.toPlaced]
    simp
  have hunreserved : p.tokenByConnection.lookup conn = none := by
    by_contra hsome
    obtain ⟨t, ht⟩ := Option.ne_none_iff_exists'.mp hsome
    obtain ⟨r, hr, rfl⟩ := h.tied.backward conn t ht
    exact h.notMem_of_loose.1 (h.free.mem_conns (h.tied.forward t r hr).2)
  have htoken : request.token ∉ p.reservations := by
    intro hin
    exact hnew (List.mem_append_left _ (AList.mem_keys.mp hin))
  have heq : p.reserveConnection conn request = { p.addFree conn none with
      reservations := p.reservations.insert request.token
        ⟨request.workerIndex, request.token, conn, request.matchKey⟩
      tokenByConnection := p.tokenByConnection.insert conn request.token } := by
    simp only [ServerPool.reserveConnection, emplace]
    rw [if_neg (show request.token ∉ (p.addFree conn none).reservations from htoken),
      if_neg (show conn ∉ (p.addFree conn none).tokenByConnection from
        AList.lookup_eq_none.mp hunreserved)]
    rfl
  have htokens : (p.reserveConnection conn request).tokens = request.token :: p.tokens := by
    rw [heq]
    simp only [tokens, AList.keys_insert]
    rw [List.erase_of_not_mem (fun hin => htoken (AList.mem_keys.mpr hin))]
    rfl
  have hheld : ∀ t r, (p.reserveConnection conn request).reservations.lookup t = some r →
      p.reservations.lookup t = some r ∨
        t = request.token ∧ r.workerIndex = request.workerIndex := by
    intro t r hr
    rw [heq] at hr
    by_cases ht : t = request.token
    · subst ht
      rw [AList.lookup_insert] at hr
      obtain rfl := Option.some.inj hr
      exact Or.inr ⟨rfl, rfl⟩
    · exact Or.inl (by rwa [AList.lookup_insert_ne ht] at hr)
  refine ⟨?_, by rw [htokens], hheld⟩
  have honce : (p.reserveConnection conn request).tokens.Nodup := by
    rw [htokens]
    exact List.nodup_cons.mpr ⟨hnew, h.once⟩
  rw [heq] at honce ⊢
  refine { hadd with tied := ⟨?_, ?_⟩, once := honce }
  · intro t r hr
    by_cases ht : t = request.token
    · subst ht
      rw [AList.lookup_insert] at hr
      obtain rfl := Option.some.inj hr
      exact ⟨AList.lookup_insert _, hkeyed⟩
    · rw [AList.lookup_insert_ne ht] at hr
      obtain ⟨ht', hin⟩ := hadd.tied.forward t r hr
      refine ⟨?_, hin⟩
      rw [AList.lookup_insert_ne]
      · exact ht'
      · intro hcc
        rw [hcc] at ht'
        rw [show (p.addFree conn none).tokenByConnection.lookup conn = none from hunreserved] at ht'
        cases ht'
  · intro c t hct
    by_cases hc : c = conn
    · subst hc
      rw [AList.lookup_insert] at hct
      obtain rfl := Option.some.inj hct
      exact ⟨_, AList.lookup_insert _, rfl⟩
    · rw [AList.lookup_insert_ne hc] at hct
      obtain ⟨r, hr, hrc⟩ := hadd.tied.backward c t hct
      refine ⟨r, ?_, hrc⟩
      rw [AList.lookup_insert_ne]
      · exact hr
      · rintro rfl
        exact htoken (AList.lookup_isSome.mp (by
          rw [show p.reservations.lookup request.token = some r from hr]
          rfl))

end PoolInv

end ServerPool

end PolarProxy
