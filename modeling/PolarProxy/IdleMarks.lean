import PolarProxy.PoolLimit
import PolarProxy.PoolSystem

/-!
# Connections that are to go

A trim of FREE marks connections, and a later trim deletes marked ones.  A mark
says something only as long as the connection stays in FREE, so whatever takes a
connection out of FREE removes its mark, even if the connection comes back at
once, and nothing but a trim sets a mark.

**Results.** `ServerPool.Fades`, `Fades.step`, `not_pending_cancelReservation`.
-/

namespace PolarProxy

open SwapRemove

/-! ## Marks of a list -/

namespace ConnList

variable {l : ConnList} {marks : PoolMarks} {env : ListEnv} {index conn d : Nat}

theorem pending_setPosition
    (marks : PoolMarks) (conn position d : Nat) :
    (marks.setPosition conn position d).idleTrimPending = (marks d).idleTrimPending := by
  rw [PoolMarks.setPosition]
  by_cases hd : d = conn
  · subst hd
    rw [Function.update_self]
  · rw [Function.update_of_ne hd]

theorem pending_finishIdleTrim
    (marks : PoolMarks) (conn d : Nat) :
    (marks.finishIdleTrim conn d).idleTrimPending =
      (decide (d ≠ conn) && (marks d).idleTrimPending) := by
  rw [PoolMarks.finishIdleTrim]
  by_cases hd : d = conn
  · subst hd
    simp
  · simp [hd]

/-- The connections and their marks stay. -/
structure Renews (l : ConnList) (marks : PoolMarks) (result : ConnList × PoolMarks) : Prop where
  conns : result.1.conns = l.conns
  usedList : result.1.usedList = l.usedList
  pending : ∀ d, (result.2 d).idleTrimPending = (marks d).idleTrimPending

theorem Renews.refl
    (l : ConnList) (marks : PoolMarks) :
    l.Renews marks (l, marks) :=
  ⟨rfl, rfl, fun _ => rfl⟩

theorem Renews.trans
    {renewed result : ConnList × PoolMarks}
    (h : l.Renews marks renewed)
    (h' : renewed.1.Renews renewed.2 result) :
    l.Renews marks result :=
  ⟨h'.conns.trans h.conns, h'.usedList.trans h.usedList,
    fun d => (h'.pending d).trans (h.pending d)⟩

theorem pending_renewPositions
    (l : ConnList) (marks : PoolMarks) (d : Nat) :
    (l.renewPositions marks d).idleTrimPending = (marks d).idleTrimPending := by
  rw [renewPositions]
  induction l.conns.zipIdx generalizing marks with
  | nil =>
      rfl
  | cons entry rest ih =>
      rw [List.foldl_cons, ih, pending_setPosition]

theorem renews_ensure
    (l : ConnList) (marks : PoolMarks) (env : ListEnv) :
    l.Renews marks (l.ensureMatchIndexConsistent marks env) := by
  rw [ensureMatchIndexConsistent]
  split
  · exact .refl l marks
  · split
    · exact ⟨rfl, rfl, pending_renewPositions l marks⟩
    · exact ⟨rfl, rfl, pending_renewPositions l marks⟩

theorem renews_rebuild
    (l : ConnList) (marks : PoolMarks) (env : ListEnv) :
    l.Renews marks (l.rebuildFreeMatchIndex marks env) :=
  ⟨rfl, rfl, pending_renewPositions l marks⟩

theorem pending_findIdx
    (l : ConnList) (marks : PoolMarks) (conn d : Nat) :
    ((l.findIdx marks conn).2 d).idleTrimPending = (marks d).idleTrimPending := by
  rw [findIdx]
  split
  · rfl
  · split
    · exact pending_setPosition _ _ _ _
    · rfl

theorem usedList_shrinkBucket
    (l : ConnList) (env : ListEnv) (key : PoolMatchKey) (rest : List Nat) :
    (l.shrinkBucket env key rest).usedList = l.usedList := by
  simp only [shrinkBucket, limitEmptyMatchBuckets]
  split
  · split <;> rfl
  · rfl

theorem renews_shrinkBucket
    (l : ConnList) (marks : PoolMarks) (env : ListEnv) (key : PoolMatchKey) (rest : List Nat) :
    l.Renews marks (l.shrinkBucket env key rest, marks) :=
  ⟨conns_shrinkBucket l env key rest, usedList_shrinkBucket l env key rest, fun _ => rfl⟩

theorem renews_unindex
    (l : ConnList) (marks : PoolMarks) (env : ListEnv) (conn : Nat) :
    l.Renews marks (l.unindex marks env conn) := by
  have hensure := l.renews_ensure marks env
  have hfind : l.Renews marks ((l.ensureMatchIndexConsistent marks env).1,
      ((l.ensureMatchIndexConsistent marks env).1.findIdx
        (l.ensureMatchIndexConsistent marks env).2 conn).2) :=
    ⟨hensure.conns, hensure.usedList,
      fun d => (pending_findIdx _ _ _ d).trans (hensure.pending d)⟩
  simp only [unindex]
  split
  · exact hfind
  · split
    · exact hfind
    · split
      · exact hfind
      · exact hfind.trans (renews_shrinkBucket _ _ _ _ _)

/-- One connection or none is taken out of a list; in FREE it loses its mark. -/
structure Takes (l : ConnList) (marks : PoolMarks) (result : Option Nat × ConnList × PoolMarks) :
    Prop where
  usedList : result.2.1.usedList = l.usedList
  stays : ∀ d ∈ l.conns, result.1 ≠ some d → d ∈ result.2.1.conns
  marked : ∀ d, (result.2.2 d).idleTrimPending = true →
    (marks d).idleTrimPending = true ∧ (l.usedList = false → result.1 ≠ some d)
  kept : ∀ d, (marks d).idleTrimPending = true → result.1 ≠ some d →
    (result.2.2 d).idleTrimPending = true

theorem Renews.takes
    {renewed : ConnList × PoolMarks} {result : Option Nat × ConnList × PoolMarks}
    (h : l.Renews marks renewed)
    (htakes : renewed.1.Takes renewed.2 result) :
    l.Takes marks result := by
  refine ⟨htakes.usedList.trans h.usedList, ?_, ?_, ?_⟩
  · intro d hd
    exact htakes.stays d (h.conns.symm ▸ hd)
  · intro d hd
    obtain ⟨hold, hgone⟩ := htakes.marked d hd
    exact ⟨(h.pending d).symm.trans hold, fun hused => hgone (h.usedList.trans hused)⟩
  · intro d hd
    exact htakes.kept d ((h.pending d).trans hd)

theorem Renews.takesNothing
    {renewed : ConnList × PoolMarks}
    (h : l.Renews marks renewed) :
    l.Takes marks (none, renewed) := by
  refine ⟨h.usedList, ?_, ?_, ?_⟩
  · intro d hd _
    exact h.conns.symm ▸ hd
  · intro d hd
    exact ⟨(h.pending d).symm.trans hd, fun _ hnone => by cases hnone⟩
  · intro d hd _
    exact (h.pending d).trans hd

theorem takes_removeUnindexed
    (l : ConnList) (marks : PoolMarks) (index : Nat) :
    l.Takes marks (l.removeUnindexed marks index) := by
  rw [removeUnindexed]
  cases hc : l.conns[index]? with
  | none =>
      exact (Renews.refl l marks).takesNothing
  | some conn =>
      cases hlast : l.conns.getLast? with
      | none =>
          exact (Renews.refl l marks).takesNothing
      | some last =>
          have hsame : ∀ (marks' : PoolMarks) d,
              ((if index + 1 < l.conns.length then
                (marks'.setPosition conn unsetPoolPosition).setPosition last index
                else marks'.setPosition conn unsetPoolPosition) d).idleTrimPending =
                (marks' d).idleTrimPending := by
            intro marks' d
            split
            · rw [pending_setPosition, pending_setPosition]
            · rw [pending_setPosition]
          refine ⟨rfl, ?_, ?_, ?_⟩
          · intro d hd hne
            have hmem := (swapRemove_perm hc).mem_iff.mp hd
            refine (List.mem_cons.mp hmem).resolve_left ?_
            rintro rfl
            exact hne rfl
          · intro d hd
            have hcleared := (hsame _ d).symm.trans hd
            cases hused : l.usedList with
            | true =>
                rw [if_pos hused] at hcleared
                exact ⟨hcleared, fun h => Bool.false_ne_true h.symm |>.elim⟩
            | false =>
                rw [if_neg (by simp [hused]), pending_finishIdleTrim, Bool.and_eq_true,
                  decide_eq_true_iff] at hcleared
                refine ⟨hcleared.2, ?_⟩
                intro _ heq
                exact hcleared.1 (Option.some.inj heq).symm
          · intro d hd hne
            refine (hsame _ d).trans ?_
            split
            · exact hd
            · rw [pending_finishIdleTrim, Bool.and_eq_true, decide_eq_true_iff]
              refine ⟨?_, hd⟩
              rintro rfl
              exact hne rfl

theorem takes_removeUnlocked
    (l : ConnList) (marks : PoolMarks) (env : ListEnv) (index : Nat) :
    l.Takes marks (l.removeUnlocked marks env index) := by
  rw [removeUnlocked]
  split
  · exact (Renews.refl l marks).takesNothing
  · rename_i conn _
    cases hused : l.usedList with
    | true =>
        exact (l.renews_ensure marks env).takes (takes_removeUnindexed _ _ index)
    | false =>
        exact (l.renews_unindex marks env conn).takes (takes_removeUnindexed _ _ index)

theorem takes_tryRemoveMatching
    {key : PoolMatchKey} {result : Option Nat × ConnList × PoolMarks}
    (h : l.tryRemoveMatching marks env key = some result) :
    l.Takes marks result := by
  have hensure := l.renews_ensure marks env
  simp only [tryRemoveMatching] at h
  split at h
  · obtain rfl := Option.some.inj h
    exact hensure.takesNothing
  · rename_i conn _
    split at h
    · split at h
      · obtain rfl := Option.some.inj h
        have hfound : l.Renews marks
            ((l.ensureMatchIndexConsistent marks env).1.shrinkBucket env key
              (Buckets.bucket (l.ensureMatchIndexConsistent marks env).1.matchingByKey
                key).dropLast,
              ((l.ensureMatchIndexConsistent marks env).1.findIdx
                (l.ensureMatchIndexConsistent marks env).2 conn).2) := by
          refine ⟨?_, ?_, ?_⟩
          · exact (conns_shrinkBucket _ _ _ _).trans hensure.conns
          · exact (usedList_shrinkBucket _ _ _ _).trans hensure.usedList
          · intro d
            exact (pending_findIdx _ _ _ d).trans (hensure.pending d)
        exact hfound.takes (takes_removeUnindexed _ _ _)
      · cases h
    · cases h

theorem takes_removeMatching
    (l : ConnList) (marks : PoolMarks) (env : ListEnv) (key : PoolMatchKey) :
    l.Takes marks (l.removeMatching marks env key) := by
  have hrebuild := (l.renews_ensure marks env).trans (renews_rebuild _ _ env)
  rw [removeMatching]
  split
  · rename_i hfirst
    exact takes_tryRemoveMatching hfirst
  · dsimp only
    split
    · rename_i hsecond
      exact hrebuild.takes (takes_tryRemoveMatching hsecond)
    · exact (hrebuild.trans (renews_rebuild _ _ env)).takesNothing

theorem pending_addUnlocked
    (l : ConnList) (marks : PoolMarks) (env : ListEnv) (conn : Nat) (key : Option PoolMatchKey)
    (d : Nat) :
    ((l.addUnlocked marks env conn key).2 d).idleTrimPending =
      (decide (d ≠ conn) && (marks d).idleTrimPending) := by
  have hensure := (l.renews_ensure marks env).pending d
  simp only [addUnlocked]
  by_cases hd : d = conn
  · subst hd
    simp
  · simp [hd, hensure]

theorem kind_addUnlocked
    (l : ConnList) (marks : PoolMarks) (env : ListEnv) (conn : Nat) (key : Option PoolMatchKey) :
    (l.addUnlocked marks env conn key).1.usedList = l.usedList := by
  have hensure := (l.renews_ensure marks env).usedList
  simp only [addUnlocked]
  split <;> exact hensure

end ConnList

/-! ## Marks of a server -/

namespace ServerPool

variable {p q r : ServerPool} {requests : List CapacityRequest} {conn c index : Nat}
variable {reason : ReservationEndReason} {key : PoolMatchKey} {excludedWorker : Nat}
variable {check : RequestCheck}

/-- `polardb_idle_trim_pending` -/
def pending (p : ServerPool) (c : Nat) : Bool :=
  (p.marks c).idleTrimPending

structure MarksFree (p : ServerPool) : Prop where
  usedList : p.free.usedList = false
  marked : ∀ c, p.pending c = true → c ∈ p.free.conns

/-- No connection was marked on the way from one pool to another. -/
structure Fades (p q : ServerPool) : Prop where
  marksFree : q.MarksFree
  marked : ∀ c, q.pending c = true → p.pending c = true

theorem MarksFree.empty
    (maxConnections : Int) :
    MarksFree { maxConnections := maxConnections } :=
  ⟨rfl, fun _ hc => absurd hc Bool.false_ne_true⟩

theorem Fades.refl
    (h : p.MarksFree) :
    p.Fades p :=
  ⟨h, fun _ hc => hc⟩

theorem Fades.congr
    (h : p.Fades q)
    (hfree : r.free = q.free)
    (hmarks : r.marks = q.marks) :
    p.Fades r := by
  have hpending : ∀ c, r.pending c = q.pending c := fun c => by rw [pending, pending, hmarks]
  refine ⟨⟨hfree ▸ h.marksFree.usedList, ?_⟩, ?_⟩
  · intro c hc
    rw [hfree]
    exact h.marksFree.marked c ((hpending c).symm.trans hc)
  · intro c hc
    exact h.marked c ((hpending c).symm.trans hc)

theorem Fades.withMarks
    {marks : PoolMarks}
    (h : p.Fades q)
    (hmarks : ∀ c, (marks c).idleTrimPending = q.pending c) :
    p.Fades { q with marks := marks } :=
  ⟨⟨h.marksFree.usedList, fun c hc => h.marksFree.marked c ((hmarks c).symm.trans hc)⟩,
    fun c hc => h.marked c ((hmarks c).symm.trans hc)⟩

/-! ## Moving connections -/

theorem Fades.forgetReserved
    (h : p.Fades q)
    (conn : Nat) (reason : ReservationEndReason) :
    p.Fades (q.forgetReserved conn reason) :=
  h.congr (forgetReserved_free conn reason) (forgetReserved_marks conn reason)

theorem Fades.findFree
    (h : p.Fades q)
    (conn : Nat) :
    p.Fades (q.findFree conn).2 :=
  h.withMarks (ConnList.pending_findIdx _ _ _)

theorem Fades.findMatchKey
    (h : p.Fades q)
    (conn : Nat) :
    p.Fades { q with marks := (q.free.findMatchKey q.marks conn).2 } :=
  h.withMarks (ConnList.pending_findIdx _ _ _)

theorem Fades.findUsed
    (h : p.Fades q)
    (conn : Nat) :
    p.Fades (q.findUsed conn).2 :=
  h.withMarks (ConnList.pending_findIdx _ _ _)

theorem Fades.takesFree
    {given : Option Nat} {free : ConnList} {marks : PoolMarks}
    (h : p.Fades q)
    (htakes : q.free.Takes q.marks (given, free, marks)) :
    p.Fades { q with free := free, marks := marks } ∧
      ∀ c, given = some c → (marks c).idleTrimPending = false := by
  have hfree := h.marksFree.usedList
  refine ⟨⟨⟨htakes.usedList.trans hfree, ?_⟩, ?_⟩, ?_⟩
  · intro c hc
    obtain ⟨hold, hgiven⟩ := htakes.marked c hc
    exact htakes.stays c (h.marksFree.marked c hold) (hgiven hfree)
  · intro c hc
    exact h.marked c (htakes.marked c hc).1
  · intro c hc
    cases hm : (marks c).idleTrimPending with
    | false =>
        rfl
    | true =>
        exact absurd hc ((htakes.marked c hm).2 hfree)

theorem Fades.removeFreeAt
    (h : p.Fades q)
    (index : Nat) (reason : ReservationEndReason) :
    p.Fades (q.removeFreeAt index reason).2 ∧
      ∀ c, (q.removeFreeAt index reason).1 = some c →
        (q.removeFreeAt index reason).2.pending c = false := by
  rw [ServerPool.removeFreeAt]
  split
  · exact ⟨h, fun _ hc => by cases hc⟩
  · obtain ⟨hfades, hgiven⟩ := h.takesFree (q.free.takes_removeUnlocked q.marks q.env index)
    refine ⟨hfades.forgetReserved _ _, ?_⟩
    intro c hc
    rw [pending, forgetReserved_marks]
    exact hgiven c hc

theorem Fades.removeMatchingFree
    (h : p.Fades q)
    (key : PoolMatchKey) :
    p.Fades (q.removeMatchingFree key).2 :=
  (h.takesFree (q.free.takes_removeMatching q.marks q.env key)).1

theorem Fades.removeUsedAt
    (h : p.Fades q)
    (index : Nat) :
    p.Fades (q.removeUsedAt index).2 := by
  have htakes := q.used.takes_removeUnlocked q.marks q.env index
  refine ⟨⟨h.marksFree.usedList, ?_⟩, ?_⟩
  · intro c hc
    exact h.marksFree.marked c (htakes.marked c hc).1
  · intro c hc
    exact h.marked c (htakes.marked c hc).1

theorem Fades.addUsed
    (h : p.Fades q)
    (conn : Nat) (key : Option PoolMatchKey) :
    p.Fades (q.addUsed conn key) := by
  have hold : ∀ c, (q.addUsed conn key).pending c = true → q.pending c = true := by
    intro c hc
    have hmark := (q.used.pending_addUnlocked q.marks q.env conn key c).symm.trans hc
    exact (Bool.and_eq_true_iff.mp hmark).2
  exact ⟨⟨h.marksFree.usedList, fun c hc => h.marksFree.marked c (hold c hc)⟩,
    fun c hc => h.marked c (hold c hc)⟩

theorem pending_addFree
    (p : ServerPool) (conn : Nat) (key : Option PoolMatchKey) (c : Nat) :
    (p.addFree conn key).pending c = (decide (c ≠ conn) && p.pending c) :=
  p.free.pending_addUnlocked p.marks p.env conn key c

theorem Fades.addFree
    (h : p.Fades q)
    (conn : Nat) (key : Option PoolMatchKey) :
    p.Fades (q.addFree conn key) := by
  have hold : ∀ c, (q.addFree conn key).pending c = true → q.pending c = true := by
    intro c hc
    rw [pending_addFree, Bool.and_eq_true] at hc
    exact hc.2
  refine ⟨⟨(q.free.kind_addUnlocked _ _ _ _).trans h.marksFree.usedList, ?_⟩, ?_⟩
  · intro c hc
    change c ∈ (q.free.addUnlocked q.marks q.env conn key).1.conns
    rw [ConnList.conns_add]
    exact List.mem_append_left _ (h.marksFree.marked c (hold c hc))
  · intro c hc
    exact h.marked c (hold c hc)

theorem Fades.reserveConnection
    (h : p.Fades q)
    (conn : Nat) (request : CapacityRequest) :
    p.Fades (q.reserveConnection conn request) :=
  (h.addFree conn none).congr rfl rfl

theorem Fades.discardFreeAt
    (h : p.Fades q)
    (index : Nat) (reason : ReservationEndReason) :
    p.Fades (q.discardFreeAt index reason) := by
  have hremove := (h.removeFreeAt index reason).1
  rw [ServerPool.discardFreeAt]
  split <;> rename_i heq <;> rw [heq] at hremove
  · exact hremove
  · exact hremove.congr rfl rfl

theorem Fades.detachLoop
    (h : p.Fades q)
    (reason : ReservationEndReason) (rounds : Nat) :
    p.Fades (q.detachLoop reason rounds) := by
  induction rounds generalizing q with
  | zero =>
      exact h
  | succ rounds ih =>
      rw [ServerPool.detachLoop]
      split
      · exact h
      · exact ih (h.discardFreeAt 0 reason)

theorem Fades.prune
    (h : p.Fades q) :
    p.Fades { q with free := q.free.pruneEmptyMatchBuckets } := by
  have hconns : q.free.pruneEmptyMatchBuckets.conns = q.free.conns := by
    rw [ConnList.pruneEmptyMatchBuckets]
    split <;> rfl
  have hused : q.free.pruneEmptyMatchBuckets.usedList = q.free.usedList := by
    rw [ConnList.pruneEmptyMatchBuckets]
    split <;> rfl
  refine ⟨⟨hused.trans h.marksFree.usedList, ?_⟩, h.marked⟩
  intro c hc
  rw [hconns]
  exact h.marksFree.marked c hc

theorem Fades.detachAll
    (h : p.Fades q)
    (reason : ReservationEndReason) :
    p.Fades (q.detachAll reason) :=
  (h.detachLoop reason _).prune.congr rfl rfl

/-! ## Operations -/

theorem Fades.evictLoop
    (h : p.Fades q)
    (rounds index remaining : Nat) :
    p.Fades (q.evictLoop rounds index remaining).2 := by
  induction rounds generalizing q index remaining with
  | zero =>
      exact h
  | succ rounds ih =>
      rw [ServerPool.evictLoop]
      split
      · exact h
      · split
        · exact h
        · split
          · exact ih h _ _
          · exact ih (h.discardFreeAt _ _) _ _

theorem Fades.evictUnreservedFree
    (h : p.Fades q)
    (preferred required : Nat) :
    p.Fades (q.evictUnreservedFree preferred required).2 := by
  rw [ServerPool.evictUnreservedFree]
  split
  · exact h
  · split
    · exact h
    · dsimp only
      split
      · exact h
      · exact h.evictLoop _ _ _

theorem Fades.createForClassic
    (h : p.Fades q)
    (preferred fresh : Nat) :
    p.Fades (q.createForClassic preferred fresh).2 := by
  have hroom : p.Fades (q.makeRoomForClassic preferred).2 := by
    rw [makeRoomForClassic]
    split
    · exact h
    · have hevict := h.evictUnreservedFree (max preferred (if q.maxConnectionsWord ≤
        q.used.conns.length + q.free.conns.length then
          q.used.conns.length + q.free.conns.length - q.maxConnectionsWord + 1 else 0))
        (if q.maxConnectionsWord ≤ q.used.conns.length + q.free.conns.length then
          q.used.conns.length + q.free.conns.length - q.maxConnectionsWord + 1 else 0)
      dsimp only
      split <;> rename_i heq <;> rw [heq] at hevict <;> exact hevict
  rw [ServerPool.createForClassic]
  split <;> rename_i heq <;> rw [heq] at hroom
  · exact hroom
  · exact hroom.congr rfl rfl

theorem Fades.getRandomMyConn
    (h : p.Fades q)
    (search : PoolSearch) :
    p.Fades (q.getRandomMyConn search).2 := by
  have hremove := fun index reason => (h.removeFreeAt index reason).1
  simp only [ServerPool.getRandomMyConn]
  split
  · exact h
  · split
    · split
      · exact hremove _ _
      · split
        · split
          · exact h
          · exact hremove _ _
        · split
          · split
            · exact h
            · exact h.createForClassic _ _
          · split
            · split
              · exact h.createForClassic _ _
              · exact hremove _ _
            · exact hremove _ _
    · split
      · exact h
      · exact h.createForClassic _ _

theorem Fades.takeSearched
    (h : p.Fades q)
    (search : PoolSearch) :
    p.Fades (q.takeSearched search).2 := by
  have hfound := h.getRandomMyConn search
  rw [ServerPool.takeSearched]
  split <;> rename_i heq <;> rw [heq] at hfound
  · exact hfound
  · exact hfound.addUsed _ _

theorem Fades.takeClassic
    (h : p.Fades q)
    (search : PoolSearch) :
    p.Fades (q.takeClassic search).2 := by
  rw [ServerPool.takeClassic]
  split
  · exact h
  · exact h.takeSearched search

theorem Fades.takeExisting
    (h : p.Fades q)
    (key : PoolMatchKey) (allowExactMatch allowReset : Bool) (search : PoolSearch) :
    p.Fades (q.takeExisting key allowExactMatch allowReset search).2 := by
  have hexact : p.Fades (if allowExactMatch then q.removeMatchingFree key else (none, q)).2 := by
    split
    · exact h.removeMatchingFree key
    · exact h
  rw [ServerPool.takeExisting]
  split
  · exact h
  · dsimp only
    split <;> rename_i heq <;> rw [heq] at hexact
    · exact hexact.addUsed _ _
    · split
      · exact hexact.takeSearched _
      · exact hexact

theorem Fades.takeMatching
    (h : p.Fades q)
    (key : PoolMatchKey) :
    p.Fades (q.takeMatching key).2 := by
  have hmatch := h.removeMatchingFree key
  rw [ServerPool.takeMatching]
  split
  · exact h
  · split <;> rename_i heq <;> rw [heq] at hmatch
    · exact hmatch
    · exact hmatch.addUsed _ _

theorem Fades.takeForPing
    (h : p.Fades q)
    (conn : Nat) (idle : Bool) :
    p.Fades (q.takeForPing conn idle).2 := by
  have hensure : p.Fades { q with
      free := (q.free.ensureMatchIndexConsistent q.marks q.env).1
      marks := (q.free.ensureMatchIndexConsistent q.marks q.env).2 } :=
    (h.takesFree (q.free.renews_ensure q.marks q.env).takesNothing).1
  have hfind := hensure.findFree conn
  rw [ServerPool.takeForPing]
  split
  · exact h
  · dsimp only
    split
    · exact hfind
    · split
      · exact hfind
      · rename_i index _ _
        have hremove := ((hfind.findMatchKey conn).removeFreeAt index .acquired).1
        split <;> rename_i heq <;> rw [heq] at hremove
        · exact hremove
        · exact hremove.addUsed _ _

theorem Fades.storeMatchingFree
    {result : PoolResult}
    (h : p.Fades q)
    (hstore : q.storeMatchingFree requests conn key excludedWorker check = some result) :
    p.Fades result.pool := by
  simp only [ServerPool.storeMatchingFree, Option.ite_none_left_eq_some] at hstore
  obtain ⟨-, hstore⟩ := hstore
  split at hstore <;> obtain rfl := Option.some.inj hstore
  · exact h.addFree _ _
  · exact h.reserveConnection _ _

theorem Fades.returnMatching
    (h : p.Fades q)
    (requests : List CapacityRequest) (conn : Nat) (key : PoolMatchKey) (excludedWorker : Nat)
    (check : RequestCheck) :
    p.Fades (q.returnMatching requests conn key excludedWorker check).pool := by
  have hfind := h.findUsed conn
  simp only [ServerPool.returnMatching]
  split
  · exact hfind
  · rename_i index _
    have hremove := hfind.removeUsedAt index
    split
    · rename_i hstore
      exact hremove.storeMatchingFree hstore
    · exact hremove.congr rfl rfl

theorem Fades.returnClassic
    (h : p.Fades q)
    (conn : Nat) (reusable : Bool) :
    p.Fades (q.returnClassic conn reusable) := by
  have hfind := h.findUsed conn
  simp only [ServerPool.returnClassic]
  split
  · exact hfind
  · rename_i index _
    have hremove := hfind.removeUsedAt index
    split
    · exact hremove.addFree _ _
    · exact hremove.congr rfl rfl

theorem Fades.reserveMatchingUsed
    (h : p.Fades q)
    (requests : List CapacityRequest) (conn : Nat) (key : PoolMatchKey) (returningWorker : Nat)
    (check : RequestCheck) :
    p.Fades (q.reserveMatchingUsed requests conn key returningWorker check).pool := by
  have hfind := h.findUsed conn
  simp only [ServerPool.reserveMatchingUsed]
  split
  · exact h
  · split
    · exact hfind
    · rename_i index _
      split
      · exact hfind
      · split
        · exact hfind
        · exact (hfind.removeUsedAt index).reserveConnection _ _

theorem Fades.takeRetired
    (h : p.Fades q)
    (requests : List CapacityRequest) (workerIndex token : Nat) :
    p.Fades (q.takeRetired requests workerIndex token).2 := by
  rw [ServerPool.takeRetired]
  split
  · exact h
  · split
    · exact h
    · split
      · exact h.congr rfl rfl
      · exact h

theorem Fades.takeReservation
    (h : p.Fades q)
    (requests : List CapacityRequest) (workerIndex token : Nat) :
    p.Fades (q.takeReservation requests workerIndex token).2.2 := by
  simp only [ServerPool.takeReservation]
  split
  · exact h.takeRetired _ _ _
  · rename_i reservation _
    have hfind := h.findFree reservation.conn
    split
    · exact h.takeRetired _ _ _
    · split
      · exact (hfind.forgetReserved _ _).takeRetired _ _ _
      · rename_i index _
        split
        · exact (hfind.forgetReserved _ _).takeRetired _ _ _
        · have hremove := (hfind.removeFreeAt index .acquired).1
          split <;> rename_i heq <;> rw [heq] at hremove
          · exact hremove
          · exact hremove.addUsed _ _

theorem Fades.cancelReservation
    (h : p.Fades q)
    (requests : List CapacityRequest) (workerIndex token : Nat) (check : RequestCheck) :
    p.Fades (q.cancelReservation requests workerIndex token check).2.pool := by
  have hclear : p.Fades (cancelReserved.clearRetired q requests workerIndex token).2.pool := by
    rw [cancelReserved.clearRetired]
    split
    · exact h
    · split
      · exact h.congr rfl rfl
      · exact h
  rw [ServerPool.cancelReservation]
  split
  · exact h
  · rw [cancelReserved]
    split
    · rename_i reservation _
      have hfind := h.findFree reservation.conn
      split
      · dsimp only
        split
        · exact hfind.forgetReserved _ _
        · rename_i index _
          have hremove := (hfind.removeFreeAt index .released).1
          split
          · rename_i hstore
            exact hremove.storeMatchingFree hstore
          · exact hremove.addFree _ _
      · exact hclear
    · exact hclear

/-- A reserved connection whose reservation is cancelled leaves FREE for a moment, and
comes back without a mark. -/
theorem not_pending_cancelReservation
    {reservation : ConnectionReservation} {workerIndex token : Nat}
    (h : PoolInv p [])
    (hmarks : p.MarksFree)
    (hnew : ∀ request ∈ requests, request.token ∉ p.tokens)
    (hheld : p.reservations.lookup token = some reservation)
    (hworker : reservation.workerIndex = workerIndex)
    (check : RequestCheck) :
    (p.cancelReservation requests workerIndex token check).2.pool.pending reservation.conn =
      false := by
  have hrequest : cancelRequest requests workerIndex token = none := by
    cases hcancel : cancelRequest requests workerIndex token with
    | none =>
        rfl
    | some rest =>
        obtain ⟨request, hin, -, htoken, -⟩ := cancelRequest_some hcancel
        refine absurd (List.mem_append_left _ ?_) (hnew request hin)
        rw [htoken, ← AList.mem_keys, ← AList.lookup_isSome, hheld]
        rfl
  obtain ⟨-, hkeyed⟩ := h.tied.forward token reservation hheld
  obtain ⟨index, hc⟩ := List.mem_iff_getElem?.mp (h.free.mem_conns hkeyed)
  obtain ⟨hconn, -⟩ := h.removeFreeAt hc
    (show ReservationEndReason.released ≠ .none from fun h => by cases h)
  have hgone := ((Fades.refl hmarks).removeFreeAt index .released).2 _ hconn
  simp only [ServerPool.cancelReservation, hrequest, cancelReserved, hheld, if_pos hworker,
    h.findFree hc, hconn, Option.getD_some]
  split
  · rename_i hstore
    simp only [ServerPool.storeMatchingFree, Option.ite_none_left_eq_some] at hstore
    obtain ⟨-, hstore⟩ := hstore
    split at hstore <;> obtain rfl := Option.some.inj hstore
    · simp [pending_addFree]
    · exact (pending_addFree _ _ none _).trans (by simp)
  · simp [pending_addFree]

/-- All operations but maintenance leave marks alone or remove them. -/
theorem Fades.step
    {op : PoolOp} {result : PoolResult}
    (h : p.MarksFree)
    (hstep : p.step requests op = some result)
    (hop : ∀ maxFree aged, op ≠ .dropIdle maxFree aged) :
    p.Fades result.pool := by
  have hself := Fades.refl h
  cases op with
  | openConnection conn =>
      simp only [ServerPool.step, Option.ite_none_left_eq_some, Option.some.injEq] at hstep
      obtain ⟨-, rfl⟩ := hstep
      exact hself.congr rfl rfl
  | addUsed conn key =>
      simp only [ServerPool.step, Option.ite_none_left_eq_some] at hstep
      obtain ⟨-, hstep⟩ := hstep
      split at hstep <;> obtain rfl := Option.some.inj hstep
      · exact hself
      · exact Fades.addUsed (q := p.takeBack conn) (hself.congr rfl rfl) conn key
  | addMatching conn key check =>
      simp only [ServerPool.step, Option.ite_none_left_eq_some, Option.some.injEq] at hstep
      obtain ⟨-, rfl⟩ := hstep
      cases hstore : (p.takeBack conn).storeMatchingFree requests conn key noWorker check with
      | none =>
          exact hself
      | some result =>
          exact Fades.storeMatchingFree (q := p.takeBack conn) (hself.congr rfl rfl) hstore
  | takeMatching key =>
      obtain rfl := Option.some.inj hstep
      exact hself.takeMatching key
  | takeExisting key allowExactMatch allowReset search =>
      simp only [ServerPool.step, Option.ite_none_left_eq_some, Option.some.injEq] at hstep
      obtain ⟨-, rfl⟩ := hstep
      exact hself.takeExisting key allowExactMatch allowReset search
  | takeClassic search =>
      simp only [ServerPool.step, Option.ite_none_left_eq_some, Option.some.injEq] at hstep
      obtain ⟨-, rfl⟩ := hstep
      exact hself.takeClassic search
  | takeForPing conn idle =>
      obtain rfl := Option.some.inj hstep
      exact hself.takeForPing conn idle
  | returnMatching conn key excludedWorker check =>
      obtain rfl := Option.some.inj hstep
      exact hself.returnMatching requests conn key excludedWorker check
  | returnClassic conn reusable =>
      simp only [ServerPool.step, Option.ite_none_left_eq_some, Option.some.injEq] at hstep
      obtain ⟨-, rfl⟩ := hstep
      exact hself.returnClassic conn reusable
  | reserveMatchingUsed conn key returningWorker check =>
      obtain rfl := Option.some.inj hstep
      exact hself.reserveMatchingUsed requests conn key returningWorker check
  | takeReservation workerIndex token =>
      obtain rfl := Option.some.inj hstep
      exact hself.takeReservation requests workerIndex token
  | cancelReservation workerIndex token check =>
      obtain rfl := Option.some.inj hstep
      exact hself.cancelReservation requests workerIndex token check
  | evict preferred required =>
      obtain rfl := Option.some.inj hstep
      exact hself.evictUnreservedFree preferred required
  | dropIdle maxFree aged =>
      exact absurd rfl (hop maxFree aged)
  | dropAll =>
      obtain rfl := Option.some.inj hstep
      exact hself.detachAll .poolDrop
  | setStatus status =>
      obtain rfl := Option.some.inj hstep
      simp only [ServerPool.setStatus]
      split
      · exact Fades.detachAll (q := { p with status := status }) (hself.congr rfl rfl) _
      · exact hself.congr rfl rfl
  | removeUsed conn =>
      obtain rfl := Option.some.inj hstep
      have hfind := hself.findUsed conn
      simp only [removeUsedConnection]
      split
      · exact hfind
      · exact (hfind.removeUsedAt _).congr rfl rfl
  | removeFree conn =>
      obtain rfl := Option.some.inj hstep
      have hfind := hself.findFree conn
      simp only [removeFreeConnection]
      split
      · exact hfind
      · exact (hfind.removeFreeAt _ .explicitRemove).1.congr rfl rfl
  | deleteHanded conn =>
      simp only [ServerPool.step, Option.ite_none_left_eq_some, Option.some.injEq] at hstep
      obtain ⟨-, rfl⟩ := hstep
      exact hself.congr rfl rfl

end ServerPool

end PolarProxy
