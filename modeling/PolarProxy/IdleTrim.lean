import PolarProxy.IdleMarks

/-!
# Trimming FREE with a round of grace

A trim of FREE to a length deletes connections that an earlier trim marked, and
marks as many of the others as are too many.  Between the two trims whoever takes a
connection out of FREE saves it.

**Results.** `TrimExact`, `PoolInv.trimExact`, `PoolSystem.idleTrim_grace`.
-/

namespace PolarProxy

open SwapRemove Transition

namespace ServerPool

variable {p q r : ServerPool} {loose : List Nat} {conn c index maxFree : Nat}
variable {reason : ReservationEndReason} {gone : List Nat}

/-- How many connections of FREE are marked. -/
def pendingFree (p : ServerPool) : Nat :=
  p.free.conns.countP p.pending

/-- How many connections of FREE are not marked. -/
def unmarkedFree (p : ServerPool) : Nat :=
  p.free.conns.countP fun c => !p.pending c

theorem length_free
    (p : ServerPool) :
    p.free.conns.length = p.pendingFree + p.unmarkedFree := by
  have hsplit := p.free.conns.length_eq_countP_add_countP p.pending
  simpa [pendingFree, unmarkedFree] using hsplit

/-! ## Deleting connections of FREE -/

/-- Connections of FREE are deleted; the others keep their marks. -/
structure Discards (p q : ServerPool) (gone : List Nat) : Prop where
  free : p.free.conns.Perm (gone ++ q.free.conns)
  same : ∀ c ∈ q.free.conns, q.pending c = p.pending c
  destroyed : q.destroyed = gone.reverse ++ p.destroyed

theorem Discards.refl
    (p : ServerPool) :
    Discards p p [] :=
  ⟨List.Perm.refl _, fun _ _ => rfl, rfl⟩

theorem Discards.trans
    {gone' : List Nat}
    (h : Discards p q gone)
    (h' : Discards q r gone') :
    Discards p r (gone ++ gone') := by
  refine ⟨?_, ?_, ?_⟩
  · rw [List.append_assoc]
    exact h.free.trans (List.Perm.append_left _ h'.free)
  · intro c hc
    rw [h'.same c hc]
    exact h.same c (h'.free.mem_iff.mpr (List.mem_append_right _ hc))
  · rw [h'.destroyed, h.destroyed, List.reverse_append, List.append_assoc]

theorem Discards.length_add
    (h : Discards p q gone) :
    p.free.conns.length = gone.length + q.free.conns.length := by
  rw [h.free.length_eq, List.length_append]

theorem Discards.unmarkedFree_add
    (h : Discards p q gone) :
    p.unmarkedFree = gone.countP (fun c => !p.pending c) + q.unmarkedFree := by
  have hrest : q.unmarkedFree = q.free.conns.countP fun c => !p.pending c := by
    refine List.countP_congr ?_
    intro c hc
    rw [h.same c hc]
  rw [hrest, unmarkedFree, h.free.countP_eq, List.countP_append]

theorem PoolInv.discards_discardFreeAt
    (h : PoolInv p loose)
    (hc : p.free.conns[index]? = some conn)
    (reason : ReservationEndReason) :
    Discards p (p.discardFreeAt index reason) [conn] ∧
      (p.discardFreeAt index reason).free.conns = swapRemove p.free.conns index := by
  obtain ⟨hconn, hconns⟩ := ConnList.conns_removeUnlocked p.marks p.env hc
  have htakes := p.free.takes_removeUnlocked p.marks p.env index
  have heq : p.discardFreeAt index reason =
      ({ p with
        free := (p.free.removeUnlocked p.marks p.env index).2.1
        marks := (p.free.removeUnlocked p.marks p.env index).2.2 }.forgetReserved conn
          reason).destroy conn := by
    simp only [ServerPool.discardFreeAt, ServerPool.removeFreeAt, hc, hconn]
  have hfree : (p.discardFreeAt index reason).free.conns = swapRemove p.free.conns index := by
    rw [heq]
    refine (congrArg ConnList.conns (forgetReserved_free conn reason)).trans ?_
    exact hconns
  have hperm := swapRemove_perm hc
  refine ⟨⟨?_, ?_, ?_⟩, hfree⟩
  · rw [hfree]
    exact hperm
  · intro c hin
    rw [hfree] at hin
    have hne : (p.free.removeUnlocked p.marks p.env index).1 ≠ some c := by
      rw [hconn]
      intro hsame
      obtain rfl := Option.some.inj hsame
      exact (List.nodup_cons.mp (hperm.nodup_iff.mp h.free.nodup)).1 hin
    have hpending : (p.discardFreeAt index reason).pending c =
        ((p.free.removeUnlocked p.marks p.env index).2.2 c).idleTrimPending := by
      rw [heq]
      exact congrArg (fun marks : PoolMarks => (marks c).idleTrimPending)
        (forgetReserved_marks conn reason)
    rw [hpending, Bool.eq_iff_iff]
    exact ⟨fun hm => (htakes.marked c hm).1, fun hm => htakes.kept c hm hne⟩
  · rw [heq, ServerPool.destroy, ServerPool.forgetReserved]
    dsimp only
    split <;> rfl

theorem PoolInv.exists_discards
    (h : PoolInv p loose)
    (index : Nat) (reason : ReservationEndReason) :
    ∃ gone, Discards p (p.discardFreeAt index reason) gone := by
  cases hc : p.free.conns[index]? with
  | none =>
      refine ⟨[], ?_⟩
      simp only [ServerPool.discardFreeAt, ServerPool.removeFreeAt, hc]
      exact .refl p
  | some conn =>
      exact ⟨[conn], (h.discards_discardFreeAt hc reason).1⟩

theorem PoolInv.discards_shrinkLoop
    (h : PoolInv p loose)
    (maxConnections rounds : Nat) :
    ∃ gone, Discards p (p.shrinkLoop maxConnections rounds) gone := by
  induction rounds generalizing p with
  | zero =>
      exact ⟨[], .refl p⟩
  | succ rounds ih =>
      rw [ServerPool.shrinkLoop]
      split
      · exact ⟨[], .refl p⟩
      · obtain ⟨gone, hgone⟩ := h.exists_discards 0 .idleTrim
        have hkeeps := (h.discardFreeAt 0
          (show ReservationEndReason.idleTrim ≠ .none by decide)).1
        obtain ⟨gone', hrest⟩ := ih hkeeps.inv
        exact ⟨gone ++ gone', hgone.trans hrest⟩

theorem PoolInv.discards_ageLoop
    (h : PoolInv p loose)
    (aged : Nat → Bool) (rounds index : Nat) :
    ∃ gone, Discards p (p.ageLoop aged rounds index) gone := by
  induction rounds generalizing p index with
  | zero =>
      exact ⟨[], .refl p⟩
  | succ rounds ih =>
      rw [ServerPool.ageLoop]
      split
      · exact ⟨[], .refl p⟩
      · split
        · obtain ⟨gone, hgone⟩ := h.exists_discards index .maxAge
          have hkeeps := (h.discardFreeAt index
            (show ReservationEndReason.maxAge ≠ .none by decide)).1
          obtain ⟨gone', hrest⟩ := ih hkeeps.inv _
          exact ⟨gone ++ gone', hgone.trans hrest⟩
        · exact ih h _

/-! ## The first loop -/

/-- The loop deletes marked connections until FREE is short enough or no marked
connection is left. -/
theorem PoolInv.trimLoop_spec
    (h : PoolInv p loose)
    (maxFree : Nat)
    {rounds index : Nat}
    (hrounds : p.free.conns.length ≤ index + rounds)
    (hpassed : ∀ c ∈ p.free.conns.take index, p.pending c = false) :
    (∃ gone, Discards p (p.trimLoop maxFree rounds index) gone ∧
      (∀ c ∈ gone, p.pending c = true) ∧ gone.length ≤ p.free.conns.length - maxFree) ∧
    ((p.trimLoop maxFree rounds index).free.conns.length ≤ maxFree ∨
      ∀ c ∈ (p.trimLoop maxFree rounds index).free.conns,
        (p.trimLoop maxFree rounds index).pending c = false) := by
  have hstay : ∃ gone, Discards p p gone ∧ (∀ c ∈ gone, p.pending c = true) ∧
      gone.length ≤ p.free.conns.length - maxFree :=
    ⟨[], .refl p, by simp, Nat.zero_le _⟩
  have hall : p.free.conns.length ≤ index → ∀ c ∈ p.free.conns, p.pending c = false := by
    intro hle c hc
    rw [List.take_of_length_le hle] at hpassed
    exact hpassed c hc
  induction rounds generalizing p index with
  | zero =>
      exact ⟨hstay, Or.inr (hall hrounds)⟩
  | succ rounds ih =>
      rw [ServerPool.trimLoop]
      cases hc : p.free.conns[index]? with
      | none =>
          exact ⟨hstay, Or.inr (hall (List.getElem?_eq_none_iff.mp hc))⟩
      | some conn =>
          obtain ⟨hlt, hget⟩ := List.getElem?_eq_some_iff.mp hc
          dsimp only
          split
          · rename_i hshort
            exact ⟨hstay, Or.inl hshort⟩
          · rename_i hlong
            split
            · rename_i hpending
              obtain ⟨hdiscards, hconns⟩ := h.discards_discardFreeAt hc .idleTrim
              have hkeeps := (h.discardFreeAt index
                (show ReservationEndReason.idleTrim ≠ .none by decide)).1
              have hlength := hdiscards.length_add
              rw [List.length_singleton] at hlength
              -- what the loop has passed stands before the hole
              have hbefore : ∀ c ∈ (p.discardFreeAt index .idleTrim).free.conns.take index,
                  (p.discardFreeAt index .idleTrim).pending c = false := by
                intro c hin
                rw [hdiscards.same c (List.mem_of_mem_take hin)]
                rw [hconns, take_swapRemove hlt] at hin
                exact hpassed c hin
              obtain ⟨⟨gone, hrest, hgone, hfew⟩, hend⟩ := ih hkeeps.inv (by omega) hbefore
                ⟨[], .refl _, by simp, Nat.zero_le _⟩ (by
                  intro hle c hin
                  rw [List.take_of_length_le hle] at hbefore
                  exact hbefore c hin)
              refine ⟨⟨conn :: gone, hdiscards.trans hrest, ?_, ?_⟩, hend⟩
              · intro c hin
                rcases List.mem_cons.mp hin with rfl | hin
                · exact hpending
                · have hfree := hrest.free.mem_iff.mpr (List.mem_append_left _ hin)
                  rw [← hdiscards.same c hfree]
                  exact hgone c hin
              · rw [List.length_cons]
                omega
            · rename_i hpending
              have hbefore : ∀ c ∈ p.free.conns.take (index + 1), p.pending c = false := by
                intro c hin
                rw [List.take_succ_eq_append_getElem hlt, List.mem_append,
                  List.mem_singleton, hget] at hin
                rcases hin with hin | rfl
                · exact hpassed c hin
                · exact (Bool.not_eq_true _).mp hpending
              refine ih h (by omega) hbefore hstay ?_
              intro hle c hin
              rw [List.take_of_length_le hle] at hbefore
              exact hbefore c hin

theorem Fades.trimLoop
    (h : p.Fades q)
    (maxFree rounds index : Nat) :
    p.Fades (q.trimLoop maxFree rounds index) := by
  induction rounds generalizing q index with
  | zero =>
      exact h
  | succ rounds ih =>
      rw [ServerPool.trimLoop]
      split
      · exact h
      · split
        · exact h
        · split
          · exact ih (h.discardFreeAt index .idleTrim) _
          · exact ih h _

/-! ## The second loop -/

theorem pending_markExcess_of_notMem
    (conns : List Nat) (excess : Nat) (marks : PoolMarks)
    (hc : c ∉ conns) :
    markExcess conns excess marks c = marks c := by
  induction conns generalizing excess marks with
  | nil =>
      rfl
  | cons conn rest ih =>
      obtain ⟨hne, hrest⟩ := not_or.mp (fun h => hc (List.mem_cons.mpr h))
      cases excess with
      | zero =>
          rfl
      | succ excess =>
          rw [markExcess]
          split
          · exact ih _ _ hrest
          · rw [ih _ _ hrest, Function.update_of_ne hne]

/-- Of connections without marks as many are marked as are asked for. -/
theorem countP_markExcess
    {conns : List Nat} {excess : Nat} {marks : PoolMarks}
    (hnodup : conns.Nodup)
    (hle : excess ≤ conns.length)
    (hclear : ∀ c ∈ conns, (marks c).idleTrimPending = false) :
    conns.countP (fun c => (markExcess conns excess marks c).idleTrimPending) = excess := by
  induction conns generalizing excess marks with
  | nil =>
      exact (Nat.le_zero.mp hle).symm
  | cons conn rest ih =>
      obtain ⟨hnew, hrest⟩ := List.nodup_cons.mp hnodup
      cases excess with
      | zero =>
          rw [List.countP_eq_zero]
          intro c hc
          change ¬ (marks c).idleTrimPending = true
          rw [hclear c hc]
          exact Bool.false_ne_true
      | succ excess =>
          have hconn := hclear conn List.mem_cons_self
          rw [markExcess, if_neg (by rw [hconn]; exact Bool.false_ne_true), List.countP_cons,
            pending_markExcess_of_notMem _ _ _ hnew, Function.update_self, ih hrest]
          · rfl
          · rw [List.length_cons] at hle
            omega
          · intro c hc
            have hne : c ≠ conn := by
              rintro rfl
              exact hnew hc
            rw [Function.update_of_ne hne]
            exact hclear c (List.mem_cons_of_mem _ hc)

theorem pending_foldl_finishIdleTrim
    {conns : List Nat} {marks : PoolMarks}
    (h : (conns.foldl PoolMarks.finishIdleTrim marks c).idleTrimPending = true) :
    c ∉ conns ∧ (marks c).idleTrimPending = true := by
  induction conns generalizing marks with
  | nil =>
      exact ⟨List.not_mem_nil, h⟩
  | cons conn rest ih =>
      obtain ⟨hrest, hmark⟩ := ih h
      rw [ConnList.pending_finishIdleTrim, Bool.and_eq_true, decide_eq_true_iff] at hmark
      exact ⟨fun hc => (List.mem_cons.mp hc).elim hmark.1 hrest, hmark.2⟩

theorem pending_markExcess
    {conns : List Nat} {excess : Nat} {marks : PoolMarks}
    (h : (markExcess conns excess marks c).idleTrimPending = true) :
    c ∈ conns ∨ (marks c).idleTrimPending = true := by
  by_cases hc : c ∈ conns
  · exact Or.inl hc
  · rw [pending_markExcess_of_notMem _ _ _ hc] at h
    exact Or.inr h

/-! ## A trim -/

theorem free_trimFree
    (p : ServerPool) (maxFree : Nat) :
    (p.trimFree maxFree).free = (p.trimLoop maxFree p.free.conns.length 0).free ∧
      (p.trimFree maxFree).destroyed =
        (p.trimLoop maxFree p.free.conns.length 0).destroyed := by
  rw [trimFree]
  split <;> exact ⟨rfl, rfl⟩

/-- The number of marks after a trim, and what it deleted. -/
structure Trims (p q : ServerPool) (maxFree : Nat) (gone : List Nat) : Prop where
  pending : q.pendingFree = q.free.conns.length - maxFree
  free : p.free.conns.Perm (gone ++ q.free.conns)
  destroyed : q.destroyed = gone.reverse ++ p.destroyed
  marked : ∀ c ∈ gone, p.pending c = true
  few : gone.length ≤ p.free.conns.length - maxFree
  length : q.free.conns.length = max (min p.free.conns.length maxFree) p.unmarkedFree
  fresh : ∀ c, q.pending c = true → c ∈ q.free.conns ∧ p.pending c = false

theorem PoolInv.trims_trimFree
    (h : PoolInv p loose)
    (hmarks : p.MarksFree)
    (maxFree : Nat) :
    ∃ gone, Trims p (p.trimFree maxFree) maxFree gone := by
  have hpassed : ∀ c ∈ p.free.conns.take 0, p.pending c = false :=
    fun c hc => absurd hc List.not_mem_nil
  obtain ⟨⟨gone, hgone, hmarked, hfew⟩, hend⟩ :=
    h.trimLoop_spec maxFree (Nat.le_add_left p.free.conns.length 0) hpassed
  have hloop := h.trimLoop maxFree p.free.conns.length 0
  obtain ⟨hfree, hdestroyed⟩ := free_trimFree p maxFree
  have hlength := hgone.length_add
  have hunmarked := hgone.unmarkedFree_add
  have hclean : gone.countP (fun c => !p.pending c) = 0 := by
    rw [List.countP_eq_zero]
    intro c hc
    rw [hmarked c hc]
    exact Bool.false_ne_true
  have hmarksFree := ((Fades.refl hmarks).trimLoop maxFree p.free.conns.length 0).marksFree
  have hend_length : (p.trimLoop maxFree p.free.conns.length 0).free.conns.length =
      max (min p.free.conns.length maxFree) p.unmarkedFree := by
    have hsplit := length_free (p.trimLoop maxFree p.free.conns.length 0)
    rcases hend with hshort | hclear
    · omega
    · have hnone : (p.trimLoop maxFree p.free.conns.length 0).pendingFree = 0 := by
        rw [pendingFree, List.countP_eq_zero]
        intro c hc
        rw [hclear c hc]
        exact Bool.false_ne_true
      omega
  have hmarksOf : (p.trimFree maxFree).pendingFree =
        (p.trimFree maxFree).free.conns.length - maxFree ∧
      ∀ c, (p.trimFree maxFree).pending c = true →
        c ∈ (p.trimFree maxFree).free.conns ∧ p.pending c = false := by
    rw [pendingFree, hfree]
    by_cases hshort : (p.trimLoop maxFree p.free.conns.length 0).free.conns.length ≤ maxFree
    · have hnone : ∀ c, (p.trimFree maxFree).pending c ≠ true := by
        intro c hc
        simp only [pending, ServerPool.trimFree, if_pos hshort] at hc
        obtain ⟨hout, hmark⟩ := pending_foldl_finishIdleTrim hc
        exact hout (hmarksFree.marked c hmark)
      refine ⟨?_, fun c hc => absurd hc (hnone c)⟩
      rw [Nat.sub_eq_zero_of_le hshort, List.countP_eq_zero]
      exact fun c _ => hnone c
    · have hclear := hend.resolve_left hshort
      have hpending : ∀ c, (p.trimFree maxFree).pending c =
          (markExcess (p.trimLoop maxFree p.free.conns.length 0).free.conns
            ((p.trimLoop maxFree p.free.conns.length 0).free.conns.length - maxFree)
            (p.trimLoop maxFree p.free.conns.length 0).marks c).idleTrimPending := by
        intro c
        simp only [pending, ServerPool.trimFree, if_neg hshort]
      refine ⟨?_, ?_⟩
      · rw [funext hpending]
        exact countP_markExcess hloop.inv.free.nodup (Nat.sub_le _ _) hclear
      · intro c hc
        have hin : c ∈ (p.trimLoop maxFree p.free.conns.length 0).free.conns := by
          rw [hpending] at hc
          exact (pending_markExcess hc).elim id (hmarksFree.marked c)
        refine ⟨hin, ?_⟩
        rw [← hgone.same c hin]
        exact hclear c hin
  refine ⟨gone, ⟨hmarksOf.1, ?_, ?_, hmarked, hfew, ?_, hmarksOf.2⟩⟩
  · rw [hfree]
    exact hgone.free
  · rw [hdestroyed]
    exact hgone.destroyed
  · rw [hfree]
    exact hend_length

/-- A trim marks as many connections as are too many, deletes only marked ones and only
while there are too many, and a second trim leaves none too many. -/
structure TrimExact (p : ServerPool) (maxFree : Nat) : Prop where
  marks : (p.trimFree maxFree).pendingFree = (p.trimFree maxFree).free.conns.length - maxFree
  deletes : ∃ gone, p.free.conns.Perm (gone ++ (p.trimFree maxFree).free.conns) ∧
    (p.trimFree maxFree).destroyed = gone.reverse ++ p.destroyed ∧
    (∀ c ∈ gone, p.pending c = true) ∧ gone.length ≤ p.free.conns.length - maxFree
  twice : ((p.trimFree maxFree).trimFree maxFree).free.conns.length =
    min p.free.conns.length maxFree

theorem Trims.marksFree
    (h : Trims p q maxFree gone)
    (hused : q.free.usedList = false) :
    q.MarksFree :=
  ⟨hused, fun c hc => (h.fresh c hc).1⟩

/-- After a trim at most as many connections are unmarked as may stay. -/
theorem Trims.unmarkedFree_eq
    (h : Trims p q maxFree gone) :
    q.unmarkedFree = min q.free.conns.length maxFree := by
  have hsplit := length_free q
  have hpending := h.pending
  omega

theorem usedList_trimFree
    (hmarks : p.MarksFree)
    (maxFree : Nat) :
    (p.trimFree maxFree).free.usedList = false := by
  rw [(free_trimFree p maxFree).1]
  exact ((Fades.refl hmarks).trimLoop maxFree p.free.conns.length 0).marksFree.usedList

theorem PoolInv.trimExact
    (h : PoolInv p loose)
    (hmarks : p.MarksFree)
    (maxFree : Nat) :
    p.TrimExact maxFree := by
  obtain ⟨gone, hfirst⟩ := h.trims_trimFree hmarks maxFree
  obtain ⟨gone', hsecond⟩ := (h.trimFree maxFree).inv.trims_trimFree
    (hfirst.marksFree (usedList_trimFree hmarks maxFree)) maxFree
  refine ⟨hfirst.pending, ⟨gone, hfirst.free, hfirst.destroyed, hfirst.marked, hfirst.few⟩, ?_⟩
  have hlength := hfirst.length
  have hunmarked := hfirst.unmarkedFree_eq
  have hall := length_free p
  have htwice := hsecond.length
  omega

/-! ## Maintenance -/

/-- What `drop_all_idle_connections` does before the trim. -/
def beforeTrim (p : ServerPool) : ServerPool :=
  let p := if p.status ≠ .online then p.detachAll .serverOffline else p
  p.shrinkLoop p.maxConnections.toNat p.free.conns.length

/-- What `drop_all_idle_connections` does after the trim. -/
def afterTrim (p : ServerPool) (aged : Nat → Bool) : ServerPool :=
  let p := p.ageLoop aged p.free.conns.length 0
  { p with free := p.free.pruneEmptyMatchBuckets }

theorem dropIdle_eq
    (p : ServerPool) (maxFree : Nat) (aged : Nat → Bool) :
    p.dropIdle maxFree aged = (p.beforeTrim.trimFree maxFree).afterTrim aged :=
  rfl

theorem Fades.shrinkLoop
    (h : p.Fades q)
    (maxConnections rounds : Nat) :
    p.Fades (q.shrinkLoop maxConnections rounds) := by
  induction rounds generalizing q with
  | zero =>
      exact h
  | succ rounds ih =>
      rw [ServerPool.shrinkLoop]
      split
      · exact h
      · exact ih (h.discardFreeAt 0 .idleTrim)

theorem Fades.ageLoop
    (h : p.Fades q)
    (aged : Nat → Bool) (rounds index : Nat) :
    p.Fades (q.ageLoop aged rounds index) := by
  induction rounds generalizing q index with
  | zero =>
      exact h
  | succ rounds ih =>
      rw [ServerPool.ageLoop]
      split
      · exact h
      · split
        · exact ih (h.discardFreeAt index .maxAge) _
        · exact ih h _

theorem Fades.beforeTrim
    (h : p.Fades q) :
    p.Fades q.beforeTrim := by
  rw [ServerPool.beforeTrim]
  split
  · exact (h.detachAll .serverOffline).shrinkLoop _ _
  · exact h.shrinkLoop _ _

theorem Fades.afterTrim
    (h : p.Fades q)
    (aged : Nat → Bool) :
    p.Fades (q.afterTrim aged) :=
  (h.ageLoop aged _ 0).prune

theorem PoolInv.beforeTrim
    (h : PoolInv p loose) :
    PoolInv p.beforeTrim loose := by
  rw [ServerPool.beforeTrim]
  split
  · exact ((h.detachAll (by decide)).inv.shrinkLoop _ _).inv
  · exact (h.shrinkLoop _ _).inv

/-- What comes before a trim leaves no more unmarked connections. -/
theorem PoolInv.unmarkedFree_beforeTrim
    (h : PoolInv p loose) :
    p.beforeTrim.unmarkedFree ≤ p.unmarkedFree := by
  rw [ServerPool.beforeTrim]
  split
  · have hreason : ReservationEndReason.serverOffline ≠ .none := by decide
    have hkeeps := h.detachAll hreason
    obtain ⟨gone, hshrink⟩ := hkeeps.inv.discards_shrinkLoop
      (p.detachAll .serverOffline).maxConnections.toNat
      (p.detachAll .serverOffline).free.conns.length
    have hnil : (p.detachAll .serverOffline).free.conns = [] := by
      have hloop := (h.detachLoop hreason (Nat.le_refl _)).2
      simp only [ServerPool.detachAll, ServerPool.retireReservations]
      rw [ConnList.pruneEmptyMatchBuckets]
      split <;> exact hloop
    have hadd := hshrink.unmarkedFree_add
    have hzero : (p.detachAll .serverOffline).unmarkedFree = 0 := by
      rw [unmarkedFree, hnil, List.countP_nil]
    omega
  · obtain ⟨gone, hshrink⟩ := h.discards_shrinkLoop p.maxConnections.toNat p.free.conns.length
    have hadd := hshrink.unmarkedFree_add
    omega

theorem conns_afterTrim
    (p : ServerPool) (aged : Nat → Bool) :
    (p.afterTrim aged).free.conns = (p.ageLoop aged p.free.conns.length 0).free.conns := by
  change ConnList.conns (ConnList.pruneEmptyMatchBuckets _) = _
  rw [ConnList.pruneEmptyMatchBuckets]
  split <;> rfl

/-- What comes after a trim leaves no more connections, marked or not. -/
theorem PoolInv.unmarkedFree_afterTrim
    (h : PoolInv p loose)
    (aged : Nat → Bool) :
    (p.afterTrim aged).unmarkedFree ≤ p.unmarkedFree ∧
      (p.afterTrim aged).free.conns.length ≤ p.free.conns.length := by
  obtain ⟨gone, hage⟩ := h.discards_ageLoop aged p.free.conns.length 0
  have hadd := hage.unmarkedFree_add
  have hlength := hage.length_add
  have hconns := p.conns_afterTrim aged
  have hunmarked : (p.afterTrim aged).unmarkedFree =
      (p.ageLoop aged p.free.conns.length 0).unmarkedFree := by
    rw [unmarkedFree, hconns]
    rfl
  rw [hconns]
  omega

theorem PoolInv.marksFree_dropIdle
    (h : PoolInv p loose)
    (hmarks : p.MarksFree)
    (maxFree : Nat) (aged : Nat → Bool) :
    (p.dropIdle maxFree aged).MarksFree := by
  have hbefore := ((Fades.refl hmarks).beforeTrim).marksFree
  obtain ⟨gone, htrim⟩ := h.beforeTrim.trims_trimFree hbefore maxFree
  have htrimmed := htrim.marksFree (usedList_trimFree hbefore maxFree)
  exact ((Fades.refl htrimmed).afterTrim aged).marksFree

/-- Two rounds of maintenance in a row leave FREE short enough. -/
theorem PoolInv.length_dropIdle_twice
    (h : PoolInv p loose)
    (hmarks : p.MarksFree)
    (maxFree : Nat) (aged aged' : Nat → Bool) :
    ((p.dropIdle maxFree aged).dropIdle maxFree aged').free.conns.length ≤ maxFree := by
  have hbefore := ((Fades.refl hmarks).beforeTrim).marksFree
  obtain ⟨gone, hfirst⟩ := h.beforeTrim.trims_trimFree hbefore maxFree
  have hfew := hfirst.unmarkedFree_eq
  have hafter := ((h.beforeTrim.trimFree maxFree).inv.unmarkedFree_afterTrim aged).1
  rw [← dropIdle_eq] at hafter
  have hinv := (h.dropIdle maxFree aged).inv
  have hthen := hinv.unmarkedFree_beforeTrim
  have hmarks' := (Fades.refl (h.marksFree_dropIdle hmarks maxFree aged)).beforeTrim.marksFree
  obtain ⟨gone', hsecond⟩ := hinv.beforeTrim.trims_trimFree hmarks' maxFree
  have hlength := hsecond.length
  have hend := ((hinv.beforeTrim.trimFree maxFree).inv.unmarkedFree_afterTrim aged').2
  rw [← dropIdle_eq] at hend
  omega

end ServerPool

/-! ## Histories -/

namespace PoolSystem

variable {hostgroup : Nat → Nat} {start s s' : PoolSystem} {op : PoolSystemOp}
variable {ops : List PoolSystemOp} {srv c : Nat}

/-- A step that leaves a connection in FREE of its server.  A cancelled reservation
takes its connection out and puts it back. -/
structure Rests (srv c : Nat) (s : PoolSystem) (op : PoolSystemOp) (s' : PoolSystem) : Prop where
  before : c ∈ (s.servers srv).free.conns
  after : c ∈ (s'.servers srv).free.conns
  untouched : ∀ workerIndex token check r,
    op = .server srv (.cancelReservation workerIndex token check) →
    (s.servers srv).reservations.lookup token = some r →
    r.workerIndex = workerIndex →
    r.conn ≠ c

/-- The trim of some round of maintenance marked the connection, and every step since left
it in FREE. -/
def MarkedSince (hostgroup : Nat → Nat) (start : PoolSystem) (ops : List PoolSystemOp)
    (s : PoolSystem) (srv c : Nat) : Prop :=
  ∃ before s₁ maxFree aged s₂ after,
    ops = before ++ .server srv (.dropIdle maxFree aged) :: after ∧
    Run (fun t op t' => step hostgroup t op = some t') start before s₁ ∧
    step hostgroup s₁ (.server srv (.dropIdle maxFree aged)) = some s₂ ∧
    (s₁.servers srv).beforeTrim.pending c = false ∧
    ((s₁.servers srv).beforeTrim.trimFree maxFree).pending c = true ∧
    c ∈ (s₂.servers srv).free.conns ∧
    Run (fun t op t' => step hostgroup t op = some t' ∧ t.Rests srv c op t') s₂ after s

theorem MarkedSince.step
    (h : MarkedSince hostgroup start ops s srv c)
    (hstep : step hostgroup s op = some s')
    (hrests : s.Rests srv c op s') :
    MarkedSince hostgroup start (ops ++ [op]) s' srv c := by
  obtain ⟨before, s₁, maxFree, aged, s₂, after, rfl, hbefore, hdrop, hclear, hmark, hfree,
    hafter⟩ := h
  refine ⟨before, s₁, maxFree, aged, s₂, after ++ [op], ?_, hbefore, hdrop, hclear, hmark, hfree,
    hafter.snoc ⟨hstep, hrests⟩⟩
  rw [List.append_assoc, List.cons_append]

theorem step_server
    (hstep : step hostgroup s op = some s')
    (srv : Nat) :
    (s'.servers srv = s.servers srv ∧ ∀ poolOp, op ≠ .server srv poolOp) ∨
      ∃ poolOp result, op = .server srv poolOp ∧
        (s.servers srv).step (s.requests (hostgroup srv)) poolOp = some result ∧
        s'.servers srv = result.pool := by
  cases op with
  | server srv' poolOp =>
      simp only [step, Option.map_eq_some_iff] at hstep
      obtain ⟨result, hresult, rfl⟩ := hstep
      by_cases hsrv : srv = srv'
      · subst hsrv
        exact Or.inr ⟨poolOp, result, rfl, hresult, Function.update_self ..⟩
      · refine Or.inl ⟨Function.update_of_ne hsrv _ _, ?_⟩
        intro poolOp' heq
        cases heq
        exact hsrv rfl
  | register _ _ _ _ _ | cancelRequest _ _ _ =>
      simp only [step] at hstep
      split at hstep <;> obtain rfl := Option.some.inj hstep <;>
        exact Or.inl ⟨rfl, fun _ h => by cases h⟩

/-- Marks are on connections of FREE, and each has its history. -/
structure MarksExplained (hostgroup : Nat → Nat) (start : PoolSystem) (ops : List PoolSystemOp)
    (s : PoolSystem) : Prop where
  run : Run (fun t op t' => PoolSystem.step hostgroup t op = some t') start ops s
  inv : s.Inv
  marksFree : ∀ srv, (s.servers srv).MarksFree
  since : ∀ srv c, (s.servers srv).pending c = true → MarkedSince hostgroup start ops s srv c

theorem MarksExplained.step
    (h : MarksExplained hostgroup start ops s)
    (hstep : step hostgroup s op = some s') :
    MarksExplained hostgroup start (ops ++ [op]) s' := by
  have hserver : ∀ srv, (s'.servers srv).MarksFree ∧ ∀ c, (s'.servers srv).pending c = true →
      MarkedSince hostgroup start (ops ++ [op]) s' srv c := by
    intro srv
    have hmarks := h.marksFree srv
    rcases step_server hstep srv with ⟨hsame, hother⟩ | ⟨poolOp, result, rfl, hresult, hpool⟩
    · rw [hsame]
      refine ⟨hmarks, ?_⟩
      intro c hc
      have hin := hmarks.marked c hc
      refine (h.since srv c hc).step hstep ⟨hin, hsame ▸ hin, ?_⟩
      intro workerIndex token check r hop
      exact absurd hop (hother _)
    · by_cases hdrop : ∃ maxFree aged, poolOp = .dropIdle maxFree aged
      · obtain ⟨maxFree, aged, rfl⟩ := hdrop
        obtain rfl := Option.some.inj hresult
        have hinv := h.inv.pools srv
        have hbefore := (ServerPool.Fades.refl hmarks).beforeTrim.marksFree
        obtain ⟨gone, htrim⟩ := hinv.beforeTrim.trims_trimFree hbefore maxFree
        have htrimmed := htrim.marksFree (ServerPool.usedList_trimFree hbefore maxFree)
        have hfades := (ServerPool.Fades.refl htrimmed).afterTrim aged
        rw [hpool]
        refine ⟨hfades.marksFree, ?_⟩
        intro c hc
        have hmark := hfades.marked c hc
        have hfree : c ∈ (s'.servers srv).free.conns := by
          rw [hpool]
          exact hfades.marksFree.marked c hc
        exact ⟨ops, s, maxFree, aged, s', [], rfl, h.run, hstep, (htrim.fresh c hmark).2, hmark,
          hfree, .nil⟩
      · have hfades := ServerPool.Fades.step hmarks hresult
          fun maxFree aged hop => hdrop ⟨maxFree, aged, hop⟩
        rw [hpool]
        refine ⟨hfades.marksFree, ?_⟩
        intro c hc
        have hold := hfades.marked c hc
        refine (h.since srv c hold).step hstep
          ⟨hmarks.marked c hold, hpool ▸ hfades.marksFree.marked c hc, ?_⟩
        rintro workerIndex token check r hop hheld hworker rfl
        cases hop
        obtain rfl := Option.some.inj hresult
        have hgone := ServerPool.not_pending_cancelReservation (h.inv.pools srv) hmarks
          (h.inv.pending_tokens (hostgroup srv)) hheld hworker check
        exact Bool.false_ne_true (hgone.symm.trans hc)
  exact ⟨h.run.snoc hstep, h.inv.step hstep, fun srv => (hserver srv).1,
    fun srv => (hserver srv).2⟩

theorem marksExplained
    (hostgroup : Nat → Nat) (maxConnections : Nat → Int)
    (hrun : Run (fun s op s' => step hostgroup s op = some s') (init maxConnections) ops s) :
    MarksExplained hostgroup (init maxConnections) ops s := by
  refine hrun.history_invariant ?_ (fun h hstep => h.step hstep)
  refine ⟨.nil, Inv.init maxConnections, fun srv => .empty _, ?_⟩
  intro srv c hc
  exact absurd hc Bool.false_ne_true

/-- In every state that is reached, a trim of a server's FREE list, whether maintenance
makes it or not, marks as many connections as are too many; it deletes only connections
that an earlier trim marked and that no step since took out of FREE; and two trims in a
row leave FREE as long as it may be, and no shorter. -/
theorem idleTrim_grace
    (hostgroup : Nat → Nat) (maxConnections : Nat → Int)
    {ops : List PoolSystemOp} {s : PoolSystem}
    (hrun : Run (fun s op s' => step hostgroup s op = some s') (init maxConnections) ops s)
    (srv maxFree : Nat) :
    (∀ pool, pool = s.servers srv ∨ pool = (s.servers srv).beforeTrim →
      pool.TrimExact maxFree ∧
        ∀ c ∈ pool.free.conns, c ∉ (pool.trimFree maxFree).free.conns →
          MarkedSince hostgroup (init maxConnections) ops s srv c) ∧
      ∀ aged aged', (((s.servers srv).dropIdle maxFree aged).dropIdle maxFree
        aged').free.conns.length ≤ maxFree := by
  have hexplained := marksExplained hostgroup maxConnections hrun
  have hmarks := hexplained.marksFree srv
  have hinv := hexplained.inv.pools srv
  have hbefore := (ServerPool.Fades.refl hmarks).beforeTrim
  refine ⟨?_, hinv.length_dropIdle_twice hmarks maxFree⟩
  intro pool hpool
  have hexact : pool.TrimExact maxFree := by
    rcases hpool with rfl | rfl
    · exact hinv.trimExact hmarks maxFree
    · exact hinv.beforeTrim.trimExact hbefore.marksFree maxFree
  refine ⟨hexact, ?_⟩
  intro c hc hgone
  obtain ⟨gone, hperm, -, hmarked, -⟩ := hexact.deletes
  have hpending := hmarked c
    ((List.mem_append.mp (hperm.mem_iff.mp hc)).resolve_right hgone)
  refine hexplained.since srv c ?_
  rcases hpool with rfl | rfl
  · exact hpending
  · exact hbefore.marked c hpending

/-- Three connections are added to FREE of a server with room for one: the first trim marks
two, the second deletes them. -/
theorem idleTrim_grace_three :
    ∃ s, Run (fun s op s' => step (fun _ => 0) s op = some s') (init fun _ => 10)
        [.server 4 (.openConnection 7), .server 4 (.addMatching 7 {} ⟨true, fun _ => true⟩),
          .server 4 (.openConnection 8), .server 4 (.addMatching 8 {} ⟨true, fun _ => true⟩),
          .server 4 (.openConnection 9), .server 4 (.addMatching 9 {} ⟨true, fun _ => true⟩),
          .server 4 (.dropIdle 1 fun _ => false)] s ∧
      (s.servers 4).pendingFree = 2 ∧
      ((s.servers 4).trimFree 1).free.conns = [9] ∧
      MarkedSince (fun _ => 0) (init fun _ => 10)
        [.server 4 (.openConnection 7), .server 4 (.addMatching 7 {} ⟨true, fun _ => true⟩),
          .server 4 (.openConnection 8), .server 4 (.addMatching 8 {} ⟨true, fun _ => true⟩),
          .server 4 (.openConnection 9), .server 4 (.addMatching 9 {} ⟨true, fun _ => true⟩),
          .server 4 (.dropIdle 1 fun _ => false)] s 4 7 := by
  have hrun := Run.of_foldlM (f := step fun _ => 0) (s := init fun _ => 10)
    [.server 4 (.openConnection 7), .server 4 (.addMatching 7 {} ⟨true, fun _ => true⟩),
      .server 4 (.openConnection 8), .server 4 (.addMatching 8 {} ⟨true, fun _ => true⟩),
      .server 4 (.openConnection 9), .server 4 (.addMatching 9 {} ⟨true, fun _ => true⟩),
      .server 4 (.dropIdle 1 fun _ => false)] rfl
  exact ⟨_, hrun, by decide, by decide,
    ((idleTrim_grace (fun _ => 0) (fun _ => 10) hrun 4 1).1 _ (Or.inl rfl)).2 7 (by decide)
      (by decide)⟩

end PoolSystem

end PolarProxy
