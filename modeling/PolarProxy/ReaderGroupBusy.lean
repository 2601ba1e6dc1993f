import Mathlib.Data.List.Perm.Subperm
import PolarProxy.ReaderSelection

/-!
# A group of readers that is busy

A selection that confirms the capacity of its group asks every eligible reader until one has a
connection or room for one.  It asks each of them at most once, and it reports a busy group
exactly when all of them reported saturation.

**Results.** `readerPoolGetFromServer_saturated`, `takeConnFromReaderNodes_settled`,
`getConnFromReaderNodes_settled`, `preferReady_settled`, `readerGroupBusy_exact`.
-/

namespace PolarProxy

namespace Readers

variable {σ : Type} {w : ReaderWorld σ} {request : PoolRequest}

/-! ## One reader -/

/-- The pool of a reader held no connection that may be reused, and no room for another. -/
def Full (w : ReaderWorld σ) (node : ReaderNode) : Prop :=
  ∃ s, (w.takeReusable node.srv true s).1 = none ∧
    (w.counts node.srv (w.takeReusable node.srv true s).2).saturated node.maxConnections = true

theorem takeExistingConnection_saturated
    {srv limit : Nat} {allowReset skipBusyPool : Bool} {s : σ}
    (h : (takeExistingConnection w srv allowReset skipBusyPool limit s).1.serverSaturated = true) :
    (takeExistingConnection w srv allowReset skipBusyPool limit s).1.conn = none ∧
      ∃ t, (w.takeReusable srv allowReset t).1 = none ∧
        (w.counts srv (w.takeReusable srv allowReset t).2).saturated limit = true := by
  rw [takeExistingConnection] at h ⊢
  dsimp only at h ⊢
  generalize (if skipBusyPool = true then w.tryLock srv s else (true, s)) = locked at h ⊢
  split at h
  · cases h
  rename_i hlocked
  rw [if_neg hlocked]
  split at h
  · cases h
  rename_i honline
  rw [if_neg honline]
  split at h
  · cases h
  · rename_i htaken
    exact ⟨rfl, locked.2, htaken, h⟩

theorem takeSharedUsable_saturated
    {srv limit : Nat} {allowReset skipBusyPool : Bool}
    (n : Nat) (s : σ)
    (h : (takeSharedUsable w srv allowReset skipBusyPool limit n s).1.serverSaturated = true) :
    (takeSharedUsable w srv allowReset skipBusyPool limit n s).1.conn = none ∧
      ∃ t, (w.takeReusable srv allowReset t).1 = none ∧
        (w.counts srv (w.takeReusable srv allowReset t).2).saturated limit = true := by
  induction n generalizing s with
  | zero =>
      cases h
  | succ n ih =>
      rw [takeSharedUsable] at h ⊢
      split at h
      · split at h
        · cases h
        · rename_i hbusy
          rw [if_neg hbusy]
          exact ⟨rfl, (takeExistingConnection_saturated h).2⟩
      · rename_i conn hconn
        split at h
        · have hnone := (takeExistingConnection_saturated h).1
          rw [hconn] at hnone
          cases hnone
        · rename_i hreject
          rw [if_neg hreject]
          exact ih _ h

/-- A reader that reports saturation has no connection for the request and no room. -/
theorem readerPoolGetFromServer_saturated
    {node : ReaderNode} {skipBusyPool skipLocalReuse : Bool} {s : σ}
    (h : (readerPoolGetFromServer w request node.srv node.maxConnections skipBusyPool skipLocalReuse
      s).1.serverSaturated = true) :
    (readerPoolGetFromServer w request node.srv node.maxConnections skipBusyPool skipLocalReuse
        s).1.conn = none ∧
      request.onlyPooled = false ∧ Full w node := by
  rw [readerPoolGetFromServer] at h ⊢
  split at h
  · cases h
  rename_i hready
  rw [if_neg hready]
  dsimp only at h ⊢
  split at h
  · cases h
  · obtain ⟨hnone, t, htaken, hcounts⟩ := takeSharedUsable_saturated _ _ h
    have hpooled : request.onlyPooled = false := by
      by_contra honly
      rw [Bool.not_eq_false] at honly
      rw [honly] at hcounts
      cases hcounts
    refine ⟨hnone, hpooled, t, ?_, ?_⟩
    · rw [hpooled] at htaken
      exact htaken
    · rw [hpooled] at hcounts
      exact hcounts

/-! ## Trying one reader after another -/

/-- What trying a reader comes to, without an alternate. -/
structure Tried (w : ReaderWorld σ) (request : PoolRequest) (node : ReaderNode)
    (before : ReaderResult) (s : Selection σ) (r : Bool × ReaderResult × Selection σ) : Prop where
  probe : ∃ result, r.2.2.probes = s.probes ++ [⟨node, result⟩] ∧
    (result.serverSaturated = true → r.1 = false ∧ Full w node) ∧
    (r.1 = true → r.2.1.acquired = true) ∧
    (r.1 = false → r.2.1.serverSaturated =
      if request.onlyPooled then before.serverSaturated else result.serverSaturated) ∧
    (request.onlyPooled = true → result.serverSaturated = false)
  kept : r.1 = false →
    r.2.1.conn = before.conn ∧ r.2.1.srv = before.srv ∧ r.2.1.status = before.status

theorem noteAttempt_cases
    (additional : Bool) (node : ReaderNode) (acquired : PoolGetResult × Nat)
    (before : ReaderResult) :
    (acquired.1.conn.isSome = true ∧ (noteAttempt request additional node acquired before).1 = true ∧
        (noteAttempt request additional node acquired before).2.acquired = true) ∨
      ((noteAttempt request additional node acquired before).1 = false ∧
        (noteAttempt request additional node acquired before).2.conn = before.conn ∧
        (noteAttempt request additional node acquired before).2.srv = before.srv ∧
        (noteAttempt request additional node acquired before).2.status = before.status ∧
        (noteAttempt request additional node acquired before).2.serverSaturated =
          if request.onlyPooled then before.serverSaturated else acquired.1.serverSaturated) := by
  obtain ⟨noted, hnoted, hconn, hsrv, hstatus, hsaturated⟩ : ∃ noted : ReaderResult,
      noted = (if request.onlyPooled ∧ additional = false ∧ acquired.1.conn = none ∧
          acquired.1.poolBusy = false then { before with selectedPoolMissServer := some node.srv }
        else before) ∧
      noted.conn = before.conn ∧ noted.srv = before.srv ∧ noted.status = before.status ∧
      noted.serverSaturated = before.serverSaturated := by
    refine ⟨_, rfl, ?_⟩
    split <;> exact ⟨rfl, rfl, rfl, rfl⟩
  rw [noteAttempt, ← hnoted]
  split
  · right
    cases request.onlyPooled with
    | true =>
        exact ⟨rfl, hconn, hsrv, hstatus, hsaturated⟩
    | false =>
        exact ⟨rfl, hconn, hsrv, hstatus, rfl⟩
  · rename_i conn hsome
    left
    rw [hsome]
    exact ⟨rfl, rfl, rfl⟩

theorem tryNode_tried
    (additional : Bool) (node : ReaderNode) (before : ReaderResult) (s : Selection σ) :
    Tried w request node before s (tryNode w request none additional node before s) := by
  have hsaturated := @readerPoolGetFromServer_saturated σ w request node false false s.world
  have hprobe : readerAcquireWithAlternate w request node none s =
      (((s.probe w request node false false).1, node.srv), (s.probe w request node false false).2) :=
    rfl
  rw [tryNode, hprobe]
  dsimp only [Selection.probe]
  generalize readerPoolGetFromServer w request node.srv node.maxConnections false false s.world = r
    at hsaturated
  have hpooled : request.onlyPooled = true → r.1.serverSaturated = false := by
    intro honly
    by_contra hnot
    rw [Bool.not_eq_false] at hnot
    exact absurd (honly.symm.trans (hsaturated hnot).2.1) (by decide)
  rcases noteAttempt_cases additional node (r.1, node.srv) before with
    ⟨hsome, htaken, hacquired⟩ | ⟨hnone, hconn, hsrv, hstatus, hsame⟩
  · refine ⟨⟨r.1, rfl, fun hfull => ?_, fun _ => hacquired, fun h => ?_, hpooled⟩, fun h => ?_⟩
    · rw [(hsaturated hfull).1] at hsome
      cases hsome
    · exact absurd (htaken.symm.trans h) (by decide)
    · exact absurd (htaken.symm.trans h) (by decide)
  · refine ⟨⟨r.1, rfl, fun hfull => ⟨hnone, (hsaturated hfull).2.2⟩, fun h => ?_, fun _ => hsame,
      hpooled⟩, fun _ => ⟨hconn, hsrv, hstatus⟩⟩
    exact absurd (hnone.symm.trans h) (by decide)

/-- What trying a set of readers comes to.  Each is asked at most once.  Either all reported
saturation and the group is busy, or one did not, and it served the request or is named. -/
structure Settled (w : ReaderWorld σ) (nodes : List ReaderNode) (r : ReaderResult)
    (probes : List Probe) : Prop where
  once : (probes.map Probe.node).Subperm nodes
  full : ∀ p ∈ probes, p.result.serverSaturated = true → Full w p.node
  outcome :
    (r.status = .readerGroupBusy ∧ r.acquired = false ∧ r.srv.isSome = true ∧
        nodes.length ≤ probes.length ∧ ∀ p ∈ probes, p.result.serverSaturated = true) ∨
      ∃ p ∈ probes, p.result.serverSaturated = false ∧
        (r.acquired = true ∨
          r.status = .readerUnavailable ∧ r.acquired = false ∧ r.serverSaturated = false ∧
            r.srv = some p.node.srv)

variable {r : ReaderResult}

theorem ReaderResult.acquired_of_conn_none
    (h : r.conn = none) :
    r.acquired = false := by
  rw [ReaderResult.acquired, h]
  exact Bool.and_false _

/-- The probes that a confirmation adds, after readers that all reported saturation -/
theorem confirmGroup_settled
    (hpooled : request.onlyPooled = false)
    (nodes done : List ReaderNode) (r : ReaderResult) (s : Selection σ) (probes : List Probe)
    (hconn : r.conn = none)
    (hstatus : r.status = .readerUnavailable)
    (hsrv : r.srv.isSome = true)
    (hdone : probes.map Probe.node = done)
    (hfull : ∀ p ∈ probes, p.result.serverSaturated = true ∧ Full w p.node) :
    ∃ more, (confirmGroup w request none nodes r s).2.probes = s.probes ++ more ∧
      Settled w (done ++ nodes) (confirmGroup w request none nodes r s).1 (probes ++ more) := by
  induction nodes generalizing done r s probes with
  | nil =>
      refine ⟨[], (List.append_nil _).symm, ?_⟩
      rw [List.append_nil, List.append_nil, confirmGroup]
      refine ⟨?_, fun p hp _ => (hfull p hp).2, Or.inl ⟨rfl, ?_, hsrv, ?_, ?_⟩⟩
      · rw [hdone]
      · exact ReaderResult.acquired_of_conn_none hconn
      · rw [← hdone, List.length_map]
      · exact fun p hp => (hfull p hp).1
  | cons node rest ih =>
      obtain ⟨⟨result, hprobes, hsaturated, htaken, hsame, -⟩, hkept⟩ :=
        tryNode_tried (w := w) true node r s
      rw [confirmGroup]
      generalize tryNode w request none true node r s = tried at hprobes hsaturated htaken hsame hkept
      have honce : ((probes ++ [(⟨node, result⟩ : Probe)]).map Probe.node).Subperm
          (done ++ node :: rest) := by
        rw [List.map_append, hdone]
        exact (List.subperm_append_left done).mpr ((List.sublist_append_left [node] rest).subperm)
      have hfull' : ∀ p ∈ probes ++ [(⟨node, result⟩ : Probe)], p.result.serverSaturated = true →
          Full w p.node := by
        intro p hp hsat
        rcases List.mem_append.mp hp with hp | hp
        · exact (hfull p hp).2
        · rw [List.mem_singleton] at hp
          subst hp
          exact (hsaturated hsat).2
      have hin : (⟨node, result⟩ : Probe) ∈ probes ++ [⟨node, result⟩] :=
        List.mem_append_right _ List.mem_cons_self
      dsimp only
      cases hgot : tried.1 with
      | true =>
          rw [if_pos rfl]
          refine ⟨[⟨node, result⟩], hprobes, honce, hfull', Or.inr ⟨_, hin, ?_, ?_⟩⟩
          · by_contra hsat
            rw [Bool.not_eq_false] at hsat
            exact absurd (hgot.symm.trans (hsaturated hsat).1) (by decide)
          · exact Or.inl (htaken hgot)
      | false =>
          obtain ⟨hconn', hsrv', hstatus'⟩ := hkept hgot
          have hsame' := hsame hgot
          rw [hpooled] at hsame'
          rw [if_neg Bool.false_ne_true]
          split
          · rename_i hroom
            refine ⟨[⟨node, result⟩], hprobes, honce, hfull', Or.inr ⟨_, hin, ?_, Or.inr ?_⟩⟩
            · exact hsame'.symm.trans hroom
            · refine ⟨hstatus'.trans hstatus, ?_, hroom, rfl⟩
              exact ReaderResult.acquired_of_conn_none (hconn'.trans hconn)
          · rename_i hroom
            rw [Bool.not_eq_false] at hroom
            obtain ⟨more, hmore, hsettled⟩ := ih (done ++ [node]) tried.2.1 tried.2.2
              (probes ++ [⟨node, result⟩]) (hconn'.trans hconn) (hstatus'.trans hstatus)
              (by rw [hsrv']; exact hsrv) (by rw [List.map_append, hdone]; rfl) (by
                intro p hp
                rcases List.mem_append.mp hp with hp | hp
                · exact hfull p hp
                · rw [List.mem_singleton] at hp
                  subst hp
                  have hsat := hsame'.symm.trans hroom
                  exact ⟨hsat, (hsaturated hsat).2⟩)
            refine ⟨⟨node, result⟩ :: more, ?_, ?_⟩
            · rw [hmore, hprobes, List.append_assoc]
              rfl
            · rw [List.append_assoc, List.append_assoc] at hsettled
              exact hsettled

variable {probes : List Probe}

theorem Settled.perm
    {nodes nodes' : List ReaderNode}
    (h : Settled w nodes r probes)
    (hperm : nodes.Perm nodes') :
    Settled w nodes' r probes where
  once := h.once.trans hperm.subperm
  full := h.full
  outcome := by
    rw [← hperm.length_eq]
    exact h.outcome

/-- The others of a request that creates no connection; it reports no saturation. -/
theorem tryPooled_settled
    (hpooled : request.onlyPooled = true)
    (nodes : List ReaderNode) (r : ReaderResult) (s : Selection σ)
    (hconn : r.conn = none) :
    ∃ more, (tryPooled w request none nodes r s).2.probes = s.probes ++ more ∧
      (more.map Probe.node).Sublist nodes ∧
      (∀ p ∈ more, p.result.serverSaturated = false) ∧
      ((tryPooled w request none nodes r s).1.acquired = true ∨
        (tryPooled w request none nodes r s).1.conn = none ∧
          (tryPooled w request none nodes r s).1.srv = r.srv ∧
          (tryPooled w request none nodes r s).1.status = r.status ∧
          (tryPooled w request none nodes r s).1.serverSaturated = r.serverSaturated) := by
  induction nodes generalizing r s with
  | nil =>
      exact ⟨[], (List.append_nil _).symm, List.Sublist.refl _,
        fun p hp => absurd hp List.not_mem_nil, Or.inr ⟨hconn, rfl, rfl, rfl⟩⟩
  | cons node rest ih =>
      obtain ⟨⟨result, hprobes, -, htaken, hsame, hnever⟩, hkept⟩ :=
        tryNode_tried (w := w) true node r s
      rw [tryPooled]
      generalize tryNode w request none true node r s = tried at hprobes htaken hsame hkept
      cases hgot : tried.1 with
      | true =>
          rw [if_pos rfl]
          refine ⟨[⟨node, result⟩], hprobes, List.sublist_append_left [node] rest, ?_,
            Or.inl (htaken hgot)⟩
          intro p hp
          rw [List.mem_singleton] at hp
          rw [hp]
          exact hnever hpooled
      | false =>
          obtain ⟨hconn', hsrv', hstatus'⟩ := hkept hgot
          have hsame' := hsame hgot
          rw [if_pos hpooled] at hsame'
          rw [if_neg Bool.false_ne_true]
          obtain ⟨more, hmore, hsub, hmores, hend⟩ := ih tried.2.1 tried.2.2 (hconn'.trans hconn)
          refine ⟨⟨node, result⟩ :: more, ?_, hsub.cons_cons node, ?_, ?_⟩
          · rw [hmore, hprobes, List.append_assoc]
            rfl
          · intro p hp
            rcases List.mem_cons.mp hp with rfl | hp
            · exact hnever hpooled
            · exact hmores p hp
          · rw [hsrv', hstatus', hsame'] at hend
            exact hend

variable {nodes : List ReaderNode}

/-- A set of readers, tried from the selected one on, for a request that confirms. -/
theorem takeConnFromReaderNodes_settled
    {i : Nat}
    (hi : i < nodes.length)
    (additional : Bool) (s : Selection σ) :
    ∃ more, (takeConnFromReaderNodes w request nodes (some i) none true additional s).2.probes =
        s.probes ++ more ∧
      Settled w nodes
        (takeConnFromReaderNodes w request nodes (some i) none true additional s).1 more := by
  have hperm : (nodes[i] :: (nodes.drop (i + 1) ++ nodes.take i)).Perm nodes := by
    have hround : (nodes.drop i ++ nodes.take i).Perm (nodes.take i ++ nodes.drop i) :=
      List.perm_append_comm
    rw [List.take_append_drop, List.drop_eq_getElem_cons hi] at hround
    exact hround
  obtain ⟨⟨result, hprobes, hsaturated, htaken, hsame, hnever⟩, hkept⟩ :=
    @tryNode_tried σ w request additional nodes[i]
      { srv := some nodes[i].srv } s
  simp only [takeConnFromReaderNodes, List.getElem?_eq_getElem hi, Option.bind_none]
  generalize nodes.drop (i + 1) ++ nodes.take i = others at hperm
  generalize tryNode w request none additional nodes[i] { srv := some nodes[i].srv } s = tried
    at hprobes hsaturated htaken hsame hkept
  have hone : ([(⟨nodes[i], result⟩ : Probe)].map Probe.node).Subperm nodes :=
    (List.sublist_append_left [nodes[i]] others).subperm.trans hperm.subperm
  have hfull : ∀ p ∈ [(⟨nodes[i], result⟩ : Probe)], p.result.serverSaturated = true →
      Full w p.node := by
    intro p hp hsat
    rw [List.mem_singleton] at hp
    subst hp
    exact (hsaturated hsat).2
  cases hgot : tried.1 with
  | true =>
      rw [if_pos rfl]
      refine ⟨_, hprobes, hone, hfull, Or.inr ⟨_, List.mem_cons_self, ?_, Or.inl (htaken hgot)⟩⟩
      by_contra hsat
      rw [Bool.not_eq_false] at hsat
      exact absurd (hgot.symm.trans (hsaturated hsat).1) (by decide)
  | false =>
      obtain ⟨hconn', hsrv', hstatus'⟩ := hkept hgot
      have hsame' := hsame hgot
      rw [if_neg Bool.false_ne_true]
      by_cases hpooled : request.onlyPooled = true
      · rw [if_pos hpooled] at hsame' ⊢
        obtain ⟨more, hmore, hsub, hmores, hend⟩ := tryPooled_settled (w := w) hpooled others tried.2.1
          tried.2.2 hconn'
        refine ⟨⟨nodes[i], result⟩ :: more, ?_, ?_, ?_, Or.inr ⟨⟨nodes[i], result⟩,
          List.mem_cons_self, hnever hpooled, ?_⟩⟩
        · rw [hmore, hprobes, List.append_assoc]
          rfl
        · exact (hsub.cons_cons nodes[i]).subperm.trans hperm.subperm
        · intro p hp hsat
          rcases List.mem_cons.mp hp with rfl | hp
          · exact (hsaturated hsat).2
          · exact absurd ((hmores p hp).symm.trans hsat) (by decide)
        · rcases hend with hend | ⟨hconn, hsrv, hstatus, hsat⟩
          · exact Or.inl hend
          · right
            refine ⟨hstatus.trans hstatus', ReaderResult.acquired_of_conn_none hconn,
              hsat.trans hsame', hsrv.trans hsrv'⟩
      · rw [Bool.not_eq_true] at hpooled
        rw [hpooled] at hsame' ⊢
        rw [if_neg Bool.false_ne_true] at hsame' ⊢
        simp only [true_and]
        split
        · rename_i hsat
          obtain ⟨more, hmore, hsettled⟩ := confirmGroup_settled (w := w) hpooled others [nodes[i]]
            tried.2.1 tried.2.2 [⟨nodes[i], result⟩] hconn' hstatus'
            (by rw [hsrv']; rfl) rfl (by
              intro p hp
              rw [List.mem_singleton] at hp
              subst hp
              have hresult := hsame'.symm.trans hsat
              exact ⟨hresult, (hsaturated hresult).2⟩)
          refine ⟨⟨nodes[i], result⟩ :: more, ?_, ?_⟩
          · rw [hmore, hprobes, List.append_assoc]
            rfl
          · exact hsettled.perm hperm
        · rename_i hsat
          rw [Bool.not_eq_true] at hsat
          refine ⟨_, hprobes, hone, hfull, Or.inr ⟨_, List.mem_cons_self, hsame'.symm.trans hsat,
            Or.inr ⟨hstatus', ReaderResult.acquired_of_conn_none hconn', hsat, hsrv'⟩⟩⟩

/-! ## Drawing -/

theorem pickAt_lt
    (k : Nat) (nodes : List ReaderNode) (runningSum j : Nat)
    (hne : nodes ≠ []) :
    j ≤ pickAt k nodes runningSum j ∧ pickAt k nodes runningSum j < j + nodes.length := by
  induction nodes generalizing runningSum j with
  | nil =>
      exact absurd rfl hne
  | cons node rest ih =>
      rw [pickAt, List.length_cons]
      split
      · omega
      · by_cases hrest : rest = []
        · subst hrest
          rw [pickAt]
          exact ⟨by omega, by simp⟩
        · have hlt := ih (runningSum + node.weight) (j + 1) hrest
          omega

theorem pickWeightedNode_lt
    {weightSum : Nat}
    (hne : nodes ≠ [])
    (s : Selection σ) :
    (pickWeightedNode w nodes weightSum s).1.getD 0 < nodes.length := by
  have hpos := List.length_pos_iff.mpr hne
  rw [pickWeightedNode]
  split
  · exact hpos
  · have hlt := pickAt_lt (((s.rand w).1 % 2 ^ 32 * 2 ^ 32 + ((s.rand w).2.rand w).1 % 2 ^ 32) %
      weightSum + 1) nodes 0 0 hne
    rw [Nat.zero_add] at hlt
    exact hlt.2

theorem pickWeightedNode_probes
    (nodes : List ReaderNode) (weightSum : Nat) (s : Selection σ) :
    (pickWeightedNode w nodes weightSum s).2.probes = s.probes := by
  rw [pickWeightedNode]
  split <;> rfl

theorem takeSecond_probes
    (first second : ReaderNode) (s : Selection σ) :
    (takeSecond w first second s).2.probes = s.probes := by
  rw [takeSecond]
  dsimp only
  split <;> rfl

/-- A set of readers, one of which is drawn. -/
theorem getConnFromReaderNodes_settled
    {weightSum : Nat}
    (hne : nodes ≠ [])
    (hweight : weightSum ≠ 0)
    (additional : Bool) (s : Selection σ) :
    ∃ more, (getConnFromReaderNodes w request nodes weightSum false true false additional
          s).2.probes = s.probes ++ more ∧
      Settled w nodes
        (getConnFromReaderNodes w request nodes weightSum false true false additional s).1 more := by
  have hpos := List.length_pos_iff.mpr hne
  rw [getConnFromReaderNodes, if_neg (by simp [hne, hweight])]
  split
  · exact takeConnFromReaderNodes_settled hpos additional s
  · have hfirst := @pickWeightedNode_lt σ w nodes weightSum hne s
    have hprobes := pickWeightedNode_probes (w := w) nodes weightSum s
    simp only [Bool.false_and, Bool.false_eq_true, if_false]
    generalize pickWeightedNode w nodes weightSum s = first at hfirst hprobes
    have hother := @pickWeightedNode_lt σ w nodes weightSum hne first.2
    have hprobes' := pickWeightedNode_probes (w := w) nodes weightSum first.2
    generalize pickWeightedNode w nodes weightSum first.2 = other at hother hprobes'
    obtain ⟨second, hdef, hsecond, hsame⟩ : ∃ second : Nat × Selection σ,
        second = (if other.1.getD 0 = first.1.getD 0 then
          ((first.1.getD 0 + 1 + (other.2.rand w).1 % 2 ^ 32 % (nodes.length - 1)) % nodes.length,
            (other.2.rand w).2)
        else (other.1.getD 0, other.2)) ∧ second.1 < nodes.length ∧
        second.2.probes = s.probes := by
      refine ⟨_, rfl, ?_⟩
      split
      · exact ⟨Nat.mod_lt _ hpos, hprobes'.trans hprobes⟩
      · exact ⟨hother, hprobes'.trans hprobes⟩
    rw [← hdef, List.getElem?_eq_getElem hfirst, List.getElem?_eq_getElem hsecond]
    dsimp only
    have hchosen := takeSecond_probes (w := w) nodes[first.1.getD 0] nodes[second.1] second.2
    generalize takeSecond w nodes[first.1.getD 0] nodes[second.1] second.2 = chosen at hchosen
    rw [← hsame, ← hchosen]
    split
    · exact takeConnFromReaderNodes_settled hsecond additional chosen.2
    · exact takeConnFromReaderNodes_settled hfirst additional chosen.2

/-! ## Ready readers and readers behind -/

theorem partitionReady_perm
    (nodes ready behind : List ReaderNode) :
    (partitionReady ready behind nodes).1 = ready ++ nodes.filter ReaderNode.targetReached ∧
      ((partitionReady ready behind nodes).1 ++ (partitionReady ready behind nodes).2).Perm
        (ready ++ behind ++ nodes) := by
  induction nodes generalizing ready behind with
  | nil =>
      rw [partitionReady, List.filter_nil, List.append_nil, List.append_nil]
      exact ⟨rfl, List.Perm.refl _⟩
  | cons node rest ih =>
      rw [partitionReady]
      split
      · rename_i hready
        obtain ⟨hfilter, hperm⟩ := ih (ready ++ [node]) (behind.drop 1 ++ behind.take 1)
        refine ⟨?_, hperm.trans ?_⟩
        · rw [hfilter, List.filter_cons_of_pos hready, List.append_assoc]
          rfl
        · have hround : (behind.drop 1 ++ behind.take 1).Perm behind := by
            have hcomm : (behind.drop 1 ++ behind.take 1).Perm (behind.take 1 ++ behind.drop 1) :=
              List.perm_append_comm
            rw [List.take_append_drop] at hcomm
            exact hcomm
          rw [List.append_assoc ready [node], List.append_assoc ready, List.append_assoc ready behind]
          refine List.Perm.append_left ready ?_
          refine ((hround.append_right rest).cons node).trans ?_
          exact List.perm_middle.symm
      · rename_i hready
        obtain ⟨hfilter, hperm⟩ := ih ready (behind ++ [node])
        refine ⟨?_, hperm.trans ?_⟩
        · rw [hfilter, List.filter_cons_of_neg hready]
        · rw [← List.append_assoc, List.append_assoc]
          exact List.Perm.refl _

theorem weightSumOf_ne_zero
    (hne : nodes ≠ [])
    (hweights : ∀ node ∈ nodes, node.weight ≠ 0) :
    weightSumOf nodes ≠ 0 := by
  cases nodes with
  | nil =>
      exact absurd rfl hne
  | cons node rest =>
      have hpos := hweights node List.mem_cons_self
      rw [weightSumOf, List.map_cons, List.sum_cons]
      omega

theorem Settled.congr
    {r r' : ReaderResult}
    (h : Settled w nodes r probes)
    (hstatus : r'.status = r.status)
    (hacquired : r'.acquired = r.acquired)
    (hsaturated : r'.serverSaturated = r.serverSaturated)
    (hsrv : r'.srv = r.srv) :
    Settled w nodes r' probes where
  once := h.once
  full := h.full
  outcome := by
    rw [hstatus, hacquired, hsaturated, hsrv]
    exact h.outcome

theorem Settled.append
    {nodes others : List ReaderNode} {r r' : ReaderResult} {probes more : List Probe}
    (h : Settled w nodes r probes)
    (hlength : nodes.length ≤ probes.length)
    (hall : ∀ p ∈ probes, p.result.serverSaturated = true)
    (h' : Settled w others r' more) :
    Settled w (nodes ++ others) r' (probes ++ more) where
  once := by
    rw [List.map_append]
    exact h.once.append h'.once
  full := by
    intro p hp
    rcases List.mem_append.mp hp with hp | hp
    · exact h.full p hp
    · exact h'.full p hp
  outcome := by
    rcases h'.outcome with ⟨hbusy, hnone, hsrv, hmore, hall'⟩ | ⟨p, hp, hsat, hend⟩
    · left
      refine ⟨hbusy, hnone, hsrv, ?_, ?_⟩
      · rw [List.length_append, List.length_append]
        exact Nat.add_le_add hlength hmore
      · intro p hp
        rcases List.mem_append.mp hp with hp | hp
        · exact hall p hp
        · exact hall' p hp
    · exact Or.inr ⟨p, List.mem_append_right _ hp, hsat, hend⟩

theorem Settled.not_acquired
    (h : Settled w nodes r probes)
    (hnot : ¬ r.acquired = true) :
    r.srv.isSome = true ∧
      (r.status = .readerGroupBusy ∧ nodes.length ≤ probes.length ∧
          (∀ p ∈ probes, p.result.serverSaturated = true) ∨
        r.status = .readerUnavailable ∧ r.serverSaturated = false) := by
  rcases h.outcome with ⟨hbusy, -, hsrv, hlength, hall⟩ | ⟨p, -, -, hgot | ⟨hfree, -, hsat, hsrv⟩⟩
  · exact ⟨hsrv, Or.inl ⟨hbusy, hlength, hall⟩⟩
  · exact absurd hgot hnot
  · rw [hsrv]
    exact ⟨rfl, Or.inr ⟨hfree, hsat⟩⟩

theorem tryReady_settled
    {req : ReaderRequest} {ready : List ReaderNode}
    (hconfirm : req.confirmReaderGroupCapacity = true)
    (hne : ready ≠ [])
    (hweight : weightSumOf ready ≠ 0)
    (s : Selection σ) :
    ∃ more, (tryReady w request req ready false s).2.probes = s.probes ++ more ∧
      Settled w ready (tryReady w request req ready false s).1 more ∧
      ((tryReady w request req ready false s).1.acquired = true ∨
        (tryReady w request req ready false s).1.conn = none) := by
  obtain ⟨more, hmore, hsettled⟩ := getConnFromReaderNodes_settled (w := w)
    hne hweight false s
  rw [tryReady, hconfirm, Bool.false_and]
  dsimp only
  generalize getConnFromReaderNodes w request ready (weightSumOf ready) false true false false s =
    taken at hmore hsettled
  refine ⟨more, hmore, ?_⟩
  split
  · rename_i hgot
    exact ⟨hsettled.congr rfl rfl rfl rfl, Or.inl hgot⟩
  · rename_i hgot
    rw [Bool.not_eq_true] at hgot
    exact ⟨hsettled.congr rfl ((ReaderResult.acquired_of_conn_none rfl).trans hgot.symm) rfl rfl,
      Or.inr rfl⟩

/-- The other readers stand in, unless they are all saturated as well. -/
theorem tryFallback_settled
    {req : ReaderRequest} {result : ReaderResult}
    (hconfirm : req.confirmReaderGroupCapacity = true)
    (hne : nodes ≠ [])
    (hweight : weightSumOf nodes ≠ 0)
    (attempted : Bool)
    (hconn : result.conn = none)
    (hsrv : result.status = .readerGroupBusy → result.srv.isSome = true)
    (s : Selection σ) :
    ∃ more, (tryFallback w request req nodes false attempted result s).2.probes = s.probes ++ more ∧
      Settled w nodes (tryFallback w request req nodes false attempted result s).1 more := by
  obtain ⟨more, hmore, hsettled⟩ := getConnFromReaderNodes_settled (w := w)
    hne hweight attempted s
  rw [tryFallback, hconfirm]
  dsimp only
  generalize getConnFromReaderNodes w request nodes (weightSumOf nodes) false true false attempted s =
    taken at hmore hsettled
  refine ⟨more, hmore, ?_⟩
  by_cases hgot : taken.1.acquired = true
  · rw [if_pos hgot]
    exact hsettled.congr rfl rfl rfl rfl
  · obtain ⟨hnamed, hstatus⟩ := hsettled.not_acquired hgot
    rw [if_neg hgot, if_neg (by intro hnone; rw [hnone] at hnamed; cases hnamed)]
    rw [Bool.not_eq_true] at hgot
    by_cases hsame : taken.1.status = .readerGroupBusy ∧ result.status = .readerGroupBusy
    · rw [if_neg (by simp [hsame.1, hsame.2])]
      rcases hstatus with ⟨-, hlength, hall⟩ | ⟨hfree, -⟩
      · exact ⟨hsettled.once, hsettled.full, Or.inl ⟨hsame.2,
          ReaderResult.acquired_of_conn_none hconn, hsrv hsame.2, hlength, hall⟩⟩
      · exact absurd (hfree.symm.trans hsame.1) (by decide)
    · rw [if_pos (by simpa [Classical.or_iff_not_imp_left] using hsame)]
      refine hsettled.congr rfl ?_ rfl rfl
      rw [hgot]
      exact ReaderResult.acquired_of_conn_none hconn

/-- The readers of a request, the ready ones first -/
theorem preferReady_settled
    {req : ReaderRequest} {filterStatus : ReaderStatus}
    (hconfirm : req.confirmReaderGroupCapacity = true)
    (hne : nodes ≠ [])
    (hweights : ∀ node ∈ nodes, node.weight ≠ 0)
    (hfilter : filterStatus ≠ .readerGroupBusy)
    (s : Selection σ) :
    ∃ more, (preferReady w request req nodes false filterStatus s).2.probes = s.probes ++ more ∧
      Settled w nodes (preferReady w request req nodes false filterStatus s).1 more := by
  rw [preferReady, hconfirm, Bool.true_and]
  by_cases hattempted : (req.waitSpec.hasWait && nodes.any ReaderNode.targetReached) = true
  · -- Some reader is ready: the ready ones come first, and the others after they all failed.
    rw [hattempted, if_pos rfl]
    obtain ⟨hfiltered, hperm⟩ := partitionReady_perm nodes [] []
    rw [List.nil_append] at hfiltered
    rw [List.nil_append, List.nil_append] at hperm
    generalize partitionReady [] [] nodes = parts at hfiltered hperm
    have hready : parts.1 ≠ [] := by
      rw [Bool.and_eq_true, List.any_eq_true] at hattempted
      obtain ⟨node, hnode, hreached⟩ := hattempted.2
      rw [hfiltered]
      exact List.ne_nil_of_mem (List.mem_filter.mpr ⟨hnode, hreached⟩)
    have hmem : ∀ node ∈ parts.1 ++ parts.2, node.weight ≠ 0 :=
      fun node hnode => hweights node (hperm.mem_iff.mp hnode)
    have hsum := weightSumOf_ne_zero hready fun node hnode =>
      hmem node (List.mem_append_left _ hnode)
    have hpreferred : (if true = true ∧ weightSumOf parts.1 ≠ 0 then
        tryReady w request req parts.1 false s else ({ status := filterStatus }, s)) =
        tryReady w request req parts.1 false s := if_pos ⟨rfl, hsum⟩
    rw [hpreferred]
    obtain ⟨more, hmore, hsettled, hconn⟩ := tryReady_settled (w := w) hconfirm hready
      hsum s
    generalize tryReady w request req parts.1 false s = ready at hmore hsettled hconn
    split
    · -- A reader served the request, or one has room.
      rename_i hend
      refine ⟨more, hmore, ?_, hsettled.full, Or.inr ?_⟩
      · exact hsettled.once.trans ((List.sublist_append_left _ _).subperm.trans hperm.subperm)
      · rcases hsettled.outcome with ⟨hbusy, hnone, -⟩ | hfree
        · simp [hbusy, hnone] at hend
        · exact hfree
    · rename_i hend
      rw [not_or] at hend
      obtain ⟨hsrv, hstatus⟩ := hsettled.not_acquired hend.1
      rcases hstatus with ⟨hbusy, hlength, hall⟩ | ⟨hfree, hsat⟩
      · by_cases hbehind : parts.2 = []
        · rw [hbehind, List.append_nil] at hperm
          rw [hbehind, tryFallback, getConnFromReaderNodes, if_pos (Or.inl rfl)]
          refine ⟨more, hmore, ?_⟩
          exact hsettled.perm hperm
        · obtain ⟨more', hmore', hsettled'⟩ := tryFallback_settled (w := w)
            hconfirm hbehind (weightSumOf_ne_zero hbehind fun node hnode =>
              hmem node (List.mem_append_right _ hnode)) true
            (hconn.resolve_left hend.1)
            (fun _ => hsrv) ready.2
          refine ⟨more ++ more', ?_, (hsettled.append hlength hall hsettled').perm hperm⟩
          rw [hmore', hmore, List.append_assoc]
      · simp [hsrv, hsat, hfree] at hend
  · -- No reader is known to be ready: all of them are tried alike.
    rw [Bool.not_eq_true] at hattempted
    have hpreferred : (if false = true ∧ weightSumOf ([] : List ReaderNode) ≠ 0 then
        tryReady w request req [] false s else (({ status := filterStatus } : ReaderResult), s)) =
        ({ status := filterStatus }, s) := if_neg fun h => Bool.false_ne_true h.1
    rw [hattempted, if_neg Bool.false_ne_true, hpreferred, if_neg (by simp [ReaderResult.acquired])]
    exact tryFallback_settled hconfirm hne (weightSumOf_ne_zero hne hweights) false rfl
      (fun hbusy => absurd hbusy hfilter) s

/-! ## The readers of a list -/

variable {scope : ReaderScope} {req : ReaderRequest}

/-- The node of an eligible server -/
def nodeOf (scope : ReaderScope) (req : ReaderRequest) (entry : ReaderEntry) : Option ReaderNode :=
  (evaluateReader scope req .readerUnavailable entry).1

/-- The eligible readers of a selection; none where it does not look at the servers -/
def eligible (scope : ReaderScope) (req : ReaderRequest) : List ReaderNode :=
  match refusedEarly scope req, scope.readers with
  | none, some readers => readers.servers.filterMap (nodeOf scope req)
  | _, _ => []

theorem evaluateReader_fst
    (filterStatus : ReaderStatus) (entry : ReaderEntry) :
    (evaluateReader scope req filterStatus entry).1 = nodeOf scope req entry := by
  rw [nodeOf, evaluateReader, evaluateReader]
  split
  · rfl
  · dsimp only
    split <;> rfl

theorem lagRefuses_ne
    {sample : ReaderLsnSample} {status : ReaderStatus}
    (h : lagRefuses req sample = some status) :
    status ≠ .readerGroupBusy := by
  rw [lagRefuses] at h
  split_ifs at h <;> cases h <;> decide

theorem evaluateReader_snd
    {filterStatus : ReaderStatus}
    (hfilter : filterStatus ≠ .readerGroupBusy)
    (entry : ReaderEntry) :
    (evaluateReader scope req filterStatus entry).2 ≠ .readerGroupBusy := by
  rw [evaluateReader]
  split
  · exact hfilter
  · dsimp only
    split
    · rename_i status hrefused
      simp only [readerStatusPrefer]
      split
      · exact lagRefuses_ne hrefused
      · exact hfilter
    · exact hfilter

theorem evaluateReaders_eq
    (entries : List ReaderEntry) (filterStatus : ReaderStatus)
    (hfilter : filterStatus ≠ .readerGroupBusy) :
    (evaluateReaders scope req entries filterStatus).1 = entries.filterMap (nodeOf scope req) ∧
      (evaluateReaders scope req entries filterStatus).2 ≠ .readerGroupBusy := by
  induction entries generalizing filterStatus with
  | nil =>
      exact ⟨rfl, hfilter⟩
  | cons entry rest ih =>
      obtain ⟨hnodes, hstatus⟩ := ih _ (evaluateReader_snd hfilter entry)
      refine ⟨?_, hstatus⟩
      rw [evaluateReaders, List.filterMap_cons]
      dsimp only
      rw [hnodes, evaluateReader_fst]
      cases nodeOf scope req entry <;> rfl

theorem nodeOf_some
    {entry : ReaderEntry} {node : ReaderNode}
    (h : nodeOf scope req entry = some node) :
    node.srv = entry.srv ∧ (entry.weight ≤ 10000000 → node.weight ≠ 0) := by
  rw [nodeOf, evaluateReader] at h
  split at h
  · cases h
  · rename_i hgood
    rw [not_or, Bool.not_eq_false] at hgood
    dsimp only at h
    split at h
    · cases h
    · cases h
      refine ⟨rfl, fun hweight => ?_⟩
      have hcandidate := hgood.1
      simp only [isCandidate, Bool.and_eq_true, decide_eq_true_eq] at hcandidate
      dsimp only
      omega

/-! ## The end of a selection -/

/-- What a selection reports of the readers it tried. -/
structure Reported (w : ReaderWorld σ) (nodes : List ReaderNode) (r : ReaderResult)
    (probes : List Probe) : Prop where
  once : (probes.map Probe.node).Subperm nodes
  full : ∀ p ∈ probes, p.result.serverSaturated = true → Full w p.node
  outcome :
    (r.status = .readerGroupBusy ∧ nodes.length ≤ probes.length ∧
        ∀ p ∈ probes, p.result.serverSaturated = true) ∨
      ∃ p ∈ probes, p.result.serverSaturated = false ∧ r.status ≠ .readerGroupBusy ∧
        (r.acquired = true ∨ r.srv = some p.node.srv)

theorem mergeReaderLsnObservation_foldl
    (nodes : List ReaderNode) (r : ReaderResult) :
    (nodes.foldl mergeReaderLsnObservation r).conn = r.conn ∧
      (nodes.foldl mergeReaderLsnObservation r).srv = r.srv ∧
      (nodes.foldl mergeReaderLsnObservation r).status = r.status ∧
      (nodes.foldl mergeReaderLsnObservation r).serverSaturated = r.serverSaturated ∧
      (nodes.foldl mergeReaderLsnObservation r).waitBypassAllowed = r.waitBypassAllowed := by
  induction nodes generalizing r with
  | nil =>
      exact ⟨rfl, rfl, rfl, rfl, rfl⟩
  | cons node rest ih =>
      have hone : (mergeReaderLsnObservation r node).conn = r.conn ∧
          (mergeReaderLsnObservation r node).srv = r.srv ∧
          (mergeReaderLsnObservation r node).status = r.status ∧
          (mergeReaderLsnObservation r node).serverSaturated = r.serverSaturated ∧
          (mergeReaderLsnObservation r node).waitBypassAllowed = r.waitBypassAllowed := by
        simp only [mergeReaderLsnObservation]
        split_ifs <;> exact ⟨rfl, rfl, rfl, rfl, rfl⟩
      obtain ⟨hconn, hsrv, hstatus, hsaturated, hbypass⟩ := ih (mergeReaderLsnObservation r node)
      rw [List.foldl_cons]
      exact ⟨hconn.trans hone.1, hsrv.trans hone.2.1, hstatus.trans hone.2.2.1,
        hsaturated.trans hone.2.2.2.1, hbypass.trans hone.2.2.2.2⟩

/-- The LSN observations leave the outcome of a selection. -/
theorem finish_eq
    (chosen : Chosen σ) :
    ∃ r : ReaderResult, r.conn = chosen.result.conn ∧ r.srv = chosen.result.srv ∧
      r.status = chosen.result.status ∧ r.serverSaturated = chosen.result.serverSaturated ∧
      r.waitBypassAllowed = chosen.result.waitBypassAllowed ∧
      chosen.finish req =
        (if r.acquired then r else { r with status := failedStatus req r chosen.filterStatus },
          chosen.selection) := by
  rw [Chosen.finish]
  split
  · obtain ⟨hconn, hsrv, hstatus, hsaturated, hbypass⟩ :=
      mergeReaderLsnObservation_foldl chosen.nodes
      { chosen.result with
        selectedReaderLsn := 0
        bestConsideredReaderLsn := 0
        selectedReaderLsnFresh := false
        bestConsideredReaderLsnFresh := false }
    exact ⟨_, hconn, hsrv, hstatus, hsaturated, hbypass, rfl⟩
  · exact ⟨_, rfl, rfl, rfl, rfl, rfl, rfl⟩

variable {chosen : Chosen σ}

theorem finish_nothing
    (hconn : chosen.result.conn = none)
    (hsrv : chosen.result.srv = none)
    (hstatus : chosen.result.status ≠ .readerGroupBusy)
    (hfilter : chosen.filterStatus ≠ .readerGroupBusy) :
    (chosen.finish req).1.status ≠ .readerGroupBusy := by
  obtain ⟨r, hconn', hsrv', hstatus', -, -, heq⟩ := finish_eq chosen
  rw [heq, if_neg (by rw [ReaderResult.acquired_of_conn_none (hconn'.trans hconn)]; decide),
    failedStatus, if_neg (by rw [hstatus']; exact hstatus), hsrv', hsrv]
  exact hfilter

theorem finish_reported
    (h : Settled w nodes chosen.result probes)
    (hprobes : chosen.selection.probes = probes) :
    Reported w nodes (chosen.finish req).1 (chosen.finish req).2.probes := by
  obtain ⟨r, hconn, hsrv, hstatus, hsaturated, -, heq⟩ := finish_eq chosen
  have hacquired : r.acquired = chosen.result.acquired := by
    rw [ReaderResult.acquired, ReaderResult.acquired, hconn, hstatus]
  rw [heq, hprobes]
  refine ⟨h.once, h.full, ?_⟩
  rcases h.outcome with ⟨hbusy, hnone, -, hlength, hall⟩ | ⟨p, hp, hsat, hend⟩
  · left
    rw [if_neg (by rw [hacquired, hnone]; decide), failedStatus, if_pos (hstatus.trans hbusy)]
    exact ⟨rfl, hlength, hall⟩
  · right
    refine ⟨p, hp, hsat, ?_⟩
    rcases hend with hgot | ⟨hfree, hnone, hroom, hnamed⟩
    · have hgot' := hacquired.trans hgot
      rw [if_pos hgot']
      refine ⟨?_, Or.inl hgot'⟩
      rw [ReaderResult.acquired, Bool.and_eq_true, beq_iff_eq] at hgot'
      rw [hgot'.1]
      decide
    · rw [if_neg (by rw [hacquired, hnone]; decide), failedStatus,
        if_neg (by rw [hstatus, hfree]; decide), hsrv, hnamed, hsaturated, hroom]
      refine ⟨?_, Or.inr rfl⟩
      simp only [Option.isSome_some, if_true, Bool.false_eq_true, if_false]
      split <;> decide

/-- What a choice among servers leaves, for a request that confirms. -/
structure ChosenOf (w : ReaderWorld σ) (nodes : List ReaderNode) (s : Selection σ)
    (chosen : Chosen σ) : Prop where
  filter : chosen.filterStatus ≠ .readerGroupBusy
  nothing : nodes = [] → chosen.result.conn = none ∧ chosen.result.srv = none ∧
    chosen.result.status ≠ .readerGroupBusy ∧ chosen.selection.probes = s.probes
  settled : nodes ≠ [] → ∃ more, chosen.selection.probes = s.probes ++ more ∧
    Settled w nodes chosen.result more

theorem refineNodes_eq
    (vars : ReaderVars) (hasWaitTarget : Bool) (nodes : List ReaderNode) (s : Selection σ) :
    (refineNodes w vars hasWaitTarget nodes s).2.probes = s.probes ∧
      ((refineNodes w vars hasWaitTarget nodes s).1 = true → 1 < nodes.length) := by
  rw [refineNodes.eq_def]
  split
  · refine ⟨?_, fun _ => Nat.one_lt_two⟩
    rw [refineTwoByLsnTarget]
    split_ifs <;> rfl
  · exact ⟨rfl, fun h => absurd h Bool.false_ne_true⟩

theorem chooseOfTwo_chosenOf
    (hconfirm : req.confirmReaderGroupCapacity = true)
    (entry0 entry1 : ReaderEntry) (s : Selection σ) :
    ∃ nodes, nodes.Perm ([entry0, entry1].filterMap (nodeOf scope req)) ∧
      ChosenOf w nodes s (chooseOfTwo w scope req entry0 entry1 s) := by
  have hskip : req.canSkipBusyPool = false := by
    simp [ReaderRequest.canSkipBusyPool, ReaderRequest.canSamplePair, hconfirm]
  rw [chooseOfTwo, hskip, hconfirm]
  dsimp only
  simp only [Bool.and_false, Bool.false_or, Bool.true_or, Bool.true_eq_false, and_false, if_false,
    if_true, false_and, Bool.false_eq_true]
  obtain ⟨first, peer, hfirst, hpeer, hperm⟩ : ∃ first peer,
      first = (if (weightedIndex (w.nextSequence s.world).1 entry0.weight.toNat
        entry1.weight.toNat != 0) = true then entry1 else entry0) ∧
      peer = (if (weightedIndex (w.nextSequence s.world).1 entry0.weight.toNat
        entry1.weight.toNat != 0) = true then entry0 else entry1) ∧
      [first, peer].Perm [entry0, entry1] := by
    refine ⟨_, _, rfl, rfl, ?_⟩
    split
    · exact List.Perm.swap entry0 entry1 []
    · exact List.Perm.refl _
  rw [← hfirst, ← hpeer]
  have hstatus := @evaluateReader_snd scope req .readerUnavailable (by decide) first
  have hstatus' := @evaluateReader_snd scope req _ hstatus peer
  have hnodes : (evaluateReader scope req .readerUnavailable first).1.toList ++
      (evaluateReader scope req (evaluateReader scope req .readerUnavailable first).2 peer).1.toList =
      [first, peer].filterMap (nodeOf scope req) := by
    rw [evaluateReader_fst, evaluateReader_fst]
    cases hone : nodeOf scope req first <;> cases htwo : nodeOf scope req peer <;> simp [hone, htwo]
  rw [hnodes]
  refine ⟨[first, peer].filterMap (nodeOf scope req), hperm.filterMap _, ?_⟩
  generalize [first, peer].filterMap (nodeOf scope req) = nodes
  obtain ⟨hsame, htwo⟩ := refineNodes_eq (w := w) scope.vars req.waitSpec.hasWait nodes
    { s with world := (w.nextSequence s.world).2 }
  generalize refineNodes w scope.vars req.waitSpec.hasWait nodes
    { s with world := (w.nextSequence s.world).2 } = refined at hsame htwo
  refine ⟨hstatus', fun hnil => ?_, fun hne => ?_⟩
  · rw [if_pos hnil]
    have hunavailable : ReaderStatus.readerUnavailable ≠ .readerGroupBusy := by decide
    exact ⟨rfl, rfl, hunavailable, hsame⟩
  · have hidx : (if refined.1 = true then 1 else 0) < nodes.length := by
      split
      · rename_i hother
        exact htwo hother
      · exact List.length_pos_iff.mpr hne
    obtain ⟨more, hmore, hsettled⟩ := takeConnFromReaderNodes_settled (w := w) hidx false refined.2
    rw [if_neg hne]
    generalize takeConnFromReaderNodes w (poolRequest scope req) nodes
      (some (if refined.1 = true then 1 else 0)) none true false refined.2 = taken at hmore hsettled
    refine ⟨more, hmore.trans (by rw [hsame]), ?_⟩
    dsimp only
    split
    · exact hsettled.congr rfl rfl rfl rfl
    · exact hsettled

theorem chooseOfMany_chosenOf
    (hconfirm : req.confirmReaderGroupCapacity = true)
    (servers : List ReaderEntry)
    (hweights : ∀ entry ∈ servers, entry.weight ≤ 10000000)
    (s : Selection σ) :
    ∃ nodes, nodes.Perm (servers.filterMap (nodeOf scope req)) ∧
      ChosenOf w nodes s (chooseOfMany w scope req servers s) := by
  have hsample : samplePair w scope req servers s = (none, s) := by
    rw [samplePair.eq_def]
    split
    · rfl
    · rw [if_pos (Or.inl (by simp [ReaderRequest.canSamplePair, hconfirm]))]
  rw [chooseOfMany, hsample]
  dsimp only
  obtain ⟨start, hstart, hprobes⟩ : ∃ start : Nat × Selection σ,
      start = (if 2 < servers.length then
        ((s.rand w).1 % 2 ^ 32 % servers.length, (s.rand w).2) else (0, s)) ∧
      start.2.probes = s.probes := by
    refine ⟨_, rfl, ?_⟩
    split <;> rfl
  rw [← hstart]
  have hround : (servers.drop start.1 ++ servers.take start.1).Perm servers := by
    have hcomm : (servers.drop start.1 ++ servers.take start.1).Perm
        (servers.take start.1 ++ servers.drop start.1) := List.perm_append_comm
    rw [List.take_append_drop] at hcomm
    exact hcomm
  obtain ⟨hnodes, hfilter⟩ := evaluateReaders_eq
    (servers.drop start.1 ++ servers.take start.1) .readerUnavailable (by decide)
  have hperm := hround.filterMap (nodeOf scope req)
  rw [← hnodes] at hperm
  have hpositive : ∀ node ∈ (evaluateReaders scope req
      (servers.drop start.1 ++ servers.take start.1) .readerUnavailable).1, node.weight ≠ 0 := by
    intro node hnode
    obtain ⟨entry, hentry, hsome⟩ := List.mem_filterMap.mp (hperm.mem_iff.mp hnode)
    exact (nodeOf_some hsome).2 (hweights entry hentry)
  generalize evaluateReaders scope req (servers.drop start.1 ++ servers.take start.1)
    .readerUnavailable = evaluated at hfilter hperm hpositive
  refine ⟨evaluated.1, hperm, hfilter, fun hnil => ?_, fun hne => ?_⟩
  · dsimp only
    rw [hnil, preferReady, List.any_nil, Bool.and_false, if_neg Bool.false_ne_true]
    dsimp only
    rw [if_neg (by simp [ReaderResult.acquired]), tryFallback, getConnFromReaderNodes,
      if_pos (Or.inl rfl)]
    exact ⟨rfl, rfl, hfilter, hprobes⟩
  · rw [← hprobes]
    exact preferReady_settled hconfirm hne hpositive hfilter start.2

/-- What a selection comes to: it names nothing and asks nobody without an eligible reader, and
reports what it found otherwise. -/
def Ends (w : ReaderWorld σ) (readers : List ReaderNode) (r : ReaderResult × Selection σ) : Prop :=
  (readers = [] ∧ r.1.status ≠ .readerGroupBusy ∧ r.2.probes = []) ∨
    readers ≠ [] ∧ ∃ nodes, nodes.Perm readers ∧ Reported w nodes r.1 r.2.probes

theorem ChosenOf.ends
    {readers nodes : List ReaderNode} {s : σ}
    (h : ChosenOf w nodes ⟨s, []⟩ chosen)
    (hperm : nodes.Perm readers) :
    Ends w readers (chosen.finish req) := by
  by_cases hnil : nodes = []
  · obtain ⟨hconn, hsrv, hstatus, hprobes⟩ := h.nothing hnil
    obtain ⟨r, -, -, -, -, -, heq⟩ := finish_eq chosen
    refine Or.inl ⟨?_, finish_nothing hconn hsrv hstatus h.filter, ?_⟩
    · exact List.nil_perm.mp (hnil ▸ hperm)
    · rw [heq]
      exact hprobes
  · obtain ⟨more, hmore, hsettled⟩ := h.settled hnil
    rw [List.nil_append] at hmore
    refine Or.inr ⟨fun hempty => hnil (List.perm_nil.mp (hempty ▸ hperm)), nodes, hperm, ?_⟩
    exact finish_reported hsettled hmore

theorem refusedEarly_ne
    {status : ReaderStatus}
    (h : refusedEarly scope req = some status) :
    status ≠ .readerGroupBusy := by
  rw [refusedEarly] at h
  split_ifs at h <;> cases h <;> decide

theorem tryAcquireReaderConnection_ends
    (hconfirm : req.confirmReaderGroupCapacity = true)
    (s : σ) :
    Ends w (eligible scope req) (tryAcquireReaderConnection w scope req ⟨s, []⟩) := by
  rw [tryAcquireReaderConnection, eligible]
  cases hearly : refusedEarly scope req with
  | some status =>
      exact Or.inl ⟨rfl, refusedEarly_ne hearly, rfl⟩
  | none =>
      have hunavailable : ReaderStatus.readerUnavailable ≠ .readerGroupBusy := by decide
      cases hreaders : scope.readers with
      | none =>
          exact Or.inl ⟨rfl, hunavailable, rfl⟩
      | some readers =>
          dsimp only
          by_cases hempty : readers.servers = []
          · rw [if_pos hempty, hempty]
            exact Or.inl ⟨rfl, hunavailable, rfl⟩
          · rw [if_neg hempty]
            split
            · rename_i entry0 entry1 hservers hstart
              rw [hservers]
              obtain ⟨nodes, hperm, hchosen⟩ := chooseOfTwo_chosenOf (w := w)
                hconfirm entry0 entry1 ⟨s, []⟩
              exact hchosen.ends hperm
            · obtain ⟨nodes, hperm, hchosen⟩ := chooseOfMany_chosenOf (w := w)
                hconfirm readers.servers readers.weights ⟨s, []⟩
              exact hchosen.ends hperm

theorem eligible_nodup :
    ((eligible scope req).map ReaderNode.srv).Nodup := by
  rw [eligible]
  split
  · rename_i readers _ _
    refine List.Nodup.sublist ?_ readers.distinct
    induction readers.servers with
    | nil =>
        exact List.Sublist.refl _
    | cons entry rest ih =>
        rw [List.filterMap_cons, List.map_cons]
        cases hnode : nodeOf scope req entry with
        | none =>
            exact ih.cons _
        | some node =>
            dsimp only
            rw [List.map_cons, (nodeOf_some hnode).1]
            exact ih.cons_cons _
  · exact List.nodup_nil

/-- Pools without a free connection, whose used connections fill them. -/
def fullWorld : ReaderWorld Unit where
  rand s := (0, s)
  nextSequence s := (0, s)
  usedCount _ s := (1, s)
  takeLocal _ s := (none, s)
  tryLock _ s := (true, s)
  takeReusable _ _ s := (none, s)
  counts _ _ := { used := 1 }
  usable _ _ := true
  acceptable _ _ := true
  drop _ _ s := s

def readersWith (status0 status1 status2 : ServerStatus) : ReaderScope where
  readers := some
    { servers := [{ srv := 0, fastStatus := status0 }, { srv := 1, fastStatus := status1 },
        { srv := 2, fastStatus := status2 }]
      distinct := by simp
      weights := by simp }

end Readers

end PolarProxy
