import PolarProxy.ReaderWakes

/-!
# No orphaned reservation

A reservation keeps a connection out of the pool until its worker takes it or
gives it up.  So whenever a server holds a reservation, someone must still be going
to tell the worker, or the worker must know.

**Results.** `ReaderPool.WakeInv`, `reader_reservation_covered`.
-/

namespace PolarProxy

open Transition

/-- The worker will hear of a wake, or knows its reservation. -/
def ReaderWorker.Covers (w : ReaderWorker) (wake : ReservationWake) : Prop :=
  wake ∈ w.wakes ∨ wake ∈ w.drained ∨
    ∃ r, w.reservation = some r ∧ r.token = wake.token ∧ r.server = some wake.server

/-- The step registers a request. -/
def ReaderOp.registers : ReaderOp → Bool
  | .register _ _ _ _ _ => true
  | _ => false

structure WorkerInv (granted : List (Nat × Nat)) (inQueue : Option ReservationWake)
    (worker : Nat) (w : ReaderWorker) : Prop where
  addressed : ∀ wake ∈ w.wakes ++ w.drained,
    wake.workerIndex = worker ∧ (wake.server, wake.token) ∈ granted
  recorded : ∀ r srv, w.reservation = some r → r.server = some srv → (srv, r.token) ∈ granted
  flagged : w.wakes ≠ [] → w.wakePending = true ∨ w.draining = true
  pushed : ∀ wake, inQueue = some wake → wake.workerIndex = worker →
    w.life = .running ∧ ∃ ys, w.wakes = ys ++ [wake] ∧ (ys ≠ [] → w.draining = true)
  phase : w.draining = true → w.drained = []
  exiting : w.life = .exiting ∨ w.life = .gone →
    w.wakePending = false ∧ (w.draining = false → w.wakes = [])
  gone : w.life = .gone → w.draining = false ∧ w.drained = [] ∧ w.reservation = none

variable {w : ReaderWorker}

theorem WorkerInv.mono
    {granted granted' : List (Nat × Nat)} {inQueue : Option ReservationWake}
    {worker : Nat}
    (h : WorkerInv granted inQueue worker w)
    (hsub : granted ⊆ granted') :
    WorkerInv granted' inQueue worker w :=
  { h with
    addressed := fun wake hw => ⟨(h.addressed wake hw).1, hsub (h.addressed wake hw).2⟩
    recorded := fun r srv hr hs => hsub (h.recorded r srv hr hs) }

namespace ReaderPool

/-- A thread is routing the wake, or its worker covers it. -/
def Covers (s : ReaderPool) (wake : ReservationWake) : Prop :=
  wake ∈ s.routing ∨ wake ∈ s.refused ∨ (s.workers wake.workerIndex).Covers wake

/-- The invariant in the middle of a step that holds the wake `spare`, and will
take `credit` more steps for it. -/
structure WakeInv (s : ReaderPool) (spare : Option ReservationWake) (credit : Nat) : Prop where
  core : s.core.Inv
  workers : ∀ i, WorkerInv s.core.granted s.inQueue i (s.workers i)
  known : ∀ wake ∈ s.routing ++ s.refused, (wake.server, wake.token) ∈ s.core.granted
  covered : ∀ srv t r, (s.core.servers srv).reservations.lookup t = some r →
    s.Covers ⟨r.workerIndex, t, srv⟩ ∨ spare = some ⟨r.workerIndex, t, srv⟩
  budget : s.routed + 3 * s.routing.length + 2 * s.inQueue.toList.length + s.refused.length +
    credit ≤ 3 * s.core.granted.length

variable {credit : Nat}
variable {s s' : ReaderPool} {spare : Option ReservationWake} {hostgroup : Nat → Nat}
variable {srv worker : Nat} {result : PoolResult} {check : RequestCheck}

theorem WakeInv.setWorker
    {spare' : Option ReservationWake}
    (h : WakeInv s spare credit)
    (hw : WorkerInv s.core.granted s.inQueue worker w)
    (hspare : ∀ x, spare = some x → spare' = some x ∨ x.workerIndex = worker ∧ w.Covers x)
    (hcovers : ∀ wake : ReservationWake, wake.workerIndex = worker →
      (s.workers worker).Covers wake → w.Covers wake ∨ spare' = some wake) :
    WakeInv (s.setWorker worker w) spare' credit := by
  refine { h with workers := ?_, covered := ?_ }
  · intro i
    by_cases hi : i = worker
    · subst hi
      simp only [ReaderPool.setWorker, Function.update_self]
      exact hw
    · simp only [ReaderPool.setWorker, Function.update_of_ne hi]
      exact h.workers i
  · intro srv t r hr
    rcases h.covered srv t r hr with (hroute | hrefused | hcov) | hs
    · exact Or.inl (Or.inl hroute)
    · exact Or.inl (Or.inr (Or.inl hrefused))
    · by_cases hi : r.workerIndex = worker
      · subst hi
        refine (hcovers ⟨r.workerIndex, t, srv⟩ rfl hcov).imp_left ?_
        intro hc
        refine Or.inr (Or.inr ?_)
        simp only [ReaderPool.setWorker, Function.update_self]
        exact hc
      · refine Or.inl (Or.inr (Or.inr ?_))
        simp only [ReaderPool.setWorker, Function.update_of_ne hi]
        exact hcov
    · refine (hspare _ hs).symm.imp_left ?_
      rintro ⟨rfl, hc⟩
      refine Or.inr (Or.inr ?_)
      simp only [ReaderPool.setWorker, Function.update_self]
      exact hc

theorem mem_wakesOf
    {wake : Option CapacityRequest} {request : CapacityRequest}
    (h : wake = some request) :
    ⟨request.workerIndex, request.token, srv⟩ ∈ wakesOf srv wake := by
  simp [wakesOf, h]

theorem WakeInv.applyResult
    (h : WakeInv s spare credit)
    (hspec : (s.core.servers srv).StepSpec (s.core.requests (hostgroup srv)) result) :
    WakeInv (s.applyResult hostgroup srv result) spare credit := by
  have hsub : s.core.granted ⊆ (s.core.apply srv (hostgroup srv) result).granted :=
    List.subset_append_left _ _
  refine ⟨h.core.apply hspec, fun i => (h.workers i).mono hsub, ?_, ?_, ?_⟩
  · intro wake hw
    simp only [ReaderPool.applyResult, List.mem_append] at hw
    rcases hw with (hw | hw) | hw
    · exact hsub (h.known wake (List.mem_append_left _ hw))
    · simp only [wakesOf, Option.mem_toList, Option.map_eq_some_iff] at hw
      obtain ⟨request, hwake, rfl⟩ := hw
      simp [ReaderPool.applyResult, PoolSystem.apply, hwake]
    · exact hsub (h.known wake (List.mem_append_right _ hw))
  · intro srv' t r hr
    have hold : (s.core.servers srv').reservations.lookup t = some r →
        (s.applyResult hostgroup srv result).Covers ⟨r.workerIndex, t, srv'⟩ ∨
          spare = some ⟨r.workerIndex, t, srv'⟩ := by
      intro hr'
      refine (h.covered srv' t r hr').imp_left ?_
      rintro (hroute | hrest)
      · exact Or.inl (List.mem_append_left _ hroute)
      · exact Or.inr hrest
    by_cases hs : srv' = srv
    · subst hs
      simp only [ReaderPool.applyResult, PoolSystem.apply, Function.update_self] at hr
      rcases hspec.outcome with ⟨-, -, -, hheld⟩ | ⟨request, -, hwake, -, hres⟩
      · exact hold (hheld t r hr)
      · rcases hres.held t r hr with hr' | ⟨rfl, hw⟩
        · exact hold hr'
        · rw [hw]
          exact Or.inl (Or.inl (List.mem_append_right _ (mem_wakesOf hwake)))
    · simp only [ReaderPool.applyResult, PoolSystem.apply, Function.update_of_ne hs] at hr
      exact hold hr
  · have hbudget := h.budget
    simp only [ReaderPool.applyResult, PoolSystem.apply, wakesOf, List.length_append]
    cases result.wake with
    | none =>
        simpa using hbudget
    | some request =>
        simp only [Option.map_some, Option.toList_some, List.length_singleton]
        omega

variable {wake : ReservationWake}

theorem WakeInv.dropSpare
    (h : WakeInv s (some wake) credit)
    (hunheld : (s.core.servers wake.server).Unheld wake.workerIndex wake.token) :
    WakeInv s none credit := by
  refine { h with covered := ?_ }
  intro srv t r hr
  rcases h.covered srv t r hr with hc | hs
  · exact Or.inl hc
  · obtain rfl := Option.some.inj hs
    exact absurd rfl (hunheld r hr)

theorem WakeInv.cancelOnServer
    (h : WakeInv s (some wake) credit) :
    WakeInv (s.cancelOnServer hostgroup wake.server wake.workerIndex wake.token check) none
      credit := by
  obtain ⟨hspec, hunheld⟩ := (h.core.pools wake.server).cancelReservation
    (h.core.pending_tokens _) check
  refine WakeInv.dropSpare (h.applyResult hspec) ?_
  change (Function.update s.core.servers wake.server _ wake.server).Unheld _ _
  rw [Function.update_self]
  exact hunheld

/-! ## Routing -/

theorem WakeInv.unroute
    (h : WakeInv s none 0)
    (hin : wake ∈ s.routing) :
    WakeInv { s with routing := s.routing.erase wake, routed := s.routed + 1 } (some wake) 2 := by
  have hlen := List.length_erase_of_mem hin
  have hpos := List.length_pos_of_mem hin
  refine { h with known := ?_, covered := ?_, budget := ?_ }
  · intro x hx
    apply h.known
    rcases List.mem_append.mp hx with hx | hx
    · exact List.mem_append_left _ (List.mem_of_mem_erase hx)
    · exact List.mem_append_right _ hx
  · intro srv t r hr
    rcases h.covered srv t r hr with (hroute | hrest) | hs
    · by_cases hx : (⟨r.workerIndex, t, srv⟩ : ReservationWake) = wake
      · exact Or.inr (by rw [hx])
      · exact Or.inl (Or.inl ((List.mem_erase_of_ne hx).mpr hroute))
    · exact Or.inl (Or.inr hrest)
    · cases hs
  · have := h.budget
    dsimp only
    omega

theorem WakeInv.refuse
    (h : WakeInv s (some wake) (credit + 1))
    (hknown : (wake.server, wake.token) ∈ s.core.granted) :
    WakeInv { s with refused := wake :: s.refused } none credit := by
  refine { h with known := ?_, covered := ?_, budget := ?_ }
  · intro x hx
    simp only [List.mem_append, List.mem_cons] at hx
    rcases hx with hx | rfl | hx
    · exact h.known x (List.mem_append_left _ hx)
    · exact hknown
    · exact h.known x (List.mem_append_right _ hx)
  · intro srv t r hr
    rcases h.covered srv t r hr with (hroute | hrefused | hcov) | hs
    · exact Or.inl (Or.inl hroute)
    · exact Or.inl (Or.inr (Or.inl (List.mem_cons_of_mem _ hrefused)))
    · exact Or.inl (Or.inr (Or.inr hcov))
    · obtain rfl := Option.some.inj hs
      exact Or.inl (Or.inr (Or.inl (List.mem_cons_self ..)))
  · have := h.budget
    simp only [List.length_cons]
    omega

theorem WakeInv.unrefuse
    (h : WakeInv s none 0)
    (hin : wake ∈ s.refused) :
    WakeInv { s with refused := s.refused.erase wake, routed := s.routed + 1 } (some wake) 0 := by
  have hlen := List.length_erase_of_mem hin
  have hpos := List.length_pos_of_mem hin
  refine { h with known := ?_, covered := ?_, budget := ?_ }
  · intro x hx
    apply h.known
    rcases List.mem_append.mp hx with hx | hx
    · exact List.mem_append_left _ hx
    · exact List.mem_append_right _ (List.mem_of_mem_erase hx)
  · intro srv t r hr
    rcases h.covered srv t r hr with (hroute | hrefused | hcov) | hs
    · exact Or.inl (Or.inl hroute)
    · by_cases hx : (⟨r.workerIndex, t, srv⟩ : ReservationWake) = wake
      · exact Or.inr (by rw [hx])
      · exact Or.inl (Or.inr (Or.inl ((List.mem_erase_of_ne hx).mpr hrefused)))
    · exact Or.inl (Or.inr (Or.inr hcov))
    · cases hs
  · have := h.budget
    dsimp only
    omega

theorem WakeInv.lower
    {credit' : Nat}
    (h : WakeInv s spare credit)
    (hle : credit' ≤ credit) :
    WakeInv s spare credit' :=
  { h with budget := Nat.le_trans (Nat.add_le_add_left hle _) h.budget }

theorem running_of_accepts
    (h : s.accepts worker = true) :
    (s.workers worker).life = .running := by
  simp only [accepts, Bool.and_eq_true, beq_iff_eq] at h
  exact h.1.2

theorem WakeInv.holdQueue
    (h : WakeInv s none 2)
    (hfree : s.inQueue = none)
    (hpushed : (s.workers wake.workerIndex).life = .running ∧
      ∃ ys, (s.workers wake.workerIndex).wakes = ys ++ [wake] ∧
        (ys ≠ [] → (s.workers wake.workerIndex).draining = true)) :
    WakeInv { s with inQueue := some wake } none 0 := by
  refine { h with workers := ?_, budget := ?_ }
  · intro i
    refine { h.workers i with pushed := ?_ }
    intro x hx hi
    obtain rfl := Option.some.inj hx
    subst hi
    exact hpushed
  · have := h.budget
    rw [hfree] at this
    simp only [Option.toList_some, List.length_singleton, Option.toList_none,
      List.length_nil] at this ⊢
    omega

theorem WakeInv.queueWake
    (h : WakeInv s none 0)
    (hstep : s.step hostgroup (.queueWake wake) = some s') :
    WakeInv s' none 0 := by
  simp only [ReaderPool.step, Option.ite_none_left_eq_some, Bool.or_eq_true, decide_eq_true_eq,
    not_or, not_not, Bool.not_eq_true, Option.isSome_eq_false_iff, Option.isNone_iff_eq_none]
    at hstep
  obtain ⟨⟨hin, hfree⟩, hstep⟩ := hstep
  have hknown := h.known wake (List.mem_append_left _ hin)
  have hroute := h.unroute hin
  have hw := h.workers wake.workerIndex
  rw [hfree] at hw
  have haddressed : ∀ x ∈ (s.workers wake.workerIndex).wakes ++ [wake] ++
      (s.workers wake.workerIndex).drained,
      x.workerIndex = wake.workerIndex ∧ (x.server, x.token) ∈ s.core.granted := by
    intro x hx
    simp only [List.mem_append, List.mem_singleton] at hx
    rcases hx with (hx | rfl) | hx
    · exact hw.addressed x (List.mem_append_left _ hx)
    · exact ⟨rfl, hknown⟩
    · exact hw.addressed x (List.mem_append_right _ hx)
  split at hstep
  · obtain rfl := Option.some.inj hstep
    exact (hroute.lower (by omega)).refuse hknown
  · rename_i haccepts
    have hrunning : (s.workers wake.workerIndex).life = .running :=
      running_of_accepts (s := { s with
        routing := s.routing.erase wake, routed := s.routed + 1 }) (by simpa using haccepts)
    -- what the push does to the worker, whether or not it sets the flag
    have hpush : ∀ {pending : Bool}, pending = true →
        WakeInv ({ s with routing := s.routing.erase wake, routed := s.routed + 1 }.setWorker
          wake.workerIndex { s.workers wake.workerIndex with
            wakes := (s.workers wake.workerIndex).wakes ++ [wake], wakePending := pending })
          none 2 := by
      intro pending hpending
      refine hroute.setWorker ?_ ?_ ?_
      · dsimp only
        rw [hfree]
        exact { hw with
          addressed := haddressed
          flagged := fun _ => Or.inl hpending
          pushed := fun x hx => by cases hx
          exiting := by simp [hrunning] }
      · intro x hx
        obtain rfl := Option.some.inj hx
        exact Or.inr ⟨rfl, Or.inl (by simp)⟩
      · rintro x - (hx | hx)
        · exact Or.inl (Or.inl (List.mem_append_left _ hx))
        · exact Or.inl (Or.inr hx)
    split at hstep
    · rename_i hpending
      obtain rfl := Option.some.inj hstep
      exact (hpush hpending).lower (Nat.zero_le _)
    · rename_i hclear
      obtain rfl := Option.some.inj hstep
      refine (hpush rfl).holdQueue hfree ?_
      simp only [ReaderPool.setWorker, Function.update_self]
      refine ⟨hrunning, _, rfl, ?_⟩
      intro hne
      exact (hw.flagged hne).resolve_left hclear

theorem WakeInv.writePipe
    {written : Bool}
    (h : WakeInv s none 0)
    (hstep : s.step hostgroup (.writePipe written) = some s') :
    WakeInv s' none 0 := by
  simp only [ReaderPool.step] at hstep
  split at hstep
  · cases hstep
  · rename_i wake hqueue
    have hfree : WakeInv { s with inQueue := none, routed := s.routed + 1 } none 1 := by
      refine { h with workers := ?_, budget := ?_ }
      · intro i
        exact { h.workers i with pushed := fun x hx => by cases hx }
      · have := h.budget
        rw [hqueue] at this
        simp only [Option.toList_some, List.length_singleton, Option.toList_none,
          List.length_nil] at this ⊢
        omega
    obtain ⟨hrunning, ys, hwakes, hys⟩ :=
      (h.workers wake.workerIndex).pushed wake hqueue rfl
    have hw := hfree.workers wake.workerIndex
    have hmem : wake ∈ (s.workers wake.workerIndex).wakes := by
      rw [hwakes]
      simp
    have hknown := (hw.addressed wake (List.mem_append_left _ hmem)).2
    split at hstep
    · obtain rfl := Option.some.inj hstep
      exact hfree.lower (Nat.zero_le _)
    · obtain rfl := Option.some.inj hstep
      refine WakeInv.refuse (hfree.setWorker ?_ (fun x hx => by cases hx) ?_)
        hknown
      · rw [hwakes, List.dropLast_concat]
        refine { hw with
          addressed := ?_
          flagged := fun hne => Or.inr (hys hne)
          pushed := fun x hx => by cases hx
          exiting := by simp [hrunning] }
        intro x hx
        apply hw.addressed
        dsimp only
        rw [hwakes]
        simp only [List.mem_append] at hx ⊢
        rcases hx with hx | hx
        · exact Or.inl (Or.inl hx)
        · exact Or.inr hx
      · rintro x - (hx | hx)
        · dsimp only at hx
          rw [hwakes, List.mem_append, List.mem_singleton] at hx
          rcases hx with hx | rfl
          · refine Or.inl (Or.inl ?_)
            rw [hwakes, List.dropLast_concat]
            exact hx
          · exact Or.inr rfl
        · exact Or.inl (Or.inr hx)

/-! ## Workers -/

theorem WakeInv.clearReservation
    (h : WakeInv s none credit)
    (hw : s.workers worker = w)
    (hspare : ∀ r srv, w.reservation = some r → r.server = some srv →
      spare = some ⟨worker, r.token, srv⟩) :
    WakeInv (s.setWorker worker { w with reservation := none }) spare credit := by
  subst hw
  refine h.setWorker ?_ (fun x hx => by cases hx) ?_
  · exact { h.workers worker with
      recorded := fun r srv hr => by cases hr
      gone := fun hgone =>
        ⟨((h.workers worker).gone hgone).1, ((h.workers worker).gone hgone).2.1, rfl⟩ }
  · rintro ⟨i, t, srv⟩ rfl (hx | hx | ⟨r, hr, rfl, hs⟩)
    · exact Or.inl (Or.inl hx)
    · exact Or.inl (Or.inr (Or.inl hx))
    · exact Or.inr (hspare r srv hr hs)

theorem WakeInv.cancelHeld
    (h : WakeInv s none 0) :
    WakeInv (s.cancelHeld hostgroup worker check) none 0 ∧
      (s.cancelHeld hostgroup worker check).workers worker =
        { s.workers worker with reservation := none } ∧
      (s.cancelHeld hostgroup worker check).inQueue = s.inQueue := by
  rw [ReaderPool.cancelHeld]
  dsimp only
  split
  · rename_i hnone
    refine ⟨h, ?_, rfl⟩
    rw [← hnone]
  · rename_i r hr
    split
    · rename_i srv hsrv
      have hclear := h.clearReservation rfl (by
          intro r' srv' hr' hs'
          obtain rfl := Option.some.inj (hr.symm.trans hr')
          obtain rfl := Option.some.inj (hsrv.symm.trans hs')
          rfl)
      refine ⟨hclear.cancelOnServer, ?_, rfl⟩
      simp [ReaderPool.cancelOnServer, ReaderPool.applyResult, ReaderPool.setWorker]
    · rename_i hsrv
      have hclear : WakeInv _ none _ := h.clearReservation rfl (by
        intro r' srv' hr' hs'
        obtain rfl := Option.some.inj (hr.symm.trans hr')
        rw [hsrv] at hs'
        cases hs')
      split
      · refine ⟨hclear, ?_, rfl⟩
        simp [ReaderPool.setWorker]
      · rename_i requests hrequests
        obtain ⟨request, -, -, -, rfl⟩ := ServerPool.cancelRequest_some hrequests
        refine ⟨{ hclear with core := h.core.fewerRequests List.erase_sublist }, ?_, rfl⟩
        simp [ReaderPool.setWorker]

theorem WakeInv.beginDrain
    (h : WakeInv s none 0)
    (hstep : s.step hostgroup (.beginDrain worker) = some s') :
    WakeInv s' none 0 := by
  have hw := h.workers worker
  simp only [ReaderPool.step, Option.ite_none_left_eq_some, Option.some.injEq] at hstep
  obtain ⟨hguard, rfl⟩ := hstep
  simp only [Bool.or_eq_true, Bool.and_eq_true, decide_eq_true_eq, Bool.not_eq_true', not_or,
    not_and, not_not, Bool.not_eq_false, ReaderWorker.idle, List.isEmpty_iff] at hguard
  obtain ⟨hlife, hdraining, hdrained⟩ := hguard
  refine h.setWorker ?_ (fun x hx => by cases hx) ?_
  · cases hpending : (s.workers worker).wakePending with
    | true =>
        by_cases hl : (s.workers worker).life = .detached
        · simp only [hl, if_true]
          exact { hw with
            flagged := fun _ => Or.inr rfl
            pushed := fun x hx hi => absurd (hw.pushed x hx hi).1 (by rw [hl]; decide)
            phase := fun _ => hdrained
            exiting := fun _ => ⟨rfl, fun hd => by cases hd⟩
            gone := fun hg => by cases hg }
        · have hr : (s.workers worker).life = .running := by
            by_contra hne
            exact hl (hlife hne)
          simp only [if_neg hl, hpending, if_true]
          exact { hw with
            flagged := fun _ => Or.inr rfl
            pushed := fun x hx hi => by
              obtain ⟨hrun, ys, hys, -⟩ := hw.pushed x hx hi
              exact ⟨hrun, ys, hys, fun _ => rfl⟩
            phase := fun _ => hdrained
            exiting := by simp [hr]
            gone := by simp [hr] }
    | false =>
        have hempty : (s.workers worker).wakes = [] := by
          by_contra hne
          rcases hw.flagged hne with hp | hd
          · rw [hpending] at hp
            cases hp
          · rw [hdraining] at hd
            cases hd
        by_cases hl : (s.workers worker).life = .detached
        · simp only [hl, if_true, Bool.false_eq_true, if_false]
          exact { hw with
            flagged := fun hne => absurd hempty hne
            pushed := fun x hx hi => absurd (hw.pushed x hx hi).1 (by rw [hl]; decide)
            exiting := fun _ => ⟨rfl, fun _ => hempty⟩
            gone := fun hg => by cases hg }
        · simp only [if_neg hl, hpending, Bool.false_eq_true, if_false]
          exact hw
  · intro x _ hc
    left
    simp only [ReaderWorker.Covers] at hc ⊢
    split_ifs <;> exact hc

theorem WakeInv.swapWakes
    (h : WakeInv s none 0)
    (hstep : s.step hostgroup (.swapWakes worker) = some s') :
    WakeInv s' none 0 := by
  have hw := h.workers worker
  simp only [ReaderPool.step, Option.ite_none_left_eq_some, Option.some.injEq, Bool.or_eq_true,
    decide_eq_true_eq, Bool.not_eq_true', not_or, Bool.not_eq_false] at hstep
  obtain ⟨⟨hdraining, hqueue⟩, rfl⟩ := hstep
  have hdrained := hw.phase hdraining
  refine h.setWorker ?_ (fun x hx => by cases hx) ?_
  · refine { hw with
      addressed := ?_
      flagged := fun hne => absurd rfl hne
      pushed := ?_
      phase := fun hd => by cases hd
      exiting := fun hl => ⟨(hw.exiting hl).1, fun _ => rfl⟩
      gone := ?_ }
    · intro x hx
      exact hw.addressed x (List.mem_append_left _ (by simpa using hx))
    · intro x hx hi
      exact absurd (by rw [hx, Option.map_some, hi]) hqueue
    · intro hg
      rw [(hw.gone hg).1] at hdraining
      cases hdraining
  · rintro x - (hx | hx | hx)
    · exact Or.inl (Or.inr (Or.inl hx))
    · rw [hdrained] at hx
      exact absurd hx List.not_mem_nil
    · exact Or.inl (Or.inr (Or.inr hx))

/-- A processed wake completes the reservation of the worker, or is cancelled. -/
theorem WakeInv.applyWake
    (h : WakeInv s none 0)
    (hstep : s.step hostgroup (.applyWake worker check) = some s') :
    WakeInv s' none 0 := by
  have hw := h.workers worker
  simp only [ReaderPool.step] at hstep
  split at hstep
  · cases hstep
  · rename_i wake rest hdrained
    have haddressed : ∀ x ∈ (s.workers worker).wakes ++ rest,
        x.workerIndex = worker ∧ (x.server, x.token) ∈ s.core.granted := by
      intro x hx
      apply hw.addressed
      rw [hdrained]
      rcases List.mem_append.mp hx with hx | hx
      · exact List.mem_append_left _ hx
      · exact List.mem_append_right _ (List.mem_cons_of_mem _ hx)
    obtain ⟨hindex, hknown⟩ := hw.addressed wake (by rw [hdrained]; simp)
    have hnotDraining : (s.workers worker).draining ≠ true := by
      intro hd
      rw [hw.phase hd] at hdrained
      cases hdrained
    have hnotGone : (s.workers worker).life ≠ .gone := by
      intro hg
      rw [(hw.gone hg).2.1] at hdrained
      cases hdrained
    split at hstep
    · rename_i hmatch
      obtain rfl := Option.some.inj hstep
      obtain ⟨r, hr, htoken⟩ := Option.map_eq_some_iff.mp hmatch
      refine h.setWorker ?_ (fun x hx => by cases hx) ?_
      · refine { hw with
          addressed := haddressed
          recorded := ?_
          phase := fun hd => absurd hd hnotDraining
          gone := fun hg => absurd hg hnotGone }
        intro r' srv hr' hs
        simp only [hr, Option.map_some, Option.some.injEq] at hr'
        subst hr'
        obtain rfl := Option.some.inj hs
        rw [htoken]
        exact hknown
      · rintro ⟨i, t, srv⟩ rfl (hx | hx | ⟨r', hr', ht, hs⟩)
        · exact Or.inl (Or.inl hx)
        · rw [hdrained] at hx
          rcases List.mem_cons.mp hx with rfl | hx
          · exact Or.inl (Or.inr (Or.inr
              ⟨{ r with server := some srv }, by rw [hr]; rfl, htoken, rfl⟩))
          · exact Or.inl (Or.inr (Or.inl hx))
        · -- a token is granted on one server
          obtain rfl := Option.some.inj (hr.symm.trans hr')
          have hsame : (srv, r.token) = (wake.server, wake.token) :=
            List.inj_on_of_nodup_map h.core.grantedOnce (hw.recorded r srv hr hs) hknown htoken
          refine Or.inl (Or.inr (Or.inr
            ⟨{ r with server := some wake.server }, by rw [hr]; rfl, ht, ?_⟩))
          exact congrArg some (congrArg Prod.fst hsame).symm
    · obtain rfl := Option.some.inj hstep
      have hspare : WakeInv (s.setWorker worker { s.workers worker with drained := rest })
          (some wake) 0 := by
        refine h.setWorker ?_ (fun x hx => by cases hx) ?_
        · exact { hw with
            addressed := haddressed
            phase := fun hd => absurd hd hnotDraining
            gone := fun hg => absurd hg hnotGone }
        · rintro x - (hx | hx | hx)
          · exact Or.inl (Or.inl hx)
          · rw [hdrained] at hx
            rcases List.mem_cons.mp hx with rfl | hx
            · exact Or.inr rfl
            · exact Or.inl (Or.inr (Or.inl hx))
          · exact Or.inl (Or.inr (Or.inr hx))
      rw [← hindex] at hspare ⊢
      exact hspare.cancelOnServer

theorem WakeInv.takeLocal
    (h : WakeInv s none 0)
    (hstep : s.step hostgroup (.takeLocal worker) = some s') :
    WakeInv s' none 0 := by
  simp only [ReaderPool.step, Option.ite_none_left_eq_some] at hstep
  obtain ⟨-, hstep⟩ := hstep
  split at hstep
  · rename_i token hid srv hr
    obtain rfl := Option.some.inj hstep
    obtain ⟨hkeeps, hunheld, -⟩ := (h.core.pools srv).takeReservation
      (s.core.requests (hostgroup srv)) worker token
    generalize ((s.core.servers srv).takeReservation
      (s.core.requests (hostgroup srv)) worker token) = taken at hkeeps hunheld ⊢
    have hspec : (s.core.servers srv).StepSpec (s.core.requests (hostgroup srv))
        { pool := taken.2.2, requests := s.core.requests (hostgroup srv), given := taken.2.1 } :=
      hkeeps.stepSpec
    have htaken := h.applyResult hspec
    split
    · exact htaken
    · have hclear := htaken.clearReservation (w := s.workers worker) rfl (by
          intro r' srv' hr' hs'
          obtain rfl := Option.some.inj (hr.symm.trans hr')
          obtain rfl := Option.some.inj hs'
          rfl)
      refine hclear.dropSpare ?_
      change (Function.update s.core.servers srv _ srv).Unheld worker token
      rw [Function.update_self]
      exact hunheld
  · cases hstep

theorem register_keeps
    {core core' : PoolSystem} {hid scopeHash : Nat} {key : PoolMatchKey} {requireReplica : Bool}
    (h : core.step hostgroup (.register hid worker scopeHash key requireReplica) = some core') :
    core'.servers = core.servers ∧ core'.granted = core.granted := by
  simp only [PoolSystem.step] at h
  split at h <;> obtain rfl := Option.some.inj h <;> exact ⟨rfl, rfl⟩

theorem WakeInv.register
    {hid scopeHash : Nat} {key : PoolMatchKey} {requireReplica : Bool}
    (h : WakeInv s none 0)
    (hstep : s.step hostgroup (.register worker hid scopeHash key requireReplica) = some s') :
    WakeInv s' none 0 := by
  simp only [ReaderPool.step, Option.ite_none_left_eq_some, Option.map_eq_some_iff,
    Bool.or_eq_true, not_or, Bool.not_eq_true, Option.isSome_eq_false_iff,
    Option.isNone_iff_eq_none] at hstep
  obtain ⟨⟨⟨hlife, -⟩, hnone⟩, core, hcore, rfl⟩ := hstep
  have hrunning : (s.workers worker).life = .running := by simpa using hlife
  obtain ⟨hservers, hgranted⟩ := register_keeps hcore
  have hnew : WakeInv { s with core := core } none 0 := by
    refine ⟨h.core.step hcore, ?_, ?_, ?_, ?_⟩
    · dsimp only
      rw [hgranted]
      exact h.workers
    · dsimp only
      rw [hgranted]
      exact h.known
    · dsimp only
      rw [hservers]
      exact h.covered
    · dsimp only
      rw [hgranted]
      exact h.budget
  split
  · have hw := hnew.workers worker
    refine hnew.setWorker ?_ (fun x hx => by cases hx) ?_
    · refine { hw with recorded := ?_, gone := ?_ }
      · intro r srv hr hs
        obtain rfl := Option.some.inj hr
        cases hs
      · intro hg
        rw [show _ = WorkerLife.running from hrunning] at hg
        cases hg
    · rintro x - (hx | hx | ⟨r, hr, -⟩)
      · exact Or.inl (Or.inl hx)
      · exact Or.inl (Or.inr (Or.inl hx))
      · rw [show (s.workers worker).reservation = some r from hr] at hnone
        cases hnone
  · exact hnew

/-! ## Every step -/

theorem WakeInv.step
    {op : ReaderOp}
    (h : WakeInv s none 0)
    (hstep : s.step hostgroup op = some s') :
    WakeInv s' none 0 := by
  cases op with
  | pool srv op =>
      simp only [ReaderPool.step, Option.ite_none_left_eq_some, Option.map_eq_some_iff] at hstep
      obtain ⟨-, result, hresult, rfl⟩ := hstep
      exact h.applyResult (ServerPool.step_spec (h.core.pools srv) (h.core.pending_tokens _) hresult)
  | attach worker =>
      simp only [ReaderPool.step, Option.ite_none_left_eq_some, Option.some.injEq, Bool.or_eq_true,
        decide_eq_true_eq, not_or, not_not] at hstep
      obtain ⟨⟨-, hlife⟩, rfl⟩ := hstep
      have hw := h.workers worker
      refine h.setWorker ?_ (fun x hx => by cases hx) (fun x _ hc => Or.inl hc)
      exact { hw with
        pushed := fun x hx hi => absurd (hw.pushed x hx hi).1 (by rw [hlife]; decide)
        exiting := fun hl => by simp at hl
        gone := fun hg => by cases hg }
  | register worker hid scopeHash matchKey requireReplica =>
      exact h.register hstep
  | queueWake wake =>
      exact h.queueWake hstep
  | writePipe written =>
      exact h.writePipe hstep
  | cancelRefused wake check =>
      simp only [ReaderPool.step, Option.ite_none_left_eq_some, Option.some.injEq, not_not]
        at hstep
      obtain ⟨hin, rfl⟩ := hstep
      exact (h.unrefuse hin).cancelOnServer
  | beginDrain worker =>
      exact h.beginDrain hstep
  | swapWakes worker =>
      exact h.swapWakes hstep
  | applyWake worker check =>
      exact h.applyWake hstep
  | cancelLocal worker check =>
      simp only [ReaderPool.step, Option.ite_none_left_eq_some, Option.some.injEq] at hstep
      obtain ⟨-, rfl⟩ := hstep
      exact h.cancelHeld.1
  | takeLocal worker =>
      exact h.takeLocal hstep
  | shutdownWorker worker =>
      obtain rfl := Option.some.inj hstep
      refine h.setWorker ?_ (fun x hx => by cases hx) (fun x _ hc => Or.inl hc)
      exact { h.workers worker with }
  | shutdownHandler =>
      obtain rfl := Option.some.inj hstep
      exact { h with }
  | detach worker =>
      simp only [ReaderPool.step, Option.ite_none_left_eq_some, Option.some.injEq, Bool.or_eq_true,
        not_or, Bool.not_eq_true, Option.isSome_eq_false_iff, Option.isNone_iff_eq_none] at hstep
      obtain ⟨⟨-, hfree⟩, rfl⟩ := hstep
      have hw := h.workers worker
      refine h.setWorker ?_ (fun x hx => by cases hx) (fun x _ hc => Or.inl hc)
      rw [hfree] at hw ⊢
      exact { hw with
        pushed := fun x hx => by cases hx
        exiting := fun hl => by simp at hl
        gone := fun hg => by cases hg }
  | finish worker check =>
      simp only [ReaderPool.step, Option.ite_none_left_eq_some, Option.some.injEq, Bool.or_eq_true,
        decide_eq_true_eq, not_or, not_not, Bool.not_eq_true', Bool.not_eq_false,
        ReaderWorker.idle, Bool.and_eq_true, List.isEmpty_iff] at hstep
      obtain ⟨⟨hlife, hdraining, hdrained⟩, rfl⟩ := hstep
      obtain ⟨hcancel, hworker, -⟩ := h.cancelHeld
      have hw := hcancel.workers worker
      refine hcancel.setWorker ?_ (fun x hx => by cases hx) (fun x _ hc => Or.inl hc)
      rw [hworker] at hw ⊢
      exact { hw with
        pushed := fun x hx hi => absurd (hw.pushed x hx hi).1 (by simp [hlife])
        exiting := fun _ => hw.exiting (Or.inl hlife)
        gone := fun _ => ⟨hdraining, hdrained, rfl⟩ }

/-! ## Registrations -/

theorem registeredBy_cancelHeld :
    (s.cancelHeld hostgroup worker check).core.registeredBy = s.core.registeredBy := by
  rw [ReaderPool.cancelHeld]
  dsimp only
  split
  · rfl
  · split
    · rfl
    · split <;> rfl

theorem registeredBy_step
    {op : ReaderOp}
    (hstep : s.step hostgroup op = some s') :
    s'.core.registeredBy.length ≤
      s.core.registeredBy.length + if op.registers then 1 else 0 := by
  cases op with
  | register worker hid scopeHash matchKey requireReplica =>
      simp only [ReaderPool.step, Option.ite_none_left_eq_some, Option.map_eq_some_iff] at hstep
      obtain ⟨-, core, hcore, rfl⟩ := hstep
      have hlen : core.registeredBy.length ≤ s.core.registeredBy.length + 1 := by
        simp only [PoolSystem.step] at hcore
        split at hcore <;> obtain rfl := Option.some.inj hcore <;> simp
      split <;> exact hlen
  | pool srv op =>
      simp only [ReaderPool.step, Option.ite_none_left_eq_some, Option.map_eq_some_iff] at hstep
      obtain ⟨-, result, -, rfl⟩ := hstep
      exact Nat.le_refl _
  | queueWake wake =>
      simp only [ReaderPool.step, Option.ite_none_left_eq_some] at hstep
      obtain ⟨-, hstep⟩ := hstep
      split at hstep
      · obtain rfl := Option.some.inj hstep
        exact Nat.le_refl _
      · split at hstep <;> obtain rfl := Option.some.inj hstep <;> exact Nat.le_refl _
  | writePipe _ | applyWake _ _ =>
      simp only [ReaderPool.step] at hstep
      split at hstep
      · cases hstep
      · split at hstep <;> obtain rfl := Option.some.inj hstep <;> exact Nat.le_refl _
  | takeLocal worker =>
      simp only [ReaderPool.step, Option.ite_none_left_eq_some] at hstep
      obtain ⟨-, hstep⟩ := hstep
      split at hstep
      · obtain rfl := Option.some.inj hstep
        split <;> exact Nat.le_refl _
      · cases hstep
  | cancelLocal worker check =>
      simp only [ReaderPool.step, Option.ite_none_left_eq_some, Option.some.injEq] at hstep
      obtain ⟨-, rfl⟩ := hstep
      rw [registeredBy_cancelHeld]
      exact Nat.le_refl _
  | finish worker check =>
      simp only [ReaderPool.step, Option.ite_none_left_eq_some, Option.some.injEq] at hstep
      obtain ⟨-, rfl⟩ := hstep
      change (s.cancelHeld hostgroup worker check).core.registeredBy.length ≤ _
      rw [registeredBy_cancelHeld]
      exact Nat.le_refl _
  | shutdownWorker worker | shutdownHandler =>
      obtain rfl := Option.some.inj hstep
      exact Nat.le_refl _
  | attach _ | cancelRefused _ _ | beginDrain _ | swapWakes _ | detach _ =>
      simp only [ReaderPool.step, Option.ite_none_left_eq_some, Option.some.injEq] at hstep
      obtain ⟨-, rfl⟩ := hstep
      exact Nat.le_refl _

theorem granted_length_le
    (h : s.core.Inv) :
    s.core.granted.length ≤ s.core.registeredBy.length := by
  have hsub : s.core.granted.map Prod.snd ⊆ s.core.registeredBy.map Prod.fst := by
    intro t ht
    obtain ⟨⟨srv, t⟩, hin, rfl⟩ := List.mem_map.mp ht
    obtain ⟨w, hw⟩ := h.registered srv t ((h.granted srv t).mpr hin)
    exact List.mem_map_of_mem (f := Prod.fst) hw
  have hle := (List.subperm_of_subset h.grantedOnce hsub).length_le
  simpa using hle

/-! ## No orphan -/

/-- All servers without connections, and all workers not yet attached. -/
def init (maxConnections : Nat → Int) : ReaderPool :=
  { core := PoolSystem.init maxConnections }

theorem WakeInv.init
    (maxConnections : Nat → Int) :
    WakeInv (init maxConnections) none 0 where
  core := PoolSystem.Inv.init maxConnections
  workers := fun i => ⟨by simp [ReaderPool.init], by simp [ReaderPool.init],
    by simp [ReaderPool.init], by simp [ReaderPool.init], by simp [ReaderPool.init],
    by simp [ReaderPool.init], by simp [ReaderPool.init]⟩
  known := by simp [ReaderPool.init]
  covered := by simp [ReaderPool.init, PoolSystem.init]
  budget := by simp [ReaderPool.init, PoolSystem.init]

/-- Every reservation is covered: by a wake that a thread routes, by a wake in the
queue of its worker, or by what the worker has recorded.  A wake in a queue has its
flag set, unless the worker has just cleared it to take the queue.  A worker that
is gone has left nothing behind. -/
structure NoOrphan (s : ReaderPool) : Prop where
  covered : ∀ srv t r, (s.core.servers srv).reservations.lookup t = some r →
    s.Covers ⟨r.workerIndex, t, srv⟩
  flagged : ∀ i, (s.workers i).wakes ≠ [] →
    (s.workers i).wakePending = true ∨ (s.workers i).draining = true
  gone : ∀ i, (s.workers i).life = .gone →
    (s.workers i).wakes = [] ∧ (s.workers i).drained = [] ∧ (s.workers i).reservation = none

/-- A thread that routes a wake always has a next step. -/
structure RoutingGoesOn (hostgroup : Nat → Nat) (s : ReaderPool) : Prop where
  queue : ∀ wake ∈ s.routing, s.inQueue = none →
    ∃ s', s.step hostgroup (.queueWake wake) = some s' ∧
      (wake ∈ s'.refused ∨ wake ∈ (s'.workers wake.workerIndex).wakes)
  write : ∀ wake, s.inQueue = some wake → ∀ written,
    ∃ s', s.step hostgroup (.writePipe written) = some s' ∧
      (wake ∈ s'.refused ∨ wake ∈ (s'.workers wake.workerIndex).wakes)
  /-- A refused wake is cancelled: its connection is reserved for the next request,
  whose wake is routed, or lies in FREE under its key. -/
  cancel : ∀ wake ∈ s.refused, ∀ check,
    ∃ s', s.step hostgroup (.cancelRefused wake check) = some s' ∧
      ∀ r, (s.core.servers wake.server).reservations.lookup wake.token = some r →
        r.workerIndex = wake.workerIndex →
        (∃ next ∈ s'.routing, next.server = wake.server ∧
          (s'.core.servers wake.server).tokenByConnection.lookup r.conn = some next.token) ∨
        (r.conn, r.matchKey) ∈ (s'.core.servers wake.server).free.keyed ∧
          (s'.core.servers wake.server).tokenByConnection.lookup r.conn = none

theorem WakeInv.noOrphan
    (h : WakeInv s none 0) :
    s.NoOrphan where
  covered := by
    intro srv t r hr
    exact (h.covered srv t r hr).resolve_right (by simp)
  flagged := fun i => (h.workers i).flagged
  gone := by
    intro i hg
    obtain ⟨hdraining, hdrained, hres⟩ := (h.workers i).gone hg
    exact ⟨((h.workers i).exiting (Or.inr hg)).2 hdraining, hdrained, hres⟩

theorem WakeInv.routingGoesOn
    (h : WakeInv s none 0) :
    s.RoutingGoesOn hostgroup where
  queue := by
    intro wake hin hfree
    simp only [ReaderPool.step, hfree, hin, not_true_eq_false, decide_false, Option.isSome_none,
      Bool.or_self, Bool.false_eq_true, if_false]
    split
    · exact ⟨_, rfl, Or.inl List.mem_cons_self⟩
    · split
      · exact ⟨_, rfl, Or.inr (by simp [ReaderPool.setWorker])⟩
      · exact ⟨_, rfl, Or.inr (by simp [ReaderPool.setWorker])⟩
  write := by
    intro wake hin written
    simp only [ReaderPool.step, hin]
    split
    · obtain ⟨-, ys, hys, -⟩ := (h.workers wake.workerIndex).pushed wake hin rfl
      refine ⟨_, rfl, Or.inr ?_⟩
      change wake ∈ (s.workers wake.workerIndex).wakes
      rw [hys]
      exact List.mem_append_right _ List.mem_cons_self
    · exact ⟨_, rfl, Or.inl List.mem_cons_self⟩
  cancel := by
    intro wake hin check
    simp only [ReaderPool.step, hin, not_true_eq_false, if_false]
    refine ⟨_, rfl, ?_⟩
    intro r hr hworker
    have hreturns := ServerPool.PoolInv.cancelReservation_returns (h.core.pools wake.server)
      (h.core.pending_tokens (hostgroup wake.server)) check hr hworker
    simp only [ReaderPool.cancelOnServer, ReaderPool.applyResult, PoolSystem.apply,
      Function.update_self]
    rcases hreturns with ⟨request, hwake, htoken⟩ | ⟨-, hfree⟩
    · exact Or.inl ⟨_, List.mem_append_right _ (mem_wakesOf hwake), rfl, htoken⟩
    · exact Or.inr hfree

theorem registeredBy_run
    {maxConnections : Nat → Int} {ops : List ReaderOp}
    (hrun : Run (fun s op s' => ReaderPool.step hostgroup s op = some s')
      (init maxConnections) ops s) :
    s.core.registeredBy.length ≤ ops.countP ReaderOp.registers := by
  refine hrun.history_invariant
    (I := fun ops s => s.core.registeredBy.length ≤ ops.countP ReaderOp.registers) ?_ ?_
  · simp [ReaderPool.init, PoolSystem.init]
  · intro ops s op s' hle hstep
    rw [List.countP_append, List.countP_singleton]
    exact (registeredBy_step hstep).trans (Nat.add_le_add_right hle _)

theorem WakeInv.run
    {maxConnections : Nat → Int} {ops : List ReaderOp}
    (hrun : Run (fun s op s' => ReaderPool.step hostgroup s op = some s')
      (ReaderPool.init maxConnections) ops s) :
    WakeInv s none 0 :=
  hrun.invariant (I := fun s => WakeInv s none 0) (WakeInv.init maxConnections)
    (fun h hstep => h.step hstep)

end ReaderPool

open ReaderPool in
/-- In every state that is reached every reservation is covered, routing can go on,
and it has taken at most three steps for each registration, so it ends. -/
theorem reader_reservation_covered
    {hostgroup : Nat → Nat} {maxConnections : Nat → Int} {ops : List ReaderOp} {s : ReaderPool}
    (hrun : Run (fun s op s' => ReaderPool.step hostgroup s op = some s')
      (init maxConnections) ops s) :
    s.NoOrphan ∧ s.RoutingGoesOn hostgroup ∧
      s.routed ≤ 3 * ops.countP ReaderOp.registers := by
  have h := WakeInv.run hrun
  refine ⟨h.noOrphan, h.routingGoesOn, ?_⟩
  have hbudget := h.budget
  have hgranted := granted_length_le h.core
  have hregistered := registeredBy_run hrun
  omega

open ReaderPool in
/-- A connection is reserved for one of two waiting workers, whose pipe cannot be
written; the wake passes to the other worker, which takes the connection. -/
theorem reader_reservation_covered_passed :
    ∃ s, Run (fun s op s' => ReaderPool.step (fun _ => 0) s op = some s') (init fun _ => 10)
        [.attach 3, .attach 5, .pool 4 (.openConnection 7), .pool 4 (.addUsed 7 none),
          .register 3 0 1 { authHash := 1 } false, .register 5 0 1 { authHash := 1 } false,
          .pool 4 (.returnMatching 7 { authHash := 1 } noWorker ⟨true, fun _ => true⟩),
          .queueWake ⟨3, 1, 4⟩, .writePipe false,
          .cancelRefused ⟨3, 1, 4⟩ ⟨true, fun _ => true⟩,
          .queueWake ⟨5, 2, 4⟩, .writePipe true] s ∧
      (s.core.servers 4).reservations.keys = [2] ∧ (s.workers 5).wakes = [⟨5, 2, 4⟩] ∧
      s.routed = 5 ∧ s.NoOrphan := by
  have hrun := Run.of_foldlM (f := ReaderPool.step fun _ => 0) (s := init fun _ => 10)
    [.attach 3, .attach 5, .pool 4 (.openConnection 7), .pool 4 (.addUsed 7 none),
      .register 3 0 1 { authHash := 1 } false, .register 5 0 1 { authHash := 1 } false,
      .pool 4 (.returnMatching 7 { authHash := 1 } noWorker ⟨true, fun _ => true⟩),
      .queueWake ⟨3, 1, 4⟩, .writePipe false,
      .cancelRefused ⟨3, 1, 4⟩ ⟨true, fun _ => true⟩,
      .queueWake ⟨5, 2, 4⟩, .writePipe true] rfl
  exact ⟨_, hrun, by decide, by decide, by decide, (reader_reservation_covered hrun).1⟩

end PolarProxy
