import PolarProxy.LsnPasses

/-!
# Coalescing loses no advance

A worker notes a position in its own memory before it stores it, so an entry may
name a position that never reaches the shared cells: the call finds a new epoch
under the guard and gives up.  Such an entry is of an epoch that is over, and no
call asks for it again.  Every other entry is backed by stores of the same pass.

**Results.** `PassCaches.Backed`, `lsn_coalescing`, `lsn_coalescing_hides`.
-/

namespace PolarProxy

open Transition

theorem le_countAt
    (counts : Nat → Nat) (at? : Option Nat) (i : Nat) :
    counts i ≤ countAt counts at? i := by
  cases at? with
  | none =>
      exact Nat.le_refl _
  | some j =>
      by_cases h : i = j
      · subst h
        simp [countAt]
      · simp [countAt, h]

theorem ne_of_countAt_le
    {counts : Nat → Nat} {at? : Option Nat} {i n : Nat}
    (hle : n ≤ counts i)
    (h : n = countAt counts at? i) :
    at? ≠ some i ∧ n = counts i := by
  cases at? with
  | none =>
      exact ⟨by simp, h⟩
  | some j =>
      by_cases hij : i = j
      · subst hij
        simp only [countAt, Function.update_self] at h
        omega
      · simp only [countAt, Function.update_of_ne hij] at h
        exact ⟨by simpa using Ne.symm hij, h⟩

/-! ## The memory of a pass -/

namespace WorkerPass

variable {server lsn observedAt : Nat} {writerScope : WriterScope}

theorem trackKnown_cases
    {updates updates' : List PassLsnUpdate} {due : Bool}
    (h : trackKnown server lsn writerScope observedAt updates = some (due, updates')) :
    (due = false ∧ updates' = updates ∧
        ∃ e ∈ updates, e.isFor server writerScope ∧ e.hides lsn observedAt) ∨
      due = true ∧ ∀ e' ∈ updates', e' ∈ updates ∨
        ∃ e ∈ updates, e.isFor server writerScope ∧ e' = e.note lsn observedAt := by
  induction updates generalizing updates' with
  | nil =>
      cases h
  | cons entry rest ih =>
      simp only [trackKnown] at h
      split at h
      · obtain ⟨⟨due', rest'⟩, hrest, heq⟩ := Option.map_eq_some_iff.mp h
        obtain ⟨rfl, rfl⟩ := Prod.mk.inj heq
        rcases ih hrest with ⟨hdue, rfl, e, he, hfor, hhides⟩ | ⟨hdue, hnew⟩
        · exact Or.inl ⟨hdue, rfl, e, List.mem_cons_of_mem _ he, hfor, hhides⟩
        · refine Or.inr ⟨hdue, fun e' he' => ?_⟩
          rcases List.mem_cons.mp he' with rfl | he'
          · exact Or.inl List.mem_cons_self
          · rcases hnew e' he' with hold | ⟨e, he, hfor, rfl⟩
            · exact Or.inl (List.mem_cons_of_mem _ hold)
            · exact Or.inr ⟨e, List.mem_cons_of_mem _ he, hfor, rfl⟩
      · rename_i hfor
        rw [Bool.not_eq_true', Bool.not_eq_false] at hfor
        split at h
        · rename_i hhides
          obtain ⟨rfl, rfl⟩ := Prod.mk.inj (Option.some.inj h)
          exact Or.inl ⟨rfl, rfl, entry, List.mem_cons_self, hfor, hhides⟩
        · obtain ⟨rfl, rfl⟩ := Prod.mk.inj (Option.some.inj h)
          refine Or.inr ⟨rfl, fun e' he' => ?_⟩
          rcases List.mem_cons.mp he' with rfl | he'
          · exact Or.inr ⟨entry, List.mem_cons_self, hfor, rfl⟩
          · exact Or.inl (List.mem_cons_of_mem _ he')

/-- A position is hidden by an entry, or the entries that change are about it. -/
theorem trackServerLsnUpdate_cases
    (pass : WorkerPass) (server lsn : Nat) (writerScope : WriterScope) (observedAt : Nat) :
    ((pass.trackServerLsnUpdate server lsn writerScope observedAt).1 = false ∧
        (pass.trackServerLsnUpdate server lsn writerScope observedAt).2.updates = pass.updates ∧
        ∃ e ∈ pass.updates, e.isFor server writerScope ∧ e.hides lsn observedAt) ∨
      (pass.trackServerLsnUpdate server lsn writerScope observedAt).1 = true ∧
        ∀ e' ∈ (pass.trackServerLsnUpdate server lsn writerScope observedAt).2.updates,
          e' ∈ pass.updates ∨ e' = ⟨server, writerScope, lsn, observedAt⟩ ∨
          ∃ e ∈ pass.updates, e.isFor server writerScope ∧ e' = e.note lsn observedAt := by
  unfold trackServerLsnUpdate
  split
  · exact Or.inr ⟨rfl, fun e' he' => Or.inl he'⟩
  · split
    · rename_i due updates hknown
      rcases trackKnown_cases hknown with ⟨hdue, rfl, hhides⟩ | ⟨hdue, hnew⟩
      · exact Or.inl ⟨hdue, rfl, hhides⟩
      · exact Or.inr ⟨hdue, fun e' he' => (hnew e' he').imp id Or.inr⟩
    · split
      · exact Or.inr ⟨rfl, fun e' he' => Or.inl he'⟩
      · refine Or.inr ⟨rfl, fun e' he' => ?_⟩
        rcases List.mem_append.mp he' with hold | hnew
        · exact Or.inl hold
        · exact Or.inr (Or.inl (List.mem_singleton.mp hnew))

end WorkerPass

theorem PassLsnUpdate.eq_of_isFor
    {entry : PassLsnUpdate} {server : Nat} {writerScope : WriterScope}
    (h : entry.isFor server writerScope) :
    entry.server = server ∧ entry.writerScope = writerScope := by
  simp only [PassLsnUpdate.isFor, Bool.and_eq_true, decide_eq_true_eq] at h
  exact ⟨h.1, h.2.eq⟩

theorem PassLsnUpdate.le_of_hides
    {entry : PassLsnUpdate} {lsn observedAt : Nat}
    (h : entry.hides lsn observedAt) :
    lsn ≤ entry.maxLsn ∧ observedAt < entry.lastUpdatedAt + lsnUpdateMaxDelay := by
  simp only [PassLsnUpdate.hides, Bool.and_eq_true, Bool.not_eq_true', Bool.or_eq_false_iff,
    decide_eq_false_iff_not, not_lt, not_le] at h
  omega

/-! ## What an accepted position rests on -/

/-- The store was made by a worker in a pass, for a server and scope. -/
def PassStore.By (b : PassStore) (worker pass server : Nat) (writerScope : WriterScope) : Prop :=
  b.worker = worker ∧ b.pass = pass ∧ b.server = server ∧ b.writerScope = writerScope

/-- The call will still store to the server. -/
def AcceptStage.BeforeServer : AcceptStage → Prop
  | .tracked | .guarded | .validated => True
  | _ => False

/-- The call will still store to the group. -/
def AcceptStage.BeforeGroup : AcceptStage → Prop
  | .tracked | .guarded | .validated | .advanced => True
  | _ => False

namespace PassCaches

variable {s t : PassCaches}

/-- The worker is in a call about the server and scope of an entry. -/
def Pending (s : PassCaches) (i : Nat) (e : PassLsnUpdate) (before : AcceptStage → Prop)
    (p : AcceptCall → Prop) : Prop :=
  ∃ c, s.caches.calls i = some c ∧ before c.stage ∧ c.srv = e.server ∧ c.scope = e.writerScope ∧
    p c

/-- What an entry of a worker says was stored in its pass, or is about to be. -/
structure Backed (s : PassCaches) (i : Nat) (e : PassLsnUpdate) : Prop where
  server : (∃ b ∈ s.serverStores, b.By i (s.passCount i) e.server e.writerScope ∧
      b.lsn = e.maxLsn) ∨
    s.Pending i e AcceptStage.BeforeServer fun c => c.lsn = e.maxLsn
  group : (∃ b ∈ s.groupStores, b.By i (s.passCount i) e.server e.writerScope ∧
      b.lsn = e.maxLsn) ∨
    s.Pending i e AcceptStage.BeforeGroup fun c => c.lsn = e.maxLsn
  time : (∃ b ∈ s.serverStores, b.By i (s.passCount i) e.server e.writerScope ∧
      b.observedAt = e.lastUpdatedAt) ∨
    s.Pending i e AcceptStage.BeforeServer fun _ => s.observedAt i = e.lastUpdatedAt

/-- The epoch of an entry is over. -/
def Over (s : PassCaches) (e : PassLsnUpdate) : Prop :=
  e.writerScope.epoch < (s.caches.repl e.writerScope.hg.toNat).writerEpoch

/-- How far a call has come. -/
structure CallOk (s : PassCaches) (i : Nat) (c : AcceptCall) : Prop where
  allocated : c.srv < s.caches.nextServer
  lsn : c.lsn ≠ 0
  scope : c.stage ≠ .scoped → c.scope.hg = c.writer ∧
    c.scope.epoch ≤ (s.caches.repl c.writer).writerEpoch
  server : c.stage = .advanced ∨ c.stage = .recorded → ∃ b ∈ s.serverStores,
    b.By i (s.passCount i) c.srv c.scope ∧ b.lsn = c.lsn ∧ b.observedAt = s.observedAt i
  group : c.stage = .recorded → ∃ b ∈ s.groupStores,
    b.By i (s.passCount i) c.srv c.scope ∧ b.lsn = c.lsn

/-- A stored position stays in its cell until the cell is cleared, and its time
until another time is stored. -/
structure ServerStoreOk (s : PassCaches) (b : PassStore) : Prop where
  allocated : b.server < s.caches.nextServer
  clears : b.clears ≤ s.serverClears b.server
  timeWrites : b.timeWrites ≤ s.timeWrites b.server
  lsn : b.clears = s.serverClears b.server → b.lsn ≤ (s.caches.server b.server).currentLsn
  time : b.timeWrites = s.timeWrites b.server →
    (s.caches.server b.server).updatedAt = b.observedAt

structure GroupStoreOk (s : PassCaches) (b : PassStore) : Prop where
  clears : b.clears ≤ s.groupClears b.writerScope.hg.toNat
  lsn : b.clears = s.groupClears b.writerScope.hg.toNat →
    b.lsn ≤ (s.caches.repl b.writerScope.hg.toNat).groupLsn

/-- The stores of its pass that an accepted position rests on. -/
structure RestsOn (s : PassCaches) (a : AcceptedLsn) : Prop where
  server : ∃ b ∈ s.serverStores, b.By a.worker a.pass a.server a.writerScope ∧
    b.clears ≤ a.serverClears ∧ a.lsn ≤ b.lsn
  group : ∃ b ∈ s.groupStores, b.By a.worker a.pass a.server a.writerScope ∧
    b.clears ≤ a.groupClears ∧ a.lsn ≤ b.lsn
  time : ∃ b ∈ s.serverStores, b.By a.worker a.pass a.server a.writerScope ∧
    b.clears ≤ a.serverClears ∧ a.observedAt < b.observedAt + lsnUpdateMaxDelay

structure PassInv (s : PassCaches) : Prop where
  allocated : s.caches.Allocated
  calls : ∀ i c, s.caches.calls i = some c → s.CallOk i c
  serverStores : ∀ b ∈ s.serverStores, s.ServerStoreOk b
  groupStores : ∀ b ∈ s.groupStores, s.GroupStoreOk b
  entries : ∀ i, ∀ e ∈ (s.passes i).updates, s.Backed i e ∨ s.Over e
  accepted : ∀ a ∈ s.accepted, s.RestsOn a

/-! ## Frames -/

variable {cleared timed clearedGroup begun : Option Nat} {i : Nat} {b : PassStore}

theorem ServerStoreOk.advance
    (h : s.ServerStoreOk b)
    (hadv : LsnCaches.Advances s.caches t.caches cleared timed clearedGroup begun)
    (hclears : t.serverClears = countAt s.serverClears cleared)
    (htimes : t.timeWrites = countAt s.timeWrites timed) :
    t.ServerStoreOk b where
  allocated := Nat.lt_of_lt_of_le h.allocated hadv.nextServer
  clears := by
    rw [hclears]
    exact h.clears.trans (le_countAt _ _ _)
  timeWrites := by
    rw [htimes]
    exact h.timeWrites.trans (le_countAt _ _ _)
  lsn := by
    intro heq
    rw [hclears] at heq
    obtain ⟨hne, heq⟩ := ne_of_countAt_le h.clears heq
    exact (h.lsn heq).trans (hadv.server b.server h.allocated hne)
  time := by
    intro heq
    rw [htimes] at heq
    obtain ⟨hne, heq⟩ := ne_of_countAt_le h.timeWrites heq
    rw [hadv.time b.server h.allocated hne]
    exact h.time heq

theorem GroupStoreOk.advance
    (h : s.GroupStoreOk b)
    (hadv : LsnCaches.Advances s.caches t.caches cleared timed clearedGroup begun)
    (hclears : t.groupClears = countAt s.groupClears clearedGroup) :
    t.GroupStoreOk b where
  clears := by
    rw [hclears]
    exact h.clears.trans (le_countAt _ _ _)
  lsn := by
    intro heq
    rw [hclears] at heq
    obtain ⟨hne, heq⟩ := ne_of_countAt_le h.clears heq
    exact (h.lsn heq).trans (hadv.group _ hne)

variable {e : PassLsnUpdate}

theorem Over.advance
    (h : s.Over e)
    (hadv : LsnCaches.Advances s.caches t.caches cleared timed clearedGroup begun) :
    t.Over e :=
  Nat.lt_of_lt_of_le h (hadv.epoch _)

theorem RestsOn.mono
    {a : AcceptedLsn}
    (h : s.RestsOn a)
    (hserver : s.serverStores ⊆ t.serverStores)
    (hgroup : s.groupStores ⊆ t.groupStores) :
    t.RestsOn a where
  server := h.server.imp fun _ hb => ⟨hserver hb.1, hb.2⟩
  group := h.group.imp fun _ hb => ⟨hgroup hb.1, hb.2⟩
  time := h.time.imp fun _ hb => ⟨hserver hb.1, hb.2⟩

theorem CallOk.advance
    {c : AcceptCall}
    (h : s.CallOk i c)
    (hadv : LsnCaches.Advances s.caches t.caches cleared timed clearedGroup begun)
    (hpass : t.passCount i = s.passCount i)
    (hat : t.observedAt i = s.observedAt i)
    (hserver : s.serverStores ⊆ t.serverStores)
    (hgroup : s.groupStores ⊆ t.groupStores) :
    t.CallOk i c where
  allocated := Nat.lt_of_lt_of_le h.allocated hadv.nextServer
  lsn := h.lsn
  scope := fun hstage => ⟨(h.scope hstage).1, (h.scope hstage).2.trans (hadv.epoch _)⟩
  server := by
    intro hstage
    rw [hpass, hat]
    exact (h.server hstage).imp fun _ hb => ⟨hserver hb.1, hb.2⟩
  group := by
    intro hstage
    rw [hpass]
    exact (h.group hstage).imp fun _ hb => ⟨hgroup hb.1, hb.2⟩

theorem Backed.move
    (h : s.Backed i e)
    (hpass : t.passCount i = s.passCount i)
    (hat : t.observedAt i = s.observedAt i)
    (hserver : s.serverStores ⊆ t.serverStores)
    (hgroup : s.groupStores ⊆ t.groupStores)
    (hserverCall : ∀ c, s.caches.calls i = some c → c.stage.BeforeServer → c.srv = e.server →
      c.scope = e.writerScope →
      (∃ b ∈ t.serverStores, b.By i (s.passCount i) c.srv c.scope ∧ b.lsn = c.lsn ∧
        b.observedAt = s.observedAt i) ∨
      ∃ c', t.caches.calls i = some c' ∧ c'.stage.BeforeServer ∧ c'.srv = c.srv ∧
        c'.scope = c.scope ∧ c'.lsn = c.lsn)
    (hgroupCall : ∀ c, s.caches.calls i = some c → c.stage.BeforeGroup → c.srv = e.server →
      c.scope = e.writerScope →
      (∃ b ∈ t.groupStores, b.By i (s.passCount i) c.srv c.scope ∧ b.lsn = c.lsn) ∨
      ∃ c', t.caches.calls i = some c' ∧ c'.stage.BeforeGroup ∧ c'.srv = c.srv ∧
        c'.scope = c.scope ∧ c'.lsn = c.lsn) :
    t.Backed i e := by
  constructor
  · rw [hpass]
    rcases h.server with hstored | ⟨c, hc, hbefore, hsrv, hscope, hlsn⟩
    · exact Or.inl (hstored.imp fun _ hb => ⟨hserver hb.1, hb.2⟩)
    · rcases hserverCall c hc hbefore hsrv hscope with
        ⟨b, hb, hby, hblsn, -⟩ | ⟨c', hc', hbefore', hsrv', hscope', hlsn'⟩
      · exact Or.inl ⟨b, hb, hsrv ▸ hscope ▸ hby, hblsn.trans hlsn⟩
      · exact Or.inr ⟨c', hc', hbefore', hsrv'.trans hsrv, hscope'.trans hscope,
          hlsn'.trans hlsn⟩
  · rw [hpass]
    rcases h.group with hstored | ⟨c, hc, hbefore, hsrv, hscope, hlsn⟩
    · exact Or.inl (hstored.imp fun _ hb => ⟨hgroup hb.1, hb.2⟩)
    · rcases hgroupCall c hc hbefore hsrv hscope with
        ⟨b, hb, hby, hblsn⟩ | ⟨c', hc', hbefore', hsrv', hscope', hlsn'⟩
      · exact Or.inl ⟨b, hb, hsrv ▸ hscope ▸ hby, hblsn.trans hlsn⟩
      · exact Or.inr ⟨c', hc', hbefore', hsrv'.trans hsrv, hscope'.trans hscope,
          hlsn'.trans hlsn⟩
  · rw [hpass, hat]
    rcases h.time with hstored | ⟨c, hc, hbefore, hsrv, hscope, htime⟩
    · exact Or.inl (hstored.imp fun _ hb => ⟨hserver hb.1, hb.2⟩)
    · rcases hserverCall c hc hbefore hsrv hscope with
        ⟨b, hb, hby, -, hbtime⟩ | ⟨c', hc', hbefore', hsrv', hscope', -⟩
      · exact Or.inl ⟨b, hb, hsrv ▸ hscope ▸ hby, hbtime.trans htime⟩
      · exact Or.inr ⟨c', hc', hbefore', hsrv'.trans hsrv, hscope'.trans hscope, hat ▸ htime⟩

/-! ## Steps outside of the calls -/

theorem Backed.same
    (h : s.Backed i e)
    (hpass : t.passCount i = s.passCount i)
    (hat : t.observedAt i = s.observedAt i)
    (hserver : s.serverStores ⊆ t.serverStores)
    (hgroup : s.groupStores ⊆ t.groupStores)
    (hcall : ∀ c, s.caches.calls i = some c → t.caches.calls i = some c) :
    t.Backed i e :=
  h.move hpass hat hserver hgroup
    (fun c hc hbefore _ _ => Or.inr ⟨c, hcall c hc, hbefore, rfl, rfl, rfl⟩)
    (fun c hc hbefore _ _ => Or.inr ⟨c, hcall c hc, hbefore, rfl, rfl, rfl⟩)

theorem PassInv.otherStep
    {e : EpochEvent}
    (h : s.PassInv)
    (hcall : ∀ i coalesced now, e ≠ .acceptStep i coalesced now)
    (hstep : s.otherStep e = some t) :
    t.PassInv := by
  obtain ⟨caches, hcaches, rfl⟩ := Option.map_eq_some_iff.mp hstep
  have hadv := LsnCaches.advances_step hcaches hcall
  have hcalls := LsnCaches.step_calls hcaches hcall
  exact {
    allocated := LsnCaches.step_allocated h.allocated hcaches hcall
    calls := by
      intro i c hc
      rcases hcalls with hsame | ⟨j, c', -, hupd, hbegun⟩
      · exact (h.calls i c (hsame ▸ hc)).advance hadv rfl rfl (List.Subset.refl _)
          (List.Subset.refl _)
      · rw [show caches.calls = _ from hupd] at hc
        by_cases hij : i = j
        · subst hij
          rw [Function.update_self] at hc
          obtain rfl := Option.some.inj hc
          obtain ⟨hg, hsrv⟩ := hbegun.server
          exact {
            allocated := Nat.lt_of_lt_of_le (h.allocated hg _ hsrv) hadv.nextServer
            lsn := hbegun.lsn
            scope := fun hstage => absurd hbegun.stage hstage
            server := by simp [hbegun.stage]
            group := by simp [hbegun.stage] }
        · rw [Function.update_of_ne hij] at hc
          exact (h.calls i c hc).advance hadv rfl rfl (List.Subset.refl _) (List.Subset.refl _)
    serverStores := fun b hb => (h.serverStores b hb).advance hadv rfl rfl
    groupStores := fun b hb => (h.groupStores b hb).advance hadv rfl
    entries := by
      intro i e he
      refine (h.entries i e he).imp (fun hback => ?_) (fun hover => hover.advance hadv)
      refine hback.same rfl rfl (List.Subset.refl _) (List.Subset.refl _) fun c hc => ?_
      rcases hcalls with hsame | ⟨j, c', hnone, hupd, -⟩
      · exact (congrFun hsame i).trans hc
      · rw [show caches.calls = _ from hupd]
        by_cases hij : i = j
        · subst hij
          rw [hnone] at hc
          cases hc
        · rw [Function.update_of_ne hij]
          exact hc
    accepted := fun a ha => (h.accepted a ha).mono (List.Subset.refl _) (List.Subset.refl _) }

theorem PassInv.beginWorkerPass
    (h : s.PassInv)
    (hnone : s.caches.calls i = none) :
    PassInv { s with
      passes := Function.update s.passes i { active := true }
      passCount := countAt s.passCount (some i) } where
  allocated := h.allocated
  calls := by
    intro j c hc
    have hij : j ≠ i := by
      rintro rfl
      rw [show s.caches.calls _ = _ from hc] at hnone
      cases hnone
    have hadvances : LsnCaches.Advances s.caches s.caches none none none none := .same rfl rfl rfl
    exact (h.calls j c hc).advance hadvances (Function.update_of_ne hij _ _) rfl
      (List.Subset.refl _) (List.Subset.refl _)
  serverStores := fun b hb => { h.serverStores b hb with }
  groupStores := fun b hb => { h.groupStores b hb with }
  entries := by
    intro j e he
    by_cases hij : j = i
    · subst hij
      simp only [Function.update_self] at he
      cases he
    · simp only [Function.update_of_ne hij] at he
      exact (h.entries j e he).imp (fun hback => hback.same (Function.update_of_ne hij _ _) rfl
        (List.Subset.refl _) (List.Subset.refl _) fun c hc => hc) id
  accepted := fun a ha => { h.accepted a ha with }

theorem PassInv.finishWorkerPass
    (h : s.PassInv) :
    PassInv { s with
      passes := Function.update s.passes i { s.passes i with active := false } } where
  allocated := h.allocated
  calls := fun j c hc => { h.calls j c hc with }
  serverStores := fun b hb => { h.serverStores b hb with }
  groupStores := fun b hb => { h.groupStores b hb with }
  entries := by
    intro j e he
    have he' : e ∈ (s.passes j).updates := by
      by_cases hij : j = i
      · subst hij
        simpa only [Function.update_self] using he
      · simpa only [Function.update_of_ne hij] using he
    exact (h.entries j e he').imp (fun hback => { hback with }) id
  accepted := fun a ha => { h.accepted a ha with }

/-! ## Steps of a call -/

/-- A step of a call of worker `i`, which is then at `next`. -/
structure Moves (s t : PassCaches) (i : Nat) (next : Option AcceptCall) (timed : Option Nat) :
    Prop where
  advances : LsnCaches.Advances s.caches t.caches none timed none none
  hostgroup : t.caches.hostgroup = s.caches.hostgroup
  calls : t.caches.calls = Function.update s.caches.calls i next
  passCount : t.passCount = s.passCount
  serverClears : t.serverClears = s.serverClears
  groupClears : t.groupClears = s.groupClears
  timeWrites : t.timeWrites = countAt s.timeWrites timed
  serverStores : s.serverStores ⊆ t.serverStores
  groupStores : s.groupStores ⊆ t.groupStores
  others : ∀ j, j ≠ i → t.passes j = s.passes j ∧ t.observedAt j = s.observedAt j

variable {next : Option AcceptCall}

theorem PassInv.moves
    (h : s.PassInv)
    (m : s.Moves t i next timed)
    (hcall : ∀ c, next = some c → t.CallOk i c)
    (hserver : ∀ b ∈ t.serverStores, b ∈ s.serverStores ∨ t.ServerStoreOk b)
    (hgroup : ∀ b ∈ t.groupStores, b ∈ s.groupStores ∨ t.GroupStoreOk b)
    (hentries : ∀ e ∈ (t.passes i).updates, t.Backed i e ∨ t.Over e)
    (haccepted : ∀ a ∈ t.accepted, a ∈ s.accepted ∨ t.RestsOn a) :
    t.PassInv where
  allocated := h.allocated.same m.hostgroup m.advances.nextServer
  calls := by
    intro j c hc
    rw [m.calls] at hc
    by_cases hij : j = i
    · subst hij
      rw [Function.update_self] at hc
      exact hcall c hc
    · rw [Function.update_of_ne hij] at hc
      exact (h.calls j c hc).advance m.advances (by rw [m.passCount]) (m.others j hij).2
        m.serverStores m.groupStores
  serverStores := by
    intro b hb
    rcases hserver b hb with hold | hnew
    · exact (h.serverStores b hold).advance m.advances m.serverClears m.timeWrites
    · exact hnew
  groupStores := by
    intro b hb
    rcases hgroup b hb with hold | hnew
    · exact (h.groupStores b hold).advance m.advances m.groupClears
    · exact hnew
  entries := by
    intro j e he
    by_cases hij : j = i
    · subst hij
      exact hentries e he
    · rw [(m.others j hij).1] at he
      refine (h.entries j e he).imp (fun hback => ?_) (fun hover => hover.advance m.advances)
      refine hback.same (by rw [m.passCount]) (m.others j hij).2 m.serverStores m.groupStores ?_
      intro c hc
      rw [m.calls, Function.update_of_ne hij]
      exact hc
  accepted := by
    intro a ha
    rcases haccepted a ha with hold | hnew
    · exact (h.accepted a hold).mono m.serverStores m.groupStores
    · exact hnew

variable {c : AcceptCall} {now : Nat}

/-- A step of a call that notes nothing: what its worker had noted is stored by the step, or the call
is still about to store it. -/
theorem PassInv.movesCall
    (h : s.PassInv)
    (hcall : s.caches.calls i = some c)
    (m : s.Moves t i next timed)
    (hpasses : t.passes i = s.passes i)
    (hat : t.observedAt i = s.observedAt i)
    (hnext : ∀ c, next = some c → t.CallOk i c)
    (hserverStores : ∀ b ∈ t.serverStores, b ∈ s.serverStores ∨ t.ServerStoreOk b)
    (hgroupStores : ∀ b ∈ t.groupStores, b ∈ s.groupStores ∨ t.GroupStoreOk b)
    (haccepted : ∀ a ∈ t.accepted, a ∈ s.accepted ∨ t.RestsOn a)
    (hserver : c.stage.BeforeServer →
      (∃ b ∈ t.serverStores, b.By i (s.passCount i) c.srv c.scope ∧ b.lsn = c.lsn ∧
        b.observedAt = s.observedAt i) ∨
      ∃ c', next = some c' ∧ c'.stage.BeforeServer ∧ c'.srv = c.srv ∧ c'.scope = c.scope ∧
        c'.lsn = c.lsn)
    (hgroup : c.stage.BeforeGroup →
      (∃ b ∈ t.groupStores, b.By i (s.passCount i) c.srv c.scope ∧ b.lsn = c.lsn) ∨
      ∃ c', next = some c' ∧ c'.stage.BeforeGroup ∧ c'.srv = c.srv ∧ c'.scope = c.scope ∧
        c'.lsn = c.lsn) :
    t.PassInv := by
  refine h.moves m hnext hserverStores hgroupStores (fun e he => ?_) haccepted
  rw [hpasses] at he
  have hcalls : t.caches.calls i = next := by
    rw [m.calls, Function.update_self]
  refine (h.entries i e he).imp (fun hback => ?_) (fun hover => hover.advance m.advances)
  refine hback.move (by rw [m.passCount]) hat m.serverStores m.groupStores ?_ ?_
  · intro c' hc' hbefore _ _
    obtain rfl : c = c' := Option.some.inj (hcall.symm.trans hc')
    rw [hcalls]
    exact hserver hbefore
  · intro c' hc' hbefore _ _
    obtain rfl : c = c' := Option.some.inj (hcall.symm.trans hc')
    rw [hcalls]
    exact hgroup hbefore

theorem PassInv.acceptTracked
    (h : s.PassInv)
    (hcall : s.caches.calls i = some c)
    (hstage : c.stage = .tracked)
    (hstep : s.acceptStep i c now = some t) :
    t.PassInv := by
  simp only [PassCaches.acceptStep, hstage] at hstep
  obtain ⟨caches, hcaches, rfl⟩ := Option.map_eq_some_iff.mp hstep
  have hadv := LsnCaches.advances_acceptStep hcaches
  simp only [LsnCaches.acceptStep, hstage] at hcaches
  obtain ⟨-, hcaches⟩ := Option.ite_none_right_eq_some.mp hcaches
  obtain rfl := Option.some.inj hcaches
  rw [hstage] at hadv
  have hok := h.calls i c hcall
  refine h.movesCall hcall
    ⟨hadv, rfl, rfl, rfl, rfl, rfl, rfl, List.Subset.refl _, List.Subset.refl _,
      fun _ _ => ⟨rfl, rfl⟩⟩ rfl rfl ?_ (fun b hb => Or.inl hb) (fun b hb => Or.inl hb)
    (fun a ha => Or.inl ha) (fun _ => Or.inr ⟨_, rfl, trivial, rfl, rfl, rfl⟩)
    (fun _ => Or.inr ⟨_, rfl, trivial, rfl, rfl, rfl⟩)
  rintro _ ⟨⟩
  exact {
    allocated := hok.allocated
    lsn := hok.lsn
    scope := fun _ => hok.scope (by simp [hstage])
    server := by simp
    group := by simp }

theorem PassInv.acceptGuarded
    (h : s.PassInv)
    (hcall : s.caches.calls i = some c)
    (hstage : c.stage = .guarded)
    (hstep : s.acceptStep i c now = some t) :
    t.PassInv := by
  simp only [PassCaches.acceptStep, hstage] at hstep
  obtain ⟨caches, hcaches, rfl⟩ := Option.map_eq_some_iff.mp hstep
  have hadv := LsnCaches.advances_acceptStep hcaches
  rw [hstage] at hadv
  simp only [LsnCaches.acceptStep, hstage] at hcaches
  have hok := h.calls i c hcall
  obtain ⟨hhg, hepoch⟩ := hok.scope (by simp [hstage])
  split at hcaches
  · obtain rfl := Option.some.inj hcaches
    refine h.movesCall hcall
      ⟨hadv, rfl, rfl, rfl, rfl, rfl, rfl, List.Subset.refl _, List.Subset.refl _,
        fun _ _ => ⟨rfl, rfl⟩⟩ rfl rfl ?_ (fun b hb => Or.inl hb) (fun b hb => Or.inl hb)
      (fun a ha => Or.inl ha) (fun _ => Or.inr ⟨_, rfl, trivial, rfl, rfl, rfl⟩)
      (fun _ => Or.inr ⟨_, rfl, trivial, rfl, rfl, rfl⟩)
    rintro _ ⟨⟩
    exact {
      allocated := hok.allocated
      lsn := hok.lsn
      scope := fun _ => ⟨hhg, hepoch⟩
      server := by simp
      group := by simp }
  · rename_i hmismatch
    obtain rfl := Option.some.inj hcaches
    have m : s.Moves { s with caches := (s.caches.setGuard c.srv none).setCall i none } i none
        none :=
      ⟨hadv, rfl, rfl, rfl, rfl, rfl, rfl, List.Subset.refl _, List.Subset.refl _,
        fun _ _ => ⟨rfl, rfl⟩⟩
    refine h.moves m (by rintro _ ⟨⟩) (fun b hb => Or.inl hb) (fun b hb => Or.inl hb) ?_
      (fun a ha => Or.inl ha)
    -- what the call had noted is of an epoch that is over
    intro e he
    by_cases hfor : c.srv = e.server ∧ c.scope = e.writerScope
    · right
      have hlt : c.scope.epoch < (s.caches.repl c.writer).writerEpoch := by
        refine Nat.lt_of_le_of_ne hepoch fun heq => hmismatch ?_
        have hvalid : c.scope.Valid := by
          rw [WriterScope.Valid, hhg]
          exact Int.natCast_nonneg _
        refine WriterScope.matches_iff.mpr ⟨hvalid, ?_⟩
        unfold LsnCaches.currentScope
        rw [← hhg, ← heq]
      change e.writerScope.epoch < (s.caches.repl e.writerScope.hg.toNat).writerEpoch
      rw [← hfor.2, hhg]
      exact hlt
    · refine (h.entries i e he).imp (fun hback => ?_) (fun hover => hover.advance m.advances)
      refine hback.move rfl rfl (List.Subset.refl _) (List.Subset.refl _) ?_ ?_
      · intro c' hc' _ hsrv hscope
        obtain rfl : c = c' := Option.some.inj (hcall.symm.trans hc')
        exact absurd ⟨hsrv, hscope⟩ hfor
      · intro c' hc' _ hsrv hscope
        obtain rfl : c = c' := Option.some.inj (hcall.symm.trans hc')
        exact absurd ⟨hsrv, hscope⟩ hfor

theorem PassInv.acceptValidated
    (h : s.PassInv)
    (hcall : s.caches.calls i = some c)
    (hstage : c.stage = .validated)
    (hstep : s.acceptStep i c now = some t) :
    t.PassInv := by
  simp only [PassCaches.acceptStep, hstage] at hstep
  obtain ⟨caches, hcaches, rfl⟩ := Option.map_eq_some_iff.mp hstep
  have hadv := LsnCaches.advances_acceptStep hcaches
  rw [if_pos hstage] at hadv
  simp only [LsnCaches.acceptStep, hstage] at hcaches
  obtain rfl := Option.some.inj hcaches
  have hok := h.calls i c hcall
  refine h.movesCall hcall
    ⟨hadv, rfl, rfl, rfl, rfl, rfl, rfl, List.subset_cons_self _ _, List.Subset.refl _,
      fun _ _ => ⟨rfl, rfl⟩⟩ rfl rfl ?_ ?_ (fun b hb => Or.inl hb) (fun a ha => Or.inl ha)
    (fun _ => Or.inl ⟨_, List.mem_cons_self, ⟨rfl, rfl, rfl, rfl⟩, rfl, rfl⟩)
    (fun _ => Or.inr ⟨_, rfl, trivial, rfl, rfl, rfl⟩)
  · rintro _ ⟨⟩
    exact {
      allocated := hok.allocated
      lsn := hok.lsn
      scope := fun _ => hok.scope (by simp [hstage])
      server := fun _ => ⟨_, List.mem_cons_self, ⟨rfl, rfl, rfl, rfl⟩, rfl, rfl⟩
      group := by simp }
  · intro b hb
    rcases List.mem_cons.mp hb with rfl | hb
    · right
      refine ⟨hok.allocated, Nat.le_refl _, ?_, fun _ => ?_, fun _ => ?_⟩
      · simp [countAt]
      · simp [LsnCaches.setCall, LsnCaches.setServer, LsnServer.advanceLsn, hok.lsn]
      · simp [LsnCaches.setCall, LsnCaches.setServer, LsnServer.advanceLsn, hok.lsn]
    · exact Or.inl hb

theorem PassInv.acceptAdvanced
    (h : s.PassInv)
    (hcall : s.caches.calls i = some c)
    (hstage : c.stage = .advanced)
    (hstep : s.acceptStep i c now = some t) :
    t.PassInv := by
  simp only [PassCaches.acceptStep, hstage] at hstep
  obtain ⟨caches, hcaches, rfl⟩ := Option.map_eq_some_iff.mp hstep
  have hadv := LsnCaches.advances_acceptStep hcaches
  rw [hstage] at hadv
  simp only [LsnCaches.acceptStep, hstage] at hcaches
  obtain rfl := Option.some.inj hcaches
  have hok := h.calls i c hcall
  obtain ⟨hhg, hepoch⟩ := hok.scope (by simp [hstage])
  refine h.movesCall hcall
    ⟨hadv, rfl, rfl, rfl, rfl, rfl, rfl, List.Subset.refl _, List.subset_cons_self _ _,
      fun _ _ => ⟨rfl, rfl⟩⟩ rfl rfl ?_ (fun b hb => Or.inl hb) ?_ (fun a ha => Or.inl ha) ?_
    (fun _ => Or.inl ⟨_, List.mem_cons_self, ⟨rfl, rfl, rfl, rfl⟩, rfl⟩)
  · rintro _ ⟨⟩
    exact {
      allocated := hok.allocated
      lsn := hok.lsn
      scope := fun _ => ⟨hhg, hepoch.trans (hadv.epoch _)⟩
      server := fun _ => hok.server (Or.inl hstage)
      group := fun _ => ⟨_, List.mem_cons_self, ⟨rfl, rfl, rfl, rfl⟩, rfl⟩ }
  · intro b hb
    rcases List.mem_cons.mp hb with rfl | hb
    · right
      constructor
      · simp [hhg]
      · intro _
        simp [hhg, LsnCaches.setCall, LsnCaches.setRepl]
    · exact Or.inl hb
  · intro hbefore
    rw [hstage] at hbefore
    cases hbefore

theorem PassInv.acceptRecorded
    (h : s.PassInv)
    (hcall : s.caches.calls i = some c)
    (hstage : c.stage = .recorded)
    (hstep : s.acceptStep i c now = some t) :
    t.PassInv := by
  simp only [PassCaches.acceptStep, hstage] at hstep
  obtain ⟨caches, hcaches, rfl⟩ := Option.map_eq_some_iff.mp hstep
  have hadv := LsnCaches.advances_acceptStep hcaches
  rw [hstage] at hadv
  simp only [LsnCaches.acceptStep, hstage] at hcaches
  obtain rfl := Option.some.inj hcaches
  have hok := h.calls i c hcall
  obtain ⟨hhg, -⟩ := hok.scope (by simp [hstage])
  obtain ⟨b, hb, hby, hblsn, hbtime⟩ := hok.server (Or.inr hstage)
  obtain ⟨g, hg, hgby, hglsn⟩ := hok.group hstage
  have hclears : b.clears ≤ s.serverClears c.srv := hby.2.2.1 ▸ (h.serverStores b hb).clears
  have hgclears : g.clears ≤ s.groupClears c.writer := by
    have hle := (h.groupStores g hg).clears
    rw [hgby.2.2.2, hhg] at hle
    exact hle
  refine h.movesCall hcall
    ⟨hadv, rfl, rfl, rfl, rfl, rfl, rfl, List.Subset.refl _, List.Subset.refl _,
      fun _ _ => ⟨rfl, rfl⟩⟩ rfl rfl (by rintro _ ⟨⟩) (fun b hb => Or.inl hb)
    (fun b hb => Or.inl hb) ?_ ?_ ?_
  · intro a ha
    rcases List.mem_cons.mp ha with rfl | ha
    · right
      refine ⟨⟨b, hb, hby, hclears, hblsn.ge⟩, ⟨g, hg, hgby, hgclears, hglsn.ge⟩,
        ⟨b, hb, hby, hclears, ?_⟩⟩
      change s.observedAt i < b.observedAt + lsnUpdateMaxDelay
      rw [hbtime]
      exact Nat.lt_add_of_pos_right (by decide)
    · exact Or.inl ha
  · intro hbefore
    rw [hstage] at hbefore
    cases hbefore
  · intro hbefore
    rw [hstage] at hbefore
    cases hbefore

/-- Everything an entry says was stored. -/
structure Stored (s : PassCaches) (i : Nat) (e : PassLsnUpdate) : Prop where
  server : ∃ b ∈ s.serverStores, b.By i (s.passCount i) e.server e.writerScope ∧
    b.lsn = e.maxLsn
  group : ∃ b ∈ s.groupStores, b.By i (s.passCount i) e.server e.writerScope ∧
    b.lsn = e.maxLsn
  time : ∃ b ∈ s.serverStores, b.By i (s.passCount i) e.server e.writerScope ∧
    b.observedAt = e.lastUpdatedAt

theorem Stored.backed
    (h : s.Stored i e)
    (hserver : t.serverStores = s.serverStores)
    (hgroup : t.groupStores = s.groupStores)
    (hpass : t.passCount = s.passCount) :
    t.Backed i e := by
  refine ⟨Or.inl ?_, Or.inl ?_, Or.inl ?_⟩
  · rw [hserver, hpass]
    exact h.server
  · rw [hgroup, hpass]
    exact h.group
  · rw [hserver, hpass]
    exact h.time

/-- A call that has not noted its position is about to store for no entry. -/
theorem Backed.stored
    (hback : s.Backed i e)
    (hcall : s.caches.calls i = some c)
    (hstage : c.stage = .scoped) :
    s.Stored i e := by
  have hserver : ∀ p, ¬ s.Pending i e AcceptStage.BeforeServer p := by
    rintro p ⟨c', hc', hbefore, -⟩
    obtain rfl : c = c' := Option.some.inj (hcall.symm.trans hc')
    rw [hstage] at hbefore
    exact hbefore
  have hgroup : ∀ p, ¬ s.Pending i e AcceptStage.BeforeGroup p := by
    rintro p ⟨c', hc', hbefore, -⟩
    obtain rfl : c = c' := Option.some.inj (hcall.symm.trans hc')
    rw [hstage] at hbefore
    exact hbefore
  exact ⟨hback.server.resolve_right (hserver _), hback.group.resolve_right (hgroup _),
    hback.time.resolve_right (hserver _)⟩

/-- An entry about the scope of a call that has found it current. -/
theorem PassInv.backed_of_isFor
    (h : s.PassInv)
    (hmatch : c.scope.Matches (s.caches.currentScope c.writer))
    (he : e ∈ (s.passes i).updates)
    (hfor : e.isFor c.srv c.scope) :
    s.Backed i e := by
  refine (h.entries i e he).resolve_right fun hover => ?_
  have hscope : e.writerScope = s.caches.currentScope c.writer :=
    (PassLsnUpdate.eq_of_isFor hfor).2.trans hmatch.eq
  unfold Over at hover
  rw [hscope] at hover
  simp [LsnCaches.currentScope] at hover

theorem PassInv.restsOn_of_hides
    (h : s.PassInv)
    (hcall : s.caches.calls i = some c)
    (hstage : c.stage = .scoped)
    (hmatch : c.scope.Matches (s.caches.currentScope c.writer))
    (he : e ∈ (s.passes i).updates)
    (hfor : e.isFor c.srv c.scope)
    (hhides : e.hides c.lsn now) :
    s.RestsOn (s.acceptedBy i c now) := by
  obtain ⟨hlsn, htime⟩ := PassLsnUpdate.le_of_hides hhides
  obtain ⟨hsrv, hscope⟩ := PassLsnUpdate.eq_of_isFor hfor
  obtain ⟨⟨b, hb, hby, hblsn⟩, ⟨g, hg, hgby, hglsn⟩, ⟨b', hb', hby', hbtime⟩⟩ :=
    (h.backed_of_isFor hmatch he hfor).stored hcall hstage
  rw [hsrv, hscope] at hby hgby hby'
  have hclears : ∀ b ∈ s.serverStores, b.By i (s.passCount i) c.srv c.scope →
      b.clears ≤ s.serverClears c.srv :=
    fun b hb hby => hby.2.2.1 ▸ (h.serverStores b hb).clears
  have hgclears : g.clears ≤ s.groupClears c.writer := by
    have hle := (h.groupStores g hg).clears
    rw [hgby.2.2.2, hmatch.eq] at hle
    exact hle
  exact {
    server := ⟨b, hb, hby, hclears b hb hby, hblsn ▸ hlsn⟩
    group := ⟨g, hg, hgby, hgclears, hglsn ▸ hlsn⟩
    time := ⟨b', hb', hby', hclears b' hb' hby', hbtime ▸ htime⟩ }

/-- A call that has just noted its position is about to store it. -/
theorem backed_noted
    (hcall : t.caches.calls i = some { c with stage := .tracked })
    (hat : t.observedAt i = now)
    (hserver : e.server = c.srv)
    (hscope : e.writerScope = c.scope)
    (htime : e.lastUpdatedAt = now)
    (hlsn : e.maxLsn = c.lsn ∨ ∃ n, t.Backed i { e with lastUpdatedAt := n }) :
    t.Backed i e where
  server := by
    rcases hlsn with hlsn | ⟨n, hback⟩
    · exact Or.inr ⟨_, hcall, trivial, hserver.symm, hscope.symm, hlsn.symm⟩
    · exact hback.server
  group := by
    rcases hlsn with hlsn | ⟨n, hback⟩
    · exact Or.inr ⟨_, hcall, trivial, hserver.symm, hscope.symm, hlsn.symm⟩
    · exact hback.group
  time := Or.inr ⟨_, hcall, trivial, hserver.symm, hscope.symm, hat.trans htime.symm⟩

theorem PassInv.acceptScoped
    (h : s.PassInv)
    (hcall : s.caches.calls i = some c)
    (hstage : c.stage = .scoped)
    (hstep : s.acceptStep i c now = some t) :
    t.PassInv := by
  have hok := h.calls i c hcall
  have hnot : ∀ {p : AcceptStage → Prop}, ¬ p .scoped → ¬ p c.stage := by
    intro p hp hc
    exact hp (hstage ▸ hc)
  simp only [PassCaches.acceptStep, hstage] at hstep
  split at hstep
  · rename_i hmismatch
    rw [Bool.not_eq_true', decide_eq_false_iff_not] at hmismatch
    obtain ⟨caches, hcaches, rfl⟩ := Option.map_eq_some_iff.mp hstep
    have hadv := LsnCaches.advances_acceptStep hcaches
    rw [hstage] at hadv
    simp only [LsnCaches.acceptStep, hstage, hmismatch, false_and, if_false] at hcaches
    obtain rfl := Option.some.inj hcaches
    exact h.movesCall hcall
      ⟨hadv, rfl, rfl, rfl, rfl, rfl, rfl, List.Subset.refl _, List.Subset.refl _,
        fun _ _ => ⟨rfl, rfl⟩⟩ rfl rfl (by rintro _ ⟨⟩) (fun b hb => Or.inl hb)
      (fun b hb => Or.inl hb) (fun a ha => Or.inl ha) (fun hbefore => absurd hbefore (hnot id))
      (fun hbefore => absurd hbefore (hnot id))
  · rename_i hmatch
    rw [Bool.not_eq_true', Bool.not_eq_false, decide_eq_true_eq] at hmatch
    obtain ⟨caches, hcaches, rfl⟩ := Option.map_eq_some_iff.mp hstep
    have hadv := LsnCaches.advances_acceptStep hcaches
    rw [hstage] at hadv
    rcases WorkerPass.trackServerLsnUpdate_cases (s.passes i) c.srv c.lsn c.scope now with
      ⟨hdue, hupdates, e, he, hfor, hhides⟩ | ⟨hdue, hnew⟩
    · simp only [LsnCaches.acceptStep, hstage, hdue, Bool.not_false, Bool.true_eq_false, and_false,
        if_false] at hcaches
      obtain rfl := Option.some.inj hcaches
      refine h.moves
        ⟨hadv, rfl, rfl, rfl, rfl, rfl, rfl, List.Subset.refl _, List.Subset.refl _,
          fun j hj => ⟨Function.update_of_ne hj _ _, Function.update_of_ne hj _ _⟩⟩
        (by rintro _ ⟨⟩) (fun b hb => Or.inl hb) (fun b hb => Or.inl hb) ?_ ?_
      · intro e' he'
        simp only [Function.update_self, hupdates] at he'
        exact (h.entries i e' he').imp
          (fun hback => (hback.stored hcall hstage).backed rfl rfl rfl) (fun hover => hover.advance hadv)
      · intro a ha
        simp only [hdue, Bool.false_eq_true, if_false] at ha
        rcases List.mem_cons.mp ha with rfl | ha
        · exact Or.inr ((h.restsOn_of_hides hcall hstage hmatch he hfor hhides).mono
            (List.Subset.refl _) (List.Subset.refl _))
        · exact Or.inl ha
    · simp only [LsnCaches.acceptStep, hstage, hdue, Bool.not_true, and_true, if_pos hmatch]
        at hcaches
      obtain rfl := Option.some.inj hcaches
      refine h.moves
        ⟨hadv, rfl, rfl, rfl, rfl, rfl, rfl, List.Subset.refl _, List.Subset.refl _,
          fun j hj => ⟨Function.update_of_ne hj _ _, Function.update_of_ne hj _ _⟩⟩
        ?_ (fun b hb => Or.inl hb) (fun b hb => Or.inl hb) ?_ ?_
      · rintro _ ⟨⟩
        have hscope := hmatch.eq
        exact {
          allocated := hok.allocated
          lsn := hok.lsn
          scope := fun _ => ⟨congrArg WriterScope.hg hscope, (congrArg WriterScope.epoch hscope).le⟩
          server := by simp
          group := by simp }
      · intro e' he'
        simp only [Function.update_self] at he'
        rcases hnew e' he' with hold | rfl | ⟨e, he, hfor, rfl⟩
        · exact (h.entries i e' hold).imp
            (fun hback => (hback.stored hcall hstage).backed rfl rfl rfl)
            (fun hover => hover.advance hadv)
        · exact Or.inl (backed_noted (Function.update_self ..) (Function.update_self ..) rfl rfl rfl
            (Or.inl rfl))
        · obtain ⟨hsrv, hscope⟩ := PassLsnUpdate.eq_of_isFor hfor
          refine Or.inl (backed_noted (Function.update_self ..) (Function.update_self ..) hsrv hscope
            rfl ?_)
          unfold PassLsnUpdate.note
          split
          · exact Or.inl rfl
          · exact Or.inr ⟨e.lastUpdatedAt,
              ((h.backed_of_isFor hmatch he hfor).stored hcall hstage).backed rfl rfl rfl⟩
      · intro a ha
        simp only [hdue, if_true] at ha
        exact Or.inl ha

theorem PassInv.acceptStep
    (h : s.PassInv)
    (hcall : s.caches.calls i = some c)
    (hstep : s.acceptStep i c now = some t) :
    t.PassInv := by
  match hstage : c.stage with
  | .scoped => exact h.acceptScoped hcall hstage hstep
  | .tracked => exact h.acceptTracked hcall hstage hstep
  | .guarded => exact h.acceptGuarded hcall hstage hstep
  | .validated => exact h.acceptValidated hcall hstage hstep
  | .advanced => exact h.acceptAdvanced hcall hstage hstep
  | .recorded => exact h.acceptRecorded hcall hstage hstep

theorem PassInv.step
    {e : PassEvent}
    (h : s.PassInv)
    (hstep : s.step e = some t) :
    t.PassInv := by
  cases e with
  | caches e =>
      cases e with
      | acceptStep i coalesced now =>
          cases hstep
      | _ =>
          exact h.otherStep (by simp) hstep
  | accept i now =>
      obtain ⟨c, hcall, hstep⟩ := Option.bind_eq_some_iff.mp hstep
      exact h.acceptStep hcall hstep
  | beginWorkerPass i =>
      obtain ⟨hnone, hstep⟩ := Option.ite_none_left_eq_some.mp hstep
      obtain rfl := Option.some.inj hstep
      exact h.beginWorkerPass (by simpa using hnone)
  | finishWorkerPass i =>
      obtain ⟨-, hstep⟩ := Option.ite_none_left_eq_some.mp hstep
      obtain rfl := Option.some.inj hstep
      exact h.finishWorkerPass

theorem PassInv.init
    (workers : Nat) :
    PassInv { caches := { workers } } where
  allocated := fun hg srv hsrv => by cases hsrv
  calls := by simp
  serverStores := by simp
  groupStores := by simp
  entries := by simp
  accepted := by simp

/-- Runs of the worker passes. -/
def Reaches (workers : Nat) (ls : List PassEvent) (t : PassCaches) : Prop :=
  Run (fun s e t => step s e = some t) { caches := { workers } } ls t

/-- What an accepted position can still count on.  The cells are at least as high
until they are cleared after the store it rests on, and the time is recent until
another store of a time to the server. -/
structure Counts (s : PassCaches) (a : AcceptedLsn) : Prop where
  server : ∃ b ∈ s.serverStores, b.By a.worker a.pass a.server a.writerScope ∧
    b.clears ≤ a.serverClears ∧
    (b.clears = s.serverClears a.server → a.lsn ≤ (s.caches.server a.server).currentLsn)
  group : ∃ b ∈ s.groupStores, b.By a.worker a.pass a.server a.writerScope ∧
    b.clears ≤ a.groupClears ∧
    (b.clears = s.groupClears a.writerScope.hg.toNat →
      a.lsn ≤ (s.caches.repl a.writerScope.hg.toNat).groupLsn)
  time : ∃ b ∈ s.serverStores, b.By a.worker a.pass a.server a.writerScope ∧
    b.clears ≤ a.serverClears ∧
    (b.timeWrites = s.timeWrites a.server →
      a.observedAt < (s.caches.server a.server).updatedAt + lsnUpdateMaxDelay)

theorem PassInv.counts
    {a : AcceptedLsn}
    (h : s.PassInv)
    (ha : a ∈ s.accepted) :
    s.Counts a := by
  obtain ⟨⟨b, hb, hby, hclears, hlsn⟩, ⟨g, hg, hgby, hgclears, hglsn⟩, b', hb', hby', hclears',
    htime⟩ := h.accepted a ha
  refine ⟨⟨b, hb, hby, hclears, fun heq => ?_⟩, ⟨g, hg, hgby, hgclears, fun heq => ?_⟩,
    ⟨b', hb', hby', hclears', fun heq => ?_⟩⟩
  · have hcell := (h.serverStores b hb).lsn
    rw [hby.2.2.1] at hcell
    exact hlsn.trans (hcell heq)
  · have hcell := (h.groupStores g hg).lsn
    rw [hgby.2.2.2] at hcell
    exact hglsn.trans (hcell heq)
  · have hcell := (h.serverStores b' hb').time
    rw [hby'.2.2.1] at hcell
    rw [hcell heq]
    exact htime

end PassCaches

/-- In every state that is reached, an accepted position rests on stores of its own
pass: its cells are as high, and its time as recent, until one of them is cleared or
overwritten after that store. -/
theorem lsn_coalescing
    {workers : Nat} {ls : List PassEvent} {s : PassCaches}
    (hrun : PassCaches.Reaches workers ls s) :
    ∀ a ∈ s.accepted, s.Counts a := by
  have hinv : s.PassInv := Run.invariant (I := PassCaches.PassInv) hrun
    (PassCaches.PassInv.init workers) (fun h hstep => h.step hstep)
  exact fun a ha => hinv.counts ha

/-- A pair is loaded; a worker begins a pass and stores a position of the reader. -/
def passWithStore : List PassEvent :=
  [.caches (.addServer 1 ['w'] 5432), .caches (.addServer 2 ['r'] 5432),
    .caches (.reload [⟨1, 2, true⟩] [1]), .caches .managerStep, .caches .managerStep,
    .beginWorkerPass 0, .caches (.acceptBegin 0 1 2 100 { hg := 1, epoch := 0 } 0),
    .accept 0 5000, .accept 0 0, .accept 0 0, .accept 0 0, .accept 0 0, .accept 0 0]

/-- The same position comes again and is coalesced. -/
def passWithRepeat : List PassEvent :=
  passWithStore ++ [.caches (.acceptBegin 0 1 2 100 { hg := 1, epoch := 0 } 0), .accept 0 5999]

theorem lsn_coalescing_repeat :
    ∃ s, PassCaches.Reaches 2 passWithRepeat s ∧
      s.accepted.map AcceptedLsn.observedAt = [5999, 5000] ∧ s.serverStores.length = 1 ∧
      (s.caches.server 1).updatedAt = 5000 ∧ ∀ a ∈ s.accepted, s.Counts a := by
  have heval : (passWithRepeat.foldlM PassCaches.step { caches := { workers := 2 } }).map
      (fun s => (s.accepted.map AcceptedLsn.observedAt, s.serverStores.length,
        (s.caches.server 1).updatedAt)) = some ([5999, 5000], 1, 5000) := by decide
  obtain ⟨s, hs, heq⟩ := Option.map_eq_some_iff.mp heval
  simp only [Prod.mk.injEq] at heq
  have hrun : PassCaches.Reaches 2 passWithRepeat s := Run.of_foldlM _ hs
  exact ⟨s, hrun, heq.1, heq.2.1, heq.2.2, lsn_coalescing hrun⟩

/-- The group has a new writer; its refresh has cleared the cells and has not begun
the new epoch when the position comes again. -/
def passDuringRefresh : List PassEvent :=
  passWithStore ++
  [.caches (.addServer 1 ['x'] 5432), .caches (.reload [⟨1, 2, true⟩] [1])] ++
  List.replicate 10 (.caches .managerStep) ++
  [.caches (.acceptBegin 0 1 2 100 { hg := 1, epoch := 0 } 0), .accept 0 5001]

/-- Another worker reads the clock, and stores its position only after the first. -/
def passWithLateWorker : List PassEvent :=
  [.caches (.addServer 1 ['w'] 5432), .caches (.addServer 2 ['r'] 5432),
    .caches (.reload [⟨1, 2, true⟩] [1]), .caches .managerStep, .caches .managerStep,
    .beginWorkerPass 0, .beginWorkerPass 1,
    .caches (.acceptBegin 1 1 2 90 { hg := 1, epoch := 0 } 0), .accept 1 3000,
    .caches (.acceptBegin 0 1 2 100 { hg := 1, epoch := 0 } 0),
    .accept 0 5000, .accept 0 0, .accept 0 0, .accept 0 0, .accept 0 0, .accept 0 0,
    .accept 1 0, .accept 1 0, .accept 1 0]

/-- In the first run a call returns true in the current epoch over cells that are
empty, and nothing is cleared afterwards.  In the second the time of a server is two
delays older than a position that a worker has accepted in its pass. -/
theorem lsn_coalescing_hides :
    (∃ s a, PassCaches.Reaches 2 passDuringRefresh s ∧ s.accepted.head? = some a ∧ a.lsn = 100 ∧
        a.server = 1 ∧ a.writerScope = s.caches.currentScope 1 ∧
        a.serverClears = s.serverClears 1 ∧ a.groupClears = s.groupClears 1 ∧
        (s.caches.server 1).currentLsn = 0 ∧ (s.caches.repl 1).groupLsn = 0) ∧
      ∃ s a, PassCaches.Reaches 2 passWithLateWorker s ∧ s.accepted = [a] ∧ a.worker = 0 ∧
        a.pass = s.passCount 0 ∧ a.observedAt = 5000 ∧ a.server = 1 ∧
        (s.caches.server 1).updatedAt = 3000 := by
  constructor
  · have heval : (passDuringRefresh.foldlM PassCaches.step { caches := { workers := 2 } }).map
        (fun s => (s.accepted.head?, s.caches.currentScope 1, s.serverClears 1, s.groupClears 1,
          (s.caches.server 1).currentLsn, (s.caches.repl 1).groupLsn)) =
        some (some ⟨0, 1, 1, ⟨1, 0⟩, 100, 5001, 1, 1⟩, ⟨1, 0⟩, 1, 1, 0, 0) := by decide
    obtain ⟨s, hs, heq⟩ := Option.map_eq_some_iff.mp heval
    simp only [Prod.mk.injEq] at heq
    obtain ⟨ha, hscope, hclears, hgroup, hlsn, hgroupLsn⟩ := heq
    exact ⟨s, _, Run.of_foldlM _ hs, ha, rfl, rfl, hscope.symm, hclears.symm, hgroup.symm, hlsn,
      hgroupLsn⟩
  · have heval : (passWithLateWorker.foldlM PassCaches.step { caches := { workers := 2 } }).map
        (fun s => (s.accepted, s.passCount 0, (s.caches.server 1).updatedAt)) =
        some ([⟨0, 1, 1, ⟨1, 0⟩, 100, 5000, 0, 0⟩], 1, 3000) := by decide
    obtain ⟨s, hs, heq⟩ := Option.map_eq_some_iff.mp heval
    simp only [Prod.mk.injEq] at heq
    obtain ⟨ha, hpass, htime⟩ := heq
    exact ⟨s, _, Run.of_foldlM _ hs, ha, rfl, hpass.symm, rfl, rfl, htime⟩

end PolarProxy
