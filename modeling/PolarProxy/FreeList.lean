import PolarProxy.MatchIndex
import PolarProxy.Library.Runs

/-!
# Runs of the FREE list

The operations of the FREE list, in any order, with the connections that are
reserved.  `unindexed` is not part of the source: it names the connections that
`unindex` took out of the index and nothing has removed since.

**Results.** `FreeList.Inv`, `match_index_invariant`.
-/

namespace PolarProxy

open Buckets Transition

structure FreeList where
  list : ConnList := { usedList := false }
  marks : PoolMarks := fun _ => {}
  reserved : List Nat := []
  unindexed : List Nat := []

inductive FreeListOp
  | add (conn : Nat) (key : Option PoolMatchKey)
  /-- `reserve_reader_pool_connection_unlocked` -/
  | reserve (conn : Nat)
  /-- `polardb_forget_reserved_connection_unlocked` -/
  | forget (conn : Nat)
  | remove (index : Nat)
  | removeConn (conn : Nat)
  | removeUnindexed (index : Nat)
  | removeMatching (key : PoolMatchKey)
  | unindex (conn : Nat)
  | detachAll
  | rebuild
  | prune
  /-- The USED list writes the hint of one of its connections. -/
  | moveHint (conn position : Nat)
  deriving DecidableEq

namespace FreeList

def env (s : FreeList) (maxConnections : Int) : ListEnv :=
  { reserved := fun c => s.reserved.contains c, maxConnections := maxConnections }

def add (s : FreeList) (maxConnections : Int) (conn : Nat) (key : Option PoolMatchKey) :
    FreeList :=
  let (list, marks) := s.list.addUnlocked s.marks (s.env maxConnections) conn key
  { s with list := list, marks := marks, unindexed := s.unindexed.filter (· ≠ conn) }

/-- The connection that left the list is out of the index for good. -/
def removed (s : FreeList) (result : Option Nat × ConnList × PoolMarks) : FreeList :=
  { s with
    list := result.2.1
    marks := result.2.2
    unindexed := s.unindexed.filter (some · ≠ result.1) }

/-- `polardb_forget_reserved_connection_unlocked` -/
def forget (s : FreeList) (conn : Nat) : FreeList :=
  { s with reserved := s.reserved.filter (· ≠ conn) }

/-- `remove_unlocked` -/
def removeAt (s : FreeList) (maxConnections : Int) (index : Nat) : FreeList :=
  match s.list.conns[index]? with
  | none => s
  | some conn =>
      (s.removed (s.list.removeUnlocked s.marks (s.env maxConnections) index)).forget conn

/-- The loop of `detach_all_unlocked`. -/
def detachLoop (maxConnections : Int) : Nat → FreeList → FreeList
  | 0, s => s
  | rounds + 1, s =>
      if s.list.conns.isEmpty then s
      else detachLoop maxConnections rounds (s.removeAt maxConnections 0)

/-- `detach_all_unlocked` -/
def detachAll (s : FreeList) (maxConnections : Int) : FreeList :=
  let s := s.detachLoop maxConnections s.list.conns.length
  { s with list := s.list.pruneEmptyMatchBuckets, reserved := [] }

/-- A connection is added only when it is outside the list, and removed without
its index entry only as the assertions of `remove_unindexed_unlocked` allow. -/
def step (maxConnections : Int) (s : FreeList) : FreeListOp → Option FreeList
  | .add conn key => if conn ∈ s.list.conns then none else some (s.add maxConnections conn key)
  | .reserve conn =>
      if conn ∈ s.list.conns then none
      else
        let s := s.add maxConnections conn none
        some { s with reserved := conn :: s.reserved }
  | .forget conn => some (s.forget conn)
  | .remove index => some (s.removeAt maxConnections index)
  | .removeConn conn =>
      let (position, marks) := s.list.findIdx s.marks conn
      match position with
      | none => some { s with marks := marks }
      | some index => some ({ s with marks := marks }.removeAt maxConnections index)
  | .removeUnindexed index =>
      match s.list.conns[index]? with
      | none => some s
      | some conn =>
          if conn ∈ s.reserved ∨ ∃ e ∈ s.list.matchingByKey.entries, conn ∈ e.2 then none
          else some (s.removed (s.list.removeUnindexed s.marks index))
  | .removeMatching key =>
      some (s.removed (s.list.removeMatching s.marks (s.env maxConnections) key))
  | .unindex conn =>
      let (list, marks) := s.list.unindex s.marks (s.env maxConnections) conn
      some { s with list := list, marks := marks, unindexed := conn :: s.unindexed }
  | .detachAll => some (s.detachAll maxConnections)
  | .rebuild =>
      let (list, marks) := s.list.rebuildFreeMatchIndex s.marks (s.env maxConnections)
      some { s with list := list, marks := marks, unindexed := [] }
  | .prune => some { s with list := s.list.pruneEmptyMatchBuckets }
  | .moveHint conn position =>
      if conn ∈ s.list.conns then none
      else some { s with marks := s.marks.setPosition conn position }

/-! ## The invariant -/

/-- Reserved connections lie in the list without a key. -/
structure Inv (maxConnections : Int) (s : FreeList) : Prop where
  indexed : s.list.Indexed s.marks maxConnections.toNat s.unindexed
  reserved : ∀ c ∈ s.reserved, (c, ({} : PoolMatchKey)) ∈ s.list.keyed

variable {maxConnections : Int} {s s' : FreeList} {conn index : Nat}

theorem Inv.init : Inv maxConnections {} :=
  ⟨ConnList.Indexed.empty, by simp⟩

theorem Inv.add
    (h : s.Inv maxConnections)
    (hnew : conn ∉ s.list.conns)
    (key : Option PoolMatchKey) :
    (s.add maxConnections conn key).Inv maxConnections where
  indexed := h.indexed.addUnlocked hnew key
  reserved := by
    intro c hc
    change (c, _) ∈ (s.list.addUnlocked s.marks (s.env maxConnections) conn key).1.keyed
    rw [ConnList.keyed_addUnlocked h.indexed.toPlaced]
    exact List.mem_append_left _ (h.reserved c hc)

/-- A connection leaves the list, with or without a reservation. -/
theorem Inv.removed
    {key : PoolMatchKey} {result : Option Nat × ConnList × PoolMarks}
    (h : s.Inv maxConnections)
    (hconn : result.1 = some conn)
    (hr : s.list.Removes s.marks conn key result.2.1 result.2.2)
    (hi : result.2.1.Indexed result.2.2 maxConnections.toNat (s.unindexed.filter (· ≠ conn))) :
    ((s.removed result).forget conn).Inv maxConnections ∧
      (conn ∉ s.reserved → (s.removed result).Inv maxConnections) := by
  have hi' : result.2.1.Indexed result.2.2 maxConnections.toNat
      (s.unindexed.filter (some · ≠ result.1)) := by
    apply hi.of_mem_iff
    intro c
    simp [hconn]
  have hkept : ∀ c ∈ s.reserved, c ≠ conn → (c, ({} : PoolMatchKey)) ∈ result.2.1.keyed :=
    fun c hc hne => (hr.mem_keyed h.indexed.toPlaced).mpr ⟨h.reserved c hc, hne⟩
  refine ⟨⟨hi', ?_⟩, fun hfree => ⟨hi', ?_⟩⟩
  · intro c hc
    obtain ⟨hmem, hne⟩ := List.mem_filter.mp hc
    exact hkept c hmem (of_decide_eq_true hne)
  · intro c hc
    apply hkept c hc
    rintro rfl
    exact hfree hc

theorem Inv.removeAt
    (h : s.Inv maxConnections) :
    (s.removeAt maxConnections index).Inv maxConnections := by
  rw [FreeList.removeAt]
  split
  · exact h
  · rename_i conn hc
    obtain ⟨hconn, ⟨k, hr⟩, hi⟩ :=
      ConnList.Indexed.removeUnlocked (s.env maxConnections) h.indexed hc
    exact (h.removed hconn hr hi).1

theorem Inv.detachLoop
    (h : s.Inv maxConnections)
    (rounds : Nat) :
    (s.detachLoop maxConnections rounds).Inv maxConnections := by
  induction rounds generalizing s with
  | zero =>
      exact h
  | succ rounds ih =>
      rw [FreeList.detachLoop]
      split
      · exact h
      · exact ih h.removeAt

theorem Inv.frame
    (h : s.Inv maxConnections)
    (hnew : conn ∉ s.list.conns)
    (position : Nat) :
    ({ s with marks := s.marks.setPosition conn position } : FreeList).Inv maxConnections where
  indexed := by
    apply h.indexed.frame
    intro c hc
    have hne : c ≠ conn := by
      rintro rfl
      exact hnew hc
    simp [PoolMarks.setPosition, hne]
  reserved := h.reserved

theorem Inv.step
    {op : FreeListOp}
    (h : s.Inv maxConnections)
    (hstep : s.step maxConnections op = some s') :
    s'.Inv maxConnections := by
  cases op with
  | add conn key =>
      simp only [FreeList.step, Option.ite_none_left_eq_some, Option.some.injEq] at hstep
      obtain ⟨hnew, rfl⟩ := hstep
      exact h.add hnew key
  | reserve conn =>
      simp only [FreeList.step, Option.ite_none_left_eq_some, Option.some.injEq] at hstep
      obtain ⟨hnew, rfl⟩ := hstep
      have hadd := h.add hnew none
      refine ⟨hadd.indexed, ?_⟩
      intro c hc
      rcases List.mem_cons.mp hc with rfl | hc
      · change (c, _) ∈ (s.list.addUnlocked s.marks (s.env maxConnections) c none).1.keyed
        rw [ConnList.keyed_addUnlocked h.indexed.toPlaced]
        simp
      · exact hadd.reserved c hc
  | forget conn =>
      obtain rfl := Option.some.inj hstep
      exact ⟨h.indexed, fun c hc => h.reserved c (List.mem_filter.mp hc).1⟩
  | remove index =>
      obtain rfl := Option.some.inj hstep
      exact h.removeAt
  | removeConn conn =>
      by_cases hmem : conn ∈ s.list.conns
      · obtain ⟨i, hi⟩ := List.mem_iff_getElem?.mp hmem
        simp only [FreeList.step, h.indexed.findIdx hi, Option.some.injEq] at hstep
        rw [← hstep]
        exact h.removeAt
      · simp only [FreeList.step, ConnList.findIdx_of_notMem hmem, Option.some.injEq] at hstep
        rw [← hstep]
        exact h
  | removeUnindexed index =>
      simp only [FreeList.step] at hstep
      split at hstep
      · obtain rfl := Option.some.inj hstep
        exact h
      · rename_i conn hc
        simp only [Option.ite_none_left_eq_some, Option.some.injEq, not_or] at hstep
        obtain ⟨⟨hfree, hout⟩, rfl⟩ := hstep
        obtain ⟨k, hk, -⟩ := h.indexed.getElem?_keyed hc
        obtain ⟨hconn, hr, hi⟩ := h.indexed.removeUnindexed hc hk
          (fun k' hmem => hout (mem_entries_of_mem_bucket hmem))
        exact (h.removed hconn hr hi).2 hfree
  | removeMatching key =>
      obtain rfl := Option.some.inj hstep
      rcases ConnList.Indexed.removeMatching (s.env maxConnections) h.indexed key with
        ⟨-, hnone⟩ | ⟨conn, hmem, hconn, hr, hi⟩
      · rw [hnone]
        refine ⟨h.indexed.of_mem_iff ?_, h.reserved⟩
        simp [FreeList.removed]
      · refine (h.removed hconn hr hi).2 ?_
        intro hres
        obtain ⟨hin, hk, -⟩ := (h.indexed.mem_bucket conn key).mp hmem
        rw [h.indexed.key_unique hin (h.reserved conn hres)] at hk
        cases hk
  | unindex conn =>
      obtain ⟨l', hl', hkeyed, -, hi⟩ :=
        ConnList.Indexed.unindex (s.env maxConnections) h.indexed conn
      simp only [FreeList.step, hl', Option.some.injEq] at hstep
      rw [← hstep]
      refine ⟨hi, ?_⟩
      rw [hkeyed]
      exact h.reserved
  | detachAll =>
      obtain rfl := Option.some.inj hstep
      have hloop := h.detachLoop s.list.conns.length
      exact ⟨hloop.indexed.pruneEmptyMatchBuckets, by simp [FreeList.detachAll]⟩
  | rebuild =>
      obtain rfl := Option.some.inj hstep
      refine ⟨h.indexed.rebuildFreeMatchIndex, ?_⟩
      intro c hc
      have hin := h.reserved c hc
      change (c, _) ∈ (s.list.rebuildFreeMatchIndex s.marks (s.env maxConnections)).1.keyed
      rw [ConnList.keyed_rebuildFreeMatchIndex, List.mem_map]
      refine ⟨c, h.indexed.mem_conns hin, ?_⟩
      rw [h.indexed.repairedKey hin, ite_self]
  | prune =>
      obtain rfl := Option.some.inj hstep
      refine ⟨h.indexed.pruneEmptyMatchBuckets, ?_⟩
      rw [ConnList.keyed_pruneEmptyMatchBuckets]
      exact h.reserved
  | moveHint conn position =>
      simp only [FreeList.step, Option.ite_none_left_eq_some, Option.some.injEq] at hstep
      obtain ⟨hnew, rfl⟩ := hstep
      exact h.frame hnew position

/-! ## What the index promises -/

/-- The connection `remove_matching_unlocked` finds for a key. -/
def lookup (s : FreeList) (maxConnections : Int) (key : PoolMatchKey) : Option Nat :=
  (s.list.removeMatching s.marks (s.env maxConnections) key).1

/-- The arrays, the hints and the buckets agree, except for the buckets of the
connections in `excused`. -/
structure IndexAgrees (maxConnections : Int) (s : FreeList) (excused : List Nat) : Prop where
  keys : s.list.matchKeysByPosition.length = s.list.conns.length
  hints : ∀ i c, s.list.conns[i]? = some c → (s.marks c).corePoolPosition = i
  indexed : ∀ c k, (c, k) ∈ s.list.keyed → c ∉ excused →
    ((∃! key, c ∈ bucket s.list.matchingByKey key) ↔ k.isEmpty = false ∧ c ∉ s.reserved)
  once : ∀ key, (bucket s.list.matchingByKey key).Nodup
  count : s.list.emptyMatchBucketCount = empties s.list.matchingByKey
  limited : s.list.emptyMatchBucketCount ≤ (s.env maxConnections).emptyBucketLimit
  lookup_iff : ∀ key, (∃ c, s.lookup maxConnections key = some c) ↔
    key.isEmpty = false ∧ ∃ c, (c, key) ∈ s.list.keyed ∧ c ∉ s.reserved ∧ c ∉ excused
  lookup_key : ∀ key c, s.lookup maxConnections key = some c →
    (c, key) ∈ s.list.keyed ∧ c ∉ s.reserved

theorem Inv.notMem_reserved
    {c : Nat} {k : PoolMatchKey}
    (h : s.Inv maxConnections)
    (hin : (c, k) ∈ s.list.keyed)
    (hk : k.isEmpty = false) :
    c ∉ s.reserved := by
  intro hres
  rw [h.indexed.key_unique hin (h.reserved c hres)] at hk
  cases hk

theorem Inv.lookup_some
    {c : Nat} {key : PoolMatchKey}
    (h : s.Inv maxConnections)
    (hlookup : s.lookup maxConnections key = some c) :
    c ∈ bucket s.list.matchingByKey key := by
  rcases ConnList.Indexed.removeMatching (s.env maxConnections) h.indexed key with
    ⟨-, hnone⟩ | ⟨conn, hmem, hconn, -, -⟩
  · rw [lookup, hnone] at hlookup
    cases hlookup
  · rw [lookup, hconn] at hlookup
    obtain rfl := Option.some.inj hlookup
    exact hmem

theorem Inv.indexAgrees
    (h : s.Inv maxConnections) :
    s.IndexAgrees maxConnections s.unindexed where
  keys := h.indexed.keys
  hints := h.indexed.hints
  indexed := by
    intro c k hin hout
    constructor
    · rintro ⟨key, hmem, -⟩
      obtain ⟨hin', hk, -⟩ := (h.indexed.mem_bucket c key).mp hmem
      obtain rfl := h.indexed.key_unique hin hin'
      exact ⟨hk, h.notMem_reserved hin hk⟩
    · rintro ⟨hk, -⟩
      refine ⟨k, (h.indexed.mem_bucket c k).mpr ⟨hin, hk, hout⟩, ?_⟩
      intro key hmem
      exact h.indexed.key_unique ((h.indexed.mem_bucket c key).mp hmem).1 hin
  once := h.indexed.bucket_nodup
  count := h.indexed.count
  limited := h.indexed.limited
  lookup_iff := by
    intro key
    constructor
    · rintro ⟨c, hc⟩
      obtain ⟨hin, hk, hout⟩ := (h.indexed.mem_bucket c key).mp (h.lookup_some hc)
      exact ⟨hk, c, hin, h.notMem_reserved hin hk, hout⟩
    · rintro ⟨hk, c, hin, -, hout⟩
      rcases ConnList.Indexed.removeMatching (s.env maxConnections) h.indexed key with
        ⟨hnil, -⟩ | ⟨conn, -, hconn, -, -⟩
      · have hmem := (h.indexed.mem_bucket c key).mpr ⟨hin, hk, hout⟩
        rw [hnil] at hmem
        exact absurd hmem List.not_mem_nil
      · exact ⟨conn, hconn⟩
  lookup_key := by
    intro key c hc
    obtain ⟨hin, hk, -⟩ := (h.indexed.mem_bucket c key).mp (h.lookup_some hc)
    exact ⟨hin, h.notMem_reserved hin hk⟩

/-- After any operations on an empty FREE list the index agrees with the list,
except for the connections that `unindex` took out of it. -/
theorem match_index_invariant
    (maxConnections : Int)
    {ops : List FreeListOp} {s : FreeList}
    (hrun : Run (fun s op s' => step maxConnections s op = some s') {} ops s) :
    s.IndexAgrees maxConnections s.unindexed :=
  (hrun.invariant (I := Inv maxConnections) Inv.init (fun h hstep => h.step hstep)).indexAgrees

/-- Two connections of one key, one of them removed, and the rest found. -/
theorem match_index_invariant_swap :
    ∃ s,
      Run (fun s op s' => step 2 s op = some s') {}
        [.add 7 (some { authHash := 1 }), .reserve 8, .add 9 (some { authHash := 1 }),
          .remove 0] s ∧
      s.list.conns = [9, 8] ∧
      s.IndexAgrees 2 s.unindexed := by
  have hrun := Run.of_foldlM (f := step 2)
    (s := {}) [.add 7 (some { authHash := 1 }), .reserve 8, .add 9 (some { authHash := 1 }),
      .remove 0] rfl
  exact ⟨_, hrun, by decide, match_index_invariant 2 hrun⟩

/-- `unindex` leaves a connection in the list, with its key and in no bucket. -/
theorem match_index_broken_by_unindex :
    ¬ ∀ (maxConnections : Int) (ops : List FreeListOp) (s : FreeList),
      Run (fun s op s' => step maxConnections s op = some s') {} ops s →
      s.IndexAgrees maxConnections [] := by
  intro h
  have hrun := Run.of_foldlM (f := step 2)
    (s := {}) [.add 7 (some { authHash := 1 }), .unindex 7] rfl
  have hagrees := h 2 _ _ hrun
  obtain ⟨key, hmem, -⟩ :=
    (hagrees.indexed 7 { authHash := 1 } (by decide) List.not_mem_nil).mpr ⟨rfl, by decide⟩
  obtain ⟨e, he, hin⟩ := mem_entries_of_mem_bucket hmem
  revert e
  decide

end FreeList

end PolarProxy
