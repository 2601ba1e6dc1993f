import Mathlib.Algebra.BigOperators.Fin
import Mathlib.Algebra.BigOperators.Group.Finset.Piecewise
import Mathlib.Algebra.Order.BigOperators.Group.Finset
import PolarProxy.QueryCacheIndex

/-!
# Accounting of the query cache

A set adds an entry to the counters and a purge takes what it drops off them.  A flush frees
the entries of the vectors and leaves the counters as they are; and `get_data_size`, which
is asked of each of the 32 arrays, multiplies the number of all entries.

**Results.** `accounts_after`, `accounting_iff`.
-/

namespace PolarProxy

namespace QueryCache

open State

variable {K : Type} {threads : Nat}

/-! ## What the cache holds -/

namespace State

/-- The number of entries in the vectors. -/
def entriesHeld (s : State K threads) : Nat :=
  ∑ i, (s.kvs i).entries.length

/-- The lengths of the values of the entries in the vectors. -/
def bytesHeld (s : State K threads) : Nat :=
  ∑ i, s.lengthSum (s.kvs i).entries

end State

/-- What is counted is what is held. -/
structure Accounting (A : Arith) (s : State K threads) : Prop where
  entries : s.gloNumEntries = s.entriesHeld
  bytes : s.gloSizeValues = s.bytesHeld
  nonneg : 0 ≤ s.gloNumEntries ∧ 0 ≤ s.gloSizeValues
  total : s.getDataSizeTotal A = entryOverhead A * s.gloNumEntries + s.gloSizeValues
  pct : ∀ maxMemorySize, s.currentUsedMemoryPct A maxMemorySize =
    if maxMemorySize = 0 then 100
    else min 100 (A.pct (entryOverhead A * s.entriesHeld + s.bytesHeld) maxMemorySize)

/-- No flush of a run finds an entry. -/
def Lossless (A : Arith) (hash : K → Nat) (ls : List (Event K threads)) : Prop :=
  ∀ mid i s, mid ++ [.clear i] <+: ls → after A hash mid = some s → (s.kvs i).entries = []

section Accounts

variable {A : Arith} {hash : K → Nat} {s s' : State K threads} {e : Event K threads}
variable {ls : List (Event K threads)}

theorem sum_update
    {ι β : Type} [Fintype ι] [DecidableEq ι]
    (f : ι → β) (g : β → Nat) (i : ι) (b : β) :
    ∑ j, g (Function.update f i b j) + g (f i) = ∑ j, g (f j) + g b := by
  have hcomp : ∀ j, g (Function.update f i b j) = Function.update (fun j => g (f j)) i (g b) j := by
    intro j
    rw [Function.update_apply, Function.update_apply]
    split
    · rfl
    · rfl
  simp only [hcomp]
  rw [Finset.sum_update_of_mem (Finset.mem_univ i),
    ← Finset.sum_sdiff (Finset.subset_univ ({i} : Finset ι)), Finset.sum_singleton]
  omega

theorem lengthSum_congr
    {ids : List Nat}
    (h : ∀ id ∈ ids, Keeps (s.objects id) (s'.objects id)) :
    s'.lengthSum ids = s.lengthSum ids := by
  rw [lengthSum, lengthSum]
  congr 1
  refine List.map_congr_left ?_
  intro id hid
  exact (h id hid).length

theorem bytesHeld_congr
    (h : ∀ i, ∀ id ∈ (s.kvs i).entries, Keeps (s.objects id) (s'.objects id)) :
    ∑ i, s'.lengthSum (s.kvs i).entries = s.bytesHeld :=
  Finset.sum_congr rfl (fun i _ => lengthSum_congr (h i))

/-! ## Operations -/

theorem held_set
    (h : IndexInv hash (calls ls) s)
    (call : SetCall K) :
    (s.set hash call).entriesHeld = s.entriesHeld + 1 ∧
      (s.set hash call).bytesHeld = s.bytesHeld + call.value.length := by
  have hkeeps : ∀ i, ∀ id ∈ (s.kvs i).entries, Keeps (s.objects id) ((s.set hash call).objects id) :=
    fun i id hid => set_keeps call (Nat.ne_of_lt (h.home i id hid).1)
  constructor
  · have hsum := sum_update s.kvs (fun kv => kv.entries.length) (arrayOf (hash call.key))
      { entries := (s.kvs (arrayOf (hash call.key))).entries ++ [s.made],
        btMap := ((s.kvs (arrayOf (hash call.key))).btMap.erase (hash call.key)).insert
          (hash call.key) s.made }
    change (s.set hash call).entriesHeld + _ = s.entriesHeld + _ at hsum
    rw [List.length_append, List.length_singleton] at hsum
    omega
  · have hsum := sum_update s.kvs (fun kv => (s.set hash call).lengthSum kv.entries)
      (arrayOf (hash call.key))
      { entries := (s.kvs (arrayOf (hash call.key))).entries ++ [s.made],
        btMap := ((s.kvs (arrayOf (hash call.key))).btMap.erase (hash call.key)).insert
          (hash call.key) s.made }
    rw [bytesHeld_congr hkeeps] at hsum
    change (s.set hash call).bytesHeld + _ = s.bytesHeld + _ at hsum
    have hnew : ((s.set hash call).objects s.made).length = call.value.length := by
      simp [State.set, replace]
    have happend : (s.set hash call).lengthSum ((s.kvs (arrayOf (hash call.key))).entries ++ [s.made]) =
        (s.set hash call).lengthSum (s.kvs (arrayOf (hash call.key))).entries + call.value.length := by
      simp [lengthSum, hnew]
    rw [happend] at hsum
    omega

theorem held_purge (p : Purge) :
    (s.purge p).entriesHeld + (s.purged p).1.length = s.entriesHeld ∧
      (s.purge p).bytesHeld + s.lengthSum (s.purged p).1 = s.bytesHeld := by
  obtain ⟨hdropped, hkept⟩ := SwapRemove.removeWhere_spec (s.drops p) (s.kvs p.array).entries
  have hperm : ((s.purged p).1 ++ (s.purged p).2).Perm (s.kvs p.array).entries :=
    (hdropped.append hkept).trans (List.filter_append_perm _ _)
  constructor
  · have hlen := hperm.length_eq
    rw [List.length_append] at hlen
    have hsum := sum_update s.kvs (fun kv => kv.entries.length) p.array
      { entries := (s.purged p).2, btMap := s.eraseKeys (s.kvs p.array).btMap (s.purged p).1 }
    change (s.purge p).entriesHeld + _ = s.entriesHeld + (s.purged p).2.length at hsum
    omega
  · have hlen : s.lengthSum (s.purged p).1 + s.lengthSum (s.purged p).2 =
        s.lengthSum (s.kvs p.array).entries := by
      have hmap := (hperm.map fun id => (s.objects id).length).sum_eq
      rwa [List.map_append, List.sum_append] at hmap
    have hsum := sum_update s.kvs (fun kv => s.lengthSum kv.entries) p.array
      { entries := (s.purged p).2, btMap := s.eraseKeys (s.kvs p.array).btMap (s.purged p).1 }
    change (s.purge p).bytesHeld + _ = s.bytesHeld + s.lengthSum (s.purged p).2 at hsum
    omega

theorem held_clear (i : Fin sharedQueryCacheHashTables) :
    (s.clear i).entriesHeld + (s.kvs i).entries.length = s.entriesHeld ∧
      (s.clear i).bytesHeld + s.lengthSum (s.kvs i).entries = s.bytesHeld := by
  have hkeeps : ∀ j, ∀ id ∈ (s.kvs j).entries, Keeps (s.objects id) ((s.clear i).objects id) :=
    fun _ id _ => clear_keeps i id
  constructor
  · have hsum := sum_update s.kvs (fun kv => kv.entries.length) i {}
    change (s.clear i).entriesHeld + _ = s.entriesHeld + 0 at hsum
    omega
  · have hsum := sum_update s.kvs (fun kv => (s.clear i).lengthSum kv.entries) i {}
    rw [bytesHeld_congr hkeeps, lengthSum_congr (hkeeps i)] at hsum
    change (s.clear i).bytesHeld + _ = s.bytesHeld + 0 at hsum
    omega

/-! ## Runs -/

theorem lossless_concat
    (h : after A hash ls = some s) :
    Lossless A hash (ls ++ [e]) ↔ Lossless A hash ls ∧ ∀ i, e = .clear i → (s.kvs i).entries = [] := by
  constructor
  · intro hlossless
    constructor
    · intro mid i t hpre
      exact hlossless mid i t (hpre.trans (List.prefix_append ls [e]))
    · rintro i rfl
      exact hlossless ls i s (List.prefix_refl _) h
  · rintro ⟨hlossless, hlast⟩ mid i t hpre ht
    rcases List.prefix_concat_iff.mp hpre with heq | hpre
    · obtain ⟨rfl, hsingle⟩ := List.append_inj' heq rfl
      rw [h] at ht
      obtain rfl := Option.some.inj ht
      exact hlast i (List.singleton_inj.mp hsingle).symm
    · exact hlossless mid i t hpre ht

/-- The counters and what is held. -/
structure Accounts (noLoss : Prop) (s : State K threads) : Prop where
  entries : (s.entriesHeld : Int) ≤ s.gloNumEntries
  bytes : (s.bytesHeld : Int) ≤ s.gloSizeValues
  lossless : noLoss → s.gloNumEntries = s.entriesHeld ∧ s.gloSizeValues = s.bytesHeld
  lossy : s.gloNumEntries = s.entriesHeld → noLoss

/-- The counters are never below what the cache holds, and equal to it as long as no flush
finds an entry. -/
theorem accounts_after
    (h : after A hash ls = some s) :
    Accounts (Lossless A hash ls) s := by
  induction ls using List.reverseRecOn generalizing s with
  | nil =>
      obtain rfl := Option.some.inj h
      have hentries : (State.init : State K threads).entriesHeld = 0 := by
        simp [entriesHeld, State.init]
      have hbytes : (State.init : State K threads).bytesHeld = 0 := by
        simp [bytesHeld, lengthSum, State.init]
      refine ⟨by rw [hentries]; rfl, by rw [hbytes]; rfl, ?_, ?_⟩
      · intro _
        rw [hentries, hbytes]
        exact ⟨rfl, rfl⟩
      · intro _ mid i t hpre
        simp at hpre
  | append_singleton ls e ih =>
      rw [after_concat] at h
      obtain ⟨t, ht, hstep⟩ := Option.bind_eq_some_iff.mp h
      obtain ⟨hentries, hbytes, hlossless, hlossy⟩ := ih ht
      have hinv := indexInv_after ht
      rw [lossless_concat ht]
      rcases step_cases hstep with
        ⟨call, rfl, rfl⟩ | ⟨j, p, rfl, hp, rfl⟩ | ⟨i, rfl, rfl⟩ | ⟨-, -, hclear, hkvs, -, hkeeps, hnum, hsize⟩
      · obtain ⟨hheld, hlength⟩ := held_set hinv call
        have hnum : (t.set hash call).gloNumEntries = t.gloNumEntries + 1 := rfl
        have hsize : (t.set hash call).gloSizeValues = t.gloSizeValues + call.value.length := rfl
        refine ⟨by omega, by omega, ?_, ?_⟩
        · rintro ⟨hl, -⟩
          obtain ⟨hn, hs⟩ := hlossless hl
          omega
        · intro hn
          exact ⟨hlossy (by omega), by simp⟩
      · obtain ⟨hheld, hlength⟩ := @held_purge _ _ t p
        have hnum : (t.purge p).gloNumEntries = t.gloNumEntries - (t.purged p).1.length := rfl
        have hsize : (t.purge p).gloSizeValues = t.gloSizeValues - t.lengthSum (t.purged p).1 := rfl
        have hgoal : Accounts (Lossless A hash ls ∧ ∀ i, (Event.drop j : Event K threads) = .clear i →
            (t.kvs i).entries = []) (t.purge p) := by
          refine ⟨by omega, by omega, ?_, ?_⟩
          · rintro ⟨hl, -⟩
            obtain ⟨hn, hs⟩ := hlossless hl
            omega
          · intro hn
            exact ⟨hlossy (by omega), by simp⟩
        exact ⟨hgoal.entries, hgoal.bytes, hgoal.lossless, hgoal.lossy⟩
      · obtain ⟨hheld, hlength⟩ := @held_clear _ _ t i
        have hnum : (t.clear i).gloNumEntries = t.gloNumEntries := rfl
        have hsize : (t.clear i).gloSizeValues = t.gloSizeValues := rfl
        refine ⟨by omega, by omega, ?_, ?_⟩
        · rintro ⟨hl, hempty⟩
          obtain ⟨hn, hs⟩ := hlossless hl
          have hnil := hempty i rfl
          rw [hnil] at hheld hlength
          change _ + 0 = _ at hheld
          change _ + 0 = _ at hlength
          omega
        · intro hn
          have hnil : (t.kvs i).entries.length = 0 := by omega
          refine ⟨hlossy (by omega), ?_⟩
          rintro i' heq
          obtain rfl := Event.clear.inj heq
          exact List.eq_nil_of_length_eq_zero hnil
      · have hheld : s.entriesHeld = t.entriesHeld := by
          rw [entriesHeld, hkvs]
          rfl
        have hlength : s.bytesHeld = t.bytesHeld := by
          rw [bytesHeld, hkvs]
          exact bytesHeld_congr (fun _ id _ => hkeeps id)
        refine ⟨by omega, by omega, ?_, ?_⟩
        · rintro ⟨hl, -⟩
          obtain ⟨hn, hs⟩ := hlossless hl
          omega
        · intro hn
          exact ⟨hlossy (by omega), fun i heq => absurd heq (hclear i)⟩

theorem getDataSizeTotal_eq (A : Arith) :
    s.getDataSizeTotal A = 32 * (s.gloNumEntries * entryOverhead A) + s.gloSizeValues := by
  rw [getDataSizeTotal, List.sum_replicate, nsmul_eq_mul]
  rfl

theorem total_iff (A : Arith) :
    s.getDataSizeTotal A = entryOverhead A * s.gloNumEntries + s.gloSizeValues ↔
      s.gloNumEntries = 0 := by
  have hpos : 0 < entryOverhead A := by
    rw [entryOverhead]
    omega
  rw [getDataSizeTotal_eq]
  constructor
  · intro h
    have hzero : s.gloNumEntries * (entryOverhead A : Int) = 0 := by
      rw [Int.mul_comm (entryOverhead A : Int)] at h
      omega
    rcases Int.mul_eq_zero.mp hzero with hnum | hoverhead
    · exact hnum
    · omega
  · intro h
    rw [h]
    simp

/-- The accounting is right in a reached state if and only if no flush has found an entry and
the cache is empty; the counters alone are right if and only if no flush has found an entry,
and they never wrap. -/
theorem accounting_iff
    (A : Arith) (hash : K → Nat) (ls : List (Event K threads)) (s : State K threads)
    (h : after A hash ls = some s) :
    (Accounting A s ↔ Lossless A hash ls ∧ ∀ i, (s.kvs i).entries = []) ∧
      (s.gloNumEntries = s.entriesHeld ∧ s.gloSizeValues = s.bytesHeld ↔ Lossless A hash ls) ∧
      0 ≤ s.gloNumEntries ∧ 0 ≤ s.gloSizeValues := by
  obtain ⟨hentries, hbytes, hlossless, hlossy⟩ := accounts_after h
  have hempty : s.entriesHeld = 0 ↔ ∀ i, (s.kvs i).entries = [] := by
    rw [entriesHeld, Finset.sum_eq_zero_iff]
    simp
  refine ⟨?_, ⟨fun hcount => hlossy hcount.1, hlossless⟩, by omega, by omega⟩
  constructor
  · intro hacc
    refine ⟨hlossy hacc.entries, hempty.mp ?_⟩
    have hzero := (total_iff A).mp hacc.total
    have heq := hacc.entries
    omega
  · rintro ⟨hl, hnone⟩
    obtain ⟨hnum, hsize⟩ := hlossless hl
    have hzero : s.gloNumEntries = 0 := by
      rw [hnum, hempty.mpr hnone]
      rfl
    have htotal := (total_iff A).mpr hzero
    refine ⟨hnum, hsize, ⟨by omega, by omega⟩, htotal, ?_⟩
    intro maxMemorySize
    rw [currentUsedMemoryPct, htotal, hnum, hsize]

/-- One entry with a value of one byte. -/
def oneEntry : State Nat 1 :=
  State.init.set id ⟨1, [7], 10, 10, 100⟩

theorem accounting_iff_oneEntry :
    (Accounting exactArith oneEntry ↔
        Lossless exactArith id [(.set ⟨1, [7], 10, 10, 100⟩ : Event Nat 1)] ∧
          ∀ i, (oneEntry.kvs i).entries = []) ∧
      (oneEntry.gloNumEntries = oneEntry.entriesHeld ∧ oneEntry.gloSizeValues = oneEntry.bytesHeld ↔
        Lossless exactArith id [(.set ⟨1, [7], 10, 10, 100⟩ : Event Nat 1)]) ∧
      0 ≤ oneEntry.gloNumEntries ∧ 0 ≤ oneEntry.gloSizeValues :=
  accounting_iff exactArith id [.set ⟨1, [7], 10, 10, 100⟩] oneEntry rfl

/-- One entry is counted as 32. -/
theorem not_accounting_oneEntry :
    after exactArith id [(.set ⟨1, [7], 10, 10, 100⟩ : Event Nat 1)] = some oneEntry ∧
      oneEntry.getDataSizeTotal exactArith = 3073 ∧
      (entryOverhead exactArith * oneEntry.gloNumEntries + oneEntry.gloSizeValues = 97) ∧
      ¬ Accounting exactArith oneEntry := by
  have htotal : oneEntry.getDataSizeTotal exactArith = 3073 := by decide
  have hreal : entryOverhead exactArith * oneEntry.gloNumEntries + oneEntry.gloSizeValues = 97 := by
    decide
  refine ⟨rfl, htotal, hreal, ?_⟩
  intro h
  have heq := h.total
  rw [htotal, hreal] at heq
  cases heq

end Accounts

end QueryCache

end PolarProxy
