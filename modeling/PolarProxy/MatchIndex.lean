import PolarProxy.ConnPlaces

/-!
# The match index of the FREE list

The FREE list keeps buckets of connections by key next to the connections and
their keys.  Between the two halves of a removal a connection is out of its
bucket and still in the list.

**Results.**
* `ConnList.Indexed`: a connection is in the bucket of its own key and in no
  other, and the count of empty buckets is exact and limited.
* one lemma for each operation that it survives it.
* `ConnList.Indexed.removeMatching`: what a lookup by key returns.
-/

namespace PolarProxy

open Buckets SwapRemove

namespace ConnList

variable {l : ConnList} {marks marks' : PoolMarks} {env : ListEnv}
variable {conn c i : Nat} {key k : PoolMatchKey}

/-! ## The index -/

/-- A FREE list with its index.  The connections of `out` have been taken out of
the index but not yet out of the list. -/
structure Indexed (l : ConnList) (marks : PoolMarks) (limit : Nat) (out : List Nat) : Prop
    extends Placed l marks where
  free : l.usedList = false
  mem_bucket : ∀ c k, c ∈ bucket l.matchingByKey k ↔
    (c, k) ∈ l.keyed ∧ k.isEmpty = false ∧ c ∉ out
  bucket_nodup : ∀ k, (bucket l.matchingByKey k).Nodup
  count : l.emptyMatchBucketCount = empties l.matchingByKey
  limited : l.emptyMatchBucketCount ≤ limit

variable {limit : Nat} {out : List Nat}

theorem Indexed.empty :
    ({ usedList := false } : ConnList).Indexed marks limit [] where
  nodup := List.nodup_nil
  keys := rfl
  hints := by simp
  free := rfl
  mem_bucket := by simp [keyed]
  bucket_nodup := by simp
  count := rfl
  limited := Nat.zero_le _

theorem Indexed.frame
    (h : l.Indexed marks limit out)
    (hsame : ∀ c ∈ l.conns, (marks' c).corePoolPosition = (marks c).corePoolPosition) :
    l.Indexed marks' limit out :=
  { h with toPlaced := h.toPlaced.frame hsame }

theorem Indexed.of_mem_iff
    {out' : List Nat}
    (h : l.Indexed marks limit out)
    (hout : ∀ c, c ∈ out' ↔ c ∈ out) :
    l.Indexed marks limit out' := by
  refine { h with mem_bucket := ?_ }
  intro c k
  rw [hout]
  exact h.mem_bucket c k

/-- The empty bucket that a removal leaves is counted, or dropped at the limit. -/
theorem bucket_shrinkBucket
    (rest : List Nat) :
    bucket (l.shrinkBucket env key rest).matchingByKey k =
      if k = key then rest else bucket l.matchingByKey k := by
  unfold shrinkBucket limitEmptyMatchBuckets
  cases rest with
  | nil =>
      simp only [List.isEmpty_nil, ↓reduceIte]
      split
      · exact bucket_put
      · simp only [bucket_drop, bucket_put]
        split <;> rfl
  | cons x xs =>
      exact bucket_put

theorem count_shrinkBucket
    {rest : List Nat}
    (hcount : l.emptyMatchBucketCount = empties l.matchingByKey)
    (hlimit : l.emptyMatchBucketCount ≤ env.emptyBucketLimit)
    (hne : bucket l.matchingByKey key ≠ []) :
    (l.shrinkBucket env key rest).emptyMatchBucketCount =
        empties (l.shrinkBucket env key rest).matchingByKey ∧
      (l.shrinkBucket env key rest).emptyMatchBucketCount ≤ env.emptyBucketLimit := by
  obtain ⟨xs, hlookup⟩ : ∃ xs, l.matchingByKey.lookup key = some xs := by
    cases hl : l.matchingByKey.lookup key with
    | none =>
        simp [bucket, hl] at hne
    | some xs =>
        exact ⟨xs, rfl⟩
  have hxs : xs ≠ [] := by simpa [bucket, hlookup] using hne
  have hdrop : empties l.matchingByKey = empties (drop l.matchingByKey key) := by
    simpa [hxs] using empties_drop hlookup
  unfold shrinkBucket limitEmptyMatchBuckets
  cases rest with
  | nil =>
      simp only [List.isEmpty_nil, ↓reduceIte]
      have hput : empties (put l.matchingByKey key []) = 1 + empties l.matchingByKey := by
        rw [empties_put, if_pos rfl, hdrop]
      split
      · rename_i hlt
        exact ⟨by rw [hput, hcount, Nat.add_comm], hlt⟩
      · have hdropped := empties_drop (AList.lookup_insert (s := l.matchingByKey) (a := key)
          (b := ([] : List Nat)))
        rw [if_pos rfl] at hdropped
        have hput' : empties (put l.matchingByKey key []) =
            1 + empties (drop (put l.matchingByKey key []) key) := hdropped
        exact ⟨by dsimp only; omega, hlimit⟩
  | cons x rest =>
      have hput : empties (put l.matchingByKey key (x :: rest)) = empties l.matchingByKey := by
        rw [empties_put, if_neg (List.cons_ne_nil x rest), hdrop, Nat.zero_add]
      exact ⟨by rw [hcount]; exact hput.symm, hlimit⟩

theorem shrinkBucket_keeps
    (rest : List Nat) :
    (l.shrinkBucket env key rest).conns = l.conns ∧
      (l.shrinkBucket env key rest).matchKeysByPosition = l.matchKeysByPosition ∧
      (l.shrinkBucket env key rest).usedList = l.usedList := by
  unfold shrinkBucket limitEmptyMatchBuckets
  dsimp only
  split
  · split <;> exact ⟨rfl, rfl, rfl⟩
  · exact ⟨rfl, rfl, rfl⟩

theorem keyed_shrinkBucket
    (rest : List Nat) :
    (l.shrinkBucket env key rest).keyed = l.keyed := by
  obtain ⟨hconns, hkeys, -⟩ := shrinkBucket_keeps (l := l) rest
  rw [keyed, hconns, hkeys, ← keyed]

/-- One entry of a bucket goes, and the index is that of a list whose connection
is out. -/
theorem Indexed.shrinkBucket
    {rest : List Nat}
    (h : l.Indexed marks env.emptyBucketLimit out)
    (hperm : (bucket l.matchingByKey key).Perm (conn :: rest)) :
    (l.shrinkBucket env key rest).Indexed marks env.emptyBucketLimit (conn :: out) := by
  obtain ⟨hconns, hkeys, hused⟩ := shrinkBucket_keeps (l := l) rest
  have hne : bucket l.matchingByKey key ≠ [] := by
    intro hnil
    rw [hnil] at hperm
    exact absurd hperm.length_eq (by simp)
  obtain ⟨hcount, hlimit⟩ := count_shrinkBucket h.count h.limited hne
  have hnodup : (conn :: rest).Nodup := hperm.nodup_iff.mp (h.bucket_nodup key)
  have hconn : (conn, key) ∈ l.keyed :=
    ((h.mem_bucket conn key).mp (hperm.mem_iff.mpr (List.mem_cons_self ..))).1
  refine ⟨⟨?_, ?_, ?_⟩, ?_, ?_, ?_, hcount, hlimit⟩
  · rw [hconns]
    exact h.nodup
  · rw [hkeys, hconns]
    exact h.keys
  · rw [hconns]
    exact h.hints
  · rw [hused]
    exact h.free
  · intro c k
    rw [bucket_shrinkBucket, keyed_shrinkBucket, List.mem_cons, not_or]
    split
    · rename_i hk
      subst hk
      have hmem := h.mem_bucket c k
      rw [hperm.mem_iff, List.mem_cons] at hmem
      constructor
      · intro hc
        obtain ⟨hin, hk, hout⟩ := hmem.mp (Or.inr hc)
        refine ⟨hin, hk, ?_, hout⟩
        rintro rfl
        exact (List.nodup_cons.mp hnodup).1 hc
      · rintro ⟨hin, hk, hne, hout⟩
        exact (hmem.mpr ⟨hin, hk, hout⟩).resolve_left hne
    · rename_i hk
      rw [h.mem_bucket]
      constructor
      · rintro ⟨hin, hk', hout⟩
        refine ⟨hin, hk', ?_, hout⟩
        rintro rfl
        exact hk (h.key_unique hin hconn)
      · rintro ⟨hin, hk', -, hout⟩
        exact ⟨hin, hk', hout⟩
  · intro k
    rw [bucket_shrinkBucket]
    split
    · exact (List.nodup_cons.mp hnodup).2
    · exact h.bucket_nodup k

theorem Indexed.addUnlocked
    (h : l.Indexed marks limit out)
    (hnew : conn ∉ l.conns)
    (key : Option PoolMatchKey) :
    (l.addUnlocked marks env conn key).1.Indexed (l.addUnlocked marks env conn key).2 limit
      (out.filter (· ≠ conn)) := by
  have hout : ∀ {c}, c ≠ conn → (c ∉ out.filter (· ≠ conn) ↔ c ∉ out) := by
    intro c hc
    simp [hc]
  have hold : ∀ {c k}, (c, k) ∈ l.keyed → c ≠ conn := by
    rintro c k hc rfl
    exact hnew (h.mem_conns hc)
  have hfresh : ∀ k, conn ∉ bucket l.matchingByKey k :=
    fun k hc => hnew (h.mem_conns ((h.mem_bucket conn k).mp hc).1)
  refine ⟨h.toPlaced.addUnlocked hnew key, ?_, ?_, ?_, ?_, ?_⟩
  · rw [usedList_addUnlocked h.toPlaced]
    exact h.free
  · intro c k
    rw [keyed_addUnlocked h.toPlaced, ConnList.addUnlocked, h.ensureMatchIndexConsistent,
      List.mem_append, List.mem_singleton, Prod.mk.injEq]
    dsimp only
    rw [h.free, Bool.or_false]
    split
    · rename_i hempty
      rw [h.mem_bucket]
      constructor
      · rintro ⟨hin, hk, hc⟩
        exact ⟨Or.inl hin, hk, (hout (hold hin)).mpr hc⟩
      · rintro ⟨hin | ⟨-, rfl⟩, hk, hc⟩
        · exact ⟨hin, hk, (hout (hold hin)).mp hc⟩
        · rw [hk] at hempty
          cases hempty
    · rename_i hfull
      rw [bucket_put]
      split
      · rename_i hk
        subst hk
        rw [List.mem_append, List.mem_singleton, h.mem_bucket]
        constructor
        · rintro (⟨hin, hk, hc⟩ | rfl)
          · exact ⟨Or.inl hin, hk, (hout (hold hin)).mpr hc⟩
          · exact ⟨Or.inr ⟨rfl, rfl⟩, by simpa using hfull, by simp⟩
        · rintro ⟨hin | ⟨rfl, -⟩, hk, hc⟩
          · exact Or.inl ⟨hin, hk, (hout (hold hin)).mp hc⟩
          · exact Or.inr rfl
      · rename_i hne
        rw [h.mem_bucket]
        constructor
        · rintro ⟨hin, hk, hc⟩
          exact ⟨Or.inl hin, hk, (hout (hold hin)).mpr hc⟩
        · rintro ⟨hin | ⟨-, hk⟩, hk', hc⟩
          · exact ⟨hin, hk', (hout (hold hin)).mp hc⟩
          · exact absurd hk hne
  · intro k
    rw [ConnList.addUnlocked, h.ensureMatchIndexConsistent]
    dsimp only
    split
    · exact h.bucket_nodup k
    · rw [bucket_put]
      split
      · exact (List.perm_append_singleton conn _).nodup_iff.mpr
          (List.nodup_cons.mpr ⟨hfresh _, h.bucket_nodup _⟩)
      · exact h.bucket_nodup k
  · rw [ConnList.addUnlocked, h.ensureMatchIndexConsistent]
    dsimp only
    split
    · exact h.count
    · have hput : ∀ k,
          empties (put l.matchingByKey k (bucket l.matchingByKey k ++ [conn])) =
            empties (drop l.matchingByKey k) := by
        intro k
        rw [empties_put, if_neg (List.append_ne_nil_of_right_ne_nil _ (List.cons_ne_nil _ _)),
          Nat.zero_add]
      dsimp only
      rw [hput, h.count]
      cases hlookup : l.matchingByKey.lookup (key.getD {}) with
      | none =>
          rw [if_neg (by simp), drop_of_lookup_none hlookup]
      | some xs =>
          have hdrop := empties_drop hlookup
          cases xs with
          | nil =>
              rw [if_pos rfl] at hdrop ⊢
              omega
          | cons x xs =>
              rw [if_neg (List.cons_ne_nil x xs)] at hdrop
              rw [if_neg (by simp)]
              omega
  · rw [ConnList.addUnlocked, h.ensureMatchIndexConsistent]
    dsimp only
    have hlimited := h.limited
    split
    · exact hlimited
    · dsimp only
      split <;> omega

theorem Indexed.unindex
    (env : ListEnv)
    (h : l.Indexed marks env.emptyBucketLimit out)
    (conn : Nat) :
    ∃ l', l.unindex marks env conn = (l', marks) ∧ l'.keyed = l.keyed ∧ l'.conns = l.conns ∧
      l'.Indexed marks env.emptyBucketLimit (conn :: out) := by
  -- a connection that no bucket names may be counted as out
  have hskip :
      (∀ k, conn ∉ bucket l.matchingByKey k) →
        l.Indexed marks env.emptyBucketLimit (conn :: out) := by
    intro hnone
    refine { h with mem_bucket := ?_ }
    intro c k
    rw [List.mem_cons, not_or]
    constructor
    · intro hc
      obtain ⟨hin, hk, hout⟩ := (h.mem_bucket c k).mp hc
      refine ⟨hin, hk, ?_, hout⟩
      rintro rfl
      exact hnone k hc
    · rintro ⟨hin, hk, -, hout⟩
      exact (h.mem_bucket c k).mpr ⟨hin, hk, hout⟩
  rw [ConnList.unindex, h.ensureMatchIndexConsistent]
  dsimp only
  by_cases hmem : conn ∈ l.conns
  · obtain ⟨i, hi⟩ := List.mem_iff_getElem?.mp hmem
    obtain ⟨k, hk, hkeyed⟩ := h.getElem?_keyed hi
    have hin : (conn, k) ∈ l.keyed := List.mem_of_getElem? hkeyed
    have honly : ∀ {k'}, conn ∈ bucket l.matchingByKey k' → k' = k :=
      fun hc => h.key_unique ((h.mem_bucket _ _).mp hc).1 hin
    rw [h.findIdx hi]
    dsimp only [Option.bind_some]
    rw [hk]
    dsimp only
    split
    · rename_i hempty
      refine ⟨l, rfl, rfl, rfl, hskip ?_⟩
      intro k' hc
      obtain rfl := honly hc
      rw [((h.mem_bucket _ _).mp hc).2.1] at hempty
      cases hempty
    · cases hidx : (bucket l.matchingByKey k).idxOf? conn with
      | none =>
          refine ⟨l, rfl, rfl, rfl, hskip ?_⟩
          intro k' hc
          obtain rfl := honly hc
          exact List.idxOf?_eq_none_iff.mp hidx hc
      | some j =>
          obtain ⟨hj, hget', -⟩ := List.idxOf?_eq_some_iff.mp hidx
          have hget : (bucket l.matchingByKey k)[j]? = some conn :=
            List.getElem?_eq_some_iff.mpr ⟨hj, hget'⟩
          exact ⟨_, rfl, keyed_shrinkBucket _, (shrinkBucket_keeps _).1,
            h.shrinkBucket (swapRemove_perm hget)⟩
  · rw [findIdx_of_notMem hmem]
    exact ⟨l, rfl, rfl, rfl, hskip fun k hc => hmem (h.mem_conns ((h.mem_bucket _ _).mp hc).1)⟩

/-- A connection that is out of the index leaves the list. -/
theorem Indexed.removeUnindexed
    (h : l.Indexed marks limit out)
    (hc : l.conns[i]? = some conn)
    (hk : l.matchKeysByPosition[i]? = some key)
    (hout : ∀ k, conn ∉ bucket l.matchingByKey k) :
    (l.removeUnindexed marks i).1 = some conn ∧
      l.Removes marks conn key (l.removeUnindexed marks i).2.1
        (l.removeUnindexed marks i).2.2 ∧
      (l.removeUnindexed marks i).2.1.Indexed (l.removeUnindexed marks i).2.2 limit
        (out.filter (· ≠ conn)) := by
  obtain ⟨hconn, hr⟩ := h.toPlaced.removeUnindexed hc hk
  obtain ⟨last, -, -, hlist, -⟩ := removeUnindexed_eq hc
  refine ⟨hconn, hr, ⟨hr.placed, hr.usedList.trans h.free, ?_, ?_, ?_, ?_⟩⟩
  · intro c k
    rw [hr.mem_keyed h.toPlaced, show (l.removeUnindexed marks i).2.1.matchingByKey = l.matchingByKey by rw [hlist],
      h.mem_bucket]
    constructor
    · rintro ⟨hc', hk', ho⟩
      have hne : c ≠ conn := by
        rintro rfl
        exact hout k ((h.mem_bucket _ _).mpr ⟨hc', hk', ho⟩)
      exact ⟨⟨hc', hne⟩, hk', by simp [ho]⟩
    · rintro ⟨⟨hc', hne⟩, hk', ho⟩
      exact ⟨hc', hk', by simpa [hne] using ho⟩
  · rw [hlist]
    exact h.bucket_nodup
  · rw [hlist]
    exact h.count
  · rw [hlist]
    exact h.limited

theorem Indexed.removeUnlocked
    (env : ListEnv)
    (h : l.Indexed marks env.emptyBucketLimit out)
    (hc : l.conns[i]? = some conn) :
    (l.removeUnlocked marks env i).1 = some conn ∧
      (∃ k, l.Removes marks conn k (l.removeUnlocked marks env i).2.1
        (l.removeUnlocked marks env i).2.2) ∧
      (l.removeUnlocked marks env i).2.1.Indexed (l.removeUnlocked marks env i).2.2
        env.emptyBucketLimit (out.filter (· ≠ conn)) := by
  obtain ⟨l', hl', hkeyed, hconns, h'⟩ := h.unindex env conn
  have heq : l.removeUnlocked marks env i = l'.removeUnindexed marks i := by
    simp only [ConnList.removeUnlocked, hc, h.free, hl']
    rfl
  rw [← hconns] at hc
  obtain ⟨k, hk, -⟩ := h'.getElem?_keyed hc
  have hnone : ∀ k, conn ∉ bucket l'.matchingByKey k := by
    intro k hmem
    exact ((h'.mem_bucket _ _).mp hmem).2.2 (List.mem_cons_self ..)
  obtain ⟨hconn, hr, hindexed⟩ := h'.removeUnindexed hc hk hnone
  rw [heq]
  refine ⟨hconn, ⟨k, ⟨?_, hr.placed, ?_, ?_⟩⟩, ?_⟩
  · rw [← hkeyed]
    exact hr.keyed
  · rw [hr.usedList, h'.free, h.free]
  · rw [← hconns]
    exact hr.frame
  · simpa using hindexed

/-- What a lookup by key returns. -/
theorem Indexed.removeMatching
    (env : ListEnv)
    (h : l.Indexed marks env.emptyBucketLimit out)
    (key : PoolMatchKey) :
    (bucket l.matchingByKey key = [] ∧ l.removeMatching marks env key = (none, l, marks)) ∨
      ∃ conn ∈ bucket l.matchingByKey key,
        (l.removeMatching marks env key).1 = some conn ∧
        l.Removes marks conn key (l.removeMatching marks env key).2.1
          (l.removeMatching marks env key).2.2 ∧
        (l.removeMatching marks env key).2.1.Indexed (l.removeMatching marks env key).2.2
          env.emptyBucketLimit (out.filter (· ≠ conn)) := by
  rcases List.eq_nil_or_concat' (bucket l.matchingByKey key) with hnil | ⟨rest, conn, hbucket⟩
  · left
    refine ⟨hnil, ?_⟩
    simp only [ConnList.removeMatching, tryRemoveMatching, h.ensureMatchIndexConsistent, hnil,
      List.getLast?_nil]
  · right
    have hmem : conn ∈ bucket l.matchingByKey key := by
      rw [hbucket]
      simp
    obtain ⟨hin, -, -⟩ := (h.mem_bucket _ _).mp hmem
    obtain ⟨i, hi⟩ := List.mem_iff_getElem?.mp (h.mem_conns hin)
    obtain ⟨k, hk, hkeyed⟩ := h.getElem?_keyed hi
    obtain rfl : k = key := h.key_unique (List.mem_of_getElem? hkeyed) hin
    have heq : l.removeMatching marks env k =
        (l.shrinkBucket env k rest).removeUnindexed marks i := by
      simp only [ConnList.removeMatching, tryRemoveMatching, h.ensureMatchIndexConsistent, hbucket,
        List.getLast?_concat, List.dropLast_concat, h.findIdx hi, hk, if_true]
    have h' := h.shrinkBucket
      (by rw [hbucket]; exact List.perm_append_singleton _ _)
    obtain ⟨hconns, hkeys, hused⟩ := shrinkBucket_keeps (l := l) rest
    obtain ⟨hconn, hr, hindexed⟩ := h'.removeUnindexed (i := i)
      (by rw [hconns]; exact hi) (by rw [hkeys]; exact hk)
      (fun k' hc => ((h'.mem_bucket _ _).mp hc).2.2 (List.mem_cons_self ..))
    rw [heq]
    refine ⟨conn, hmem, hconn, ⟨?_, hr.placed, hr.usedList.trans hused, ?_⟩, ?_⟩
    · rw [← keyed_shrinkBucket rest]
      exact hr.keyed
    · rw [← hconns]
      exact hr.frame
    · simpa using hindexed

/-! ## Rebuilding -/

theorem position_renewPositions
    {xs : List (Nat × Nat)} (marks : PoolMarks)
    (h : (xs.map Prod.fst).Nodup) :
    (∀ e ∈ xs, ((xs.foldl (fun marks entry => marks.setPosition entry.1 entry.2) marks)
        e.1).corePoolPosition = e.2) ∧
      ∀ d ∉ xs.map Prod.fst,
        (xs.foldl (fun marks entry => marks.setPosition entry.1 entry.2) marks) d = marks d := by
  induction xs generalizing marks with
  | nil =>
      simp
  | cons x xs ih =>
      rw [List.map_cons, List.nodup_cons] at h
      obtain ⟨hin, hout⟩ := ih (marks.setPosition x.1 x.2) h.2
      rw [List.foldl_cons]
      refine ⟨?_, ?_⟩
      · intro e he
        rcases List.mem_cons.mp he with rfl | he
        · rw [hout _ h.1]
          simp [PoolMarks.setPosition]
        · exact hin e he
      · intro d hd
        rw [List.map_cons, List.mem_cons, not_or] at hd
        rw [hout d hd.2]
        simp [PoolMarks.setPosition, hd.1]

theorem position_renewed
    (hnodup : l.conns.Nodup)
    (hc : l.conns[i]? = some c) :
    (l.renewPositions marks c).corePoolPosition = i := by
  have hfst : (l.conns.zipIdx.map Prod.fst) = l.conns := by simp
  have hin := (position_renewPositions marks
    (show (l.conns.zipIdx.map Prod.fst).Nodup by rw [hfst]; exact hnodup)).1
  exact hin (c, i) (List.mk_mem_zipIdx_iff_getElem?.mpr hc)

theorem bucket_foldl_pushIndexed
    (xs : List (Nat × PoolMatchKey)) (m : Index PoolMatchKey Nat) :
    bucket (xs.foldl pushIndexed m) k =
      bucket m k ++ (xs.filter fun e => e.2 = k ∧ k.isEmpty = false).map Prod.fst := by
  induction xs generalizing m with
  | nil =>
      simp
  | cons x xs ih =>
      rw [List.foldl_cons, ih, pushIndexed]
      split
      · rename_i hempty
        have hx : ¬ (x.2 = k ∧ k.isEmpty = false) := by
          rintro ⟨rfl, hk⟩
          rw [hempty] at hk
          cases hk
        simp [hx]
      · rename_i hfull
        rw [bucket_put]
        split
        · rename_i hk
          subst hk
          simp [hfull]
        · rename_i hk
          have hx : ¬ x.2 = k := fun hxk => hk hxk.symm
          simp [hx]

theorem empties_foldl_pushIndexed
    (xs : List (Nat × PoolMatchKey)) {m : Index PoolMatchKey Nat}
    (h : empties m = 0) :
    empties (xs.foldl pushIndexed m) = 0 := by
  induction xs generalizing m with
  | nil =>
      exact h
  | cons x xs ih =>
      apply ih
      rw [pushIndexed]
      split
      · exact h
      · rw [empties_put, if_neg (List.append_ne_nil_of_right_ne_nil _ (List.cons_ne_nil _ _)),
          Nat.zero_add]
        cases hlookup : m.lookup x.2 with
        | none =>
            rw [drop_of_lookup_none hlookup]
            exact h
        | some ys =>
            have hdrop := empties_drop hlookup
            omega

theorem bucketClaims_eq_nil
    {e : Sigma fun _ : PoolMatchKey => List Nat}
    (h : c ∈ e.2 → e.1.isEmpty = false → env.reserved c = false → False) :
    bucketClaims env c e = [] := by
  rw [bucketClaims]
  split
  · rfl
  · rename_i hempty
    rw [List.map_eq_nil_iff, List.filter_eq_nil_iff]
    intro a ha hac
    obtain ⟨rfl, hres⟩ := of_decide_eq_true hac
    exact h ha (by simpa using hempty) hres

theorem bucketClaims_eq_singleton
    {e : Sigma fun _ : PoolMatchKey => List Nat}
    (hnodup : e.2.Nodup)
    (hmem : c ∈ e.2)
    (hk : e.1.isEmpty = false)
    (hres : env.reserved c = false) :
    bucketClaims env c e = [e.1] := by
  have hfilter : (e.2.filter fun a => a = c ∧ env.reserved a = false) = [c] := by
    calc (e.2.filter fun a => a = c ∧ env.reserved a = false)
        = e.2.filter (fun a => a = c) := by
          apply List.filter_congr
          intro a _
          by_cases ha : a = c
          · subst ha
            simp [hres]
          · simp [ha]
      _ = List.replicate (e.2.count c) c := List.filter_eq c
      _ = [c] := by
          rw [List.count_eq_one_of_mem hnodup hmem]
          rfl
  rw [bucketClaims, hk, hfilter]
  rfl

/-- A bucket entry names a connection for its own key, once. -/
theorem Indexed.repairedKey
    (h : l.Indexed marks limit out)
    (hc : (c, k) ∈ l.keyed) :
    l.repairedKey env c = if c ∉ out ∧ env.reserved c = false then k else {} := by
  have hclaims : ∀ {e : Sigma fun _ : PoolMatchKey => List Nat},
      e ∈ l.matchingByKey.entries → c ∈ e.2 → e.1 = k ∧ k.isEmpty = false ∧ c ∉ out := by
    intro e he hce
    rw [← bucket_of_mem_entries he, h.mem_bucket] at hce
    obtain ⟨hin, hk, hout⟩ := hce
    obtain rfl := h.key_unique hin hc
    exact ⟨rfl, hk, hout⟩
  by_cases hall : (c ∉ out ∧ env.reserved c = false) ∧ k.isEmpty = false
  · obtain ⟨⟨hout, hres⟩, hk⟩ := hall
    have hmem : c ∈ bucket l.matchingByKey k := (h.mem_bucket c k).mpr ⟨hc, hk, hout⟩
    obtain ⟨xs, hlookup⟩ : ∃ xs, l.matchingByKey.lookup k = some xs := by
      cases hl : l.matchingByKey.lookup k with
      | none =>
          simp [bucket, hl] at hmem
      | some xs =>
          exact ⟨xs, rfl⟩
    have hbucket : bucket l.matchingByKey k = xs := by simp [bucket, hlookup]
    have hperm := entries_perm_drop hlookup
    have hrest : (drop l.matchingByKey k).entries.flatMap (bucketClaims env c) = [] := by
      rw [List.flatMap_eq_nil_iff]
      intro e he
      apply bucketClaims_eq_nil
      intro hce _ _
      obtain ⟨hk', -, -⟩ := hclaims (hperm.mem_iff.mpr (List.mem_cons_of_mem _ he)) hce
      have hnil := bucket_of_mem_entries he
      rw [hk', bucket_drop, if_pos rfl] at hnil
      rw [← hnil] at hce
      exact List.not_mem_nil hce
    have hclaimed := hperm.flatMap_right (bucketClaims env c)
    rw [List.flatMap_cons, hrest, List.append_nil, bucketClaims_eq_singleton
      (by rw [← hbucket]; exact h.bucket_nodup k) (by rw [← hbucket]; exact hmem) hk hres]
      at hclaimed
    rw [ConnList.repairedKey, claimedKeys, List.perm_singleton.mp hclaimed, if_pos ⟨hout, hres⟩]
  · have hnone : l.claimedKeys env c = [] := by
      rw [claimedKeys, List.flatMap_eq_nil_iff]
      intro e he
      apply bucketClaims_eq_nil
      intro hce _ hres
      obtain ⟨-, hk, hout⟩ := hclaims he hce
      exact hall ⟨⟨hout, hres⟩, hk⟩
    rw [ConnList.repairedKey, hnone]
    dsimp only
    split
    · rename_i hkept
      have hk : k.isEmpty = true := by
        by_contra hk
        exact hall ⟨hkept, by simpa using hk⟩
      exact (eq_of_beq hk).symm
    · rfl

theorem keyed_rebuildFreeMatchIndex :
    (l.rebuildFreeMatchIndex marks env).1.keyed =
      l.conns.map fun c => (c, l.repairedKey env c) := by
  simp only [rebuildFreeMatchIndex, keyed, List.zip, List.zipWith_map_right, List.zipWith_self]

theorem bucket_rebuildFreeMatchIndex :
    bucket (l.rebuildFreeMatchIndex marks env).1.matchingByKey k =
      ((l.rebuildFreeMatchIndex marks env).1.keyed.filter fun e =>
        e.2 = k ∧ k.isEmpty = false).map Prod.fst := by
  change bucket (List.foldl pushIndexed ∅ _) k = _
  rw [bucket_foldl_pushIndexed, bucket_empty, List.nil_append]
  rfl

/-- A rebuilt index forgets the keys of the connections that are out, and of the
reserved ones. -/
theorem Indexed.rebuildFreeMatchIndex
    (h : l.Indexed marks limit out) :
    (l.rebuildFreeMatchIndex marks env).1.Indexed (l.rebuildFreeMatchIndex marks env).2 limit
      [] := by
  have hplaced : (l.rebuildFreeMatchIndex marks env).1.Placed
      (l.rebuildFreeMatchIndex marks env).2 := by
    refine ⟨h.nodup, by simp [ConnList.rebuildFreeMatchIndex], ?_⟩
    intro i c hc
    exact position_renewed h.nodup hc
  refine ⟨hplaced, h.free, ?_, ?_, ?_, ?_⟩
  · intro c k
    rw [bucket_rebuildFreeMatchIndex]
    constructor
    · intro hc
      obtain ⟨⟨c', k'⟩, he, rfl⟩ := List.mem_map.mp hc
      obtain ⟨hin, hcond⟩ := List.mem_filter.mp he
      obtain ⟨rfl, hk⟩ := of_decide_eq_true hcond
      exact ⟨hin, hk, List.not_mem_nil⟩
    · rintro ⟨hin, hk, -⟩
      exact List.mem_map.mpr ⟨(c, k), List.mem_filter.mpr ⟨hin, by simp [hk]⟩, rfl⟩
  · intro k
    rw [bucket_rebuildFreeMatchIndex]
    have hsub := (List.filter_sublist (p := fun e : Nat × PoolMatchKey =>
      decide (e.2 = k ∧ k.isEmpty = false))
      (l := (l.rebuildFreeMatchIndex marks env).1.keyed)).map Prod.fst
    rw [hplaced.map_fst_keyed] at hsub
    exact hplaced.nodup.sublist hsub
  · exact (empties_foldl_pushIndexed _ empties_empty).symm
  · exact Nat.zero_le _

theorem keyed_pruneEmptyMatchBuckets :
    l.pruneEmptyMatchBuckets.keyed = l.keyed := by
  rw [pruneEmptyMatchBuckets]
  split <;> rfl

theorem Indexed.pruneEmptyMatchBuckets
    (h : l.Indexed marks limit out) :
    l.pruneEmptyMatchBuckets.Indexed marks limit out := by
  rw [ConnList.pruneEmptyMatchBuckets]
  split
  · exact h
  · refine ⟨⟨h.nodup, h.keys, h.hints⟩, h.free, ?_, ?_, ?_, Nat.zero_le _⟩
    · intro c k
      rw [bucket_prune]
      exact h.mem_bucket c k
    · intro k
      rw [bucket_prune]
      exact h.bucket_nodup k
    · exact empties_prune.symm

end ConnList

end PolarProxy
