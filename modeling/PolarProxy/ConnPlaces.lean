import PolarProxy.ConnList

/-!
# Places in a connection list

Keys and position hints follow the connections of a list.  A removal moves the
last connection into the freed place, so it touches both.

**Results.** `ConnList.Placed`, `ConnList.Placed.addUnlocked`, `ConnList.Placed.removeUnindexed`,
`ConnList.Removes`.
-/

namespace PolarProxy

open Buckets SwapRemove

namespace ConnList

variable {l : ConnList} {marks marks' : PoolMarks} {env : ListEnv}
variable {conn c i : Nat} {key k : PoolMatchKey}

/-! ## Places -/

/-- A list whose keys and position hints follow its connections. -/
structure Placed (l : ConnList) (marks : PoolMarks) : Prop where
  nodup : l.conns.Nodup
  keys : l.matchKeysByPosition.length = l.conns.length
  hints : ∀ i c, l.conns[i]? = some c → (marks c).corePoolPosition = i

theorem findIdx_of_notMem
    (h : c ∉ l.conns) :
    l.findIdx marks c = (none, marks) := by
  have hhint : l.conns[(marks c).corePoolPosition]? ≠ some c :=
    fun hc => h (List.mem_of_getElem? hc)
  simp only [findIdx, if_neg hhint, List.idxOf?_eq_none_iff.mpr h]

namespace Placed

/-- Hints of other connections do not matter. -/
theorem frame
    (h : l.Placed marks)
    (hsame : ∀ c ∈ l.conns, (marks' c).corePoolPosition = (marks c).corePoolPosition) :
    l.Placed marks' where
  nodup := h.nodup
  keys := h.keys
  hints := by
    intro i c hc
    rw [hsame c (List.mem_of_getElem? hc)]
    exact h.hints i c hc

theorem ensureMatchIndexConsistent
    (h : l.Placed marks) :
    l.ensureMatchIndexConsistent marks env = (l, marks) := by
  rw [ConnList.ensureMatchIndexConsistent, if_pos h.keys]

theorem findIdx
    (h : l.Placed marks)
    (hc : l.conns[i]? = some c) :
    l.findIdx marks c = (some i, marks) := by
  simp only [ConnList.findIdx, h.hints i c hc, hc, if_true]

theorem getElem?_keyed
    (h : l.Placed marks)
    (hc : l.conns[i]? = some c) :
    ∃ k, l.matchKeysByPosition[i]? = some k ∧ l.keyed[i]? = some (c, k) := by
  have hi : i < l.conns.length := (List.getElem?_eq_some_iff.mp hc).1
  obtain ⟨k, hk⟩ : ∃ k, l.matchKeysByPosition[i]? = some k :=
    ⟨_, List.getElem?_eq_getElem (by rw [h.keys]; exact hi)⟩
  exact ⟨k, hk, by rw [keyed, List.getElem?_zip_eq_some]; exact ⟨hc, hk⟩⟩

theorem map_fst_keyed
    (h : l.Placed marks) :
    l.keyed.map Prod.fst = l.conns :=
  List.map_fst_zip (Nat.le_of_eq h.keys.symm)

theorem mem_conns
    (h : l.Placed marks)
    (hc : (c, k) ∈ l.keyed) :
    c ∈ l.conns := by
  rw [← h.map_fst_keyed]
  exact List.mem_map_of_mem (f := Prod.fst) hc

theorem key_unique
    {k' : PoolMatchKey}
    (h : l.Placed marks)
    (hk : (c, k) ∈ l.keyed)
    (hk' : (c, k') ∈ l.keyed) :
    k = k' := by
  have hnodup : (l.keyed.map Prod.fst).Nodup := by
    rw [h.map_fst_keyed]
    exact h.nodup
  exact congrArg Prod.snd (List.inj_on_of_nodup_map hnodup hk hk' rfl)

end Placed

/-! ## Adding -/

theorem keyed_addUnlocked
    (h : l.Placed marks)
    (key : Option PoolMatchKey) :
    (l.addUnlocked marks env conn key).1.keyed = l.keyed ++ [(conn, key.getD {})] := by
  rw [addUnlocked, h.ensureMatchIndexConsistent]
  simp only [keyed]
  split <;> exact (List.zip_append h.keys.symm)

theorem conns_addUnlocked
    (h : l.Placed marks)
    (key : Option PoolMatchKey) :
    (l.addUnlocked marks env conn key).1.conns = l.conns ++ [conn] := by
  rw [addUnlocked, h.ensureMatchIndexConsistent]
  dsimp only
  split <;> rfl

theorem usedList_addUnlocked
    (h : l.Placed marks)
    (key : Option PoolMatchKey) :
    (l.addUnlocked marks env conn key).1.usedList = l.usedList := by
  rw [addUnlocked, h.ensureMatchIndexConsistent]
  dsimp only
  split <;> rfl

theorem position_addUnlocked
    (h : l.Placed marks)
    (key : Option PoolMatchKey) (d : Nat) :
    ((l.addUnlocked marks env conn key).2 d).corePoolPosition =
      if d = conn then l.conns.length else (marks d).corePoolPosition := by
  rw [addUnlocked, h.ensureMatchIndexConsistent]
  dsimp only
  by_cases hd : d = conn
  · subst hd
    simp
  · simp [hd]

theorem Placed.addUnlocked
    (h : l.Placed marks)
    (hnew : conn ∉ l.conns)
    (key : Option PoolMatchKey) :
    (l.addUnlocked marks env conn key).1.Placed (l.addUnlocked marks env conn key).2 where
  nodup := by
    rw [conns_addUnlocked h]
    exact List.nodup_append.mpr ⟨h.nodup, List.nodup_singleton _, by
      rintro a ha b hb rfl
      obtain rfl := List.mem_singleton.mp hb
      exact hnew ha⟩
  keys := by
    rw [conns_addUnlocked h, ConnList.addUnlocked, h.ensureMatchIndexConsistent]
    dsimp only
    split <;> simp [h.keys]
  hints := by
    intro i c hc
    rw [conns_addUnlocked h] at hc
    rw [position_addUnlocked h]
    by_cases hi : i < l.conns.length
    · rw [List.getElem?_append_left hi] at hc
      have hne : c ≠ conn := by
        rintro rfl
        exact hnew (List.mem_of_getElem? hc)
      rw [if_neg hne]
      exact h.hints i c hc
    · have hlt := (List.getElem?_eq_some_iff.mp hc).1
      simp only [List.length_append, List.length_singleton] at hlt
      obtain rfl : i = l.conns.length := by omega
      obtain rfl : conn = c := by simpa using hc
      rw [if_pos rfl]

/-! ## Removing -/

/-- What a removal does to the places: one connection leaves, and hints outside
the list stay. -/
structure Removes (l : ConnList) (marks : PoolMarks) (conn : Nat) (key : PoolMatchKey)
    (l' : ConnList) (marks' : PoolMarks) : Prop where
  keyed : l.keyed.Perm ((conn, key) :: l'.keyed)
  placed : l'.Placed marks'
  usedList : l'.usedList = l.usedList
  frame : ∀ d ∉ l.conns, (marks' d).corePoolPosition = (marks d).corePoolPosition

theorem Removes.conns
    {l' : ConnList}
    (h : l.Placed marks)
    (hr : l.Removes marks conn key l' marks') :
    l.conns.Perm (conn :: l'.conns) := by
  have hperm := hr.keyed.map Prod.fst
  rwa [h.map_fst_keyed, List.map_cons, hr.placed.map_fst_keyed] at hperm

theorem Removes.mem
    {l' : ConnList}
    (h : l.Placed marks)
    (hr : l.Removes marks conn key l' marks') :
    c ∈ l'.conns ↔ c ∈ l.conns ∧ c ≠ conn := by
  have hperm := hr.conns h
  have hnodup : (conn :: l'.conns).Nodup := hperm.nodup_iff.mp h.nodup
  rw [hperm.mem_iff, List.mem_cons]
  constructor
  · intro hc
    refine ⟨Or.inr hc, ?_⟩
    rintro rfl
    exact (List.nodup_cons.mp hnodup).1 hc
  · rintro ⟨rfl | hc, hne⟩
    · exact absurd rfl hne
    · exact hc

theorem Removes.mem_keyed
    {l' : ConnList}
    (h : l.Placed marks)
    (hr : l.Removes marks conn key l' marks') :
    (c, k) ∈ l'.keyed ↔ (c, k) ∈ l.keyed ∧ c ≠ conn := by
  rw [hr.keyed.mem_iff, List.mem_cons, Prod.mk.injEq]
  constructor
  · intro hc
    exact ⟨Or.inr hc, ((hr.mem h).mp (hr.placed.mem_conns hc)).2⟩
  · rintro ⟨⟨rfl, -⟩ | hc, hne⟩
    · exact absurd rfl hne
    · exact hc

theorem getLast?_eq_getElem?
    {xs : List Nat} {x : Nat}
    (h : xs.getLast? = some x) :
    xs[xs.length - 1]? = some x := by
  rw [← List.getLast?_eq_getElem?]
  exact h

theorem removeUnindexed_eq
    (hc : l.conns[i]? = some conn) :
    ∃ last,
      l.conns.getLast? = some last ∧
      (l.removeUnindexed marks i).1 = some conn ∧
      (l.removeUnindexed marks i).2.1 = { l with
        conns := swapRemove l.conns i
        matchKeysByPosition := swapRemove l.matchKeysByPosition i } ∧
      ∀ d, ((l.removeUnindexed marks i).2.2 d).corePoolPosition =
        if d = last ∧ i + 1 < l.conns.length then i
        else if d = conn then unsetPoolPosition
        else (marks d).corePoolPosition := by
  have hne : l.conns ≠ [] := by
    rintro hnil
    simp [hnil] at hc
  obtain ⟨last, hlast⟩ : ∃ last, l.conns.getLast? = some last :=
    ⟨_, List.getLast?_eq_some_getLast hne⟩
  refine ⟨last, hlast, ?_⟩
  simp only [removeUnindexed, hc, hlast, true_and]
  intro d
  split_ifs <;>
    simp_all [PoolMarks.setPosition, PoolMarks.finishIdleTrim, Function.update_apply]

/-- The last connection takes the freed place, with its key and its hint. -/
theorem Placed.removeUnindexed
    (h : l.Placed marks)
    (hc : l.conns[i]? = some conn)
    (hk : l.matchKeysByPosition[i]? = some key) :
    (l.removeUnindexed marks i).1 = some conn ∧
      l.Removes marks conn key (l.removeUnindexed marks i).2.1
        (l.removeUnindexed marks i).2.2 := by
  obtain ⟨last, hlast, hconn, hlist, hmarks⟩ := removeUnindexed_eq hc
  have hi : i < l.conns.length := (List.getElem?_eq_some_iff.mp hc).1
  have hkeyed : l.keyed[i]? = some (conn, key) := by
    rw [ConnList.keyed, List.getElem?_zip_eq_some]
    exact ⟨hc, hk⟩
  have hperm := swapRemove_perm hc
  refine ⟨hconn, ⟨?_, ⟨?_, ?_, ?_⟩, ?_, ?_⟩⟩
  · rw [hlist]
    simp only [ConnList.keyed]
    rw [zip_swapRemove h.keys]
    exact swapRemove_perm hkeyed
  · rw [hlist]
    exact (List.nodup_cons.mp (hperm.nodup_iff.mp h.nodup)).2
  · rw [hlist]
    simp [h.keys]
  · intro j c hj
    rw [hlist] at hj
    simp only [getElem?_swapRemove hi] at hj
    rw [hmarks]
    split at hj
    · rename_i hlt
      split at hj
      · rename_i hji
        obtain rfl : last = c := Option.some.inj (hlast.symm.trans hj)
        rw [if_pos ⟨rfl, by omega⟩, hji]
      · rename_i hji
        -- two places of one connection would be the same place
        have hplace : ∀ {j' c'}, l.conns[j']? = some c' → c = c' → j = j' := by
          rintro j' c' hj' rfl
          exact (h.hints j c hj).symm.trans (h.hints j' c hj')
        have hnotLast : ¬ (c = last ∧ i + 1 < l.conns.length) := by
          rintro ⟨hcl, -⟩
          have := hplace (getLast?_eq_getElem? hlast) hcl
          omega
        rw [if_neg hnotLast, if_neg (fun hcc => hji (hplace hc hcc))]
        exact h.hints j c hj
    · cases hj
  · rw [hlist]
  · intro d hd
    have hne : d ≠ conn := by
      rintro rfl
      exact hd (List.mem_of_getElem? hc)
    have hnotLast : d ≠ last := by
      rintro rfl
      exact hd (List.mem_of_getElem? (getLast?_eq_getElem? hlast))
    rw [hmarks, if_neg (fun hl => hnotLast hl.1), if_neg hne]

end ConnList

end PolarProxy
