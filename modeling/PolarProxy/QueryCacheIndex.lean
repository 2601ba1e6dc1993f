import Mathlib.Data.List.Induction
import PolarProxy.QueryCache

/-!
# The index of the query cache

The calls of `set` in a run number the entries that were made.  Whatever the threads, the
clients and the purges do, the index has a key with the entry of the last call that set it,
or not at all, and an entry in the index is in the vector of its array.

**Results.**
* `step_cases`: what one step can do to the arrays.
* `Made`, `step_keeps`: an entry keeps what its call gave it, but for the mark.
* `IndexInv`, `indexInv_after`: the invariant of the arrays.
* `purge_indexed`: what a purge leaves in the index.
-/

namespace PolarProxy

namespace QueryCache

variable {K : Type} {threads : Nat}

/-- The call of `set` of a step. -/
def Event.setCall : Event K threads → Option (SetCall K)
  | .set call => some call
  | _ => none

/-- The calls of `set` of a run, in order. -/
def calls (ls : List (Event K threads)) : List (SetCall K) :=
  ls.filterMap Event.setCall

@[simp]
theorem calls_nil : calls ([] : List (Event K threads)) = [] :=
  rfl

@[simp]
theorem calls_append (ls ms : List (Event K threads)) : calls (ls ++ ms) = calls ls ++ calls ms :=
  List.filterMap_append

@[simp]
theorem calls_set (call : SetCall K) : calls [(Event.set call : Event K threads)] = [call] :=
  rfl

theorem calls_other
    {e : Event K threads}
    (he : e.setCall = none) :
    calls [e] = [] := by
  simp [calls, he]

/-! ## Entries -/

/-- What a step leaves of an entry. -/
structure Keeps (e e' : QcEntry) : Prop where
  key : e'.key = e.key
  value : e'.value = e.value
  length : e'.length = e.length
  createMs : e'.createMs = e.createMs
  expireMs : e'.expireMs = e.expireMs ∨ e'.expireMs = expireDropit
  refreshing : e.refreshing = true → e'.refreshing = true

namespace Keeps

theorem refl (e : QcEntry) : Keeps e e :=
  ⟨rfl, rfl, rfl, rfl, Or.inl rfl, id⟩

theorem dropIt (e : QcEntry) : Keeps e e.dropIt :=
  ⟨rfl, rfl, rfl, rfl, Or.inr rfl, id⟩

theorem check (e : QcEntry) (t cacheTtl softTtlPct : Nat) :
    Keeps e (e.check t cacheTtl softTtlPct).1 := by
  unfold QcEntry.check
  split
  · split
    · exact ⟨rfl, rfl, rfl, rfl, Or.inl rfl, fun _ => rfl⟩
    · split
      · exact ⟨rfl, rfl, rfl, rfl, Or.inl rfl, id⟩
      · exact refl e
  · exact refl e

end Keeps

/-- An entry that a call made, with or without the mark. -/
structure Made (hash : K → Nat) (call : SetCall K) (e : QcEntry) : Prop where
  key : e.key = hash call.key
  value : e.value = call.value
  length : e.length = call.value.length
  createMs : e.createMs = call.createMs
  expireMs : e.expireMs = call.expireMs ∨ e.expireMs = expireDropit

theorem Made.keeps
    {hash : K → Nat} {call : SetCall K} {e e' : QcEntry}
    (h : Made hash call e)
    (hkeeps : Keeps e e') :
    Made hash call e' where
  key := hkeeps.key.trans h.key
  value := hkeeps.value.trans h.value
  length := hkeeps.length.trans h.length
  createMs := hkeeps.createMs.trans h.createMs
  expireMs := by
    rcases hkeeps.expireMs with hexpire | hexpire
    · rw [hexpire]
      exact h.expireMs
    · exact Or.inr hexpire

namespace State

variable {A : Arith} {hash : K → Nat} {s s' : State K threads} {e : Event K threads}

/-! ## Steps -/

/-- A step sets, purges, clears, or leaves the arrays and the counters as they are. -/
theorem step_cases
    (h : step A hash s e = some s') :
    (∃ call, e = .set call ∧ s' = s.set hash call) ∨
      (∃ j p, e = .drop j ∧ s.purges[j]? = some p ∧
        s' = { s.purge p with purges := s.purges.eraseIdx j }) ∨
      (∃ i, e = .clear i ∧ s' = s.clear i) ∨
      (e.setCall = none ∧ (∀ j, e ≠ .drop j) ∧ (∀ i, e ≠ .clear i) ∧
        s'.kvs = s.kvs ∧ s'.made = s.made ∧ (∀ id, Keeps (s.objects id) (s'.objects id)) ∧
        s'.gloNumEntries = s.gloNumEntries ∧ s'.gloSizeValues = s.gloSizeValues) := by
  have hkeeps : ∀ id, Keeps (s.objects id) (s.objects id) := fun id => Keeps.refl _
  cases e with
  | set call =>
      exact Or.inl ⟨call, rfl, (Option.some.inj h).symm⟩
  | drop j =>
      obtain ⟨p, hp, rfl⟩ := Option.map_eq_some_iff.mp h
      exact Or.inr (Or.inl ⟨j, p, rfl, hp, rfl⟩)
  | clear i =>
      exact Or.inr (Or.inr (Or.inl ⟨i, rfl, (Option.some.inj h).symm⟩))
  | lookup th k =>
      refine Or.inr (Or.inr (Or.inr ⟨rfl, by simp, by simp, ?_⟩))
      simp only [step, lookup] at h
      split at h
      · obtain rfl := Option.some.inj h
        exact ⟨rfl, rfl, hkeeps, rfl, rfl⟩
      · cases h
  | lock th =>
      refine Or.inr (Or.inr (Or.inr ⟨rfl, by simp, by simp, ?_⟩))
      simp only [step, lock] at h
      split at h
      · split at h
        · obtain rfl := Option.some.inj h
          exact ⟨rfl, rfl, hkeeps, rfl, rfl⟩
        · obtain rfl := Option.some.inj h
          exact ⟨rfl, rfl, hkeeps, rfl, rfl⟩
      · obtain rfl := Option.some.inj h
        exact ⟨rfl, rfl, hkeeps, rfl, rfl⟩
      · cases h
  | check th t cacheTtl softTtlPct =>
      refine Or.inr (Or.inr (Or.inr ⟨rfl, by simp, by simp, ?_⟩))
      simp only [step, check] at h
      split at h
      · obtain rfl := Option.some.inj h
        refine ⟨rfl, rfl, ?_, rfl, rfl⟩
        intro id
        dsimp only
        rw [Function.update_apply]
        split
        case isTrue heq =>
          rw [heq]
          exact Keeps.check _ _ _ _
        case isFalse =>
          exact Keeps.refl _
      · cases h
  | release j =>
      refine Or.inr (Or.inr (Or.inr ⟨rfl, by simp, by simp, ?_⟩))
      simp only [step, release] at h
      split at h
      · obtain rfl := Option.some.inj h
        exact ⟨rfl, rfl, hkeeps, rfl, rfl⟩
      · cases h
  | scan i now aggressive =>
      refine Or.inr (Or.inr (Or.inr ⟨rfl, by simp, by simp, ?_⟩))
      obtain rfl := Option.some.inj h
      exact ⟨rfl, rfl, hkeeps, rfl, rfl⟩

theorem supersede_keeps (key id : Nat) : Keeps (s.objects id) (s.supersede key id) := by
  cases hfound : s.indexed key with
  | none =>
      simp only [supersede, hfound]
      exact Keeps.refl _
  | some found =>
      simp only [supersede, hfound]
      split
      · rw [Function.update_apply]
        split
        case isTrue heq =>
          rw [heq]
          exact Keeps.dropIt _
        case isFalse =>
          exact Keeps.refl _
      · exact Keeps.refl _

theorem clear_keeps (i : Fin sharedQueryCacheHashTables) (id : Nat) :
    Keeps (s.objects id) ((s.clear i).objects id) := by
  dsimp only [clear]
  split
  · exact Keeps.dropIt _
  · exact Keeps.refl _

theorem set_keeps
    (call : SetCall K) {id : Nat}
    (hid : id ≠ s.made) :
    Keeps (s.objects id) ((s.set hash call).objects id) := by
  dsimp only [set, replace]
  rw [Function.update_of_ne hid]
  exact supersede_keeps _ _

/-- A step keeps every entry that was made. -/
theorem step_keeps
    (h : step A hash s e = some s') {id : Nat}
    (hid : id < s.made) :
    Keeps (s.objects id) (s'.objects id) := by
  rcases step_cases h with ⟨call, -, rfl⟩ | ⟨j, p, -, -, rfl⟩ | ⟨i, -, rfl⟩ | ⟨-, -, -, -, -, hkeeps, -⟩
  · exact set_keeps call (Nat.ne_of_lt hid)
  · exact Keeps.refl _
  · exact clear_keeps i id
  · exact hkeeps id

theorem step_made
    (h : step A hash s e = some s') :
    s'.made = s.made + (calls [e]).length := by
  rcases step_cases h with ⟨call, rfl, rfl⟩ | ⟨j, p, rfl, -, rfl⟩ | ⟨i, rfl, rfl⟩ | ⟨he, -, -, -, hmade, -⟩
  · rfl
  · rfl
  · rfl
  · rw [calls_other he, hmade]
    rfl

/-! ## The index -/

theorem lookup_eraseKeys (btMap : AList (fun _ : Nat => Nat)) (ids : List Nat) (key : Nat) :
    (s.eraseKeys btMap ids).lookup key =
      if ∃ id ∈ ids, (s.objects id).key = key then none else btMap.lookup key := by
  unfold eraseKeys
  induction ids generalizing btMap with
  | nil =>
      simp
  | cons id ids ih =>
      rw [List.foldl_cons, ih]
      by_cases hid : (s.objects id).key = key
      · subst hid
        simp
      · simp [hid, AList.lookup_erase_ne (Ne.symm hid)]

/-- The arrays of a state that was reached with some calls of `set`. -/
structure IndexInv (hash : K → Nat) (called : List (SetCall K)) (s : State K threads) : Prop where
  made : s.made = called.length
  entry : ∀ id call, called[id]? = some call → Made hash call (s.objects id)
  home : ∀ i, ∀ id ∈ (s.kvs i).entries, id < s.made ∧ s.home id = i
  indexed : ∀ i key id, (s.kvs i).btMap.lookup key = some id →
    id ∈ (s.kvs i).entries ∧ (s.objects id).key = key
  latest : ∀ i key id, (s.kvs i).btMap.lookup key = some id →
    ∀ j call, id < j → called[j]? = some call → hash call.key ≠ key

namespace IndexInv

variable {called : List (SetCall K)}

theorem init : IndexInv hash [] (State.init : State K threads) where
  made := rfl
  entry := by simp
  home := by simp [State.init]
  indexed := by simp [State.init]
  latest := by simp

theorem home_keeps
    {id : Nat}
    (hkeeps : Keeps (s.objects id) (s'.objects id)) :
    s'.home id = s.home id := by
  rw [State.home, State.home, hkeeps.key]

theorem set
    (h : IndexInv hash called s)
    (call : SetCall K) :
    IndexInv hash (called ++ [call]) (s.set hash call) := by
  have hself : (s.set hash call).objects s.made =
      ⟨hash call.key, call.value, call.value.length, call.createMs, call.expireMs, call.curtimeMs, false⟩ := by
    simp [State.set, State.replace]
  have hold : ∀ i, ∀ id ∈ (s.kvs i).entries, id ≠ s.made := by
    intro i id hid
    exact Nat.ne_of_lt (h.home i id hid).1
  have hkeeps : ∀ i, ∀ id ∈ (s.kvs i).entries, Keeps (s.objects id) ((s.set hash call).objects id) :=
    fun i id hid => set_keeps call (hold i id hid)
  have hkvs : (s.set hash call).kvs = s.addEntry (hash call.key) s.made := rfl
  -- an entry of an index is the new one, or was there before under another key
  have hlookup : ∀ i key id, ((s.set hash call).kvs i).btMap.lookup key = some id →
      (id = s.made ∧ key = hash call.key ∧ i = arrayOf key) ∨
        ((s.kvs i).btMap.lookup key = some id ∧ (i = arrayOf (hash call.key) → key ≠ hash call.key)) := by
    intro i key id hl
    rw [hkvs, addEntry] at hl
    by_cases hi : i = arrayOf (hash call.key)
    · subst hi
      rw [Function.update_self] at hl
      by_cases hkey : key = hash call.key
      · subst hkey
        rw [AList.lookup_insert] at hl
        exact Or.inl ⟨(Option.some.inj hl).symm, rfl, rfl⟩
      · rw [AList.lookup_insert_ne hkey, AList.lookup_erase_ne hkey] at hl
        exact Or.inr ⟨hl, fun _ => hkey⟩
    · rw [Function.update_of_ne hi] at hl
      exact Or.inr ⟨hl, fun heq => absurd heq hi⟩
  have hmem : ∀ i, ∀ id ∈ (s.kvs i).entries, id ∈ ((s.set hash call).kvs i).entries := by
    intro i id hid
    rw [hkvs, addEntry, Function.update_apply]
    split
    case isTrue heq =>
      rw [heq] at hid
      exact List.mem_append_left _ hid
    case isFalse =>
      exact hid
  constructor
  · simp [State.set, State.replace, h.made]
  · intro id call' hcall
    by_cases hid : id = s.made
    · subst hid
      rw [h.made, List.getElem?_append_right (Nat.le_refl _), Nat.sub_self] at hcall
      obtain rfl := Option.some.inj hcall
      rw [hself]
      exact ⟨rfl, rfl, rfl, rfl, Or.inl rfl⟩
    · have hlt : id < called.length := by
        have hlen := (List.getElem?_eq_some_iff.mp hcall).1
        rw [List.length_append, List.length_singleton] at hlen
        have hmade := h.made
        omega
      rw [List.getElem?_append_left hlt] at hcall
      exact (h.entry id call' hcall).keeps (set_keeps call hid)
  · intro i id hid
    have hcase : id ∈ (s.kvs i).entries ∨ (id = s.made ∧ i = arrayOf (hash call.key)) := by
      rw [hkvs, addEntry, Function.update_apply] at hid
      split at hid
      case isTrue heq =>
        subst heq
        rcases List.mem_append.mp hid with hid | hid
        · exact Or.inl hid
        · exact Or.inr ⟨List.mem_singleton.mp hid, rfl⟩
      case isFalse =>
        exact Or.inl hid
    change id < s.made + 1 ∧ _
    rcases hcase with hid | ⟨rfl, rfl⟩
    · obtain ⟨hlt, hhome⟩ := h.home i id hid
      exact ⟨by omega, (home_keeps (hkeeps i id hid)).trans hhome⟩
    · refine ⟨by omega, ?_⟩
      rw [State.home, hself]
  · intro i key id hl
    rcases hlookup i key id hl with ⟨rfl, rfl, rfl⟩ | ⟨hl, -⟩
    · refine ⟨?_, by rw [hself]⟩
      rw [hkvs, addEntry, Function.update_self]
      exact List.mem_append_right _ (List.mem_singleton_self _)
    · obtain ⟨hid, hkey⟩ := h.indexed i key id hl
      exact ⟨hmem i id hid, (hkeeps i id hid).key.trans hkey⟩
  · intro i key id hl j later hj hlater
    rcases hlookup i key id hl with ⟨rfl, rfl, rfl⟩ | ⟨hl, hne⟩
    · have hlen := (List.getElem?_eq_some_iff.mp hlater).1
      rw [List.length_append, List.length_singleton] at hlen
      have hmade := h.made
      omega
    · by_cases hlt : j < called.length
      · rw [List.getElem?_append_left hlt] at hlater
        exact h.latest i key id hl j later hj hlater
      · have hlen := (List.getElem?_eq_some_iff.mp hlater).1
        rw [List.length_append, List.length_singleton] at hlen
        rw [List.getElem?_append_right (by omega), (by omega : j - called.length = 0)] at hlater
        obtain rfl := Option.some.inj hlater
        intro heq
        obtain ⟨hid, hkey⟩ := h.indexed i key id hl
        have hhome : arrayOf (s.objects id).key = i := (h.home i id hid).2
        rw [hkey, ← heq] at hhome
        exact hne hhome.symm heq.symm

theorem purge
    (h : IndexInv hash called s)
    (p : Purge) :
    IndexInv hash called (s.purge p) := by
  have hmem : ∀ i, ∀ id ∈ ((s.purge p).kvs i).entries, id ∈ (s.kvs i).entries := by
    intro i id hid
    simp only [State.purge, Function.update_apply] at hid
    split at hid
    case isTrue heq =>
      rw [heq]
      exact (SwapRemove.mem_removeWhere.2.mp hid).1
    case isFalse =>
      exact hid
  have hlookup : ∀ i key id, ((s.purge p).kvs i).btMap.lookup key = some id →
      (s.kvs i).btMap.lookup key = some id ∧
        (i = p.array → ¬ ∃ old ∈ (s.purged p).1, (s.objects old).key = key) := by
    intro i key id hl
    simp only [State.purge, Function.update_apply] at hl
    split at hl
    case isTrue heq =>
      subst heq
      rw [lookup_eraseKeys] at hl
      split at hl
      · cases hl
      case isFalse hnone =>
        exact ⟨hl, fun _ => hnone⟩
    case isFalse hne =>
      exact ⟨hl, fun heq => absurd heq hne⟩
  constructor
  · exact h.made
  · exact h.entry
  · intro i id hid
    exact h.home i id (hmem i id hid)
  · intro i key id hl
    obtain ⟨hl, hnone⟩ := hlookup i key id hl
    obtain ⟨hid, hkey⟩ := h.indexed i key id hl
    refine ⟨?_, hkey⟩
    simp only [State.purge, Function.update_apply]
    split
    case isTrue heq =>
      subst heq
      refine SwapRemove.mem_removeWhere.2.mpr ⟨hid, ?_⟩
      rw [← Bool.not_eq_true]
      intro hdrops
      exact hnone rfl ⟨id, SwapRemove.mem_removeWhere.1.mpr ⟨hid, hdrops⟩, hkey⟩
    case isFalse =>
      exact hid
  · intro i key id hl
    exact h.latest i key id (hlookup i key id hl).1

theorem clear
    (h : IndexInv hash called s)
    (i : Fin sharedQueryCacheHashTables) :
    IndexInv hash called (s.clear i) := by
  have hkv : ∀ j, (s.clear i).kvs j = if j = i then {} else s.kvs j := by
    intro j
    simp only [State.clear, Function.update_apply]
  constructor
  · exact h.made
  · intro id call hcall
    exact (h.entry id call hcall).keeps (clear_keeps i id)
  · intro j id hid
    rw [hkv] at hid
    split at hid
    · cases hid
    · obtain ⟨hlt, hhome⟩ := h.home j id hid
      exact ⟨hlt, (home_keeps (clear_keeps i id)).trans hhome⟩
  · intro j key id hl
    rw [hkv] at hl ⊢
    split at hl
    · simp at hl
    case isFalse hne =>
      rw [if_neg hne]
      obtain ⟨hid, hkey⟩ := h.indexed j key id hl
      exact ⟨hid, (clear_keeps i id).key.trans hkey⟩
  · intro j key id hl
    rw [hkv] at hl
    split at hl
    · simp at hl
    · exact h.latest j key id hl

theorem of_keeps
    (h : IndexInv hash called s)
    (hkvs : s'.kvs = s.kvs)
    (hmade : s'.made = s.made)
    (hkeeps : ∀ id, Keeps (s.objects id) (s'.objects id)) :
    IndexInv hash called s' := by
  constructor
  · rw [hmade, h.made]
  · intro id call hcall
    exact (h.entry id call hcall).keeps (hkeeps id)
  · intro i id hid
    rw [hkvs] at hid
    rw [hmade, home_keeps (hkeeps id)]
    exact h.home i id hid
  · intro i key id hl
    rw [hkvs] at hl ⊢
    obtain ⟨hid, hkey⟩ := h.indexed i key id hl
    exact ⟨hid, (hkeeps id).key.trans hkey⟩
  · intro i key id hl
    rw [hkvs] at hl
    exact h.latest i key id hl

/-- Every step keeps the arrays. -/
theorem step
    (h : IndexInv hash called s)
    (hstep : State.step A hash s e = some s') :
    IndexInv hash (called ++ calls [e]) s' := by
  rcases step_cases hstep with
    ⟨call, rfl, rfl⟩ | ⟨j, p, rfl, -, rfl⟩ | ⟨i, rfl, rfl⟩ | ⟨he, -, -, hkvs, hmade, hkeeps, -⟩
  · exact h.set call
  · rw [calls_other rfl, List.append_nil]
    exact (h.purge p).of_keeps rfl rfl (fun _ => Keeps.refl _)
  · rw [calls_other rfl, List.append_nil]
    exact h.clear i
  · rw [calls_other he, List.append_nil]
    exact h.of_keeps hkvs hmade hkeeps

end IndexInv

/-! ## What a key has after a step -/

theorem indexed_set (call : SetCall K) (key : Nat) :
    (s.set hash call).indexed key =
      if key = hash call.key then some s.made else s.indexed key := by
  change (s.addEntry (hash call.key) s.made (arrayOf key)).btMap.lookup key = _
  rw [addEntry, Function.update_apply]
  by_cases hkey : key = hash call.key
  · subst hkey
    simp
  · rw [if_neg hkey]
    split
    case isTrue heq =>
      rw [AList.lookup_insert_ne hkey, AList.lookup_erase_ne hkey, ← heq]
      rfl
    case isFalse =>
      rfl

theorem indexed_clear (i : Fin sharedQueryCacheHashTables) (key : Nat) :
    (s.clear i).indexed key = if arrayOf key = i then none else s.indexed key := by
  change ((s.clear i).kvs (arrayOf key)).btMap.lookup key = _
  simp only [clear, Function.update_apply]
  split
  · simp
  · rfl

/-- What a purge leaves in the index: every key but those of the entries it drops. -/
theorem purge_indexed
    {called : List (SetCall K)}
    (h : IndexInv hash called s)
    (p : Purge) (key : Nat) :
    (s.purge p).indexed key =
      if ∃ old ∈ (s.purged p).1, (s.objects old).key = key then none else s.indexed key := by
  change ((s.purge p).kvs (arrayOf key)).btMap.lookup key = _
  simp only [purge, Function.update_apply]
  by_cases harray : arrayOf key = p.array
  · rw [if_pos harray, lookup_eraseKeys, ← harray]
    rfl
  · rw [if_neg harray, if_neg]
    · rfl
    · rintro ⟨old, hold, rfl⟩
      exact harray (h.home _ old (SwapRemove.mem_removeWhere.1.mp hold).1).2

/-! ## Runs -/

theorem after_append (ls ms : List (Event K threads)) :
    after A hash (ls ++ ms) = (after A hash ls).bind fun s => ms.foldlM (step A hash) s :=
  List.foldlM_append

theorem after_concat (ls : List (Event K threads)) (e : Event K threads) :
    after A hash (ls ++ [e]) = (after A hash ls).bind fun s => step A hash s e := by
  rw [after_append]
  simp

/-- The invariant of the arrays holds after every run. -/
theorem indexInv_after
    {ls : List (Event K threads)}
    (h : after A hash ls = some s) :
    IndexInv hash (calls ls) s := by
  induction ls using List.reverseRecOn generalizing s with
  | nil =>
      obtain rfl := Option.some.inj h
      exact IndexInv.init
  | append_singleton ls e ih =>
      rw [after_concat] at h
      obtain ⟨t, ht, hstep⟩ := Option.bind_eq_some_iff.mp h
      rw [calls_append]
      exact (ih ht).step hstep

end State

end QueryCache

end PolarProxy
