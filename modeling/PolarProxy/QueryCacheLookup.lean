import PolarProxy.QueryCacheIndex

/-!
# Lookups of the query cache

The law of lookups for a run: what a get returns is the value of the last call that set its
key before the get looked it up, and not too old; an entry that nothing excuses stays in the
index; and a get of an entry in the index returns it, but for one get that starts a refresh.

A purge erases the key of every entry that it drops.  When the dropped entry is superseded
and the newer one of its key stays, the newer one is lost to the index.  The law holds of a
run if and only if no purge of the run does this.

**Results.** `lookedUp_after`, `spared_indexed`, `lookupLaw_iff`.
-/

namespace PolarProxy

namespace QueryCache

open State

variable {K : Type} {threads : Nat}

/-- The entry that the last call for a key made. -/
def Latest (ls : List (Event K threads)) (k : K) (id : Nat) (call : SetCall K) : Prop :=
  (calls ls)[id]? = some call ∧ call.key = k ∧
    ∀ j later, id < j → (calls ls)[j]? = some later → later.key ≠ k

/-- What a thread in `get` looked up. -/
def Stage.pointer : Stage K → Option (K × Nat)
  | .idle => none
  | .looked k entryPtr => entryPtr.map fun id => (k, id)
  | .locked k id => some (k, id)

/-- The last lookup of a thread was of a key whose last entry is given. -/
def LookedUp (ls : List (Event K threads)) (th : Fin threads) (k : K) (id : Nat)
    (call : SetCall K) : Prop :=
  ∃ pre mid, ls = pre ++ .lookup th k :: mid ∧ (∀ k', .lookup th k' ∉ mid) ∧ Latest pre k id call

/-- A step that may take an entry away: a flush of its array, or a purge of its array that
finds it expired or chooses it. -/
def State.Excused (s : State K threads) (id : Nat) : Event K threads → Prop
  | .clear i => s.home id = i
  | .drop j => ∃ p, s.purges[j]? = some p ∧ p.array = s.home id ∧
      ((s.objects id).expired p.now = true ∨ s.drops p id = true)
  | _ => False

/-- No step of the run since an entry was made may take it away. -/
def Spared (A : Arith) (hash : K → Nat) (ls : List (Event K threads)) (id : Nat) : Prop :=
  ∀ mid e s, mid ++ [e] <+: ls → after A hash mid = some s → id < s.made → ¬ s.Excused id e

structure LookupLaw (A : Arith) (hash : K → Nat) (ls : List (Event K threads)) : Prop where
  /-- What a get returns at a time. -/
  returned : ∀ pre s th t cacheTtl softTtlPct id, pre <+: ls → after A hash pre = some s →
    s.answer th t cacheTtl softTtlPct = some id →
      ∃ k call, LookedUp pre th k id call ∧ (s.objects id).value = call.value ∧
        t < call.expireMs ∧ t < call.createMs + cacheTtl
  /-- The last entry of a key stays in the index. -/
  reachable : ∀ pre s k id call, pre <+: ls → after A hash pre = some s →
    Latest pre k id call → Spared A hash pre id → s.indexed (hash k) = some id
  /-- A get returns an entry of the index whose times allow it, or starts a refresh. -/
  found : ∀ pre s th k id, pre <+: ls → after A hash pre = some s →
    s.stages th = .idle → s.indexed (hash k) = some id →
      ∃ s₁ s₂, s.lookup hash th k = some s₁ ∧ s₁.lock th = some s₂ ∧
        ∀ t cacheTtl softTtlPct, (s.objects id).usable t cacheTtl = true →
          s₂.answer th t cacheTtl softTtlPct = some id ∨
            ((s.objects id).refreshing = false ∧
              ∀ s₃, s₂.check th t cacheTtl softTtlPct = some s₃ → (s₃.objects id).refreshing = true)
  /-- A refresh starts once. -/
  once : ∀ pre mid s s' id, pre ++ mid <+: ls → after A hash pre = some s →
    after A hash (pre ++ mid) = some s' → id < s.made →
      (s.objects id).refreshing = true → (s'.objects id).refreshing = true

/-- No purge of a run drops a superseded entry when the newer entry of its key is to stay. -/
def SafePurges (A : Arith) (hash : K → Nat) (ls : List (Event K threads)) : Prop :=
  ∀ mid j s p, mid ++ [.drop j] <+: ls → after A hash mid = some s → s.purges[j]? = some p →
    ∀ old ∈ (s.purged p).1, ∀ id, s.indexed (s.objects old).key = some id →
      Spared A hash mid id → (s.objects id).expired p.now = true ∨ s.drops p id = true

section Lookups

variable {A : Arith} {hash : K → Nat} {s s' : State K threads} {e : Event K threads}
variable {ls : List (Event K threads)}

/-! ## What a get returns -/

variable {th : Fin threads}

/-- What a thread points to after a step it pointed to before, or has looked up. -/
theorem pointer_step
    (h : step A hash s e = some s')
    {k : K} {id : Nat}
    (hp : (s'.stages th).pointer = some (k, id)) :
    ((s.stages th).pointer = some (k, id) ∧ ∀ k', e ≠ .lookup th k') ∨
      (e = .lookup th k ∧ s.indexed (hash k) = some id) := by
  cases e with
  | set call =>
      obtain rfl := Option.some.inj h
      exact Or.inl ⟨hp, by simp⟩
  | release j =>
      simp only [step, release] at h
      split at h
      · obtain rfl := Option.some.inj h
        exact Or.inl ⟨hp, by simp⟩
      · cases h
  | scan i now aggressive =>
      obtain rfl := Option.some.inj h
      exact Or.inl ⟨hp, by simp⟩
  | drop j =>
      obtain ⟨p, -, rfl⟩ := Option.map_eq_some_iff.mp h
      exact Or.inl ⟨hp, by simp⟩
  | clear i =>
      obtain rfl := Option.some.inj h
      exact Or.inl ⟨hp, by simp⟩
  | lookup th' k' =>
      simp only [step, State.lookup] at h
      split at h
      · obtain rfl := Option.some.inj h
        dsimp only at hp
        rw [Function.update_apply] at hp
        split at hp
        case isTrue heq =>
          subst heq
          rw [Stage.pointer, Option.map_eq_some_iff] at hp
          obtain ⟨id', hid, heq⟩ := hp
          obtain ⟨rfl, rfl⟩ := Prod.mk.inj heq
          exact Or.inr ⟨rfl, hid⟩
        case isFalse hne =>
          refine Or.inl ⟨hp, ?_⟩
          intro k'' heq
          obtain ⟨rfl, -⟩ := Event.lookup.inj heq
          exact hne rfl
      · cases h
  | lock th' =>
      refine Or.inl ⟨?_, by simp⟩
      simp only [step, State.lock] at h
      split at h
      case h_1 k' id' hst =>
        split at h
        · obtain rfl := Option.some.inj h
          dsimp only at hp
          rw [Function.update_apply] at hp
          split at hp
          case isTrue heq =>
            subst heq
            rw [hst]
            exact hp
          case isFalse =>
            exact hp
        · obtain rfl := Option.some.inj h
          dsimp only at hp
          rw [Function.update_apply] at hp
          split at hp
          · cases hp
          · exact hp
      case h_2 =>
        obtain rfl := Option.some.inj h
        dsimp only at hp
        rw [Function.update_apply] at hp
        split at hp
        · cases hp
        · exact hp
      case h_3 =>
        cases h
  | check th' t cacheTtl softTtlPct =>
      refine Or.inl ⟨?_, by simp⟩
      simp only [step, State.check] at h
      split at h
      · obtain rfl := Option.some.inj h
        dsimp only at hp
        rw [Function.update_apply] at hp
        split at hp
        · cases hp
        · exact hp
      · cases h

theorem indexed_latest
    (hinj : Function.Injective hash)
    (h : IndexInv hash (calls ls) s)
    {k : K} {id : Nat}
    (hid : s.indexed (hash k) = some id) :
    ∃ call, Latest ls k id call := by
  obtain ⟨hmem, hkey⟩ := h.indexed _ _ id hid
  have hlt := (h.home _ id hmem).1
  rw [h.made] at hlt
  have hcall := List.getElem?_eq_getElem hlt
  refine ⟨(calls ls)[id], hcall, ?_, ?_⟩
  · exact hinj ((h.entry id _ hcall).key.symm.trans hkey)
  · intro j later hj hlater heq
    exact h.latest _ _ id hid j later hj hlater (congrArg hash heq)

/-- What a get points to was the last entry of its key when it looked. -/
theorem lookedUp_after
    (hinj : Function.Injective hash)
    (h : after A hash ls = some s)
    {k : K} {id : Nat}
    (hp : (s.stages th).pointer = some (k, id)) :
    ∃ call, LookedUp ls th k id call := by
  induction ls using List.reverseRecOn generalizing s with
  | nil =>
      obtain rfl := Option.some.inj h
      cases hp
  | append_singleton ls e ih =>
      rw [after_concat] at h
      obtain ⟨t, ht, hstep⟩ := Option.bind_eq_some_iff.mp h
      rcases pointer_step hstep hp with ⟨hp, hne⟩ | ⟨rfl, hid⟩
      · obtain ⟨call, pre, mid, rfl, hmid, hlatest⟩ := ih ht hp
        refine ⟨call, pre, mid ++ [e], by simp, ?_, hlatest⟩
        intro k' hmem
        rcases List.mem_append.mp hmem with hmem | hmem
        · exact hmid k' hmem
        · exact hne k' (List.mem_singleton.mp hmem).symm
      · obtain ⟨call, hlatest⟩ := indexed_latest hinj (indexInv_after ht) hid
        exact ⟨call, ls, [], rfl, by simp, hlatest⟩

/-- A get that returns an entry owns it, and found its times good. -/
theorem answer_eq_some
    {t cacheTtl softTtlPct id : Nat}
    (h : s.answer th t cacheTtl softTtlPct = some id) :
    (∃ k, (s.stages th).pointer = some (k, id)) ∧ (s.objects id).usable t cacheTtl = true := by
  rw [answer] at h
  split at h
  case h_1 k id' hst =>
    split at h
    case isTrue hcheck =>
      obtain rfl := Option.some.inj h
      refine ⟨⟨k, by rw [hst]; rfl⟩, ?_⟩
      rw [QcEntry.check] at hcheck
      split at hcheck
      case isTrue husable =>
        exact husable
      case isFalse =>
        cases hcheck
    case isFalse =>
      cases h
  case h_2 =>
    cases h

theorem returned_after
    (hinj : Function.Injective hash)
    (h : after A hash ls = some s)
    {t cacheTtl softTtlPct id : Nat}
    (hanswer : s.answer th t cacheTtl softTtlPct = some id) :
    ∃ k call, LookedUp ls th k id call ∧ (s.objects id).value = call.value ∧
      t < call.expireMs ∧ t < call.createMs + cacheTtl := by
  obtain ⟨⟨k, hp⟩, husable⟩ := answer_eq_some hanswer
  obtain ⟨call, hlooked⟩ := lookedUp_after hinj h hp
  refine ⟨k, call, hlooked, ?_⟩
  obtain ⟨pre, mid, rfl, -, hcall, -⟩ := hlooked
  have hmade : Made hash call (s.objects id) := by
    refine (indexInv_after h).entry id call ?_
    rw [calls_append, List.getElem?_append_left (List.getElem?_eq_some_iff.mp hcall).1]
    exact hcall
  simp only [QcEntry.usable, Bool.and_eq_true, decide_eq_true_eq, gt_iff_lt] at husable
  obtain ⟨hexpire, hcreate⟩ := husable
  refine ⟨hmade.value, ?_, ?_⟩
  · rcases hmade.expireMs with heq | heq
    · rwa [heq] at hexpire
    · rw [heq] at hexpire
      exact absurd hexpire (Nat.not_lt_zero t)
  · rw [← hmade.createMs]
    exact Nat.lt_of_lt_of_le hcreate (Nat.mod_le _ _)

theorem found_after
    (h : after A hash ls = some s)
    {k : K} {id : Nat}
    (hidle : s.stages th = .idle)
    (hid : s.indexed (hash k) = some id) :
    ∃ s₁ s₂, s.lookup hash th k = some s₁ ∧ s₁.lock th = some s₂ ∧
      ∀ t cacheTtl softTtlPct, (s.objects id).usable t cacheTtl = true →
        s₂.answer th t cacheTtl softTtlPct = some id ∨
          ((s.objects id).refreshing = false ∧
            ∀ s₃, s₂.check th t cacheTtl softTtlPct = some s₃ → (s₃.objects id).refreshing = true) := by
  have hinv := indexInv_after h
  obtain ⟨hmem, -⟩ := hinv.indexed _ _ id hid
  have hhome : s.home id = arrayOf (hash k) := (hinv.home _ id hmem).2
  have huse : ∀ stages : Fin threads → Stage K, 0 < ({ s with stages := stages } : State K threads).useCount id := by
    intro stages
    have hcount : 0 < (s.kvs (s.home id)).entries.count id := by
      rw [hhome]
      exact List.count_pos_iff.mpr hmem
    change 0 < (s.kvs (s.home id)).entries.count id + _ + _
    omega
  have hlookup : s.lookup hash th k =
      some { s with stages := Function.update s.stages th (.looked k (some id)) } := by
    rw [State.lookup, hidle, hid]
  let stages := Function.update s.stages th (.looked k (some id))
  refine ⟨_, { s with stages := Function.update stages th (.locked k id) }, hlookup, ?_, ?_⟩
  · simp only [State.lock, Function.update_self]
    rw [if_pos (huse _)]
  · intro t cacheTtl softTtlPct husable
    simp only [answer, State.check, Function.update_self]
    rw [QcEntry.check, if_pos husable]
    by_cases hrefresh : (s.objects id).startsRefresh t cacheTtl softTtlPct = true
    · right
      constructor
      · simp only [QcEntry.startsRefresh, Bool.and_eq_true, Bool.not_eq_true'] at hrefresh
        exact hrefresh.1.2
      · intro s₃ hs₃
        obtain rfl := Option.some.inj hs₃
        simp [hrefresh]
    · left
      simp [hrefresh]

theorem once_after
    {mid : List (Event K threads)} {id : Nat}
    (h : after A hash ls = some s)
    (h' : after A hash (ls ++ mid) = some s')
    (hid : id < s.made)
    (hrefreshing : (s.objects id).refreshing = true) :
    id < s'.made ∧ (s'.objects id).refreshing = true := by
  induction mid using List.reverseRecOn generalizing s' with
  | nil =>
      rw [List.append_nil, h] at h'
      obtain rfl := Option.some.inj h'
      exact ⟨hid, hrefreshing⟩
  | append_singleton mid e ih =>
      rw [← List.append_assoc, after_concat] at h'
      obtain ⟨t, ht, hstep⟩ := Option.bind_eq_some_iff.mp h'
      obtain ⟨hlt, hr⟩ := ih ht
      refine ⟨?_, (step_keeps hstep hlt).refreshing hr⟩
      rw [step_made hstep]
      omega

/-! ## What stays in the index -/

theorem Spared.of_concat
    {id : Nat}
    (h : Spared A hash (ls ++ [e]) id) :
    Spared A hash ls id :=
  fun mid e' s hmid => h mid e' s (hmid.trans (List.prefix_append ls [e]))

theorem Spared.concat
    {id : Nat}
    (h : Spared A hash ls id)
    (hlast : ∀ s, after A hash ls = some s → id < s.made → ¬ s.Excused id e) :
    Spared A hash (ls ++ [e]) id := by
  intro mid e' s hpre hs hlt
  rcases List.prefix_concat_iff.mp hpre with heq | hpre
  · obtain ⟨rfl, hsingle⟩ := List.append_inj' heq rfl
    obtain rfl := List.singleton_inj.mp hsingle
    exact hlast s hs hlt
  · exact h mid e' s hpre hs hlt

/-- A run whose purges are safe keeps what is spared in the index. -/
theorem spared_indexed
    (hinj : Function.Injective hash)
    (hsafe : SafePurges A hash ls)
    (h : after A hash ls = some s)
    {k : K} {id : Nat} {call : SetCall K}
    (hlatest : Latest ls k id call)
    (hspared : Spared A hash ls id) :
    s.indexed (hash k) = some id := by
  induction ls using List.reverseRecOn generalizing s with
  | nil =>
      simp [Latest] at hlatest
  | append_singleton ls e ih =>
      have hsafe' : SafePurges A hash ls := fun mid j t p hmid =>
        hsafe mid j t p (hmid.trans (List.prefix_append ls [e]))
      rw [after_concat] at h
      obtain ⟨t, ht, hstep⟩ := Option.bind_eq_some_iff.mp h
      have hinv := indexInv_after ht
      have hexcused : id < t.made → ¬ t.Excused id e :=
        hspared ls e t (List.prefix_refl _) ht
      have hbefore : id < t.made → e.setCall = none → t.indexed (hash k) = some id := by
        intro _ he
        rw [Latest, calls_append, calls_other he, List.append_nil] at hlatest
        exact ih hsafe' ht hlatest hspared.of_concat
      have hlt : e.setCall = none → id < t.made := by
        intro he
        have hlen := (List.getElem?_eq_some_iff.mp hlatest.1).1
        rwa [calls_append, calls_other he, List.append_nil, ← hinv.made] at hlen
      rcases step_cases hstep with
        ⟨call', rfl, rfl⟩ | ⟨j, p, rfl, hp, rfl⟩ | ⟨i, rfl, rfl⟩ | ⟨he, -, -, hkvs, -⟩
      · rw [Latest, calls_append, calls_set] at hlatest
        obtain ⟨hcall, rfl, hlast⟩ := hlatest
        rw [indexed_set]
        have hmade := hinv.made
        by_cases hnew : id = t.made
        · subst hnew
          rw [hmade, List.getElem?_append_right (Nat.le_refl _), Nat.sub_self] at hcall
          obtain rfl := Option.some.inj hcall
          rw [if_pos rfl]
        · have hlen : id < (calls ls).length := by
            have hlen := (List.getElem?_eq_some_iff.mp hcall).1
            rw [List.length_append, List.length_singleton] at hlen
            omega
          have hne : call'.key ≠ call.key := by
            refine hlast (calls ls).length call' hlen ?_
            rw [List.getElem?_append_right (Nat.le_refl _), Nat.sub_self]
            rfl
          rw [if_neg (fun heq => hne (hinj heq).symm)]
          refine ih hsafe' ht ⟨?_, rfl, ?_⟩ hspared.of_concat
          · rwa [List.getElem?_append_left hlen] at hcall
          · intro j later hj hlater
            refine hlast j later hj ?_
            rw [List.getElem?_append_left (List.getElem?_eq_some_iff.mp hlater).1]
            exact hlater
      · have hid := hbefore (hlt rfl) rfl
        obtain ⟨hmem, hkey⟩ := hinv.indexed _ _ id hid
        have hhome : t.home id = arrayOf (hash k) := (hinv.home _ id hmem).2
        change (t.purge p).indexed (hash k) = some id
        rw [purge_indexed hinv, if_neg, hid]
        rintro ⟨old, hold, hkeyold⟩
        -- the key of a dropped entry is the key of the one that is to stay
        have harray : p.array = t.home id := by
          have hhomeold := (hinv.home _ old (SwapRemove.mem_removeWhere.1.mp hold).1).2
          rw [hhome, ← hkeyold]
          exact hhomeold.symm
        rw [← hkeyold] at hid
        exact hexcused (hlt rfl) ⟨p, hp, harray,
          hsafe ls j t p (List.prefix_refl _) ht hp old hold id hid hspared.of_concat⟩
      · have hid := hbefore (hlt rfl) rfl
        obtain ⟨hmem, -⟩ := hinv.indexed _ _ id hid
        have hhome : t.home id = arrayOf (hash k) := (hinv.home _ id hmem).2
        rw [indexed_clear, if_neg, hid]
        intro heq
        exact hexcused (hlt rfl) (hhome.trans heq)
      · rw [State.indexed, hkvs]
        exact hbefore (hlt he) he

/-- A purge that is not safe loses an entry that is to stay. -/
theorem safePurges_of_reachable
    (hinj : Function.Injective hash)
    (h : ∀ pre s k id call, pre <+: ls → after A hash pre = some s →
      Latest pre k id call → Spared A hash pre id → s.indexed (hash k) = some id) :
    SafePurges A hash ls := by
  intro mid j s p hmid hs hp old hold id hid hspared
  by_contra hstay
  have hinv := indexInv_after hs
  obtain ⟨hmem, hkey⟩ := hinv.indexed _ _ id hid
  have hlt := (hinv.home _ id hmem).1
  rw [hinv.made] at hlt
  have hcall := List.getElem?_eq_getElem hlt
  have hhash := (hinv.entry id _ hcall).key
  obtain ⟨call, hlatest⟩ := indexed_latest hinj hinv (k := ((calls mid)[id]).key)
    (by rw [← hhash, hkey]; exact hid)
  have hafter : after A hash (mid ++ [.drop j]) =
      some { s.purge p with purges := s.purges.eraseIdx j } := by
    rw [after_concat, hs]
    simp [step, drop, hp]
  have hsparedStep : Spared A hash (mid ++ [.drop j]) id := by
    refine hspared.concat ?_
    intro t ht _ hexcused
    rw [hs] at ht
    obtain rfl := Option.some.inj ht
    obtain ⟨p', hp', -, hexcused⟩ := hexcused
    rw [hp] at hp'
    obtain rfl := Option.some.inj hp'
    exact hstay hexcused
  have hlatestStep : Latest (mid ++ [.drop j]) ((calls mid)[id]).key id call := by
    rw [Latest, calls_append, calls_other rfl, List.append_nil]
    exact hlatest
  have hindexed := h _ _ _ id call hmid hafter hlatestStep hsparedStep
  change (s.purge p).indexed _ = some id at hindexed
  rw [purge_indexed hinv, if_pos ⟨old, hold, by rw [← hhash, hkey]⟩] at hindexed
  cases hindexed

/-- The law of lookups holds of a run if and only if its purges are safe. -/
theorem lookupLaw_iff
    (A : Arith) (hash : K → Nat)
    (hinj : Function.Injective hash)
    (ls : List (Event K threads)) :
    LookupLaw A hash ls ↔ SafePurges A hash ls := by
  constructor
  · intro h
    exact safePurges_of_reachable hinj h.reachable
  · intro h
    constructor
    · intro pre s th t cacheTtl softTtlPct id _ hs hanswer
      exact returned_after hinj hs hanswer
    · intro pre s k id call hpre hs hlatest hspared
      refine spared_indexed hinj ?_ hs hlatest hspared
      exact fun mid j t p hmid => h mid j t p (hmid.trans hpre)
    · intro pre s th k id _ hs hidle hid
      exact found_after hs hidle hid
    · intro pre mid s s' id _ hs hs' hid hrefreshing
      exact (once_after hs hs' hid hrefreshing).2

/-- Two values for one key, and a purge. -/
def replacedThenPurged : List (Event Nat 1) :=
  [.set ⟨1, [7], 10, 10, 100⟩, .set ⟨1, [8], 20, 20, 100⟩, .scan (arrayOf 1) 30 false, .drop 0]

theorem lookupLaw_iff_replacedThenPurged :
    LookupLaw exactArith id replacedThenPurged ↔ SafePurges exactArith id replacedThenPurged :=
  lookupLaw_iff exactArith id Function.injective_id replacedThenPurged

theorem spared_replacedThenPurged : Spared exactArith id replacedThenPurged 1 := by
  have hnil : Spared exactArith id ([] : List (Event Nat 1)) 1 := by
    intro mid e s hpre
    simp at hpre
  have hset := (hnil.concat (e := .set ⟨1, [7], 10, 10, 100⟩) (fun _ _ _ h => h)).concat
    (e := .set ⟨1, [8], 20, 20, 100⟩) (fun _ _ _ h => h)
  have hscan := hset.concat (e := .scan (arrayOf 1) 30 false) (fun _ _ _ h => h)
  refine hscan.concat (e := .drop 0) ?_
  intro s hs _ hexcused
  obtain rfl := Option.some.inj hs
  obtain ⟨p, hp, -, hexcused⟩ := hexcused
  obtain rfl := Option.some.inj hp
  revert hexcused
  decide

/-- The purge drops the first value of the key, and the second one is no longer found. -/
theorem not_lookupLaw_replacedThenPurged :
    ¬ LookupLaw exactArith id replacedThenPurged := by
  intro h
  have hafter : ∃ s, after exactArith id replacedThenPurged = some s ∧ s.indexed 1 = none :=
    ⟨_, rfl, by decide⟩
  obtain ⟨s, hs, hnone⟩ := hafter
  have hlatest : Latest replacedThenPurged 1 1 ⟨1, [8], 20, 20, 100⟩ := by
    refine ⟨rfl, rfl, ?_⟩
    intro j later hj hlater
    have hlen : j < 2 := (List.getElem?_eq_some_iff.mp hlater).1
    omega
  have hfound := h.reachable _ s 1 1 _ (List.prefix_refl _) hs hlatest spared_replacedThenPurged
  change s.indexed 1 = some 1 at hfound
  rw [hnone] at hfound
  cases hfound

end Lookups

end QueryCache

end PolarProxy
