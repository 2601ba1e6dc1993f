import Mathlib.Data.List.Nodup
import PolarProxy.ReadOnlyAction

/-!
# The nodes of a server

The table is seen through one relation: a hostgroup holds a server at an address when
that entry is not `OFFLINE_HARD`.  Each operation on the table is a lemma about this
relation, and a list of nodes is exact when it has one node for each pair and entry that
the relation gives.

Where a hostgroup is the writer of one pair and the reader of another, clearing the writer
nodes of a server takes entries offline that its reader nodes point to, so the lemmas about
nodes ask that each hostgroup has one role.

**Results.** `insertHgm_spec`, `copyNodes_spec`, `removeNodes_spec`, `promote_spec`,
`demote_spec`.
-/

namespace PolarProxy

namespace HostgroupTable

variable {t t' : HostgroupTable} {hid hid' ptr ptr' : Nat} {addr addr' : ServerAddr}

/-- The hostgroup holds the server at this address, not `OFFLINE_HARD`. -/
def Holds (t : HostgroupTable) (hid : Nat) (addr : ServerAddr) (ptr : Nat) : Prop :=
  ∃ s ∈ t.servers, s.ptr = ptr ∧ s.hid = hid ∧ s.addr = addr ∧ s.live = true

/-- No two entries share their address in memory, and no hostgroup has two entries for
one server. -/
structure TableOk (t : HostgroupTable) : Prop where
  ptrs : (t.servers.map (·.ptr)).Nodup
  fresh : ∀ s ∈ t.servers, s.ptr < t.nextPtr
  keys : (t.servers.map fun s => (s.hid, s.addr)).Nodup

theorem TableOk.eq_of_ptr
    {s s' : SrvC}
    (ht : t.TableOk)
    (hs : s ∈ t.servers)
    (hs' : s' ∈ t.servers)
    (h : s.ptr = s'.ptr) :
    s = s' :=
  List.inj_on_of_nodup_map ht.ptrs hs hs' h

theorem TableOk.eq_of_key
    {s s' : SrvC}
    (ht : t.TableOk)
    (hs : s ∈ t.servers)
    (hs' : s' ∈ t.servers)
    (hhid : s.hid = s'.hid)
    (haddr : s.addr = s'.addr) :
    s = s' :=
  List.inj_on_of_nodup_map ht.keys hs hs' (by rw [hhid, haddr])

theorem TableOk.holds_ptr
    (ht : t.TableOk)
    (h : t.Holds hid addr ptr)
    (h' : t.Holds hid addr ptr') :
    ptr = ptr' := by
  obtain ⟨s, hs, rfl, hhid, haddr, -⟩ := h
  obtain ⟨s', hs', rfl, hhid', haddr', -⟩ := h'
  rw [ht.eq_of_key hs hs' (hhid.trans hhid'.symm) (haddr.trans haddr'.symm)]

theorem TableOk.holds_place
    (ht : t.TableOk)
    (h : t.Holds hid addr ptr)
    (h' : t.Holds hid' addr' ptr) :
    hid = hid' ∧ addr = addr' := by
  obtain ⟨s, hs, hptr, rfl, rfl, -⟩ := h
  obtain ⟨s', hs', hptr', rfl, rfl, -⟩ := h'
  rw [ht.eq_of_ptr hs hs' (hptr.trans hptr'.symm)]
  exact ⟨rfl, rfl⟩

theorem TableOk.server?_of_mem
    {s : SrvC}
    (ht : t.TableOk)
    (hs : s ∈ t.servers) :
    t.server? s.ptr = some s := by
  cases hfind : t.server? s.ptr with
  | none =>
      have hno := List.find?_eq_none.mp hfind s hs
      simp at hno
  | some s' =>
      have hptr : s'.ptr = s.ptr := by
        simpa using List.find?_some hfind
      rw [ht.eq_of_ptr (List.mem_of_find?_eq_some hfind) hs hptr]

/-! ## Changing entries in place -/

/-- The function leaves an entry where it is. -/
def KeepsPlace (f : SrvC → SrvC) : Prop :=
  ∀ s, (f s).ptr = s.ptr ∧ (f s).hid = s.hid ∧ (f s).addr = s.addr

theorem TableOk.map
    {f : SrvC → SrvC}
    (ht : t.TableOk)
    (hf : KeepsPlace f) :
    TableOk { t with servers := t.servers.map f } where
  ptrs := by
    simpa only [List.map_map, Function.comp_def, (hf _).1] using ht.ptrs
  fresh := by
    intro s hs
    obtain ⟨s', hs', rfl⟩ := List.mem_map.mp hs
    rw [(hf s').1]
    exact ht.fresh s' hs'
  keys := by
    simpa only [List.map_map, Function.comp_def, (hf _).2.1, (hf _).2.2] using ht.keys

theorem holds_map
    {f : SrvC → SrvC}
    (hf : KeepsPlace f) :
    Holds { t with servers := t.servers.map f } hid addr ptr ↔
      ∃ s ∈ t.servers, s.ptr = ptr ∧ s.hid = hid ∧ s.addr = addr ∧ (f s).live = true := by
  constructor
  · rintro ⟨s, hs, hptr, hhid, haddr, hlive⟩
    obtain ⟨s', hs', rfl⟩ := List.mem_map.mp hs
    obtain ⟨hfptr, hfhid, hfaddr⟩ := hf s'
    exact ⟨s', hs', hfptr ▸ hptr, hfhid ▸ hhid, hfaddr ▸ haddr, hlive⟩
  · rintro ⟨s, hs, hptr, hhid, haddr, hlive⟩
    obtain ⟨hfptr, hfhid, hfaddr⟩ := hf s
    exact ⟨f s, List.mem_map_of_mem hs, hfptr.trans hptr, hfhid.trans hhid, hfaddr.trans haddr,
      hlive⟩

theorem KeepsPlace.ite
    {f : SrvC → SrvC}
    {p : SrvC → Prop} [DecidablePred p]
    (hf : KeepsPlace f) :
    KeepsPlace fun s => if p s then f s else s := by
  intro s
  by_cases hp : p s
  · simp only [if_pos hp]
    exact hf s
  · simp [if_neg hp]

theorem keepsPlace_setStatus (status : ServerStatus) : KeepsPlace (SrvC.setStatus · status) :=
  fun _ => ⟨rfl, rfl, rfl⟩

theorem keepsPlace_removeHgm : KeepsPlace SrvC.removeHgm :=
  fun _ => ⟨rfl, rfl, rfl⟩

theorem keepsPlace_recover : KeepsPlace SrvC.recover :=
  (keepsPlace_setStatus .online).ite

theorem TableOk.update
    {f : SrvC → SrvC}
    (ht : t.TableOk)
    (ptr : Nat)
    (hf : KeepsPlace f) :
    (t.update ptr f).TableOk :=
  ht.map hf.ite

/-- A change that keeps the entries that count leaves the relation alone. -/
theorem holds_update_of_live
    {f : SrvC → SrvC}
    (hf : KeepsPlace f)
    (hlive : ∀ s ∈ t.servers, s.ptr = ptr' → (f s).live = s.live) :
    (t.update ptr' f).Holds hid addr ptr ↔ t.Holds hid addr ptr := by
  rw [HostgroupTable.update, holds_map hf.ite]
  have hsame : ∀ s ∈ t.servers, (if s.ptr = ptr' then f s else s).live = s.live := by
    intro s hs
    by_cases hptr : s.ptr = ptr'
    · rw [if_pos hptr, hlive s hs hptr]
    · rw [if_neg hptr]
  constructor
  · rintro ⟨s, hs, hptr, hhid, haddr, h⟩
    exact ⟨s, hs, hptr, hhid, haddr, (hsame s hs).symm.trans h⟩
  · rintro ⟨s, hs, hptr, hhid, haddr, h⟩
    exact ⟨s, hs, hptr, hhid, haddr, (hsame s hs).trans h⟩

theorem live_recover (s : SrvC) : s.recover.live = s.live := by
  cases s with
  | mk ptr hid addr status opts used free =>
      cases status <;> rfl

theorem holds_removeHgm :
    (t.update ptr' SrvC.removeHgm).Holds hid addr ptr ↔
      t.Holds hid addr ptr ∧ ptr ≠ ptr' := by
  rw [HostgroupTable.update, holds_map keepsPlace_removeHgm.ite]
  constructor
  · rintro ⟨s, hs, rfl, hhid, haddr, hlive⟩
    by_cases hptr : s.ptr = ptr'
    · rw [if_pos hptr] at hlive
      exact absurd hlive (by simp [SrvC.live, SrvC.removeHgm, SrvC.setStatus])
    · rw [if_neg hptr] at hlive
      exact ⟨⟨s, hs, rfl, hhid, haddr, hlive⟩, hptr⟩
  · rintro ⟨⟨s, hs, rfl, hhid, haddr, hlive⟩, hptr⟩
    exact ⟨s, hs, rfl, hhid, haddr, by rwa [if_neg hptr]⟩

/-! ## Adding and purging entries -/

theorem TableOk.add
    {status : ServerStatus} {opts : SrvOpts}
    (ht : t.TableOk)
    (hnew : ∀ s ∈ t.servers, ¬ (s.hid = hid ∧ s.addr = addr)) :
    (t.add hid addr status opts).1.TableOk where
  ptrs := by
    rw [HostgroupTable.add, List.map_append, List.nodup_append]
    refine ⟨ht.ptrs, by simp, ?_⟩
    intro p hp q hq heq
    obtain ⟨s, hs, rfl⟩ := List.mem_map.mp hp
    have hlt := ht.fresh s hs
    simp only [List.map_cons, List.map_nil, List.mem_singleton] at hq
    omega
  fresh := by
    intro s hs
    simp only [HostgroupTable.add, List.mem_append, List.mem_singleton] at hs ⊢
    obtain hs | rfl := hs
    · have hlt := ht.fresh s hs
      omega
    · exact Nat.lt_succ_self _
  keys := by
    rw [HostgroupTable.add, List.map_append, List.nodup_append]
    refine ⟨ht.keys, by simp, ?_⟩
    intro p hp q hq heq
    obtain ⟨s, hs, rfl⟩ := List.mem_map.mp hp
    simp only [List.map_cons, List.map_nil, List.mem_singleton] at hq
    rw [hq, Prod.mk.injEq] at heq
    exact hnew s hs heq

theorem holds_add
    {status : ServerStatus} {opts : SrvOpts}
    (hstatus : status ≠ .offlineHard) :
    (t.add hid' addr' status opts).1.Holds hid addr ptr ↔
      t.Holds hid addr ptr ∨ hid = hid' ∧ addr = addr' ∧ ptr = t.nextPtr := by
  simp only [Holds, HostgroupTable.add, List.mem_append, List.mem_singleton, or_and_right,
    exists_or, exists_eq_left, SrvC.live, bne_iff_ne]
  constructor
  · rintro (h | ⟨rfl, rfl, rfl, -⟩)
    · exact .inl h
    · exact .inr ⟨rfl, rfl, rfl⟩
  · rintro (h | ⟨rfl, rfl, rfl⟩)
    · exact .inl h
    · exact .inr ⟨rfl, rfl, rfl, hstatus⟩

theorem TableOk.purge (ht : t.TableOk) : t.purge.TableOk where
  ptrs := ht.ptrs.sublist (List.Sublist.map _ List.filter_sublist)
  fresh := fun s hs => ht.fresh s (List.mem_of_mem_filter hs)
  keys := ht.keys.sublist (List.Sublist.map _ List.filter_sublist)

@[simp]
theorem holds_purge : t.purge.Holds hid addr ptr ↔ t.Holds hid addr ptr := by
  constructor
  · rintro ⟨s, hs, h⟩
    exact ⟨s, List.mem_of_mem_filter hs, h⟩
  · rintro ⟨s, hs, hptr, hhid, haddr, hlive⟩
    exact ⟨s, List.mem_filter.mpr ⟨hs, by simp [hlive]⟩, hptr, hhid, haddr, hlive⟩

/-- A server is put into a hostgroup that does not hold it: an entry that was taken offline
comes back, or a new one is added. -/
theorem insertHgm_spec
    (hid : Nat) (srv : SrvC)
    (ht : t.TableOk)
    (hlive : srv.live = true)
    (hnone : ∀ ptr, ¬ t.Holds hid srv.addr ptr) :
    (t.insertHgm hid srv).1.TableOk ∧
      ∀ hid' addr' ptr', (t.insertHgm hid srv).1.Holds hid' addr' ptr' ↔
        t.Holds hid' addr' ptr' ∨
          hid' = hid ∧ addr' = srv.addr ∧ ptr' = (t.insertHgm hid srv).2 := by
  unfold insertHgm
  cases hfind : t.servers.find? fun s => s.hid == hid && s.addr == srv.addr && !s.live with
  | none =>
      -- no entry of the server at all, neither offline nor counted
      have hnew : ∀ s ∈ t.servers, ¬ (s.hid = hid ∧ s.addr = srv.addr) := by
        rintro s hs ⟨hhid, haddr⟩
        have hno := List.find?_eq_none.mp hfind s hs
        simp only [hhid, haddr, beq_self_eq_true, Bool.true_and, Bool.not_eq_true',
          Bool.not_eq_false] at hno
        exact hnone s.ptr ⟨s, hs, rfl, hhid, haddr, hno⟩
      exact ⟨ht.add hnew, fun _ _ _ => holds_add (by simpa [SrvC.live] using hlive)⟩
  | some old =>
      have hold := List.mem_of_find?_eq_some hfind
      obtain ⟨⟨hhid, haddr⟩, hdead⟩ : (old.hid = hid ∧ old.addr = srv.addr) ∧ old.live = false := by
        simpa using List.find?_some hfind
      have hkeeps : KeepsPlace fun s => SrvC.setStatus { s with opts := srv.opts } .online :=
        fun _ => ⟨rfl, rfl, rfl⟩
      refine ⟨ht.update _ hkeeps, fun hid' addr' ptr' => ?_⟩
      simp only [HostgroupTable.update, holds_map hkeeps.ite]
      constructor
      · rintro ⟨s, hs, rfl, rfl, rfl, hs'⟩
        by_cases hptr : s.ptr = old.ptr
        · rw [ht.eq_of_ptr hs hold hptr]
          exact .inr ⟨hhid, haddr, rfl⟩
        · rw [if_neg hptr] at hs'
          exact .inl ⟨s, hs, rfl, rfl, rfl, hs'⟩
      · rintro (⟨s, hs, rfl, rfl, rfl, hs'⟩ | ⟨rfl, rfl, rfl⟩)
        · refine ⟨s, hs, rfl, rfl, rfl, ?_⟩
          split
          · rfl
          · exact hs'
        · exact ⟨old, hold, rfl, hhid, haddr, by rw [if_pos rfl]; rfl⟩

end HostgroupTable

/-! ## Exact lists of nodes -/

/-- The nodes are those of the pairs whose hostgroup holds the server. -/
structure ExactNodes (t : HostgroupTable) (pairs : List HostgroupPair) (addr : ServerAddr)
    (type : MappingType) (nodes : List MappingNode) : Prop where
  nodup : nodes.Nodup
  mem_iff : ∀ n, n ∈ nodes ↔ n.pair ∈ pairs ∧ t.Holds (n.pair.hostgroupId type) addr n.srv

/-- Each hostgroup has one role in one pair. -/
structure PairsOk (pairs : List HostgroupPair) : Prop where
  inj : ∀ type, ∀ p ∈ pairs, ∀ q ∈ pairs, p.hostgroupId type = q.hostgroupId type → p = q
  roles : ∀ p ∈ pairs, ∀ q ∈ pairs, ∀ {dest src}, dest ≠ src →
    p.hostgroupId dest ≠ q.hostgroupId src

theorem ReplicationHostgroups.pairsOk
    {r : ReplicationHostgroups}
    (hr : r.Unchained) :
    PairsOk r.pairs where
  inj := by
    intro type p hp q hq heq
    obtain ⟨row, hrow, rfl⟩ := List.mem_map.mp hp
    obtain ⟨row', hrow', rfl⟩ := List.mem_map.mp hq
    cases type with
    | writer =>
        rw [List.inj_on_of_nodup_map r.primaryKey hrow hrow' heq]
    | reader =>
        rw [List.inj_on_of_nodup_map r.unique hrow hrow' heq]
  roles := by
    intro p hp q hq dest src hne
    cases dest <;> cases src
    · exact absurd rfl hne
    · exact hr p hp q hq
    · exact (hr q hq p hp).symm
    · exact absurd rfl hne

namespace ExactNodes

variable {t t' : HostgroupTable} {pairs : List HostgroupPair} {addr : ServerAddr}
variable {type : MappingType} {nodes : List MappingNode}

/-- Exactness depends on the relation at the server only. -/
theorem congr
    (h : ExactNodes t pairs addr type nodes)
    (hholds : ∀ hid ptr, t'.Holds hid addr ptr ↔ t.Holds hid addr ptr) :
    ExactNodes t' pairs addr type nodes where
  nodup := h.nodup
  mem_iff := fun n => by rw [h.mem_iff, hholds]

theorem mem_pair
    {n : MappingNode}
    (h : ExactNodes t pairs addr type nodes)
    (hn : n ∈ nodes) :
    n.pair ∈ pairs :=
  ((h.mem_iff n).mp hn).1

theorem holds
    {n : MappingNode}
    (h : ExactNodes t pairs addr type nodes)
    (hn : n ∈ nodes) :
    t.Holds (n.pair.hostgroupId type) addr n.srv :=
  ((h.mem_iff n).mp hn).2

theorem mem_pairs_iff
    {pair : HostgroupPair}
    (h : ExactNodes t pairs addr type nodes)
    (hpair : pair ∈ pairs) :
    pair ∈ nodes.map (·.pair) ↔ ∃ ptr, t.Holds (pair.hostgroupId type) addr ptr := by
  constructor
  · intro hmem
    obtain ⟨n, hn, rfl⟩ := List.mem_map.mp hmem
    exact ⟨n.srv, h.holds hn⟩
  · rintro ⟨ptr, hptr⟩
    exact List.mem_map.mpr ⟨⟨ptr, pair⟩, (h.mem_iff _).mpr ⟨hpair, hptr⟩, rfl⟩

theorem eq_of_pair
    {n k : MappingNode}
    (h : ExactNodes t pairs addr type nodes)
    (ht : t.TableOk)
    (hn : n ∈ nodes)
    (hk : k ∈ nodes)
    (hpair : n.pair = k.pair) :
    n = k := by
  have hsrv : n.srv = k.srv := ht.holds_ptr (h.holds hn) (hpair ▸ h.holds hk)
  cases n
  cases k
  cases hsrv
  cases hpair
  rfl

theorem nodup_pairs
    (h : ExactNodes t pairs addr type nodes)
    (ht : t.TableOk) :
    (nodes.map (·.pair)).Nodup :=
  h.nodup.map_on fun _ hn _ hk heq => h.eq_of_pair ht hn hk heq

theorem snoc
    {pair : HostgroupPair} {ptr : Nat}
    (h : ExactNodes t pairs addr type nodes)
    (hpairs : PairsOk pairs)
    (hpair : pair ∈ pairs)
    (hnew : pair ∉ nodes.map (·.pair))
    (hholds : ∀ hid addr' ptr', t'.Holds hid addr' ptr' ↔
      t.Holds hid addr' ptr' ∨ hid = pair.hostgroupId type ∧ addr' = addr ∧ ptr' = ptr) :
    ExactNodes t' pairs addr type (nodes ++ [⟨ptr, pair⟩]) where
  nodup := by
    rw [List.nodup_append]
    refine ⟨h.nodup, by simp, ?_⟩
    rintro n hn k hk rfl
    rw [List.mem_singleton.mp hk] at hn
    exact hnew (List.mem_map_of_mem (f := (·.pair)) hn)
  mem_iff := by
    intro n
    rw [List.mem_append, List.mem_singleton, h.mem_iff, hholds]
    constructor
    · rintro (⟨hn, hheld⟩ | rfl)
      · exact ⟨hn, .inl hheld⟩
      · exact ⟨hpair, .inr ⟨rfl, rfl, rfl⟩⟩
    · rintro ⟨hn, hheld | ⟨hhid, -, hptr⟩⟩
      · exact .inl ⟨hn, hheld⟩
      · right
        cases n with
        | mk srv pair' =>
            cases hpairs.inj type _ hn _ hpair hhid
            cases hptr
            rfl

end ExactNodes

/-! ## Copying and clearing nodes -/

namespace ServerMapping

open HostgroupTable

variable {t t' : HostgroupTable} {pairs : List HostgroupPair} {addr : ServerAddr}
variable {dest src : MappingType}

theorem copyNode_spec
    {n : MappingNode}
    (nodes : List MappingNode)
    (ht : t.TableOk)
    (hsrc : t.Holds (n.pair.hostgroupId src) addr n.srv)
    (hnone : ∀ ptr, ¬ t.Holds (n.pair.hostgroupId dest) addr ptr) :
    ∃ t' ptr, copyNode dest (t, nodes) n = some (t', nodes ++ [⟨ptr, n.pair⟩]) ∧
      t'.TableOk ∧
      ∀ hid addr' ptr', t'.Holds hid addr' ptr' ↔
        t.Holds hid addr' ptr' ∨
          hid = n.pair.hostgroupId dest ∧ addr' = addr ∧ ptr' = ptr := by
  obtain ⟨srv, hmem, hptr, -, haddr, hlive⟩ := hsrc
  have hholds : ∀ {hid addr' ptr'}, (t.update n.srv SrvC.recover).Holds hid addr' ptr' ↔
      t.Holds hid addr' ptr' :=
    holds_update_of_live keepsPlace_recover fun s _ _ => live_recover s
  have hsame : srv.recover.addr = addr := (keepsPlace_recover srv).2.2.trans haddr
  have hfind : t.server? n.srv = some srv := hptr ▸ ht.server?_of_mem hmem
  obtain ⟨htable, hinsert⟩ := insertHgm_spec (n.pair.hostgroupId dest) srv.recover
    (ht.update n.srv keepsPlace_recover) ((live_recover srv).trans hlive)
    (fun ptr h => hnone ptr (hsame ▸ hholds.mp h))
  refine ⟨((t.update n.srv SrvC.recover).insertHgm (n.pair.hostgroupId dest) srv.recover).1,
    ((t.update n.srv SrvC.recover).insertHgm (n.pair.hostgroupId dest) srv.recover).2,
    ?_, htable, fun hid addr' ptr' => ?_⟩
  · simp only [copyNode, hfind, Option.bind_eq_bind, Option.bind_some]
  · rw [hinsert, hholds, hsame]

/-- The second loop of `copy_if_not_exists`: every node gets its destination node, and the
source nodes stay exact. -/
theorem copyNodes_spec
    {absent sources nodes : List MappingNode}
    (hpairs : PairsOk pairs)
    (hne : dest ≠ src)
    (ht : t.TableOk)
    (hsrc : ExactNodes t pairs addr src sources)
    (hdest : ExactNodes t pairs addr dest nodes)
    (hsub : absent ⊆ sources)
    (hnodup : (absent.map (·.pair)).Nodup)
    (hnew : ∀ n ∈ absent, n.pair ∉ nodes.map (·.pair)) :
    ∃ t' nodes', absent.foldlM (copyNode dest) (t, nodes) = some (t', nodes') ∧
      t'.TableOk ∧
      ExactNodes t' pairs addr src sources ∧
      ExactNodes t' pairs addr dest nodes' ∧
      (∀ addr' ≠ addr, ∀ hid ptr, t'.Holds hid addr' ptr ↔ t.Holds hid addr' ptr) ∧
      nodes'.map (·.pair) = nodes.map (·.pair) ++ absent.map (·.pair) := by
  induction absent generalizing t nodes with
  | nil =>
      exact ⟨t, nodes, rfl, ht, hsrc, hdest, fun _ _ _ _ => Iff.rfl, by simp⟩
  | cons n absent ih =>
      obtain ⟨hn, hsub⟩ := List.cons_subset.mp hsub
      obtain ⟨hfirst, hnodup⟩ := List.nodup_cons.mp hnodup
      have hpair := hsrc.mem_pair hn
      have hnone : ∀ ptr, ¬ t.Holds (n.pair.hostgroupId dest) addr ptr := by
        intro ptr h
        exact hnew n List.mem_cons_self ((hdest.mem_pairs_iff hpair).mpr ⟨ptr, h⟩)
      obtain ⟨t₁, ptr, hcopy, ht₁, hholds⟩ :=
        copyNode_spec nodes ht (hsrc.holds hn) hnone
      -- the new entry is in a hostgroup that is the source of no pair
      have hsrc₁ : ExactNodes t₁ pairs addr src sources := by
        refine ⟨hsrc.nodup, fun k => ?_⟩
        rw [hsrc.mem_iff, hholds]
        refine and_congr_right fun hk => ⟨.inl, ?_⟩
        rintro (h | ⟨hhid, -, -⟩)
        · exact h
        · exact absurd hhid.symm (hpairs.roles _ hpair _ hk hne)
      have hdest₁ := hdest.snoc hpairs hpair (hnew n List.mem_cons_self) hholds
      have hnew₁ : ∀ k ∈ absent,
          k.pair ∉ (nodes ++ [(⟨ptr, n.pair⟩ : MappingNode)]).map (·.pair) := by
        intro k hk hmem
        rw [List.map_append, List.mem_append] at hmem
        obtain hmem | hmem := hmem
        · exact hnew k (List.mem_cons_of_mem n hk) hmem
        · rw [List.map_singleton, List.mem_singleton] at hmem
          exact hfirst (List.mem_map.mpr ⟨k, hk, hmem⟩)
      obtain ⟨t₂, nodes₂, hfold, ht₂, hsrc₂, hdest₂, hother, hmap⟩ :=
        ih ht₁ hsrc₁ hdest₁ hsub hnodup hnew₁
      refine ⟨t₂, nodes₂, ?_, ht₂, hsrc₂, hdest₂, ?_, ?_⟩
      · rw [List.foldlM_cons, hcopy]
        exact hfold
      · intro addr' haddr hid ptr'
        rw [hother addr' haddr, hholds]
        simp [haddr]
      · simp [hmap]

/-- The loop of `clear`: the entries of the nodes are taken offline. -/
theorem removeNodes_spec
    {nodes : List MappingNode}
    (ht : t.TableOk)
    (hheld : ∀ n ∈ nodes, ∃ s ∈ t.servers, s.ptr = n.srv) :
    ∃ t', nodes.foldlM removeNode t = some t' ∧
      t'.TableOk ∧
      ∀ hid addr' ptr, t'.Holds hid addr' ptr ↔
        t.Holds hid addr' ptr ∧ ptr ∉ nodes.map (·.srv) := by
  induction nodes generalizing t with
  | nil =>
      exact ⟨t, rfl, ht, by simp⟩
  | cons n nodes ih =>
      obtain ⟨s, hs, hptr⟩ := hheld n List.mem_cons_self
      have hremove : removeNode t n = some (t.update n.srv SrvC.removeHgm) := by
        simp only [removeNode, ← hptr, ht.server?_of_mem hs, Option.bind_eq_bind, Option.bind_some]
      have hheld₁ : ∀ k ∈ nodes, ∃ s ∈ (t.update n.srv SrvC.removeHgm).servers, s.ptr = k.srv := by
        intro k hk
        obtain ⟨s', hs', hptr'⟩ := hheld k (List.mem_cons_of_mem n hk)
        have hplace := (keepsPlace_removeHgm.ite (p := (·.ptr = n.srv)) s').1
        exact ⟨_, List.mem_map_of_mem hs', hplace.trans hptr'⟩
      obtain ⟨t₂, hfold, ht₂, hholds⟩ := ih (ht.update n.srv keepsPlace_removeHgm) hheld₁
      refine ⟨t₂, ?_, ht₂, fun hid addr' ptr => ?_⟩
      · rw [List.foldlM_cons, hremove]
        exact hfold
      · rw [hholds, holds_removeHgm, List.map_cons, List.mem_cons, not_or, and_assoc]

/-- Nodes of one type were copied to the other type. -/
structure Moved (pairs : List HostgroupPair) (addr : ServerAddr) (dest src : MappingType)
    (t : HostgroupTable) (M : ServerMapping) (t' : HostgroupTable) (M' : ServerMapping) : Prop where
  table : t'.TableOk
  exact : ∀ type, ExactNodes t' pairs addr type (M'.nodes type)
  other : ∀ addr' ≠ addr, ∀ hid ptr, t'.Holds hid addr' ptr ↔ t.Holds hid addr' ptr
  copied : ∀ pair, pair ∈ (M'.nodes dest).map (·.pair) ↔
    pair ∈ (M.nodes dest).map (·.pair) ∨ pair ∈ (M.nodes src).map (·.pair)
  flag : M'.readonlyFlag = M.readonlyFlag

variable {M : ServerMapping}

theorem mem_absentNodes_pair
    {pair : HostgroupPair} :
    pair ∈ (M.nodes dest).map (·.pair) ++ (M.absentNodes dest src).map (·.pair) ↔
      pair ∈ (M.nodes dest).map (·.pair) ∨ pair ∈ (M.nodes src).map (·.pair) := by
  rw [List.mem_append]
  constructor
  · rintro (h | h)
    · exact .inl h
    · exact .inr (List.map_subset _ (List.filter_subset_self _) h)
  · rintro (h | h)
    · exact .inl h
    · by_cases hdest : pair ∈ (M.nodes dest).map (·.pair)
      · exact .inl hdest
      · obtain ⟨n, hn, rfl⟩ := List.mem_map.mp h
        refine .inr (List.mem_map_of_mem (List.mem_filter.mpr ⟨hn, ?_⟩))
        simpa using hdest

/-- `copy_if_not_exists` -/
theorem copyIfNotExists_spec
    (hpairs : PairsOk pairs)
    (hne : dest ≠ src)
    (ht : t.TableOk)
    (hexact : ∀ type, ExactNodes t pairs addr type (M.nodes type)) :
    ∃ t' M', M.copyIfNotExists t dest src = some (t', M') ∧
      Moved pairs addr dest src t M t' M' ∧
      M'.nodes src = M.nodes src := by
  have hsub : M.absentNodes dest src ⊆ M.nodes src := List.filter_subset_self _
  have hnodup : ((M.absentNodes dest src).map (·.pair)).Nodup :=
    ((hexact src).nodup_pairs ht).sublist (List.Sublist.map _ List.filter_sublist)
  have hnew : ∀ n ∈ M.absentNodes dest src, n.pair ∉ (M.nodes dest).map (·.pair) := by
    intro n hn
    simpa using (List.mem_filter.mp hn).2
  obtain ⟨t', nodes, hfold, ht', hsrc, hdest, hother, hmap⟩ :=
    copyNodes_spec hpairs hne ht (hexact src) (hexact dest) hsub hnodup hnew
  have hkeeps : Function.update M.nodes dest nodes src = M.nodes src :=
    Function.update_of_ne hne.symm nodes M.nodes
  refine ⟨t', { M with nodes := Function.update M.nodes dest nodes }, ?_, ?_, hkeeps⟩
  · simp only [copyIfNotExists, hfold, Option.bind_eq_bind, Option.bind_some]
  · refine ⟨ht', fun type => ?_, hother, fun pair => ?_, rfl⟩
    · by_cases htype : type = dest
      · subst htype
        simpa only [Function.update_self] using hdest
      · have hsame : type = src := by
          cases type <;> cases dest <;> cases src <;> simp_all
        subst hsame
        simpa only [hkeeps] using hsrc
    · simp only [Function.update_self, hmap]
      exact mem_absentNodes_pair

/-- `clear` -/
theorem clear_spec
    {type : MappingType}
    (hpairs : PairsOk pairs)
    (ht : t.TableOk)
    (hexact : ∀ type, ExactNodes t pairs addr type (M.nodes type)) :
    ∃ t', M.clear t type = some (t', { M with nodes := Function.update M.nodes type [] }) ∧
      t'.TableOk ∧
      (∀ type', ExactNodes t' pairs addr type' (Function.update M.nodes type [] type')) ∧
      ∀ addr' ≠ addr, ∀ hid ptr, t'.Holds hid addr' ptr ↔ t.Holds hid addr' ptr := by
  have hheld : ∀ n ∈ M.nodes type, ∃ s ∈ t.servers, s.ptr = n.srv := by
    intro n hn
    obtain ⟨s, hs, hptr, -⟩ := (hexact type).holds hn
    exact ⟨s, hs, hptr⟩
  obtain ⟨t', hfold, ht', hholds⟩ := removeNodes_spec ht hheld
  refine ⟨t', ?_, ht', fun type' => ?_, fun addr' haddr hid ptr => ?_⟩
  · simp only [clear, hfold, Option.bind_eq_bind, Option.bind_some]
  · by_cases htype : type' = type
    · subst htype
      simp only [Function.update_self]
      refine ⟨List.nodup_nil, fun n => ?_⟩
      simp only [List.not_mem_nil, hholds, false_iff, not_and, not_not]
      intro hn hheld
      exact List.mem_map_of_mem (((hexact type').mem_iff n).mpr ⟨hn, hheld⟩)
    · rw [Function.update_of_ne htype]
      refine ⟨(hexact type').nodup, fun n => ?_⟩
      rw [(hexact type').mem_iff, hholds]
      refine and_congr_right fun hn => ⟨fun h => ⟨h, fun hmem => ?_⟩, And.left⟩
      -- the entry of a cleared node is in a hostgroup of the other role
      obtain ⟨k, hk, hsrv⟩ := List.mem_map.mp hmem
      have hplace := ht.holds_place h (hsrv ▸ (hexact type).holds hk)
      exact hpairs.roles _ hn _ ((hexact type).mem_pair hk) htype hplace.1
  · rw [hholds]
    refine ⟨And.left, fun h => ⟨h, fun hmem => ?_⟩⟩
    obtain ⟨k, hk, hsrv⟩ := List.mem_map.mp hmem
    exact haddr (ht.holds_place h (hsrv ▸ (hexact type).holds hk)).2

theorem Moved.clear
    {t₁ : HostgroupTable} {M₁ : ServerMapping}
    (hpairs : PairsOk pairs)
    (hne : dest ≠ src)
    (h : Moved pairs addr dest src t M t₁ M₁) :
    ∃ t' M', M₁.clear t₁ src = some (t', M') ∧
      Moved pairs addr dest src t M t' M' ∧
      M'.nodes src = [] := by
  obtain ⟨t', hclear, ht', hexact, hother⟩ := clear_spec hpairs h.table h.exact
  refine ⟨t', _, hclear, ⟨ht', hexact, ?_, ?_, h.flag⟩, Function.update_self src [] M₁.nodes⟩
  · intro addr' haddr hid ptr
    rw [hother addr' haddr, h.other addr' haddr]
  · intro pair
    simp only [Function.update_of_ne hne]
    exact h.copied pair

/-- The server becomes a writer of all its pairs. -/
theorem promote_spec
    (hpairs : PairsOk pairs)
    (writerIsAlsoReader : Bool)
    (ht : t.TableOk)
    (hexact : ∀ type, ExactNodes t pairs addr type (M.nodes type)) :
    ∃ t' M', M.promote t writerIsAlsoReader = some (t', M') ∧
      Moved pairs addr .writer .reader t M t' M' ∧
      (M'.nodes .reader ⊆ M.nodes .reader) := by
  have hne : MappingType.writer ≠ .reader := by decide
  obtain ⟨t₁, M₁, hcopy, hmoved, hreaders⟩ := copyIfNotExists_spec hpairs hne ht hexact
  cases writerIsAlsoReader with
  | true =>
      refine ⟨t₁, M₁, ?_, hmoved, fun n hn => hreaders ▸ hn⟩
      simp only [promote, hcopy, Option.bind_eq_bind, Option.bind_some, if_true]
  | false =>
      obtain ⟨t₂, M₂, hclear, hmoved₂, hnil⟩ := hmoved.clear hpairs hne
      refine ⟨t₂, M₂, ?_, hmoved₂, by simp [hnil]⟩
      simp only [promote, hcopy, Option.bind_eq_bind, Option.bind_some, Bool.false_eq_true,
        if_false]
      exact hclear

/-- The server becomes a reader of all its pairs, and the writer of none. -/
theorem demote_spec
    (hpairs : PairsOk pairs)
    (ht : t.TableOk)
    (hexact : ∀ type, ExactNodes t pairs addr type (M.nodes type)) :
    ∃ t' M', M.demote t = some (t', M') ∧
      Moved pairs addr .reader .writer t M t' M' ∧
      M'.nodes .writer = [] := by
  have hne : MappingType.reader ≠ .writer := by decide
  obtain ⟨t₁, M₁, hcopy, hmoved, -⟩ := copyIfNotExists_spec hpairs hne ht hexact
  obtain ⟨t₂, M₂, hclear, hmoved₂, hnil⟩ := hmoved.clear hpairs hne
  refine ⟨t₂, M₂, ?_, hmoved₂, hnil⟩
  simp only [demote, hcopy, Option.bind_eq_bind, Option.bind_some]
  exact hclear

end ServerMapping

end PolarProxy
