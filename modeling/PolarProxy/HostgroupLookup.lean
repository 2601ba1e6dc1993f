import PolarProxy.ReadOnlyAction
import Mathlib.Data.List.Basic

/-!
# Servers found by hostgroup

The manager keeps its hostgroups in one array.  `find_server_in_hg` walks it with a variable that stays
live: where no hostgroup has the wanted id, the variable is left at the last one.

A pointer to a server is its place, the position of its hostgroup and its position in that hostgroup.
The published server list, which is rebuilt from the array, is left to `Snapshots`.

**Results.** `findServerInHg_of_mem`, `findServerInHg_of_absent`, `hostgroupLocality_iff`.
-/

namespace PolarProxy

/-- `servers_defaults` of a hostgroup, `-1` where it is not set -/
structure ServersDefaults where
  weight : Int := -1
  maxConnections : Int := -1
  useSsl : Int := -1
  deriving DecidableEq

/-- What the operations on single servers read and write of `PgSQL_SrvC`. -/
structure HostgroupServer where
  /-- The address of the object, which `mem_pointer` stores. -/
  ptr : Nat
  addr : ServerAddr
  status : ServerStatus := .online
  weight : Int
  maxConnections : Int
  useSsl : Int
  connectionsFree : Nat := 0
  deriving DecidableEq

/-- `PgSQL_HGC` -/
structure HostgroupContainer where
  hid : Nat
  serversDefaults : ServersDefaults := {}
  servers : List HostgroupServer := []
  deriving DecidableEq

/-- `MyHostGroups`, and the column `mem_pointer` of `pgsql_servers` -/
structure HostgroupArray where
  hostgroups : List HostgroupContainer := []
  memPointers : List Nat := []
  deriving DecidableEq

structure ServerPlace where
  hostgroup : Nat
  position : Nat
  deriving DecidableEq

namespace HostgroupServer

/-- `reset_hg_attrs_server_defaults` -/
def resetDefaults (srv : HostgroupServer) : HostgroupServer :=
  { srv with weight := -1, maxConnections := -1, useSsl := -1 }

/-- `update_hg_attrs_server_defaults` -/
def updateDefaults (srv : HostgroupServer) (defaults : ServersDefaults) : HostgroupServer :=
  { srv with
    weight :=
      if srv.weight = -1 then (if defaults.weight ≠ -1 then defaults.weight else 1) else srv.weight
    maxConnections :=
      if srv.maxConnections = -1 then
        (if defaults.maxConnections ≠ -1 then defaults.maxConnections else 1000)
      else srv.maxConnections
    useSsl :=
      if srv.useSsl = -1 then (if defaults.useSsl ≠ -1 then defaults.useSsl else 0) else srv.useSsl }

/-- `set_status` -/
def setStatus (srv : HostgroupServer) (status : ServerStatus) : HostgroupServer :=
  { srv with
    status := status
    connectionsFree := if status = .offlineHard then 0 else srv.connectionsFree }

/-- `set_status` to `OFFLINE_HARD`, then `drop_all_connections` on FREE -/
def takeOffline (srv : HostgroupServer) : HostgroupServer :=
  { srv.setStatus .offlineHard with connectionsFree := 0 }

end HostgroupServer

namespace HostgroupArray

variable {m : HostgroupArray} {hid : Nat} {addr : ServerAddr}

/-- The loop over the hostgroups of `find_server_in_hg`: it stops at the hostgroup, or is left with the
last one. -/
def walk (hid : Nat) : List HostgroupContainer → Nat → Option Nat → Option Nat
  | [], _, myhgc => myhgc
  | g :: rest, i, _ => if g.hid = hid then some i else walk hid rest (i + 1) (some i)

/-- The loop over the servers, which keeps the last match -/
def lastMatch (addr : ServerAddr) : List HostgroupServer → Nat → Option Nat → Option Nat
  | [], _, found => found
  | srv :: rest, j, found =>
      lastMatch addr rest (j + 1) (if srv.addr = addr then some j else found)

/-- `find_server_in_hg` -/
def findServerInHg (m : HostgroupArray) (hid : Nat) (addr : ServerAddr) : Option ServerPlace :=
  match walk hid m.hostgroups 0 none with
  | none => none
  | some i =>
      match m.hostgroups[i]? with
      | none => none
      | some g => (lastMatch addr g.servers 0 none).map fun j => ⟨i, j⟩

def server? (m : HostgroupArray) (place : ServerPlace) : Option HostgroupServer :=
  m.hostgroups[place.hostgroup]?.bind fun g => g.servers[place.position]?

/-- Change the server at a place; `f` is given the defaults of its hostgroup. -/
def modifyServer (m : HostgroupArray) (place : ServerPlace)
    (f : ServersDefaults → HostgroupServer → HostgroupServer) : HostgroupArray :=
  { m with
    hostgroups := m.hostgroups.modify place.hostgroup fun g =>
      { g with servers := g.servers.modify place.position (f g.serversDefaults) } }

/-- `MyHGC_lookup` makes the hostgroup where there is none. -/
def lookupHostgroup (m : HostgroupArray) (hid : Nat) : HostgroupArray :=
  if m.hostgroups.any fun g => g.hid == hid then m
  else { m with hostgroups := m.hostgroups ++ [{ hid := hid }] }

/-- `add`: to the first hostgroup with the id -/
def addServer (m : HostgroupArray) (hid : Nat) (srv : HostgroupServer) : HostgroupArray :=
  let m := m.lookupHostgroup hid
  { m with
    hostgroups := m.hostgroups.modify (m.hostgroups.findIdx fun g => g.hid == hid) fun g =>
      { g with servers := g.servers ++ [srv.updateDefaults g.serversDefaults] } }

/-- `create_new_server_in_hg`, with the address that `new` gives the object -/
def createNewServerInHg (m : HostgroupArray) (hid : Nat) (addr : ServerAddr)
    (weight maxConnections useSsl : Int) (fresh : Nat) : Int × HostgroupArray :=
  match m.findServerInHg hid addr with
  | none =>
      (0, m.addServer hid
        { ptr := fresh, addr, weight, maxConnections, useSsl })
  | some place =>
      match m.server? place with
      | none => (-1, m)
      | some srv =>
          if srv.status = .offlineHard then
            (0, m.modifyServer place fun defaults srv =>
              (srv.resetDefaults.updateDefaults defaults).setStatus .online)
          else (-1, m)

/-- `remove_server_in_hg` -/
def removeServerInHg (m : HostgroupArray) (hid : Nat) (addr : ServerAddr) : Int × HostgroupArray :=
  match m.findServerInHg hid addr with
  | none => (-1, m)
  | some place =>
      match m.server? place with
      | none => (-1, m)
      | some srv =>
          (0, { m.modifyServer place fun _ => HostgroupServer.takeOffline with
            memPointers := m.memPointers.filter (· ≠ srv.ptr) })

/-! ## Other hostgroups -/

/-- The hostgroups with another id -/
def others (m : HostgroupArray) (hid : Nat) : List HostgroupContainer :=
  m.hostgroups.filter (·.hid ≠ hid)

/-- The address of a server of the hostgroup -/
def Owns (m : HostgroupArray) (hid ptr : Nat) : Prop :=
  ∃ g ∈ m.hostgroups, g.hid = hid ∧ ∃ srv ∈ g.servers, srv.ptr = ptr

/-- Other hostgroups with their servers are as before, and of the rows of `pgsql_servers` only those of
servers of the hostgroup are gone. -/
structure OnlyChanges (hid : Nat) (m m' : HostgroupArray) : Prop where
  others : m'.others hid = m.others hid
  rows : ∀ ptr ∈ m.memPointers, ptr ∈ m'.memPointers ∨ m.Owns hid ptr

/-- A search for a server of a hostgroup finds it there or not at all, and the operations that go
through the search leave the servers of other hostgroups alone. -/
structure HostgroupLocality (m : HostgroupArray) (hid : Nat) (addr : ServerAddr) : Prop where
  found : ∀ place, m.findServerInHg hid addr = some place →
    ∃ g, m.hostgroups[place.hostgroup]? = some g ∧ g.hid = hid ∧
      ∃ srv, g.servers[place.position]? = some srv ∧ srv.addr = addr
  absent : (∀ g ∈ m.hostgroups, g.hid ≠ hid) → m.findServerInHg hid addr = none
  create : ∀ weight maxConnections useSsl fresh,
    OnlyChanges hid m (m.createNewServerInHg hid addr weight maxConnections useSsl fresh).2
  remove : OnlyChanges hid m (m.removeServerInHg hid addr).2

/-- The hostgroup exists, or the last one has no server at the address. -/
def SearchStays (m : HostgroupArray) (hid : Nat) (addr : ServerAddr) : Prop :=
  (∃ g ∈ m.hostgroups, g.hid = hid) ∨
    ∀ g, m.hostgroups.getLast? = some g → ∀ srv ∈ g.servers, srv.addr ≠ addr

/-! ## The search -/

theorem walk_of_mem
    {l : List HostgroupContainer} {i : Nat} {myhgc : Option Nat}
    (h : ∃ g ∈ l, g.hid = hid) :
    ∃ k g, walk hid l i myhgc = some (i + k) ∧ l[k]? = some g ∧ g.hid = hid := by
  induction l generalizing i myhgc with
  | nil =>
      obtain ⟨g, hg, -⟩ := h
      cases hg
  | cons a rest ih =>
      rw [walk]
      split
      · rename_i heq
        exact ⟨0, a, rfl, rfl, heq⟩
      · rename_i hne
        obtain ⟨g, hg, hhid⟩ := h
        rcases List.mem_cons.mp hg with rfl | hin
        · exact absurd hhid hne
        · obtain ⟨k, g', hwalk, hget, hhid'⟩ := ih (i := i + 1) ⟨g, hin, hhid⟩
          exact ⟨k + 1, g', by rw [hwalk, Nat.add_right_comm, Nat.add_assoc], hget, hhid'⟩

theorem walk_of_absent
    {l : List HostgroupContainer} {i : Nat} {myhgc : Option Nat}
    (h : ∀ g ∈ l, g.hid ≠ hid) :
    walk hid l i myhgc = if l = [] then myhgc else some (i + (l.length - 1)) := by
  induction l generalizing i myhgc with
  | nil =>
      rfl
  | cons a rest ih =>
      rw [walk, if_neg (h a List.mem_cons_self), ih fun g hg => h g (List.mem_cons_of_mem _ hg),
        if_neg (List.cons_ne_nil _ _)]
      cases rest with
      | nil =>
          rfl
      | cons b rest =>
          rw [if_neg (List.cons_ne_nil _ _)]
          congr 1
          simp only [List.length_cons]
          omega

theorem lastMatch_spec
    {l : List HostgroupServer} {j : Nat} {found : Option Nat} :
    (lastMatch addr l j found = found ∧ ∀ srv ∈ l, srv.addr ≠ addr) ∨
      ∃ k srv, lastMatch addr l j found = some (j + k) ∧ l[k]? = some srv ∧ srv.addr = addr := by
  induction l generalizing j found with
  | nil =>
      exact Or.inl ⟨rfl, fun _ hsrv => absurd hsrv List.not_mem_nil⟩
  | cons a rest ih =>
      rw [lastMatch]
      rcases ih (j := j + 1) with
        ⟨hrest, hnone⟩ | ⟨k, srv, hrest, hget, haddr⟩
      · by_cases heq : a.addr = addr
        · exact Or.inr ⟨0, a, by rw [hrest, if_pos heq]; rfl, rfl, heq⟩
        · refine Or.inl ⟨by rw [hrest, if_neg heq], fun srv hsrv => ?_⟩
          rcases List.mem_cons.mp hsrv with rfl | hin
          · exact heq
          · exact hnone srv hin
      · exact Or.inr ⟨k + 1, srv, by rw [hrest, Nat.add_right_comm, Nat.add_assoc], hget, haddr⟩

/-- In a hostgroup that exists the search finds servers of that hostgroup only. -/
theorem findServerInHg_of_mem
    {place : ServerPlace}
    (hmem : ∃ g ∈ m.hostgroups, g.hid = hid)
    (h : m.findServerInHg hid addr = some place) :
    ∃ g, m.hostgroups[place.hostgroup]? = some g ∧ g.hid = hid ∧
      ∃ srv, g.servers[place.position]? = some srv ∧ srv.addr = addr := by
  obtain ⟨k, g, hwalk, hget, hhid⟩ := walk_of_mem (i := 0) hmem
  rw [Nat.zero_add] at hwalk
  rw [findServerInHg, hwalk] at h
  simp only [hget] at h
  obtain ⟨j, hmatch, rfl⟩ := Option.map_eq_some_iff.mp h
  rcases lastMatch_spec (l := g.servers) (j := 0) with
    ⟨hnone, -⟩ | ⟨k', srv, hsome, hsrv, haddr⟩
  · rw [hnone] at hmatch
    cases hmatch
  · rw [Nat.zero_add] at hsome
    obtain rfl := Option.some.inj (hsome.symm.trans hmatch)
    exact ⟨g, hget, hhid, srv, hsrv, haddr⟩

/-- Without the hostgroup the search goes on in the last one. -/
theorem findServerInHg_of_absent
    (habsent : ∀ g ∈ m.hostgroups, g.hid ≠ hid) :
    m.findServerInHg hid addr = none ↔
      ∀ g, m.hostgroups.getLast? = some g → ∀ srv ∈ g.servers, srv.addr ≠ addr := by
  rw [findServerInHg, walk_of_absent habsent]
  by_cases hnil : m.hostgroups = []
  · rw [if_pos hnil, hnil]
    simp
  · rw [if_neg hnil, Nat.zero_add]
    dsimp only
    rw [← List.getLast?_eq_getElem?]
    obtain ⟨g, hg⟩ := Option.isSome_iff_exists.mp (List.getLast?_isSome.mpr hnil)
    rw [hg]
    dsimp only
    rw [Option.map_eq_none_iff]
    constructor
    · intro hmatch g' hg' srv hsrv
      obtain rfl := Option.some.inj hg'
      rcases lastMatch_spec (l := g.servers) (j := 0) with
        ⟨-, hnone⟩ | ⟨k, srv', hsome, -, -⟩
      · exact hnone srv hsrv
      · rw [hsome] at hmatch
        cases hmatch
    · intro hnone
      rcases lastMatch_spec (l := g.servers) (j := 0) with
        ⟨hmatch, -⟩ | ⟨k, srv, -, hget, haddr⟩
      · exact hmatch
      · exact absurd haddr (hnone g rfl srv (List.mem_of_getElem? hget))

/-! ## What the operations change -/

theorem others_modify
    {l : List HostgroupContainer} {i : Nat} {f : HostgroupContainer → HostgroupContainer}
    (hf : ∀ g, (f g).hid = g.hid)
    (hi : ∀ g, l[i]? = some g → g.hid = hid) :
    (l.modify i f).filter (·.hid ≠ hid) = l.filter (·.hid ≠ hid) := by
  induction l generalizing i with
  | nil =>
      cases i <;> rfl
  | cons a rest ih =>
      cases i with
      | zero =>
          have ha : a.hid = hid := hi a rfl
          rw [List.modify_zero_cons, List.filter_cons_of_neg, List.filter_cons_of_neg]
          · simpa using ha
          · simpa [hf] using ha
      | succ i =>
          rw [List.modify_succ_cons, List.filter_cons, List.filter_cons, ih hi]

theorem OnlyChanges.refl (m : HostgroupArray) : OnlyChanges hid m m :=
  ⟨rfl, fun _ hptr => Or.inl hptr⟩

theorem others_modifyServer
    {place : ServerPlace} {f : ServersDefaults → HostgroupServer → HostgroupServer}
    (h : ∀ g, m.hostgroups[place.hostgroup]? = some g → g.hid = hid) :
    (m.modifyServer place f).others hid = m.others hid :=
  others_modify (fun _ => rfl) h

theorem others_addServer
    (m : HostgroupArray) (hid : Nat) (srv : HostgroupServer) :
    (m.addServer hid srv).others hid = m.others hid := by
  have hlookup : (m.lookupHostgroup hid).others hid = m.others hid := by
    unfold lookupHostgroup
    split
    · rfl
    · simp [others]
  rw [← hlookup]
  refine others_modify (fun _ => rfl) fun g hg => ?_
  obtain ⟨hlt, rfl⟩ := List.getElem?_eq_some_iff.mp hg
  exact beq_iff_eq.mp (List.findIdx_getElem (w := hlt))

theorem create_onlyChanges
    (hfound : ∀ place, m.findServerInHg hid addr = some place →
      ∃ g, m.hostgroups[place.hostgroup]? = some g ∧ g.hid = hid)
    (weight maxConnections useSsl : Int) (fresh : Nat) :
    OnlyChanges hid m (m.createNewServerInHg hid addr weight maxConnections useSsl fresh).2 := by
  rw [createNewServerInHg]
  split
  · exact ⟨others_addServer m hid _, fun ptr hptr => Or.inl (by
      have hrows : (m.lookupHostgroup hid).memPointers = m.memPointers := by
        unfold lookupHostgroup
        split <;> rfl
      rwa [← hrows] at hptr)⟩
  · rename_i place hplace
    split
    · exact .refl m
    · split
      · refine ⟨others_modifyServer fun g hg => ?_, fun ptr hptr => Or.inl hptr⟩
        obtain ⟨g', hg', hhid⟩ := hfound place hplace
        obtain rfl := Option.some.inj (hg.symm.trans hg')
        exact hhid
      · exact .refl m

theorem remove_onlyChanges
    (hfound : ∀ place, m.findServerInHg hid addr = some place →
      ∃ g, m.hostgroups[place.hostgroup]? = some g ∧ g.hid = hid) :
    OnlyChanges hid m (m.removeServerInHg hid addr).2 := by
  rw [removeServerInHg]
  split
  · exact .refl m
  · rename_i place hplace
    split
    · exact .refl m
    · rename_i srv hsrv
      obtain ⟨g, hg, hhid⟩ := hfound place hplace
      have hother : ∀ g', m.hostgroups[place.hostgroup]? = some g' → g'.hid = hid := by
        intro g' hg'
        obtain rfl := Option.some.inj (hg.symm.trans hg')
        exact hhid
      refine ⟨?_, fun ptr hptr => ?_⟩
      · exact others_modifyServer (f := fun _ => HostgroupServer.takeOffline) hother
      · by_cases heq : ptr = srv.ptr
        · rw [server?, hg] at hsrv
          exact Or.inr ⟨g, List.mem_of_getElem? hg, hhid, srv, List.mem_of_getElem? hsrv, heq.symm⟩
        · exact Or.inl (List.mem_filter.mpr ⟨hptr, decide_eq_true heq⟩)

/-- The operations keep to their hostgroup if and only if it exists, or the last hostgroup of the array
has no server at the address. -/
theorem hostgroupLocality_iff
    (m : HostgroupArray) (hid : Nat) (addr : ServerAddr) :
    HostgroupLocality m hid addr ↔ SearchStays m hid addr := by
  constructor
  · intro h
    by_cases hmem : ∃ g ∈ m.hostgroups, g.hid = hid
    · exact Or.inl hmem
    · have habsent : ∀ g ∈ m.hostgroups, g.hid ≠ hid := fun g hg hhid => hmem ⟨g, hg, hhid⟩
      exact Or.inr ((findServerInHg_of_absent habsent).mp (h.absent habsent))
  · intro h
    have hfound : ∀ place, m.findServerInHg hid addr = some place →
        ∃ g, m.hostgroups[place.hostgroup]? = some g ∧ g.hid = hid ∧
          ∃ srv, g.servers[place.position]? = some srv ∧ srv.addr = addr := by
      intro place hplace
      by_cases hmem : ∃ g ∈ m.hostgroups, g.hid = hid
      · exact findServerInHg_of_mem hmem hplace
      · have habsent : ∀ g ∈ m.hostgroups, g.hid ≠ hid := fun g hg hhid => hmem ⟨g, hg, hhid⟩
        rw [(findServerInHg_of_absent habsent).mpr (h.resolve_left hmem)] at hplace
        cases hplace
    have hgroup : ∀ place, m.findServerInHg hid addr = some place →
        ∃ g, m.hostgroups[place.hostgroup]? = some g ∧ g.hid = hid := by
      intro place hplace
      obtain ⟨g, hg, hhid, -⟩ := hfound place hplace
      exact ⟨g, hg, hhid⟩
    refine ⟨hfound, fun habsent => ?_, create_onlyChanges hgroup, remove_onlyChanges hgroup⟩
    refine (findServerInHg_of_absent habsent).mpr (h.resolve_left ?_)
    rintro ⟨g, hg, hhid⟩
    exact habsent g hg hhid

/-- One hostgroup, 10, with one server.  Removing that server from hostgroup 20, which does not exist,
takes it offline in hostgroup 10. -/
theorem removeServerInHg_otherHostgroup :
    ¬ HostgroupLocality
      { hostgroups := [{ hid := 10, servers := [⟨1, ⟨"db1", 5432⟩, .online, 1, 100, 0, 0⟩] }]
        memPointers := [1] } 20 ⟨"db1", 5432⟩ := by
  intro h
  have hother := h.remove.others
  revert hother
  decide

end HostgroupArray

end PolarProxy
