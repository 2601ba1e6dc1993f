import PolarProxy.MappingNodes

/-!
# The mappings describe the hostgroups

Between two operations of the manager the mapping of every server is exact, and the checksums
are those of the servers that the hostgroups hold, so that a commit which does not build the
mappings again has changed neither.  Inside a call of `read_only_action_v2` only the first part
holds; the checksum follows at its end.

A hostgroup may be in no pair; the mapping says nothing about it.

**Results.** `MappingsOk.reportServer`, `ManagerOk.readOnlyActionV2`, `ManagerOk.commit`,
`read_only_mapping`.
-/

namespace PolarProxy

/-! ## The mappings of all servers -/

namespace HostgroupsManager

open HostgroupTable ServerMapping

variable {m m' : HostgroupsManager} {addr : ServerAddr} {M : ServerMapping}

def nodes (m : HostgroupsManager) (addr : ServerAddr) (type : MappingType) : List MappingNode :=
  ((m.mapping addr).map (·.nodes type)).getD []

/-- A hostgroup of the pair holds the server. -/
def Belongs (m : HostgroupsManager) (addr : ServerAddr) (pair : HostgroupPair) : Prop :=
  ∃ type ptr, m.table.Holds (pair.hostgroupId type) addr ptr

/-- The mappings describe the table. -/
structure MappingsOk (m : HostgroupsManager) : Prop where
  unchained : m.replication.Unchained
  table : m.table.TableOk
  exact : ∀ addr type, ExactNodes m.table m.replication.pairs addr type (m.nodes addr type)
  nonempty : ∀ addr M, m.mapping addr = some M → ∃ type, M.nodes type ≠ []
  flag : ∀ addr M, m.mapping addr = some M → M.readonlyFlag = 0 →
    M.nodes .writer = [] ∨ M.missesWriter = false

theorem nodes_of_mapping
    (hM : m.mapping addr = some M)
    (type : MappingType) :
    m.nodes addr type = M.nodes type := by
  simp [nodes, hM]

theorem MappingsOk.exact_of_mapping
    (h : m.MappingsOk)
    (hM : m.mapping addr = some M)
    (type : MappingType) :
    ExactNodes m.table m.replication.pairs addr type (M.nodes type) :=
  nodes_of_mapping hM type ▸ h.exact addr type

variable {t : HostgroupTable}

theorem MappingsOk.missesWriter_eq_false_iff
    {pairs : List HostgroupPair}
    (hpairs : PairsOk pairs)
    (hexact : ∀ type, ExactNodes t pairs addr type (M.nodes type)) :
    M.missesWriter = false ↔
      ∀ pair, pair ∈ (M.nodes .reader).map (·.pair) → pair ∈ (M.nodes .writer).map (·.pair) := by
  have hfalse : M.missesWriter = false ↔ ∀ r ∈ M.nodes .reader, ∃ w ∈ M.nodes .writer,
      r.pair.writerHostgroupId = w.pair.writerHostgroupId := by
    simp [missesWriter]
  rw [hfalse]
  constructor
  · intro h pair hpair
    obtain ⟨r, hr, rfl⟩ := List.mem_map.mp hpair
    obtain ⟨w, hw, heq⟩ := h r hr
    have hsame := hpairs.inj .writer _ ((hexact _).mem_pair hr) _ ((hexact _).mem_pair hw) heq
    exact List.mem_map.mpr ⟨w, hw, hsame.symm⟩
  · intro h r hr
    obtain ⟨w, hw, hsame⟩ := List.mem_map.mp (h r.pair (List.mem_map_of_mem hr))
    exact ⟨w, hw, by rw [hsame]⟩

variable {pair : HostgroupPair}

theorem MappingsOk.belongs_iff
    (h : m.MappingsOk)
    (hpair : pair ∈ m.replication.pairs) :
    m.Belongs addr pair ↔ ∃ type, pair ∈ (m.nodes addr type).map (·.pair) :=
  exists_congr fun type => ((h.exact addr type).mem_pairs_iff hpair).symm

variable {M' : ServerMapping}

/-- The table and the mapping of one server change together. -/
theorem MappingsOk.store
    (h : m.MappingsOk)
    (ht : t.TableOk)
    (hexact : ∀ type, ExactNodes t m.replication.pairs addr type (M'.nodes type))
    (hother : ∀ addr' ≠ addr, ∀ hid ptr, t.Holds hid addr' ptr ↔ m.table.Holds hid addr' ptr)
    (hnonempty : ∃ type, M'.nodes type ≠ [])
    (hflag : M'.readonlyFlag = 0 → M'.nodes .writer = [] ∨ M'.missesWriter = false) :
    (m.store addr (t, M')).MappingsOk where
  unchained := h.unchained
  table := ht
  exact := by
    intro addr' type
    by_cases haddr : addr' = addr
    · subst haddr
      simpa [nodes, HostgroupsManager.store] using hexact type
    · have hsame : (m.store addr (t, M')).nodes addr' type = m.nodes addr' type := by
        simp [nodes, HostgroupsManager.store, Function.update_of_ne haddr]
      rw [hsame]
      exact (h.exact addr' type).congr (hother addr' haddr)
  nonempty := by
    intro addr' M₁ hM₁
    by_cases haddr : addr' = addr
    · subst haddr
      simp only [HostgroupsManager.store, Function.update_self, Option.some.injEq] at hM₁
      exact hM₁ ▸ hnonempty
    · simp only [HostgroupsManager.store, Function.update_of_ne haddr] at hM₁
      exact h.nonempty addr' M₁ hM₁
  flag := by
    intro addr' M₁ hM₁
    by_cases haddr : addr' = addr
    · subst haddr
      simp only [HostgroupsManager.store, Function.update_self, Option.some.injEq] at hM₁
      exact hM₁ ▸ hflag
    · simp only [HostgroupsManager.store, Function.update_of_ne haddr] at hM₁
      exact h.flag addr' M₁ hM₁

/-- The mapping of the reported server agrees with the report. -/
def Settled (m : HostgroupsManager) (report : ReadOnlyReport) : Prop :=
  ∀ M, m.mapping report.addr = some M →
    (report.readOnly = 0 → M.nodes .writer ≠ [] ∧ M.missesWriter = false) ∧
    (report.readOnly = 1 → M.nodes .writer = [])

/-- What the reports of some servers leave as it was. -/
structure Frame (m m' : HostgroupsManager) : Prop where
  ok : m'.MappingsOk
  replication : m'.replication = m.replication
  servers : m'.hgsmServersChecksum = m.hgsmServersChecksum
  rows : m'.hgsmReplicationChecksum = m.hgsmReplicationChecksum
  belongs : ∀ addr, ∀ pair ∈ m.replication.pairs, m'.Belongs addr pair ↔ m.Belongs addr pair

theorem Frame.trans
    {m₁ : HostgroupsManager}
    (h : Frame m m₁)
    (h' : Frame m₁ m') :
    Frame m m' where
  ok := h'.ok
  replication := h'.replication.trans h.replication
  servers := h'.servers.trans h.servers
  rows := h'.rows.trans h.rows
  belongs := by
    intro addr pair hpair
    rw [h'.belongs addr pair (h.replication ▸ hpair), h.belongs addr pair hpair]

/-- Copying the nodes of a server keeps the pairs that it belongs to. -/
theorem MappingsOk.moved
    {dest src : MappingType}
    (h : m.MappingsOk)
    (hM : m.mapping addr = some M)
    (hmoved : Moved m.replication.pairs addr dest src m.table M t M')
    (hne : dest ≠ src)
    (hsrc : M'.nodes src ⊆ M.nodes src ∨ M'.nodes src = [])
    (hflag : M'.readonlyFlag = 0 → M'.nodes .writer = [] ∨ M'.missesWriter = false) :
    Frame m (m.store addr (t, M')) ∧ M'.nodes dest ≠ [] := by
  have htypes : ∀ type, type = dest ∨ type = src := by
    intro type
    cases type <;> cases dest <;> cases src <;> simp_all
  have hdest : M'.nodes dest ≠ [] := by
    obtain ⟨type, htype⟩ := h.nonempty addr M hM
    obtain ⟨n, hn⟩ := List.exists_mem_of_ne_nil _ htype
    have hpair : n.pair ∈ (M'.nodes dest).map (·.pair) := by
      rw [hmoved.copied]
      obtain rfl | rfl := htypes type
      · exact .inl (List.mem_map_of_mem hn)
      · exact .inr (List.mem_map_of_mem hn)
    intro hnil
    simp [hnil] at hpair
  have hok : (m.store addr (t, M')).MappingsOk :=
    h.store hmoved.table hmoved.exact hmoved.other ⟨dest, hdest⟩ hflag
  refine ⟨⟨hok, rfl, rfl, rfl, fun addr' pair hpair => ?_⟩, hdest⟩
  by_cases haddr : addr' = addr
  · subst haddr
    have hnodes : ∀ type, (m.store addr' (t, M')).nodes addr' type = M'.nodes type := by
      simp [nodes, HostgroupsManager.store]
    rw [hok.belongs_iff hpair, h.belongs_iff hpair]
    simp only [hnodes, nodes_of_mapping hM]
    have hsub : pair ∈ (M'.nodes src).map (·.pair) → pair ∈ (M.nodes src).map (·.pair) := by
      obtain hsub | hnil := hsrc
      · exact fun hmem => List.map_subset _ hsub hmem
      · simp [hnil]
    constructor
    · rintro ⟨type, hmem⟩
      obtain rfl | rfl := htypes type
      · exact ((hmoved.copied pair).mp hmem).elim (fun h => ⟨_, h⟩) fun h => ⟨_, h⟩
      · exact ⟨_, hsub hmem⟩
    · rintro ⟨type, hmem⟩
      refine ⟨dest, (hmoved.copied pair).mpr ?_⟩
      obtain rfl | rfl := htypes type
      · exact .inl hmem
      · exact .inr hmem
  · exact exists_congr fun type => exists_congr fun ptr => hmoved.other addr' haddr _ _

/-! ## Reports -/

/-- One report, and whether the table is regenerated for it. -/
structure Reported (report : ReadOnlyReport) (m : HostgroupsManager) (changed : Bool)
    (m' : HostgroupsManager) (changed' : Bool) : Prop where
  frame : Frame m m'
  other : ∀ addr ≠ report.addr, m'.mapping addr = m.mapping addr
  settled : m'.Settled report
  unchanged : changed' = true ∨ changed' = changed ∧ m'.table = m.table

theorem MappingsOk.frame_self (h : m.MappingsOk) : Frame m m :=
  ⟨h, rfl, rfl, rfl, fun _ _ _ => Iff.rfl⟩

variable {report : ReadOnlyReport}

theorem MappingsOk.reported_self
    {changed : Bool}
    (h : m.MappingsOk)
    (hsettled : m.Settled report) :
    Reported report m changed m changed :=
  ⟨h.frame_self, fun _ _ => rfl, hsettled, .inr ⟨rfl, rfl⟩⟩

theorem settled_store
    (hzero : report.readOnly = 0 → M'.nodes .writer ≠ [] ∧ M'.missesWriter = false)
    (hone : report.readOnly = 1 → M'.nodes .writer = []) :
    (m.store report.addr (t, M')).Settled report := by
  intro M₁ hM₁
  simp only [store, Function.update_self, Option.some.injEq] at hM₁
  exact hM₁ ▸ ⟨hzero, hone⟩

theorem MappingsOk.promoted
    (h : m.MappingsOk)
    (hM : m.mapping report.addr = some M)
    (hzero : report.readOnly = 0)
    (writerIsAlsoReader changed : Bool) :
    ∃ moved, M.promote m.table writerIsAlsoReader = some moved ∧
      Reported report m changed (m.store report.addr moved) true := by
  have hpairs := ReplicationHostgroups.pairsOk h.unchained
  obtain ⟨t, M', hpromote, hmoved, hreaders⟩ :=
    promote_spec hpairs writerIsAlsoReader h.table (h.exact_of_mapping hM)
  have hmisses : M'.missesWriter = false := by
    rw [MappingsOk.missesWriter_eq_false_iff hpairs hmoved.exact]
    intro pair hpair
    exact (hmoved.copied pair).mpr (.inr (List.map_subset _ hreaders hpair))
  obtain ⟨hframe, hwriters⟩ :=
    h.moved hM hmoved (by decide) (.inl hreaders) fun _ => .inr hmisses
  refine ⟨(t, M'), hpromote, hframe, ?_, ?_, .inl rfl⟩
  · intro addr haddr
    exact Function.update_of_ne haddr _ _
  · exact settled_store (fun _ => ⟨hwriters, hmisses⟩) (by omega)

theorem MappingsOk.demoted
    (h : m.MappingsOk)
    (hM : m.mapping report.addr = some M)
    (hone : report.readOnly = 1)
    (changed : Bool) :
    ∃ moved, M.demote m.table = some moved ∧
      Reported report m changed (m.store report.addr moved) true := by
  obtain ⟨t, M', hdemote, hmoved, hnil⟩ :=
    demote_spec (ReplicationHostgroups.pairsOk h.unchained) h.table (h.exact_of_mapping hM)
  obtain ⟨hframe, -⟩ := h.moved hM hmoved (by decide) (.inr hnil) fun _ => .inl hnil
  refine ⟨(t, M'), hdemote, hframe, ?_, ?_, .inl rfl⟩
  · intro addr haddr
    exact Function.update_of_ne haddr _ _
  · exact settled_store (by omega) fun _ => hnil

/-- The server is a writer of all its pairs already, which is remembered. -/
theorem MappingsOk.flagged
    {changed : Bool}
    (h : m.MappingsOk)
    (hM : m.mapping report.addr = some M)
    (hzero : report.readOnly = 0)
    (hwriters : M.nodes .writer ≠ [])
    (hmisses : M.missesWriter = false) :
    Reported report m changed (m.store report.addr (m.table, { M with readonlyFlag := 0 }))
      changed := by
  have hok : (m.store report.addr (m.table, { M with readonlyFlag := 0 })).MappingsOk :=
    h.store h.table (fun type => h.exact_of_mapping hM type) (fun _ _ _ _ => Iff.rfl)
      ⟨.writer, hwriters⟩ (fun _ => .inr hmisses)
  refine ⟨⟨hok, rfl, rfl, rfl, fun _ _ _ => Iff.rfl⟩, ?_, ?_, .inr ⟨rfl, rfl⟩⟩
  · intro addr haddr
    exact Function.update_of_ne haddr _ _
  · exact settled_store (fun _ => ⟨hwriters, hmisses⟩) (by omega)

theorem reportServer_of_mapping
    (hM : m.mapping report.addr = some M)
    (writerIsAlsoReader changed : Bool) :
    reportServer writerIsAlsoReader (m, changed) report =
      if report.readOnly = 0 then
        if M.nodes .writer = [] then
          (M.promote m.table writerIsAlsoReader).map fun moved => (m.store report.addr moved, true)
        else if M.readonlyFlag = 0 then some (m, changed)
        else if M.missesWriter then
          (M.promote m.table writerIsAlsoReader).map fun moved => (m.store report.addr moved, true)
        else some (m.store report.addr (m.table, { M with readonlyFlag := 0 }), changed)
      else if report.readOnly = 1 then
        if M.nodes .writer = [] then some (m, changed)
        else (M.demote m.table).map fun moved => (m.store report.addr moved, true)
      else none := by
  simp only [reportServer, hM, Option.bind_eq_bind, Option.map_eq_bind, Function.comp_def]

/-- What one report does to a server and its mapping. -/
theorem MappingsOk.reportServer
    (h : m.MappingsOk)
    (writerIsAlsoReader changed : Bool)
    (hvalue : report.readOnly = 0 ∨ report.readOnly = 1) :
    ∃ m' changed', reportServer writerIsAlsoReader (m, changed) report = some (m', changed') ∧
      Reported report m changed m' changed' := by
  cases hM : m.mapping report.addr with
  | none =>
      refine ⟨m, changed, ?_, h.reported_self fun M hM' => by simp [hM] at hM'⟩
      simp only [HostgroupsManager.reportServer, hM]
  | some M =>
      have hself (hzero : report.readOnly = 0 → M.nodes .writer ≠ [] ∧ M.missesWriter = false)
          (hone : report.readOnly = 1 → M.nodes .writer = []) :
          Reported report m changed m changed := by
        refine h.reported_self fun M' hM' => ?_
        cases hM.symm.trans hM'
        exact ⟨hzero, hone⟩
      rw [reportServer_of_mapping hM]
      obtain hzero | hone := hvalue
      · obtain ⟨moved, hpromote, hreported⟩ := h.promoted hM hzero writerIsAlsoReader changed
        rw [if_pos hzero, hpromote]
        by_cases hwriters : M.nodes .writer = []
        · exact ⟨_, true, if_pos hwriters, hreported⟩
        rw [if_neg hwriters]
        by_cases hflag : M.readonlyFlag = 0
        · have hmisses := (h.flag _ M hM hflag).resolve_left hwriters
          exact ⟨m, changed, if_pos hflag, hself (fun _ => ⟨hwriters, hmisses⟩) (by omega)⟩
        rw [if_neg hflag]
        cases hmisses : M.missesWriter with
        | true =>
            exact ⟨_, true, rfl, hreported⟩
        | false =>
            exact ⟨_, changed, rfl, h.flagged hM hzero hwriters hmisses⟩
      · obtain ⟨moved, hdemote, hreported⟩ := h.demoted hM hone changed
        rw [if_neg (by omega), if_pos hone, hdemote]
        by_cases hwriters : M.nodes .writer = []
        · exact ⟨m, changed, if_pos hwriters, hself (by omega) fun _ => hwriters⟩
        · exact ⟨_, true, if_neg hwriters, hreported⟩

theorem MappingsOk.reported
    {writerIsAlsoReader changed changed' : Bool}
    (h : m.MappingsOk)
    (hreport : HostgroupsManager.reportServer writerIsAlsoReader (m, changed) report =
      some (m', changed')) :
    Reported report m changed m' changed' := by
  have hvalue : m.mapping report.addr = none ∨ report.readOnly = 0 ∨ report.readOnly = 1 := by
    cases hM : m.mapping report.addr with
    | none =>
        exact .inl rfl
    | some M =>
        rw [reportServer_of_mapping hM] at hreport
        by_contra hno
        rw [not_or, not_or] at hno
        simp [hno.2.1, hno.2.2] at hreport
  obtain hM | hvalue := hvalue
  · simp only [HostgroupsManager.reportServer, hM, Option.some.injEq, Prod.mk.injEq] at hreport
    obtain ⟨rfl, rfl⟩ := hreport
    exact h.reported_self fun M hM' => by simp [hM] at hM'
  · obtain ⟨m₁, changed₁, hsome, hreported⟩ := h.reportServer writerIsAlsoReader changed hvalue
    cases hsome.symm.trans hreport
    exact hreported

/-- The assertions of a call hold when all values are `0` or `1`. -/
theorem MappingsOk.exists_reports
    {reports : List ReadOnlyReport}
    (h : m.MappingsOk)
    (writerIsAlsoReader changed : Bool)
    (hvalues : ∀ report ∈ reports, report.readOnly = 0 ∨ report.readOnly = 1) :
    ∃ m' changed', reports.foldlM (HostgroupsManager.reportServer writerIsAlsoReader) (m, changed) =
      some (m', changed') := by
  induction reports generalizing m changed with
  | nil =>
      exact ⟨m, changed, rfl⟩
  | cons report reports ih =>
      obtain ⟨m₁, changed₁, hfirst, hreported⟩ :=
        h.reportServer writerIsAlsoReader changed (hvalues report List.mem_cons_self)
      obtain ⟨m₂, changed₂, hrest⟩ :=
        ih hreported.frame.ok changed₁ fun r hr => hvalues r (List.mem_cons_of_mem report hr)
      refine ⟨m₂, changed₂, ?_⟩
      rw [List.foldlM_cons, hfirst]
      exact hrest

/-- What the reports of one call do.  A server is left as its last report says. -/
structure ReportedAll (reports : List ReadOnlyReport) (m : HostgroupsManager) (changed : Bool)
    (m' : HostgroupsManager) (changed' : Bool) : Prop where
  frame : Frame m m'
  other : ∀ addr, (∀ report ∈ reports, report.addr ≠ addr) → m'.mapping addr = m.mapping addr
  settled : ∀ before report after, reports = before ++ report :: after →
    (∀ later ∈ after, later.addr ≠ report.addr) → m'.Settled report
  unchanged : changed' = true ∨ changed' = changed ∧ m'.table = m.table

theorem MappingsOk.reports
    {reports : List ReadOnlyReport} {writerIsAlsoReader changed changed' : Bool}
    (h : m.MappingsOk)
    (hfold : reports.foldlM (HostgroupsManager.reportServer writerIsAlsoReader) (m, changed) =
      some (m', changed')) :
    ReportedAll reports m changed m' changed' := by
  induction reports generalizing m changed with
  | nil =>
      cases hfold
      exact ⟨h.frame_self, fun _ _ => rfl, by simp, .inr ⟨rfl, rfl⟩⟩
  | cons report reports ih =>
      rw [List.foldlM_cons] at hfold
      obtain ⟨⟨m₁, changed₁⟩, hfirst, hrest⟩ := Option.bind_eq_some_iff.mp hfold
      have hreported := h.reported hfirst
      have hall := ih hreported.frame.ok hrest
      refine ⟨hreported.frame.trans hall.frame, ?_, ?_, ?_⟩
      · intro addr haddr
        rw [hall.other addr fun r hr => haddr r (List.mem_cons_of_mem report hr),
          hreported.other addr (haddr report List.mem_cons_self).symm]
      · intro before last after hsplit hlast
        cases before with
        | nil =>
            obtain ⟨rfl, rfl⟩ := List.cons.inj hsplit
            intro M hM
            exact hreported.settled M ((hall.other _ hlast).symm.trans hM)
        | cons first before =>
            exact hall.settled before last after (List.cons.inj hsplit).2 hlast
      · obtain htrue | ⟨rfl, htable⟩ := hall.unchanged
        · exact .inl htrue
        · obtain htrue | ⟨rfl, htable₁⟩ := hreported.unchanged
          · exact .inl htrue
          · exact .inr ⟨rfl, htable.trans htable₁⟩

/-- A change of the table that keeps what the hostgroups hold. -/
theorem MappingsOk.withTable
    (h : m.MappingsOk)
    (ht : t.TableOk)
    (hholds : ∀ hid addr ptr, t.Holds hid addr ptr ↔ m.table.Holds hid addr ptr) :
    MappingsOk { m with table := t } where
  unchained := h.unchained
  table := ht
  exact := fun addr type => (h.exact addr type).congr fun hid ptr => hholds hid addr ptr
  nonempty := h.nonempty
  flag := h.flag

/-- The checksums are those of the servers that the hostgroups hold and of the pairs. -/
structure ChecksumsOk (m : HostgroupsManager) : Prop where
  servers : ∀ hid addr, (∃ ptr, m.table.Holds hid addr ptr) ↔
    ∃ row ∈ m.hgsmServersChecksum, row.hid = hid ∧ row.addr = addr
  rows : m.hgsmReplicationChecksum = m.replication.rows

theorem mem_runtimeRows
    {hid : Nat} :
    (∃ ptr, t.Holds hid addr ptr) ↔ ∃ row ∈ t.runtimeRows, row.hid = hid ∧ row.addr = addr := by
  simp only [runtimeRows, Multiset.mem_coe, List.mem_map, List.mem_filter]
  constructor
  · rintro ⟨ptr, s, hs, -, hhid, haddr, hlive⟩
    exact ⟨runtimeRow s, ⟨s, ⟨hs, hlive⟩, rfl⟩, hhid, haddr⟩
  · rintro ⟨-, ⟨s, ⟨hs, hlive⟩, rfl⟩, hhid, haddr⟩
    exact ⟨s.ptr, s, hs, rfl, hhid, haddr, hlive⟩

/-- The state between two operations. -/
structure ManagerOk (m : HostgroupsManager) : Prop where
  mappings : m.MappingsOk
  checksums : m.ChecksumsOk

theorem ManagerOk.withTable
    (h : m.ManagerOk)
    (ht : t.TableOk)
    (hholds : ∀ hid addr ptr, t.Holds hid addr ptr ↔ m.table.Holds hid addr ptr) :
    ManagerOk { m with table := t } where
  mappings := h.mappings.withTable ht hholds
  checksums :=
    { servers := fun hid addr => by
        simpa only [hholds] using h.checksums.servers hid addr
      rows := h.checksums.rows }

theorem readOnlyActionV2_eq_some
    {reports : List ReadOnlyReport} {writerIsAlsoReader : Bool} :
    m.readOnlyActionV2 reports writerIsAlsoReader = some m' ↔
      ∃ m₁ changed, reports.foldlM (HostgroupsManager.reportServer writerIsAlsoReader) (m, false) =
          some (m₁, changed) ∧
        (if changed then m₁.regenerate else m₁) = m' := by
  simp [readOnlyActionV2, Option.bind_eq_some_iff]

/-- What a call of `read_only_action_v2` leaves. -/
structure Acted (reports : List ReadOnlyReport) (m m' : HostgroupsManager) : Prop where
  ok : m'.ManagerOk
  replication : m'.replication = m.replication
  belongs : ∀ addr, ∀ pair ∈ m.replication.pairs, m'.Belongs addr pair ↔ m.Belongs addr pair
  settled : ∀ before report after, reports = before ++ report :: after →
    (∀ later ∈ after, later.addr ≠ report.addr) → m'.Settled report

theorem ManagerOk.readOnlyActionV2
    {reports : List ReadOnlyReport} {writerIsAlsoReader : Bool}
    (h : m.ManagerOk)
    (haction : m.readOnlyActionV2 reports writerIsAlsoReader = some m') :
    Acted reports m m' := by
  obtain ⟨m₁, changed, hfold, rfl⟩ := readOnlyActionV2_eq_some.mp haction
  have hall := h.mappings.reports hfold
  have hrows : m₁.hgsmReplicationChecksum = m₁.replication.rows := by
    rw [hall.frame.rows, hall.frame.replication, h.checksums.rows]
  cases changed with
  | true =>
      have hmappings : m₁.regenerate.MappingsOk := by
        have hpurged := hall.frame.ok.withTable hall.frame.ok.table.purge fun _ _ _ => holds_purge
        exact ⟨hpurged.unchained, hpurged.table, hpurged.exact, hpurged.nonempty, hpurged.flag⟩
      refine ⟨⟨hmappings, fun _ _ => mem_runtimeRows, hrows⟩, hall.frame.replication, ?_,
        hall.settled⟩
      intro addr pair hpair
      rw [← hall.frame.belongs addr pair hpair]
      exact exists_congr fun type => exists_congr fun ptr => holds_purge
  | false =>
      have htable := (hall.unchanged.resolve_left (by simp)).2
      refine ⟨⟨hall.frame.ok, fun hid addr => ?_, hrows⟩, hall.frame.replication,
        hall.frame.belongs, hall.settled⟩
      rw [if_neg (by simp), htable, hall.frame.servers]
      exact h.checksums.servers hid addr

/-! ## Commits -/

theorem keepsPlace_applyRow (row : ServerRow) : KeepsPlace (applyRow row) := by
  intro s
  unfold applyRow
  dsimp only
  split
  · split
    · exact ⟨rfl, rfl, rfl⟩
    · exact ⟨rfl, rfl, rfl⟩
  · split
    · exact ⟨rfl, rfl, rfl⟩
    · exact ⟨rfl, rfl, rfl⟩

theorem commitRow_spec
    (row : ServerRow)
    (ht : t.TableOk) :
    (t.commitRow row).TableOk ∧
      ∀ s ∈ t.servers, ∃ s' ∈ (t.commitRow row).servers,
        s'.ptr = s.ptr ∧ s'.hid = s.hid ∧ s'.addr = s.addr := by
  have hkeeps := keepsPlace_applyRow row
  unfold commitRow
  cases hfind : t.servers.find? fun s => s.hid == row.hid && s.addr == row.addr with
  | some old =>
      refine ⟨ht.update _ hkeeps, fun s hs => ⟨_, List.mem_map_of_mem hs, ?_⟩⟩
      exact hkeeps.ite (p := (·.ptr = old.ptr)) s
  | none =>
      refine ⟨ht.add ?_, fun s hs => ⟨s, List.mem_append_left _ hs, rfl, rfl, rfl⟩⟩
      rintro s hs ⟨hhid, haddr⟩
      have hno := List.find?_eq_none.mp hfind s hs
      simp [hhid, haddr] at hno

/-- A commit keeps the address of every entry that a hostgroup holds. -/
theorem commitServers_spec
    (incoming : ServersIncoming)
    (ht : t.TableOk) :
    (t.commitServers incoming).TableOk ∧
      ∀ hid addr ptr ptr', t.Holds hid addr ptr →
        (t.commitServers incoming).Holds hid addr ptr' → ptr = ptr' := by
  have hfold : ∀ (rows : List ServerRow) (t : HostgroupTable), t.TableOk →
      (rows.foldl commitRow t).TableOk ∧
        ∀ s ∈ t.servers, ∃ s' ∈ (rows.foldl commitRow t).servers,
          s'.ptr = s.ptr ∧ s'.hid = s.hid ∧ s'.addr = s.addr := by
    intro rows
    induction rows with
    | nil =>
        exact fun t ht => ⟨ht, fun s hs => ⟨s, hs, rfl, rfl, rfl⟩⟩
    | cons row rows ih =>
        intro t ht
        obtain ⟨ht₁, hplaces⟩ := commitRow_spec row ht
        obtain ⟨ht₂, hplaces₂⟩ := ih _ ht₁
        refine ⟨ht₂, fun s hs => ?_⟩
        obtain ⟨s₁, hs₁, hptr₁, hhid₁, haddr₁⟩ := hplaces s hs
        obtain ⟨s₂, hs₂, hptr₂, hhid₂, haddr₂⟩ := hplaces₂ s₁ hs₁
        exact ⟨s₂, hs₂, hptr₂.trans hptr₁, hhid₂.trans hhid₁, haddr₂.trans haddr₁⟩
  have hkeeps : KeepsPlace fun s =>
      if incoming.rows.any fun row => row.hid == s.hid && row.addr == s.addr then s
      else s.removeHgm := by
    intro s
    by_cases hrow : (incoming.rows.any fun row => row.hid == s.hid && row.addr == s.addr) = true
    · simp [hrow]
    · simp only [hrow]
      exact keepsPlace_removeHgm s
  obtain ⟨hok, hplaces⟩ := hfold incoming.rows _ (ht.purge.map hkeeps)
  refine ⟨hok, fun hid addr ptr ptr' hold hnew => ?_⟩
  obtain ⟨s, hs, hptr, hhid, haddr, -⟩ := holds_purge.mpr hold
  obtain ⟨s₁, hs₁, hptr₁, hhid₁, haddr₁⟩ := hplaces _ (List.mem_map_of_mem hs)
  obtain ⟨s₂, hs₂, hptr₂, hhid₂, haddr₂, -⟩ := hnew
  obtain ⟨hptr', hhid', haddr'⟩ := hkeeps s
  have hsame : s₁ = s₂ := by
    refine hok.eq_of_key hs₁ hs₂ ?_ ?_
    · rw [hhid₁, hhid', hhid, hhid₂]
    · rw [haddr₁, haddr', haddr, haddr₂]
  rw [← hptr₂, ← hsame, hptr₁, hptr', hptr]

theorem exact_mappingRows
    (ht : m.table.TableOk)
    (type : MappingType) :
    ExactNodes m.table m.replication.pairs addr type (m.mappingRows addr type) where
  nodup := by
    have hpairs : m.replication.pairs.Nodup := by
      refine List.Nodup.of_map (·.writerHostgroupId) ?_
      simpa [ReplicationHostgroups.pairs, Function.comp_def] using m.replication.primaryKey
    rw [mappingRows, List.nodup_flatMap]
    constructor
    · intro pair _
      refine ((List.Nodup.of_map _ ht.ptrs).filter _).map_on fun s hs s' hs' heq => ?_
      exact ht.eq_of_ptr (List.mem_of_mem_filter hs) (List.mem_of_mem_filter hs')
        (MappingNode.mk.inj heq).1
    · refine hpairs.imp fun {p q} hne => ?_
      intro n hn hn'
      obtain ⟨s, -, rfl⟩ := List.mem_map.mp hn
      obtain ⟨s', -, heq⟩ := List.mem_map.mp hn'
      exact hne (MappingNode.mk.inj heq).2.symm
  mem_iff := by
    intro n
    simp only [mappingRows, List.mem_flatMap, List.mem_map, List.mem_filter, Bool.and_eq_true,
      beq_iff_eq]
    constructor
    · rintro ⟨pair, hpair, s, ⟨hs, ⟨hhid, haddr⟩, hlive⟩, rfl⟩
      exact ⟨hpair, s, hs, rfl, hhid, haddr, hlive⟩
    · rintro ⟨hpair, s, hs, hptr, hhid, haddr, hlive⟩
      refine ⟨n.pair, hpair, s, ⟨hs, ⟨hhid, haddr⟩, hlive⟩, ?_⟩
      rw [hptr]

theorem MappingsOk.built
    (hr : m.replication.Unchained)
    (ht : m.table.TableOk)
    (hmapping : m.mapping = m.builtMapping) :
    m.MappingsOk where
  unchained := hr
  table := ht
  exact := by
    intro addr type
    have hnodes : m.nodes addr type = m.mappingRows addr type := by
      rw [nodes, hmapping, builtMapping]
      split
      · cases type <;> simp_all
      · rfl
    rw [hnodes]
    exact exact_mappingRows ht type
  nonempty := by
    intro addr M hM
    rw [hmapping, builtMapping] at hM
    split at hM
    · exact absurd hM (by simp)
    case isFalse hrows =>
      cases hM
      by_cases hwriter : m.mappingRows addr .writer = []
      · exact ⟨.reader, fun hreader => hrows ⟨hwriter, hreader⟩⟩
      · exact ⟨.writer, hwriter⟩
  flag := by
    intro addr M hM hflag
    rw [hmapping, builtMapping] at hM
    split at hM
    · exact absurd hM (by simp)
    · cases hM
      exact absurd hflag (by simp)

/-- A commit builds the mappings again, or changes neither the pairs nor what the
hostgroups hold. -/
theorem ManagerOk.commit
    {replication : Option ReplicationHostgroups}
    (h : m.ManagerOk)
    (incoming : ServersIncoming)
    (hr : (replication.getD m.replication).Unchained) :
    (m.commit incoming replication).ManagerOk := by
  obtain ⟨ht, hsame⟩ := commitServers_spec incoming h.mappings.table
  unfold HostgroupsManager.commit updateMappings
  dsimp only
  split
  · exact ⟨MappingsOk.built hr ht rfl, fun _ _ => mem_runtimeRows, rfl⟩
  case isFalse hcond =>
    rw [not_or, not_not, not_not] at hcond
    obtain ⟨hservers, hrows⟩ := hcond
    have hpairs : (replication.getD m.replication).pairs = m.replication.pairs := by
      rw [ReplicationHostgroups.pairs, ReplicationHostgroups.pairs, ← hrows, h.checksums.rows]
    have hkept : ∀ hid addr, (∃ ptr, (m.table.commitServers incoming).Holds hid addr ptr) ↔
        ∃ ptr, m.table.Holds hid addr ptr := by
      intro hid addr
      rw [mem_runtimeRows, ← hservers, h.checksums.servers]
    have hholds : ∀ hid addr ptr, (m.table.commitServers incoming).Holds hid addr ptr ↔
        m.table.Holds hid addr ptr := by
      intro hid addr ptr
      constructor
      · intro hnew
        obtain ⟨ptr', hold⟩ := (hkept hid addr).mp ⟨ptr, hnew⟩
        exact hsame hid addr ptr' ptr hold hnew ▸ hold
      · intro hold
        obtain ⟨ptr', hnew⟩ := (hkept hid addr).mpr ⟨ptr, hold⟩
        exact hsame hid addr ptr ptr' hold hnew ▸ hnew
    have htable := h.withTable ht hholds
    refine ⟨⟨hr, ht, fun addr type => ?_, htable.mappings.nonempty, htable.mappings.flag⟩,
      htable.checksums.servers, hrows⟩
    exact hpairs ▸ htable.mappings.exact addr type

/-! ## Runs -/

theorem ManagerOk.changeStatus
    {ptr : Nat} {status : ServerStatus}
    (h : m.ManagerOk)
    (hstep : m.changeStatus ptr status = some m') :
    m'.ManagerOk := by
  unfold HostgroupsManager.changeStatus at hstep
  obtain ⟨srv, hsrv, hstep⟩ := Option.bind_eq_some_iff.mp hstep
  split at hstep
  case isFalse =>
    exact absurd hstep (by simp)
  case isTrue hlive =>
    cases hstep
    refine h.withTable (h.mappings.table.update ptr (keepsPlace_setStatus status)) ?_
    refine fun _ _ _ => holds_update_of_live (keepsPlace_setStatus status) fun s hs hptr => ?_
    have hfound := h.mappings.table.server?_of_mem hs
    rw [hptr, hsrv] at hfound
    cases hfound
    rw [hlive.1]
    simpa [SrvC.live, SrvC.setStatus] using hlive.2

theorem ManagerOk.useConnections
    (h : m.ManagerOk)
    (ptr used free : Nat) :
    (m.useConnections ptr used free).ManagerOk :=
  h.withTable (h.mappings.table.update ptr fun _ => ⟨rfl, rfl, rfl⟩)
    fun _ _ _ => holds_update_of_live (fun _ => ⟨rfl, rfl, rfl⟩) fun _ _ _ => rfl

theorem managerOk_init : ManagerOk {} where
  mappings :=
    { unchained := fun p hp => absurd hp (by simp [ReplicationHostgroups.pairs,
        ReplicationHostgroups.empty])
      table := ⟨.nil, by simp, .nil⟩
      exact := fun addr type => ⟨List.nodup_nil, by simp [nodes, ReplicationHostgroups.pairs,
        ReplicationHostgroups.empty]⟩
      nonempty := by simp
      flag := by simp }
  checksums := ⟨by simp [Holds], rfl⟩

/-- No commit of the run brings a hostgroup that is writer and reader. -/
def UnchainedRun (ops : List MappingOp) : Prop :=
  ∀ incoming r, .commit incoming (some r) ∈ ops → r.Unchained

theorem ManagerOk.step
    {op : MappingOp}
    (h : m.ManagerOk)
    (hop : ∀ incoming r, op = .commit incoming (some r) → r.Unchained)
    (hstep : m.step op = some m') :
    m'.ManagerOk := by
  cases op with
  | commit incoming replication =>
      cases hstep
      refine h.commit incoming ?_
      cases replication with
      | none =>
          exact h.mappings.unchained
      | some r =>
          exact hop incoming r rfl
  | readOnlyAction reports writerIsAlsoReader =>
      exact (h.readOnlyActionV2 hstep).ok
  | changeStatus ptr status =>
      exact h.changeStatus hstep
  | useConnections ptr used free =>
      cases hstep
      exact h.useConnections ptr used free
  | purge =>
      cases hstep
      exact h.withTable h.mappings.table.purge fun _ _ _ => holds_purge

theorem managerOk_run
    {ops : List MappingOp}
    (hops : UnchainedRun ops)
    (hrun : run ops = some m) :
    m.ManagerOk := by
  have hsteps : ∀ (ops : List MappingOp) (m₀ : HostgroupsManager), UnchainedRun ops → m₀.ManagerOk →
      ops.foldlM HostgroupsManager.step m₀ = some m → m.ManagerOk := by
    intro ops
    induction ops with
    | nil =>
        intro m₀ _ h hfold
        cases hfold
        exact h
    | cons op ops ih =>
        intro m₀ hops h hfold
        rw [List.foldlM_cons] at hfold
        obtain ⟨m₁, hstep, hfold⟩ := Option.bind_eq_some_iff.mp hfold
        refine ih m₁ (fun incoming r hmem => hops incoming r (List.mem_cons_of_mem op hmem)) ?_ hfold
        exact h.step (fun incoming r heq => hops incoming r (heq ▸ List.mem_cons_self)) hstep
  exact hsteps ops {} hops managerOk_init hrun

/-! ## What a report leaves -/

/-- The hostgroup has an entry for the server that is not `OFFLINE_HARD`. -/
def Has (m : HostgroupsManager) (hid : Nat) (addr : ServerAddr) : Prop :=
  ∃ ptr, m.table.Holds hid addr ptr

/-- The number of entries of a hostgroup for a server, without those `OFFLINE_HARD`. -/
def entries (m : HostgroupsManager) (hid : Nat) (addr : ServerAddr) : Nat :=
  m.table.servers.countP fun s => s.hid == hid && s.addr == addr && s.live

theorem ManagerOk.entries_le_one
    (h : m.ManagerOk)
    (hid : Nat) (addr : ServerAddr) :
    m.entries hid addr ≤ 1 := by
  have hcount := List.nodup_iff_count_le_one.mp h.mappings.table.keys (hid, addr)
  rw [List.count, List.countP_map] at hcount
  refine le_trans (List.countP_mono_left fun s _ hs => ?_) hcount
  simp only [Bool.and_eq_true, beq_iff_eq] at hs
  simp [hs.1.1, hs.1.2]

theorem ManagerOk.has_of_nodes
    (h : m.ManagerOk)
    (hpair : pair ∈ m.replication.pairs)
    (addr : ServerAddr) (type : MappingType) :
    m.Has (pair.hostgroupId type) addr ↔ pair ∈ (m.nodes addr type).map (·.pair) :=
  ((h.mappings.exact addr type).mem_pairs_iff hpair).symm

theorem ManagerOk.not_writer
    (h : m.ManagerOk)
    (hsettled : m.Settled report)
    (hone : report.readOnly = 1)
    (hpair : pair ∈ m.replication.pairs) :
    ¬ m.Has pair.writerHostgroupId report.addr := by
  have hnil : m.nodes report.addr .writer = [] := by
    cases hM : m.mapping report.addr with
    | none =>
        simp [nodes, hM]
    | some M =>
        rw [nodes_of_mapping hM, (hsettled M hM).2 hone]
  intro hwriter
  have hmem := (h.has_of_nodes hpair report.addr .writer).mp hwriter
  simp [hnil] at hmem

theorem ManagerOk.has_reader
    (h : m.ManagerOk)
    (hsettled : m.Settled report)
    (hone : report.readOnly = 1)
    (hpair : pair ∈ m.replication.pairs)
    (hbelongs : m.Belongs report.addr pair) :
    m.Has pair.readerHostgroupId report.addr := by
  obtain ⟨type, ptr, hholds⟩ := hbelongs
  cases type with
  | writer =>
      exact absurd ⟨ptr, hholds⟩ (h.not_writer hsettled hone hpair)
  | reader =>
      exact ⟨ptr, hholds⟩

theorem ManagerOk.has_writer
    (h : m.ManagerOk)
    (hsettled : m.Settled report)
    (hzero : report.readOnly = 0)
    (hpair : pair ∈ m.replication.pairs)
    (hbelongs : m.Belongs report.addr pair) :
    m.Has pair.writerHostgroupId report.addr := by
  obtain ⟨type, hmem⟩ := (h.mappings.belongs_iff hpair).mp hbelongs
  refine (h.has_of_nodes hpair report.addr .writer).mpr ?_
  cases type with
  | writer =>
      exact hmem
  | reader =>
      cases hM : m.mapping report.addr with
      | none =>
          simp [nodes, hM] at hmem
      | some M =>
          rw [nodes_of_mapping hM] at hmem ⊢
          have hpairs := ReplicationHostgroups.pairsOk h.mappings.unchained
          exact (MappingsOk.missesWriter_eq_false_iff hpairs (h.mappings.exact_of_mapping hM)).mp
            ((hsettled M hM).1 hzero).2 pair hmem

theorem readOnlyActionV2_single
    (report : ReadOnlyReport) (writerIsAlsoReader : Bool) :
    m.readOnlyActionV2 [report] writerIsAlsoReader =
      (HostgroupsManager.reportServer writerIsAlsoReader (m, false) report).map fun result =>
        if result.2 then result.1.regenerate else result.1 := by
  cases hreport : HostgroupsManager.reportServer writerIsAlsoReader (m, false) report with
  | none =>
      simp [readOnlyActionV2, hreport]
  | some result =>
      simp [readOnlyActionV2, hreport]

/-- A report that the mapping agrees with changes the flag of the mapping at most. -/
theorem readOnlyActionV2_again
    (hsettled : m.Settled report)
    (writerIsAlsoReader : Bool)
    (hvalue : report.readOnly = 0 ∨ report.readOnly = 1) :
    ∃ m', m.readOnlyActionV2 [report] writerIsAlsoReader = some m' ∧
      m'.table = m.table ∧
      (∀ addr type, m'.nodes addr type = m.nodes addr type) ∧
      m'.readOnlyActionV2 [report] writerIsAlsoReader = some m' := by
  cases hM : m.mapping report.addr with
  | none =>
      have hsame : m.readOnlyActionV2 [report] writerIsAlsoReader = some m := by
        simp [readOnlyActionV2_single, reportServer, hM]
      exact ⟨m, hsame, rfl, fun _ _ => rfl, hsame⟩
  | some M =>
      obtain ⟨hzero, hone⟩ := hsettled M hM
      by_cases hdone : report.readOnly = 1 ∨ M.readonlyFlag = 0
      · have hsame : m.readOnlyActionV2 [report] writerIsAlsoReader = some m := by
          rw [readOnlyActionV2_single, reportServer_of_mapping hM]
          obtain hvalue | hvalue := hvalue
          · have hflag := hdone.resolve_left (by omega)
            simp [hvalue, (hzero hvalue).1, hflag]
          · simp [hvalue, hone hvalue]
        exact ⟨m, hsame, rfl, fun _ _ => rfl, hsame⟩
      · rw [not_or] at hdone
        have hvalue := hvalue.resolve_right hdone.1
        obtain ⟨hwriters, hmisses⟩ := hzero hvalue
        refine ⟨m.store report.addr (m.table, { M with readonlyFlag := 0 }), ?_, rfl, ?_, ?_⟩
        · rw [readOnlyActionV2_single, reportServer_of_mapping hM]
          simp [hvalue, hwriters, hmisses, hdone.2]
        · intro addr type
          by_cases haddr : addr = report.addr
          · subst haddr
            simp [nodes, store, hM]
          · simp [nodes, store, Function.update_of_ne haddr]
        · have hM' : (m.store report.addr (m.table, { M with readonlyFlag := 0 })).mapping
              report.addr = some { M with readonlyFlag := 0 } :=
            Function.update_self report.addr _ _
          rw [readOnlyActionV2_single, reportServer_of_mapping hM']
          simp [hvalue, hwriters]

/-- Hostgroup 1 writes and hostgroup 2 reads. -/
def onePair : ReplicationHostgroups :=
  ⟨[⟨⟨1, 2⟩, []⟩], by decide, by decide, by decide⟩

/-- Hostgroup 2 is the reader of one pair and the writer of the next. -/
def chainedPairs : ReplicationHostgroups :=
  ⟨[⟨⟨1, 2⟩, []⟩, ⟨⟨2, 3⟩, []⟩], by decide, by decide, by decide⟩

def oneServer : ServerAddr :=
  ⟨"db", 5432⟩

/-- The server is configured as a writer, and in a hostgroup of no pair. -/
def pairAndOther : List MappingOp :=
  [.commit ⟨[{ hid := 1, addr := oneServer }, { hid := 99, addr := oneServer }], by decide⟩
    (some onePair)]

theorem unchained_onePair : onePair.Unchained := by
  intro p hp q hq
  simp only [onePair, ReplicationHostgroups.pairs, List.map_cons, List.map_nil,
    List.mem_singleton] at hp hq
  subst hp hq
  decide

theorem unchainedRun_pairAndOther : UnchainedRun pairAndOther := by
  intro incoming r hmem
  simp only [pairAndOther, List.mem_singleton, MappingOp.commit.injEq, Option.some.injEq] at hmem
  exact hmem.2 ▸ unchained_onePair

/-- The server is configured in the hostgroup between two pairs. -/
def chained : List MappingOp :=
  [.commit ⟨[{ hid := 2, addr := oneServer }], by decide⟩ (some chainedPairs)]

end HostgroupsManager

end PolarProxy
