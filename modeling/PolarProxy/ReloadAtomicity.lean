import PolarProxy.TopologyReload

/-!
# Atomicity of a reload

A reload either changes nothing but the pending rows, or publishes all PolarDB
rows at once.  A snapshot has one entry for each hostgroup, so of two rows that
name a hostgroup the later one decides.

**Results.** `publishRows_lookup`, `reload_atomic`.
-/

namespace PolarProxy

namespace Topology

namespace ReplicationRow

/-! ## Checks -/

theorem error_eq_none
    (config : GlobalConfig) (row : ReplicationRow) :
    row.error config = none ↔
      (row.isPolardb = true → row.policyError config = none ∧ row.lsnSourceError config = none) := by
  rw [error]
  cases hpolardb : row.isPolardb with
  | false =>
      simp
  | true =>
      cases hpolicy : row.policyError config with
      | some reason =>
          simp
      | none =>
          simp

/-- The first loop passes exactly when no row has an error. -/
theorem findSome_error_eq_none
    (config : GlobalConfig) (rows : List ReplicationRow) :
    rows.findSome? (error config) = none ↔ ∀ row ∈ rows, row.error config = none :=
  List.findSome?_eq_none_iff

/-! ## The new snapshot -/

/-- A row changes the entries of the hostgroups it names. -/
theorem publish_lookup
    (next : AList fun _ : Nat => SnapshotEntry) (row : ReplicationRow) (hg : Nat) :
    (row.publish next).lookup hg =
      if row.Names hg then some row.snapshotEntry else next.lookup hg := by
  rw [publish]
  cases hpolardb : row.isPolardb with
  | false =>
      have hnot : ¬ row.Names hg := by
        rintro ⟨hpol, -⟩
        rw [hpolardb] at hpol
        cases hpol
      rw [if_neg hnot]
      rfl
  | true =>
      rw [if_pos rfl]
      by_cases hreader : hg = row.reader
      · have hnames : row.Names hg := ⟨hpolardb, Or.inr hreader⟩
        rw [if_pos hnames, hreader, AList.lookup_insert]
      · rw [AList.lookup_insert_ne hreader]
        by_cases hwriter : hg = row.writer
        · have hnames : row.Names hg := ⟨hpolardb, Or.inl hwriter⟩
          rw [if_pos hnames, hwriter, AList.lookup_insert]
        · have hnot : ¬ row.Names hg := by
            rintro ⟨-, hhg⟩
            rcases hhg with hhg | hhg
            · exact hwriter hhg
            · exact hreader hhg
          rw [if_neg hnot, AList.lookup_insert_ne hwriter]

theorem publishRows_keep
    {rows : List ReplicationRow} {hg : Nat}
    (hnames : ∀ row ∈ rows, ¬ row.Names hg)
    (next : AList fun _ : Nat => SnapshotEntry) :
    (rows.foldl publish next).lookup hg = next.lookup hg := by
  induction rows generalizing next with
  | nil =>
      rfl
  | cons row rest ih =>
      rw [List.foldl_cons, ih fun r hr => hnames r (List.mem_cons_of_mem row hr)]
      rw [publish_lookup, if_neg (hnames row List.mem_cons_self)]

/-- The entry of a hostgroup is the entry of the last PolarDB row that names it. -/
theorem publishRows_lookup
    {earlier later : List ReplicationRow} {row : ReplicationRow} {hg : Nat}
    (hnames : row.Names hg)
    (hlater : ∀ r ∈ later, ¬ r.Names hg)
    (next : AList fun _ : Nat => SnapshotEntry) :
    ((earlier ++ row :: later).foldl publish next).lookup hg = some row.snapshotEntry := by
  rw [List.foldl_append, List.foldl_cons, publishRows_keep hlater]
  rw [publish_lookup, if_pos hnames]

theorem mem_publish
    {next : AList fun _ : Nat => SnapshotEntry} {row : ReplicationRow} {hg : Nat}
    (hmem : hg ∈ next) :
    hg ∈ row.publish next := by
  rw [← AList.lookup_isSome] at hmem ⊢
  rw [publish_lookup]
  split
  · rfl
  · exact hmem

/-- A snapshot has an entry exactly when a row is a PolarDB row. -/
theorem publishRows_isEmpty
    (rows : List ReplicationRow) :
    (!(rows.foldl publish ∅).keys.isEmpty) = rows.any isPolardb := by
  rw [Bool.eq_iff_iff]
  constructor
  · intro hne
    by_contra hnone
    have hnames : ∀ hg, ∀ row ∈ rows, ¬ row.Names hg := by
      intro hg row hrow hnames
      exact hnone (List.any_eq_true.mpr ⟨row, hrow, hnames.1⟩)
    have hempty : (rows.foldl publish ∅).keys = [] := by
      rw [List.eq_nil_iff_forall_not_mem]
      intro hg hmem
      have hlookup := publishRows_keep (hnames hg) ∅
      rw [AList.lookup_empty, AList.lookup_eq_none] at hlookup
      exact hlookup (AList.mem_keys.mpr hmem)
    rw [hempty] at hne
    cases hne
  · intro hany
    obtain ⟨row, hrow, hpolardb⟩ := List.any_eq_true.mp hany
    obtain ⟨earlier, later, rfl⟩ := List.append_of_mem hrow
    have hmem : ∀ (l : List ReplicationRow) (next : AList fun _ : Nat => SnapshotEntry),
        row.writer ∈ next → row.writer ∈ l.foldl publish next := by
      intro l
      induction l with
      | nil =>
          intro next h
          exact h
      | cons r rest ih =>
          intro next h
          exact ih _ (mem_publish h)
    have hwriter : row.writer ∈ (earlier ++ row :: later).foldl publish ∅ := by
      rw [List.foldl_append, List.foldl_cons]
      apply hmem
      rw [← AList.lookup_isSome, publish_lookup, if_pos ⟨hpolardb, Or.inl rfl⟩]
      rfl
    cases hkeys : ((earlier ++ row :: later).foldl publish ∅).keys with
    | nil =>
        rw [AList.mem_keys, hkeys] at hwriter
        cases hwriter
    | cons hg rest =>
        rfl

end ReplicationRow

/-! ## Reloads -/

namespace Manager

variable {μ : Type}

/-- A row, apart from the snapshot, leaves the published topology alone. -/
def SamePublication (s t : Manager μ) : Prop :=
  t.topologySnapshot = s.topologySnapshot ∧ t.topologyGeneration = s.topologyGeneration ∧
    t.polardbActive = s.polardbActive ∧
    t.polardbActivationGeneration = s.polardbActivationGeneration

theorem SamePublication.trans
    {s t u : Manager μ}
    (h : s.SamePublication t)
    (h' : t.SamePublication u) :
    s.SamePublication u :=
  ⟨h'.1.trans h.1, h'.2.1.trans h.2.1, h'.2.2.1.trans h.2.2.1, h'.2.2.2.trans h.2.2.2⟩

theorem applyRow_samePublication
    (env : Environment μ) (s : Manager μ) (row : ReplicationRow) :
    s.SamePublication (s.applyRow env row) := by
  rw [applyRow]
  cases row.isPolardb with
  | false =>
      exact ⟨rfl, rfl, rfl, rfl⟩
  | true =>
      exact ⟨rfl, rfl, rfl, rfl⟩

/-- Everything before the publication leaves the published topology alone. -/
theorem load_samePublication
    (env : Environment μ) (s : Manager μ) (rows : List ReplicationRow) :
    s.SamePublication ((rows.foldl (applyRow env) (s.clear env)).refreshAllWriterEpochs env) := by
  have hrows : ∀ t : Manager μ, t.SamePublication (rows.foldl (applyRow env) t) := by
    induction rows with
    | nil =>
        intro t
        exact ⟨rfl, rfl, rfl, rfl⟩
    | cons row rest ih =>
        intro t
        exact (applyRow_samePublication env t row).trans (ih _)
  have hclear : s.SamePublication (s.clear env) := ⟨rfl, rfl, rfl, rfl⟩
  exact hclear.trans ((hrows _).trans ⟨rfl, rfl, rfl, rfl⟩)

variable {env : Environment μ}

theorem generate_rejected
    {config : GlobalConfig} {s : Manager μ} {rows : List ReplicationRow}
    (hincoming : s.incoming = some rows)
    (hrejected : rows.findSome? (ReplicationRow.error config) ≠ none) :
    s.generateReplicationHostgroupsTable env config = { s with incoming := none } := by
  rw [generateReplicationHostgroupsTable, hincoming]
  dsimp only
  cases herror : rows.findSome? (ReplicationRow.error config) with
  | none =>
      exact absurd herror hrejected
  | some reason =>
      rfl

/-- An accepted reload publishes the snapshot of its rows. -/
theorem generate_accepted
    {config : GlobalConfig} {s : Manager μ} {rows : List ReplicationRow}
    (hincoming : s.incoming = some rows)
    (haccepted : rows.findSome? (ReplicationRow.error config) = none) :
    let t := s.generateReplicationHostgroupsTable env config
    t.topologySnapshot = some
        { generation := s.topologyGeneration + 1
          byHostgroup := rows.foldl ReplicationRow.publish ∅ } ∧
      t.topologyGeneration = s.topologyGeneration + 1 ∧
      t.polardbActive = rows.any ReplicationRow.isPolardb ∧
      t.polardbActivationGeneration = s.polardbActivationGeneration +
        if t.polardbActive && !s.polardbActive then 1 else 0 := by
  obtain ⟨-, hgeneration, hactive, hactivation⟩ := load_samePublication env s rows
  intro t
  have ht : t = { publish (rows.foldl ReplicationRow.publish ∅)
      ((rows.foldl (applyRow env) (s.clear env)).refreshAllWriterEpochs env) with
      incoming := none } := by
    simp only [t, generateReplicationHostgroupsTable, hincoming, haccepted]
  clear_value t
  subst ht
  simp only [publish, hgeneration, hactive, hactivation, ReplicationRow.publishRows_isEmpty]
  refine ⟨trivial, trivial, trivial, ?_⟩
  split
  · rfl
  · rfl

/-- A commit with its configuration and its rows -/
def reload (env : Environment μ) (config : GlobalConfig) (rows : List ReplicationRow)
    (s : Manager μ) : Manager μ :=
  { s with incoming := some rows }.generateReplicationHostgroupsTable env config

theorem reload_rejected
    {config : GlobalConfig} {rows : List ReplicationRow}
    (hrejected : rows.findSome? (ReplicationRow.error config) ≠ none)
    (s : Manager μ) :
    s.reload env config rows = { s with incoming := none } :=
  generate_rejected rfl hrejected

/-- A commit whose rows hold an invalid PolarDB row changes nothing.  Otherwise every
PolarDB row whose hostgroups no later PolarDB row names has its settings under both
hostgroups, and the activation generation counts the changes from inactive to active. -/
theorem reload_atomic
    (env : Environment μ) (config : GlobalConfig) (s : Manager μ) (rows : List ReplicationRow) :
    let t := s.reload env config rows
    ((∃ row ∈ rows, row.isPolardb = true ∧
        (row.policyError config ≠ none ∨ row.lsnSourceError config ≠ none)) →
      t = { s with incoming := none }) ∧
    ((∀ row ∈ rows, row.isPolardb = true →
        row.policyError config = none ∧ row.lsnSourceError config = none) →
      (∀ earlier row later, rows = earlier ++ row :: later → row.isPolardb = true →
        (∀ r ∈ later, ¬ r.Names row.writer ∧ ¬ r.Names row.reader) →
        t.entry row.writer = some row.snapshotEntry ∧
          t.entry row.reader = some row.snapshotEntry) ∧
      t.polardbActive = rows.any ReplicationRow.isPolardb ∧
      t.polardbActivationGeneration = s.polardbActivationGeneration +
        if t.polardbActive && !s.polardbActive then 1 else 0) := by
  intro t
  constructor
  · rintro ⟨row, hrow, hpolardb, herror⟩
    apply reload_rejected
    intro hnone
    have hrowNone := (ReplicationRow.findSome_error_eq_none config rows).mp hnone row hrow
    have hvalid := (ReplicationRow.error_eq_none config row).mp hrowNone hpolardb
    rcases herror with hpolicy | hsource
    · exact hpolicy hvalid.1
    · exact hsource hvalid.2
  · intro hvalid
    have haccepted : rows.findSome? (ReplicationRow.error config) = none :=
      (ReplicationRow.findSome_error_eq_none config rows).mpr fun row hrow =>
        (ReplicationRow.error_eq_none config row).mpr (hvalid row hrow)
    obtain ⟨hsnapshot, -, hactive, hactivation⟩ :=
      @generate_accepted μ env config { s with incoming := some rows } rows rfl haccepted
    have hentry : ∀ hg, t.entry hg = (rows.foldl ReplicationRow.publish ∅).lookup hg := by
      intro hg
      simp only [t, entry, reload, hsnapshot, Option.bind_some]
    refine ⟨?_, hactive, hactivation⟩
    rintro earlier row later rfl hpolardb hlater
    rw [hentry, hentry]
    exact ⟨ReplicationRow.publishRows_lookup ⟨hpolardb, Or.inl rfl⟩ (fun r hr => (hlater r hr).1) ∅,
      ReplicationRow.publishRows_lookup ⟨hpolardb, Or.inr rfl⟩ (fun r hr => (hlater r hr).2) ∅⟩

/-- Three accepted rows: the entry of the first is lost on its reader side to the second,
and the third, which is not a PolarDB row, has none. -/
theorem reload_pairUnrepresented :
    let row (w r check : String) : ReplicationRow :=
      { writerHostgroup := w.toList, readerHostgroup := r.toList, checkType := check.toList,
        txnSplitEnabled := ['0'], consistencyMode := "eventual".toList, maxLagBytes := ['0'],
        lsnWaitTimeoutMs := ['0'], proxyProtocol := "off".toList, comment := [] }
    let rows := [row "1" "2" "polardb", row "2" "3" "polardb", row "4" "5" "read_only"]
    let config : GlobalConfig :=
      { profile := 3, consistencyMode := 1, missingLsnAction := 0, lsnWaitTimeoutAction := 1,
        proxyProtocol := .v15 }
    let env : Environment (List (List Char)) := { execute := List.cons, visit := id }
    let t := Manager.reload env config rows { mydb := [] }
    rows.findSome? (ReplicationRow.error config) = none ∧
      t.entry 1 = some (row "1" "2" "polardb").snapshotEntry ∧
      t.entry 2 = some (row "2" "3" "polardb").snapshotEntry ∧
      t.entry 2 ≠ some (row "1" "2" "polardb").snapshotEntry ∧
      t.entry 4 = none ∧ t.entry 5 = none := by
  decide +kernel

end Manager

end Topology

end PolarProxy
