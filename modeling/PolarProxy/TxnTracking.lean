import PolarProxy.TxnState

/-!
# What the transaction tracker guarantees

The tracker compares values by their hashes.  `HashOk` says that the values in
play have hashes that tell them apart; a record of a connection is then decided by
its hash, and putting a snapshot back gives exactly the snapshot.

**Results.** `TxnSystem.Sound`, `TxnSystem.Followed`.
-/

namespace PolarProxy

open Transition

variable {V : Type} {hash32 : V → Nat} {known : V → Prop}

/-- The hashes of the values in play are not zero and tell the values apart. -/
structure HashOk (hash32 : V → Nat) (known : V → Prop) : Prop where
  ne_zero : ∀ v, known v → hash32 v ≠ 0
  inj : ∀ v w, known v → known w → hash32 v = hash32 w → v = w

/-- A variable that is unset, or set to a value with its hash. -/
def TrackedValue.Hashed (hash32 : V → Nat) (known : V → Prop) (x : TrackedValue V) : Prop :=
  x = {} ∨ ∃ v, known v ∧ x = ⟨hash32 v, some v⟩

namespace TrackedValue.Hashed

variable {x y : TrackedValue V}

theorem unset_of_hash
    (hok : HashOk hash32 known)
    (hx : x.Hashed hash32 known)
    (hzero : x.hash = 0) :
    x = {} := by
  rcases hx with rfl | ⟨v, hv, rfl⟩
  · rfl
  · exact absurd hzero (hok.ne_zero v hv)

theorem eq_of_hash
    (hok : HashOk hash32 known)
    (hx : x.Hashed hash32 known)
    (hy : y.Hashed hash32 known)
    (heq : x.hash = y.hash) :
    x = y := by
  rcases hx with rfl | ⟨v, hv, rfl⟩
  · exact (hy.unset_of_hash hok heq.symm).symm
  · rcases hy with rfl | ⟨w, hw, rfl⟩
    · exact absurd heq (hok.ne_zero v hv)
    · rw [hok.inj v w hv hw heq]

end TrackedValue.Hashed

/-- The variables of a client: hashed, and the critical ones set. -/
def VarsOk (hash32 : V → Nat) (known : V → Prop) (vars : ConnVars V) : Prop :=
  ∀ idx, (vars idx).Hashed hash32 known ∧ (idx.val < lastLowWm → (vars idx).hash ≠ 0)

namespace TxnSession

variable {s : TxnSession V} {snapshot : ConnVars V}

theorem takeSnapshot_eq
    (hok : HashOk hash32 known)
    (h : VarsOk hash32 known snapshot) :
    takeSnapshot snapshot = snapshot := by
  funext idx
  unfold takeSnapshot
  split
  · rfl
  · rename_i hzero
    exact ((h idx).1.unset_of_hash hok (not_not.mp hzero)).symm

theorem restoreVar_eq
    (hok : HashOk hash32 known)
    (hsnapshot : VarsOk hash32 known snapshot)
    (hclient : ∀ idx, (s.client idx).Hashed hash32 known)
    (hserver : s.server = s.client)
    (idx : VarIdx) :
    restoreVar snapshot s idx = some { s with
      client := Function.update s.client idx (snapshot idx)
      server := Function.update s.client idx (snapshot idx) } := by
  obtain ⟨mgr, client, server⟩ := s
  obtain rfl : server = client := hserver
  unfold restoreVar
  split
  · rw [if_neg (not_not.mpr rfl)]
    split
    · rename_i hsame
      have hrecord : snapshot idx = server idx :=
        (hsnapshot idx).1.eq_of_hash hok (hclient idx) hsame
      simp only [hrecord, Function.update_eq_self]
    · rfl
  · rename_i hzero
    have hunset := (hsnapshot idx).1.unset_of_hash hok (not_not.mp hzero)
    rw [if_neg fun hlow => hzero ((hsnapshot idx).2 hlow)]
    have hreset : resetValue (server idx) = snapshot idx := by
      unfold resetValue
      rw [hunset]
      split
      · rfl
      · rename_i hclear
        exact (hclient idx).unset_of_hash hok (not_not.mp hclear)
    simp only [hreset]

theorem restore_eq
    (hok : HashOk hash32 known)
    (hsnapshot : VarsOk hash32 known snapshot)
    (hclient : ∀ idx, (s.client idx).Hashed hash32 known)
    (hserver : s.server = s.client) :
    s.restore snapshot = some { s with client := snapshot, server := snapshot } := by
  have hloop : ∀ (l : List VarIdx) (s : TxnSession V),
      (∀ idx, (s.client idx).Hashed hash32 known) → s.server = s.client →
      l.foldlM (restoreVar snapshot) s = some { s with
        client := fun idx => if idx ∈ l then snapshot idx else s.client idx
        server := fun idx => if idx ∈ l then snapshot idx else s.client idx } := by
    intro l
    induction l with
    | nil =>
        intro s _ hserver
        obtain ⟨mgr, client, server⟩ := s
        obtain rfl : server = client := hserver
        simp
    | cons idx rest ih =>
        intro s hclient hserver
        have hupdated : ∀ j, (Function.update s.client idx (snapshot idx) j).Hashed
            hash32 known := by
          intro j
          by_cases hj : j = idx
          · subst hj
            rw [Function.update_self]
            exact (hsnapshot j).1
          · rw [Function.update_of_ne hj]
            exact hclient j
        rw [List.foldlM_cons, restoreVar_eq hok hsnapshot hclient hserver]
        refine (ih _ hupdated rfl).trans ?_
        have hvars : (fun j => if j ∈ rest then snapshot j
            else Function.update s.client idx (snapshot idx) j) =
            fun j => if j ∈ idx :: rest then snapshot j else s.client j := by
          funext j
          by_cases hj : j = idx
          · subst hj
            simp
          · simp [hj]
        rw [hvars]
  rw [restore, hloop _ s hclient hserver]
  simp [List.mem_finRange]

/-- What the manager does to a session when no assertion fails. -/
def follow (s : TxnSession V) : TxnCommand → TxnSession V
  | .begin_ =>
      if s.isInTransaction then s
      else { s with mgr := { s.mgr with transactionState := [s.client] } }
  | .commit _ => { s with mgr := {} }
  | .rollback chain =>
      match s.mgr.transactionState with
      | [] => s
      | first :: _ =>
          { mgr := { transactionState := if chain then [first] else [] }
            client := first
            server := first }
  | .savepoint name =>
      if !s.isInTransaction || (s.findSavepoint name.chars).isSome then s
      else
        { s with mgr :=
            { transactionState := s.mgr.transactionState ++ [s.client]
              savepoint := s.mgr.savepoint ++ [name.chars] } }
  | .release name =>
      match s.findSavepoint name.chars with
      | none => s
      | some index => s.cutAt index
  | .rollbackTo name =>
      match s.findSavepoint name.chars with
      | none => s
      | some index =>
          match s.mgr.transactionState[index + 1]? with
          | none => s
          | some snapshot => { s.cutAt index with client := snapshot, server := snapshot }

/-- The vectors are empty, or there is one snapshot more than savepoints. -/
def Shaped (s : TxnSession V) : Prop :=
  s.mgr.transactionState = [] ∧ s.mgr.savepoint = [] ∨
    s.mgr.transactionState.length = s.mgr.savepoint.length + 1

/-- A session between statements, all of whose records are in order. -/
structure Settled (hash32 : V → Nat) (known : V → Prop) (s : TxnSession V) : Prop where
  client : VarsOk hash32 known s.client
  server : s.server = s.client
  snapshots : ∀ x ∈ s.mgr.transactionState, VarsOk hash32 known x
  shaped : s.Shaped

theorem isInTransaction_eq_false
    (h : s.isInTransaction = false) :
    s.mgr.transactionState = [] := by
  simpa [isInTransaction] using h

theorem exists_of_isInTransaction
    (h : s.isInTransaction = true) :
    ∃ first rest, s.mgr.transactionState = first :: rest :=
  List.exists_cons_of_ne_nil (by simpa [isInTransaction] using h)

variable {name : List Char} {index : Nat}

theorem findSavepoint_lt
    (h : s.findSavepoint name = some index) :
    index < s.mgr.savepoint.length := by
  rw [findSavepoint, List.findIdx?_eq_some_iff_getElem] at h
  exact h.1

theorem Shaped.savepoint_eq_nil
    (h : s.Shaped)
    (hempty : s.mgr.transactionState = []) :
    s.mgr.savepoint = [] := by
  rcases h with h | h
  · exact h.2
  · rw [hempty] at h
    simp at h

theorem Shaped.length_eq
    (h : s.Shaped)
    (hne : s.mgr.transactionState ≠ []) :
    s.mgr.transactionState.length = s.mgr.savepoint.length + 1 :=
  h.resolve_left fun hempty => hne hempty.1

theorem Shaped.lt_length
    (h : s.Shaped)
    (hfind : s.findSavepoint name = some index) :
    index + 1 < s.mgr.transactionState.length := by
  have hlt := findSavepoint_lt hfind
  have hne : s.mgr.transactionState ≠ [] := by
    intro hempty
    rw [h.savepoint_eq_nil hempty] at hlt
    simp at hlt
  have := h.length_eq hne
  omega

theorem Shaped.cutAt
    (h : s.Shaped)
    (hfind : s.findSavepoint name = some index) :
    (s.cutAt index).Shaped := by
  have hlt := h.lt_length hfind
  have hlt' := findSavepoint_lt hfind
  right
  simp only [TxnSession.cutAt, List.length_take]
  omega

/-- No assertion fails when the transaction status of the backend fits. -/
theorem Settled.handle
    (hok : HashOk hash32 known)
    (h : s.Settled hash32 known)
    {command : TxnCommand} {text : List Char}
    (htext : parseTxnCmd text = parseTxnCmd command.text)
    (active : Bool)
    (hopen : s.isInTransaction = true → command = .begin_ → active = true)
    (hclosed : s.isInTransaction = false → command ≠ .begin_ → active = false) :
    ∃ done, s.handleTransaction text active = some (done, s.follow command) := by
  have hclient := fun idx => (h.client idx).1
  have hcritical : ¬ ∃ idx : VarIdx, (s.client idx).hash = 0 ∧ idx.val < lastLowWm := by
    rintro ⟨idx, hzero, hlow⟩
    exact (h.client idx).2 hlow hzero
  unfold handleTransaction
  rw [htext, parse_text]
  cases htx : s.isInTransaction with
  | false =>
      have hempty := isInTransaction_eq_false htx
      have hnames := h.shaped.savepoint_eq_nil hempty
      have hmgr : s.mgr = {} := by
        cases hm : s.mgr with
        | mk ts sp =>
            rw [hm] at hempty hnames
            simp only at hempty hnames
            rw [hempty, hnames]
      have hfind : ∀ name, s.findSavepoint name = none := by
        intro name
        simp [findSavepoint, hnames]
      cases command with
      | begin_ =>
          simp [TxnCommand.parsed, startTransaction, follow, htx, hcritical,
            takeSnapshot_eq hok h.client]
      | commit chain =>
          simp [TxnCommand.parsed, commit, follow, htx, hclosed htx (by simp), ← hmgr]
      | rollback chain =>
          cases chain <;>
            simp [TxnCommand.parsed, rollback, follow, hempty, hclosed htx (by simp)]
      | savepoint name =>
          simp [TxnCommand.parsed, addSavepoint, follow, htx, hclosed htx (by simp)]
      | release name =>
          simp [TxnCommand.parsed, releaseSavepoint, follow, htx, hfind, hclosed htx (by simp)]
      | rollbackTo name =>
          simp [TxnCommand.parsed, rollbackToSavepoint, follow, htx, hfind, hclosed htx (by simp)]
  | true =>
      obtain ⟨first, rest, hstate⟩ := exists_of_isInTransaction htx
      have hlength := h.shaped.length_eq (by simp [hstate])
      cases command with
      | begin_ =>
          simp [TxnCommand.parsed, startTransaction, follow, htx, hopen htx rfl]
      | commit chain =>
          simp [TxnCommand.parsed, commit, follow, htx]
      | rollback chain =>
          have hfirst := h.snapshots first (by rw [hstate]; exact List.mem_cons_self ..)
          have hrestore := restore_eq hok hfirst hclient h.server
          cases chain <;> simp [TxnCommand.parsed, rollback, follow, hstate, hrestore]
      | savepoint name =>
          cases hfind : (s.findSavepoint name.chars).isSome with
          | true =>
              simp [TxnCommand.parsed, addSavepoint, follow, htx, hfind]
          | false =>
              simp [TxnCommand.parsed, addSavepoint, follow, htx, hfind, hlength,
                takeSnapshot_eq hok h.client]
      | release name =>
          cases hfind : s.findSavepoint name.chars with
          | none =>
              simp [TxnCommand.parsed, releaseSavepoint, follow, htx, hfind]
          | some index =>
              simp [TxnCommand.parsed, releaseSavepoint, follow, htx, hfind]
      | rollbackTo name =>
          cases hfind : s.findSavepoint name.chars with
          | none =>
              simp [TxnCommand.parsed, rollbackToSavepoint, follow, htx, hfind]
          | some index =>
              have hlt := h.shaped.lt_length hfind
              have hsnapshot := List.getElem?_eq_getElem hlt
              have hrestore := restore_eq hok (h.snapshots _ (List.getElem_mem hlt)) hclient h.server
              simp [TxnCommand.parsed, rollbackToSavepoint, follow, htx, hfind, hsnapshot,
                hrestore, cutAt]

theorem Settled.cutAt
    (h : s.Settled hash32 known)
    (hfind : s.findSavepoint name = some index) :
    (s.cutAt index).Settled hash32 known :=
  ⟨h.client, h.server, fun x hx => h.snapshots x (List.mem_of_mem_take hx), h.shaped.cutAt hfind⟩

theorem Settled.follow
    (h : s.Settled hash32 known)
    (command : TxnCommand) :
    (s.follow command).Settled hash32 known := by
  cases command with
  | begin_ =>
      rw [TxnSession.follow]
      split
      · exact h
      · rename_i hclosed
        have hempty := isInTransaction_eq_false (by simpa using hclosed)
        refine ⟨h.client, h.server, ?_, Or.inr ?_⟩
        · intro x hx
          rw [List.mem_singleton.mp hx]
          exact h.client
        · simp [h.shaped.savepoint_eq_nil hempty]
  | commit chain =>
      exact ⟨h.client, h.server, by simp [TxnSession.follow], Or.inl ⟨rfl, rfl⟩⟩
  | rollback chain =>
      rw [TxnSession.follow]
      split
      · exact h
      · rename_i first rest hstate
        have hfirst := h.snapshots first (by rw [hstate]; exact List.mem_cons_self ..)
        cases chain with
        | false =>
            exact ⟨hfirst, rfl, by simp, Or.inl ⟨rfl, rfl⟩⟩
        | true =>
            exact ⟨hfirst, rfl, by simpa using hfirst, Or.inr rfl⟩
  | savepoint name =>
      rw [TxnSession.follow]
      split
      · exact h
      · rename_i hopen
        rw [Bool.or_eq_true, not_or, Bool.not_eq_true, Bool.not_eq_false'] at hopen
        obtain ⟨first, rest, hstate⟩ := exists_of_isInTransaction hopen.1
        have hlength := h.shaped.length_eq (by simp [hstate])
        refine ⟨h.client, h.server, ?_, Or.inr ?_⟩
        · intro x hx
          rcases List.mem_append.mp hx with hx | hx
          · exact h.snapshots x hx
          · rw [List.mem_singleton.mp hx]
            exact h.client
        · simp [hlength]
  | release name =>
      rw [TxnSession.follow]
      split
      · exact h
      · rename_i index hfind
        exact h.cutAt hfind
  | rollbackTo name =>
      rw [TxnSession.follow]
      split
      · exact h
      · rename_i index hfind
        split
        · exact h
        · rename_i snapshot hsnapshot
          have hcut := h.cutAt hfind
          exact ⟨h.snapshots snapshot (List.mem_of_getElem? hsnapshot), rfl, hcut.snapshots,
            hcut.shaped⟩

end TxnSession

/-- The digest text of a query is there, and it is read as the command is: the digest keeps the words and
the name. -/
def TxnCommand.KeptBy (command : TxnCommand) (digestText : Option (List Char)) : Prop :=
  ∃ text, digestText = some text ∧ parseTxnCmd text = parseTxnCmd command.text

/-- A command whose digest text is its own text -/
def TxnOp.plain (command : TxnCommand) : TxnOp V :=
  .execute command (some command.text)

/-- Operations that the manager was made to follow: a SET of a value in play, and
every command but COMMIT AND CHAIN, if its digest keeps it. -/
def TxnOp.Tracked (known : V → Prop) : TxnOp V → Prop
  | .set _ value => known value
  | .reset _ => False
  | .lock => False
  | .execute command digestText => command ≠ .commit true ∧ command.KeptBy digestText

namespace TxnSystem

variable {s t : TxnSystem V}

/-- What holds between statements, whatever was released or rolled back to. -/
structure Sound (hash32 : V → Nat) (known : V → Prop) (s : TxnSystem V) : Prop where
  client : VarsOk hash32 known s.session.client
  server : ∀ idx, (s.session.server idx).Hashed hash32 known
  /-- A backend lacks only what the client has set. -/
  pending : ∀ idx, s.session.server idx = s.session.client idx ∨ (s.session.client idx).hash ≠ 0
  snapshots : ∀ x ∈ s.session.mgr.transactionState, VarsOk hash32 known x
  shaped : s.session.Shaped
  inTransaction : s.session.isInTransaction = s.pg.block.isSome
  start : s.pg.block.isSome → s.session.mgr.transactionState.head? = some s.startVars
  unlocked : s.locked = false
  running : s.aborted = false

theorem syncServer_eq
    {client server : TrackedValue V}
    (hok : HashOk hash32 known)
    (hclient : client.Hashed hash32 known)
    (hserver : server.Hashed hash32 known)
    (hpending : server = client ∨ client.hash ≠ 0) :
    syncServer hash32 client server = client := by
  unfold syncServer
  split
  · rename_i hset
    rcases hclient with rfl | ⟨v, -, rfl⟩
    · exact absurd rfl hset.1
    · rfl
  · rename_i hset
    rcases hpending with heq | hne
    · exact heq
    · rw [not_and, not_not] at hset
      exact hserver.eq_of_hash hok hclient (hset hne).symm

/-- Before a statement the backend gets the variables of the client. -/
theorem Sound.settled_sync
    (hok : HashOk hash32 known)
    (h : s.Sound hash32 known) :
    (s.sync hash32).session.Settled hash32 known where
  client := h.client
  server := funext fun idx =>
    syncServer_eq hok (h.client idx).1 (h.server idx) (h.pending idx)
  snapshots := h.snapshots
  shaped := h.shaped

theorem Sound.sync
    (hok : HashOk hash32 known)
    (h : s.Sound hash32 known) :
    (s.sync hash32).Sound hash32 known := by
  have hsettled := h.settled_sync hok
  exact { h with
    server := fun idx => by
      rw [hsettled.server]
      exact (h.client idx).1
    pending := fun idx => Or.inl (by rw [hsettled.server]) }

variable {command : TxnCommand}

/-- What a command that is executed does -/
inductive Executed (pg : PgSession V) : TxnCommand → PgSession V → Prop
  | outside {command : TxnCommand} (hb : pg.block = none)
      (hend : command = .commit false ∨ command = .rollback false) : Executed pg command pg
  | opened (hb : pg.block = none) :
      Executed pg .begin_ { pg with block := some { start := pg.vars } }
  | inside {b : PgBlock V} (hb : pg.block = some b) : Executed pg .begin_ pg
  | committed {b : PgBlock V} {chain : Bool} (hb : pg.block = some b) :
      Executed pg (.commit chain)
        { pg with block := if chain then some { start := pg.vars } else none }
  | rolledBack {b : PgBlock V} {chain : Bool} (hb : pg.block = some b) :
      Executed pg (.rollback chain)
        { vars := b.start, block := if chain then some { start := b.start } else none }
  | saved {b : PgBlock V} {name : SavepointName} (hb : pg.block = some b) :
      Executed pg (.savepoint name) { pg with block := some { b with
        savepoints := ⟨name.identifier, pg.vars, !PgSession.holdsName b name⟩ :: b.savepoints } }
  | released {b : PgBlock V} {name : SavepointName} {e : LiveSavepoint V}
      {older : List (LiveSavepoint V)} (hb : pg.block = some b)
      (hfrom : PgSession.fromSavepoint b name = e :: older) :
      Executed pg (.release name) { pg with block := some { b with savepoints := older } }
  | rolledBackTo {b : PgBlock V} {name : SavepointName} {e : LiveSavepoint V}
      {older : List (LiveSavepoint V)} (hb : pg.block = some b)
      (hfrom : PgSession.fromSavepoint b name = e :: older) :
      Executed pg (.rollbackTo name)
        { vars := e.vars, block := some { b with savepoints := { e with held := false } :: older } }

variable {pg pg' : PgSession V}

theorem executed_of_execute
    {command : TxnCommand}
    (h : pg.execute command = some pg') :
    Executed pg command pg' := by
  cases hb : pg.block with
  | none =>
      cases command with
      | begin_ =>
          simp only [PgSession.execute, hb, Option.some.injEq] at h
          exact h ▸ .opened hb
      | commit chain | rollback chain =>
          cases chain <;> simp [PgSession.execute, hb] at h
          exact h ▸ .outside hb (by simp)
      | savepoint name | release name | rollbackTo name =>
          simp [PgSession.execute, hb] at h
  | some b =>
      cases command with
      | begin_ =>
          simp only [PgSession.execute, hb, Option.some.injEq] at h
          exact h ▸ .inside hb
      | commit chain =>
          simp only [PgSession.execute, hb, Option.some.injEq] at h
          exact h ▸ .committed hb
      | rollback chain =>
          simp only [PgSession.execute, hb, Option.some.injEq] at h
          exact h ▸ .rolledBack hb
      | savepoint name =>
          simp only [PgSession.execute, hb, Option.map_some, Option.some.injEq] at h
          exact h ▸ .saved hb
      | release name =>
          simp only [PgSession.execute, hb] at h
          split at h
          · cases h
          · rename_i hfrom
            exact Option.some.inj h ▸ .released hb hfrom
      | rollbackTo name =>
          simp only [PgSession.execute, hb] at h
          split at h
          · cases h
          · rename_i hfrom
            exact Option.some.inj h ▸ .rolledBackTo hb hfrom

/-- The transaction status after a command. -/
theorem execute_block
    {command : TxnCommand}
    (h : Executed pg command pg') :
    (command = .begin_ → pg'.block.isSome = true) ∧
      (pg.block.isSome = false → command ≠ .begin_ → pg'.block.isSome = false) := by
  cases h with
  | outside hb hend =>
      refine ⟨?_, fun hnone _ => hnone⟩
      rintro rfl
      simp at hend
  | opened hb =>
      exact ⟨fun _ => rfl, fun _ hne => absurd rfl hne⟩
  | inside hb =>
      exact ⟨fun _ => by rw [hb]; rfl, fun _ hne => absurd rfl hne⟩
  | committed hb | rolledBack hb | saved hb | released hb _ | rolledBackTo hb _ =>
      exact ⟨nofun, by simp [hb]⟩

/-- The manager follows PostgreSQL into and out of the block, and its first snapshot
is that of the start. -/
theorem follow_block
    {session : TxnSession V} {command : TxnCommand} {start : ConnVars V}
    (hin : session.isInTransaction = pg.block.isSome)
    (hstart : pg.block.isSome → session.mgr.transactionState.head? = some start)
    (hchain : command ≠ .commit true)
    (h : Executed pg command pg') :
    (session.follow command).isInTransaction = pg'.block.isSome ∧
      (pg'.block.isSome → (session.follow command).mgr.transactionState.head? =
        some (if pg.block.isNone then session.client else start)) := by
  have hinside : ∀ {b}, pg.block = some b → session.isInTransaction = true ∧
      (∃ rest, session.mgr.transactionState = start :: rest) ∧
      (if pg.block.isNone then session.client else start) = start := by
    intro b hb
    rw [hb] at hin hstart
    obtain ⟨first, rest, hstate⟩ := TxnSession.exists_of_isInTransaction hin
    have hfirst := hstart rfl
    rw [hstate, List.head?_cons, Option.some.injEq] at hfirst
    exact ⟨hin, ⟨rest, hfirst ▸ hstate⟩, by rw [hb]; rfl⟩
  have hcut : ∀ index rest, session.mgr.transactionState = start :: rest →
      (session.cutAt index).isInTransaction = true ∧
        (session.cutAt index).mgr.transactionState.head? = some start := by
    intro index rest hstate
    simp [TxnSession.cutAt, TxnSession.isInTransaction, hstate]
  cases h with
  | outside hb hend =>
      rw [hb] at hin ⊢
      have hempty := TxnSession.isInTransaction_eq_false hin
      refine ⟨?_, by simp⟩
      rcases hend with rfl | rfl
      · rfl
      · simp only [TxnSession.follow, hempty]
        exact hin
  | opened hb =>
      rw [hb] at hin ⊢
      rw [TxnSession.follow, if_neg (by simp [hin])]
      exact ⟨rfl, fun _ => rfl⟩
  | inside hb =>
      obtain ⟨hopen, ⟨rest, hstate⟩, hsame⟩ := hinside hb
      rw [hsame, hb, TxnSession.follow, if_pos hopen]
      exact ⟨hopen, fun _ => by rw [hstate]; rfl⟩
  | @committed b chain hb =>
      cases chain with
      | true =>
          exact absurd rfl hchain
      | false =>
          exact ⟨rfl, by simp⟩
  | @rolledBack b chain hb =>
      obtain ⟨-, ⟨rest, hstate⟩, hsame⟩ := hinside hb
      rw [hsame]
      simp only [TxnSession.follow, hstate]
      cases chain with
      | true =>
          exact ⟨rfl, fun _ => rfl⟩
      | false =>
          exact ⟨rfl, by simp⟩
  | saved hb =>
      obtain ⟨hopen, ⟨rest, hstate⟩, hsame⟩ := hinside hb
      rw [hsame, TxnSession.follow]
      split
      · exact ⟨hopen, fun _ => by rw [hstate]; rfl⟩
      · simp [TxnSession.isInTransaction, hstate]
  | released hb hfrom =>
      obtain ⟨hopen, ⟨rest, hstate⟩, hsame⟩ := hinside hb
      rw [hsame, TxnSession.follow]
      split
      · exact ⟨hopen, fun _ => by rw [hstate]; rfl⟩
      · exact ⟨(hcut _ rest hstate).1, fun _ => (hcut _ rest hstate).2⟩
  | rolledBackTo hb hfrom =>
      obtain ⟨hopen, ⟨rest, hstate⟩, hsame⟩ := hinside hb
      rw [hsame, TxnSession.follow]
      split
      · exact ⟨hopen, fun _ => by rw [hstate]; rfl⟩
      · split
        · exact ⟨hopen, fun _ => by rw [hstate]; rfl⟩
        · exact ⟨(hcut _ rest hstate).1, fun _ => (hcut _ rest hstate).2⟩

def afterCommand (s : TxnSystem V) (command : TxnCommand) (pg : PgSession V) : TxnSystem V :=
  { s with
    session := s.session.follow command
    pg := pg
    startVars := if s.pg.block.isNone then s.session.client else s.startVars
    followed := s.followed && s.pg.namesHeld command }

variable {digestText : Option (List Char)}

/-- A statement: the backend gets the variables it lacks, executes the command, and
the manager follows without failing an assertion. -/
theorem Sound.execute
    (hok : HashOk hash32 known)
    (h : s.Sound hash32 known)
    (hkept : command.KeptBy digestText)
    (hstep : s.step hash32 (.execute command digestText) = some t) :
    ∃ pg, (s.sync hash32).pg.execute command = some pg ∧
      t = (s.sync hash32).afterCommand command pg := by
  have hsettled := h.settled_sync hok
  have hsync := h.sync hok
  obtain ⟨text, rfl, htext⟩ := hkept
  rw [step, if_neg (by simp [h.running])] at hstep
  obtain ⟨pg, hpg, rfl⟩ := Option.map_eq_some_iff.mp hstep
  refine ⟨pg, hpg, ?_⟩
  obtain ⟨hbegin, hother⟩ := execute_block (executed_of_execute hpg)
  obtain ⟨done, hhandle⟩ := hsettled.handle hok htext pg.block.isSome
    (fun _ => hbegin) (fun hclosed => hother (hsync.inTransaction.symm.trans hclosed))
  rw [handleTransactionState, if_neg (by simp [hsync.unlocked])]
  simp only [hhandle]
  rfl

theorem Sound.step
    {op : TxnOp V}
    (hok : HashOk hash32 known)
    (h : s.Sound hash32 known)
    (hop : op.Tracked known)
    (hstep : s.step hash32 op = some t) :
    t.Sound hash32 known := by
  cases op with
  | set idx value =>
      rw [TxnSystem.step, if_neg (by simp [h.running])] at hstep
      obtain rfl := Option.some.inj hstep
      have hvalue : (⟨hash32 value, some value⟩ : TrackedValue V).Hashed hash32 known :=
        Or.inr ⟨value, hop, rfl⟩
      refine { h with client := ?_, pending := ?_ }
      · intro j
        by_cases hj : j = idx
        · subst hj
          simp only [Function.update_self]
          exact ⟨hvalue, fun _ => hok.ne_zero value hop⟩
        · simp only [Function.update_of_ne hj]
          exact h.client j
      · intro j
        by_cases hj : j = idx
        · subst hj
          simp only [Function.update_self]
          exact Or.inr (hok.ne_zero value hop)
        · simp only [Function.update_of_ne hj]
          exact h.pending j
  | reset _ | lock =>
      exact absurd hop id
  | execute command digestText =>
      obtain ⟨pg, hpg, rfl⟩ := h.execute hok hop.2 hstep
      have hsync := h.sync hok
      have hfollow := (h.settled_sync hok).follow command
      obtain ⟨hin, hstart⟩ := follow_block hsync.inTransaction hsync.start hop.1
        (executed_of_execute hpg)
      exact
        { client := hfollow.client
          server := fun idx => by
            rw [show (afterCommand _ command pg).session.server = _ from hfollow.server]
            exact (hfollow.client idx).1
          pending := fun idx => Or.inl (congrFun hfollow.server idx)
          snapshots := hfollow.snapshots
          shaped := hfollow.shaped
          inTransaction := hin
          start := hstart
          unlocked := h.unlocked
          running := h.running }

/-! ## Values -/

/-- The values of the variables of a connection. -/
def values (vars : ConnVars V) : PgVars V :=
  fun idx => (vars idx).value

/-- The savepoints that the manager has, the oldest first. -/
def heldOf (savepoints : List (LiveSavepoint V)) : List (LiveSavepoint V) :=
  (savepoints.filter (·.held)).reverse

/-- The variables are those of the backend, and the snapshots are those of the live
savepoints that the manager has. -/
structure Followed (s : TxnSystem V) : Prop where
  vars : values s.session.server = s.pg.vars
  snapshots : ∀ b, s.pg.block = some b →
    s.session.mgr.transactionState.map values =
      b.start :: (heldOf b.savepoints).map (·.vars)
  names : ∀ b, s.pg.block = some b →
    s.session.mgr.savepoint.map foldCase = (heldOf b.savepoints).map (foldCase ·.name)
  distinct : ∀ b, s.pg.block = some b →
    ((heldOf b.savepoints).map (foldCase ·.name)).Nodup

theorem Followed.closed
    (hvars : values s.session.server = s.pg.vars)
    (hb : s.pg.block = none) :
    s.Followed := by
  have hnone : ∀ b, s.pg.block ≠ some b := by
    intro b hb'
    rw [hb] at hb'
    cases hb'
  exact ⟨hvars, fun b hb' => absurd hb' (hnone b), fun b hb' => absurd hb' (hnone b),
    fun b hb' => absurd hb' (hnone b)⟩

variable {b : PgBlock V}

theorem Followed.opened
    (hvars : values s.session.server = s.pg.vars)
    (hb : s.pg.block = some b)
    (hsnapshots : s.session.mgr.transactionState.map values =
      b.start :: (heldOf b.savepoints).map (·.vars))
    (hnames : s.session.mgr.savepoint.map foldCase =
      (heldOf b.savepoints).map (foldCase ·.name))
    (hdistinct : ((heldOf b.savepoints).map (foldCase ·.name)).Nodup) :
    s.Followed := by
  have hsame : ∀ b', s.pg.block = some b' → b' = b := by
    intro b' hb'
    exact Option.some.inj (hb'.symm.trans hb)
  refine ⟨hvars, fun b' hb' => ?_, fun b' hb' => ?_, fun b' hb' => ?_⟩
  · rw [hsame b' hb']
    exact hsnapshots
  · rw [hsame b' hb']
    exact hnames
  · rw [hsame b' hb']
    exact hdistinct

theorem foldCase_identifier
    (name : SavepointName) :
    foldCase name.identifier = foldCase name.chars := by
  have hlower : ∀ c, asciiLower (asciiLower c) = asciiLower c := by
    intro c
    by_cases hupper : 65 ≤ c.toNat ∧ c.toNat ≤ 90
    · have hvalid : (Char.ofNat (c.toNat + 32)).toNat = c.toNat + 32 := by
        rw [Char.ofNat, dif_pos (Or.inl (by omega))]
        rfl
      have hlow : asciiLower c = Char.ofNat (c.toNat + 32) := if_pos hupper
      rw [hlow, asciiLower, if_neg (by omega)]
    · have hsame : asciiLower c = c := if_neg hupper
      rw [hsame, hsame]
  unfold SavepointName.identifier
  split
  · rfl
  · simp [foldCase, Function.comp_def, hlower]

theorem Followed.sync
    (hok : HashOk hash32 known)
    (hsound : s.Sound hash32 known)
    (h : s.Followed) :
    (s.sync hash32).Followed := by
  refine { h with vars := ?_ }
  funext idx
  have hserver : (s.sync hash32).session.server = s.session.client :=
    (hsound.settled_sync hok).server
  have hvars := congrFun h.vars idx
  rw [hserver]
  simp only [TxnSystem.sync, values] at hvars ⊢
  split
  · rfl
  · rename_i hset
    rw [← hvars]
    have hsame := syncServer_eq hok (hsound.client idx).1 (hsound.server idx) (hsound.pending idx)
    rw [syncServer, if_neg hset] at hsame
    rw [hsame]

theorem Followed.findSavepoint
    (h : s.Followed)
    (hb : s.pg.block = some b)
    (name : List Char) :
    s.session.findSavepoint name =
      ((heldOf b.savepoints).map (foldCase ·.name)).findIdx? (· == foldCase name) := by
  rw [← h.names b hb, List.findIdx?_map]
  rfl

theorem Followed.find_held
    {name : SavepointName} {e : LiveSavepoint V} {older : List (LiveSavepoint V)}
    (h : s.Followed)
    (hb : s.pg.block = some b)
    (hfrom : PgSession.fromSavepoint b name = e :: older)
    (hheld : e.held = true) :
    s.session.findSavepoint name.chars = some (heldOf older).length ∧
      ∃ newer, heldOf b.savepoints = heldOf older ++ e :: newer := by
  obtain ⟨newer, hsplit⟩ : ∃ newer, b.savepoints = newer ++ e :: older := by
    refine ⟨b.savepoints.takeWhile fun e => e.name ≠ name.identifier, ?_⟩
    rw [← hfrom]
    exact (List.takeWhile_append_dropWhile ..).symm
  have hheldOf : heldOf b.savepoints = heldOf older ++ e :: heldOf newer := by
    rw [hsplit]
    simp [heldOf, hheld]
  have hname : e.name = name.identifier := by
    have hhead := List.head?_dropWhile_not (fun e : LiveSavepoint V => e.name ≠ name.identifier)
      b.savepoints
    rw [show b.savepoints.dropWhile _ = e :: older from hfrom] at hhead
    simpa using hhead
  refine ⟨?_, heldOf newer, hheldOf⟩
  have hdistinct := h.distinct b hb
  rw [h.findSavepoint hb, hheldOf]
  rw [hheldOf, List.map_append, List.map_cons] at hdistinct
  have hfold : foldCase e.name = foldCase name.chars := by
    rw [hname, foldCase_identifier]
  have hnone : ((heldOf older).map (foldCase ·.name)).findIdx? (· == foldCase name.chars) =
      none := by
    rw [List.findIdx?_eq_none_iff]
    intro x hx
    rw [beq_eq_false_iff_ne, ← hfold]
    exact (List.nodup_append.mp hdistinct).2.2 x hx _ (List.mem_cons_self ..)
  rw [List.map_append, List.map_cons, List.findIdx?_append, hnone, hfold]
  simp [List.findIdx?_cons]

theorem Followed.holdsName_eq
    (h : s.Followed)
    (hb : s.pg.block = some b)
    (name : SavepointName) :
    (s.session.findSavepoint name.chars).isSome = PgSession.holdsName b name := by
  rw [h.findSavepoint hb, List.findIdx?_isSome, List.any_map, PgSession.holdsName, heldOf,
    List.any_reverse, List.any_filter]
  rfl

theorem Followed.cutAt
    {name : SavepointName} {e : LiveSavepoint V} {older : List (LiveSavepoint V)}
    (h : s.Followed)
    (hb : s.pg.block = some b)
    (hfrom : PgSession.fromSavepoint b name = e :: older)
    (hheld : e.held = true) :
    ∃ index snapshot, s.session.findSavepoint name.chars = some index ∧
      s.session.mgr.transactionState[index + 1]? = some snapshot ∧ values snapshot = e.vars ∧
      (s.session.cutAt index).mgr.transactionState.map values =
        b.start :: (heldOf older).map (·.vars) ∧
      (s.session.cutAt index).mgr.savepoint.map foldCase =
        (heldOf older).map (foldCase ·.name) ∧
      ((heldOf older).map (foldCase ·.name)).Nodup := by
  obtain ⟨hfind, newer, hheldOf⟩ := h.find_held hb hfrom hheld
  have hsnapshots := h.snapshots b hb
  have hnames := h.names b hb
  have hdistinct := h.distinct b hb
  rw [hheldOf, List.map_append] at hsnapshots hnames hdistinct
  have hat : (s.session.mgr.transactionState.map values)[(heldOf older).length + 1]? =
      some e.vars := by
    rw [hsnapshots, List.getElem?_cons_succ, List.getElem?_append_right (by simp)]
    simp
  rw [List.getElem?_map] at hat
  obtain ⟨snapshot, hsnapshot, hvalues⟩ := Option.map_eq_some_iff.mp hat
  refine ⟨(heldOf older).length, snapshot, hfind, hsnapshot, hvalues, ?_, ?_,
    (List.nodup_append.mp hdistinct).1⟩
  · simp only [TxnSession.cutAt, List.map_take]
    rw [hsnapshots, List.take_succ_cons, List.take_left' (by simp)]
  · simp only [TxnSession.cutAt, List.map_take]
    rw [hnames, List.take_left' (by simp)]

/-- The state after a command, where the session that follows it is known. -/
theorem Followed.ofFollow
    {u : TxnSession V}
    (hfollow : s.session.follow command = u)
    (hb : pg.block = some b)
    (hvars : values u.server = pg.vars)
    (hsnapshots : u.mgr.transactionState.map values =
      b.start :: (heldOf b.savepoints).map (·.vars))
    (hnames : u.mgr.savepoint.map foldCase = (heldOf b.savepoints).map (foldCase ·.name))
    (hdistinct : ((heldOf b.savepoints).map (foldCase ·.name)).Nodup) :
    (s.afterCommand command pg).Followed := by
  subst hfollow
  exact .opened hvars hb hsnapshots hnames hdistinct

theorem Followed.afterRollback
    {chain : Bool}
    (h : s.Followed)
    (hin : s.session.isInTransaction = true)
    (hb : s.pg.block = some b) :
    (s.afterCommand (.rollback chain)
      { vars := b.start, block := if chain then some { start := b.start } else none }).Followed := by
  obtain ⟨first, rest, hstate⟩ := TxnSession.exists_of_isInTransaction hin
  have hfirst : values first = b.start := by
    have hsnapshots := h.snapshots b hb
    rw [hstate, List.map_cons] at hsnapshots
    exact (List.cons.inj hsnapshots).1
  have hfollow : s.session.follow (.rollback chain) =
      { mgr := { transactionState := if chain then [first] else [] }
        client := first
        server := first } := by
    simp only [TxnSession.follow, hstate]
  cases chain with
  | false =>
      refine .closed ?_ rfl
      rw [show (s.afterCommand (.rollback false) _).session = _ from hfollow]
      exact hfirst
  | true =>
      exact .ofFollow hfollow rfl hfirst (congrArg (· :: []) hfirst) rfl List.nodup_nil

/-- A name that the manager has is not recorded again. -/
theorem Followed.afterSavepoint
    {name : SavepointName}
    (h : s.Followed)
    (hserver : s.session.server = s.session.client)
    (hin : s.session.isInTransaction = true)
    (hb : s.pg.block = some b) :
    (s.afterCommand (.savepoint name) { s.pg with block := some { b with
      savepoints := ⟨name.identifier, s.pg.vars, !PgSession.holdsName b name⟩ ::
        b.savepoints } }).Followed := by
  have hholds := h.holdsName_eq hb name
  cases hfind : PgSession.holdsName b name with
  | true =>
      rw [hfind] at hholds
      have hsame : s.session.follow (.savepoint name) = s.session := by
        simp [TxnSession.follow, hholds]
      exact .ofFollow hsame rfl h.vars (h.snapshots b hb) (h.names b hb) (h.distinct b hb)
  | false =>
      rw [hfind] at hholds
      have hpushed : s.session.follow (.savepoint name) = { s.session with mgr :=
          { transactionState := s.session.mgr.transactionState ++ [s.session.client]
            savepoint := s.session.mgr.savepoint ++ [name.chars] } } := by
        simp [TxnSession.follow, hholds, hin]
      have hheldOf : heldOf (⟨name.identifier, s.pg.vars, true⟩ :: b.savepoints) =
          heldOf b.savepoints ++ [⟨name.identifier, s.pg.vars, true⟩] := by
        simp [heldOf]
      refine .ofFollow hpushed rfl h.vars ?_ ?_ ?_
      · simp only [Bool.not_false, hheldOf, List.map_append, h.snapshots b hb, List.map_cons,
          List.map_nil, ← hserver, h.vars]
        rfl
      · simp only [Bool.not_false, hheldOf, List.map_append, h.names b hb, List.map_cons,
          List.map_nil, foldCase_identifier]
      · simp only [Bool.not_false, hheldOf, List.map_append, List.map_cons, List.map_nil,
          foldCase_identifier]
        rw [h.findSavepoint hb, Option.isSome_eq_false_iff, Option.isNone_iff_eq_none,
          List.findIdx?_eq_none_iff] at hholds
        refine (List.perm_append_singleton _ _).nodup_iff.mpr
          (List.nodup_cons.mpr ⟨fun hmem => ?_, h.distinct b hb⟩)
        exact absurd (hholds _ hmem) (by simp)

theorem Followed.afterCommand
    (hsound : s.Sound hash32 known)
    (hserver : s.session.server = s.session.client)
    (h : s.Followed)
    (hchain : command ≠ .commit true)
    (hheld : s.pg.namesHeld command = true)
    (hpg : Executed s.pg command pg) :
    (s.afterCommand command pg).Followed := by
  have hin := hsound.inTransaction
  have hopen : ∀ {b}, s.pg.block = some b → s.session.isInTransaction = true := by
    intro b hb
    rw [hin, hb]
    rfl
  cases hpg with
  | outside hb hend =>
      rw [hb] at hin
      have hempty := TxnSession.isInTransaction_eq_false hin
      refine .closed ?_ hb
      rcases hend with rfl | rfl
      · exact h.vars
      · simp only [TxnSystem.afterCommand, TxnSession.follow, hempty]
        exact h.vars
  | opened hb =>
      rw [hb] at hin
      have hnames := hsound.shaped.savepoint_eq_nil (TxnSession.isInTransaction_eq_false hin)
      have hclosed : ¬ s.session.isInTransaction = true := by simp [hin]
      refine .ofFollow (if_neg hclosed) rfl h.vars ?_ ?_ List.nodup_nil
      · rw [← hserver]
        exact congrArg (· :: []) h.vars
      · exact congrArg (List.map foldCase) hnames
  | inside hb =>
      exact .ofFollow (if_pos (hopen hb)) hb h.vars (h.snapshots _ hb) (h.names _ hb)
        (h.distinct _ hb)
  | @committed b chain hb =>
      cases chain with
      | true =>
          exact absurd rfl hchain
      | false =>
          exact .closed h.vars rfl
  | rolledBack hb =>
      exact h.afterRollback (hopen hb) hb
  | saved hb =>
      exact h.afterSavepoint hserver (hopen hb) hb
  | @released b name e older hb hfrom =>
      simp only [PgSession.namesHeld, hb, Option.all_some, hfrom, List.head?_cons] at hheld
      obtain ⟨index, snapshot, hfind, -, -, hts, hsp, hnodup⟩ := h.cutAt hb hfrom hheld
      have hfollow : s.session.follow (.release name) = s.session.cutAt index := by
        simp only [TxnSession.follow, hfind]
      exact .ofFollow hfollow rfl h.vars hts hsp hnodup
  | @rolledBackTo b name e older hb hfrom =>
      simp only [PgSession.namesHeld, hb, Option.all_some, hfrom, List.head?_cons] at hheld
      obtain ⟨index, snapshot, hfind, hsnapshot, hvalues, hts, hsp, hnodup⟩ :=
        h.cutAt hb hfrom hheld
      have hfollow : s.session.follow (.rollbackTo name) =
          { s.session.cutAt index with client := snapshot, server := snapshot } := by
        simp only [TxnSession.follow, hfind, hsnapshot]
      exact .ofFollow hfollow rfl hvalues hts hsp hnodup

theorem Followed.step
    {op : TxnOp V}
    (hok : HashOk hash32 known)
    (hsound : s.Sound hash32 known)
    (h : s.Followed)
    (hop : op.Tracked known)
    (hstep : s.step hash32 op = some t)
    (hfollowed : t.followed = true) :
    t.Followed := by
  cases op with
  | set idx value =>
      rw [TxnSystem.step, if_neg (by simp [hsound.running])] at hstep
      obtain rfl := Option.some.inj hstep
      exact ⟨h.vars, h.snapshots, h.names, h.distinct⟩
  | reset _ | lock =>
      exact absurd hop id
  | execute command digestText =>
      obtain ⟨pg, hpg, rfl⟩ := hsound.execute hok hop.2 hstep
      have hheld : (s.sync hash32).pg.namesHeld command = true :=
        (Bool.and_eq_true_iff.mp hfollowed).2
      exact (h.sync hok hsound).afterCommand (hsound.sync hok)
        (hsound.settled_sync hok).server hop.1 hheld (executed_of_execute hpg)

/-- A command that no longer names a savepoint the manager has is remembered. -/
theorem followed_of_step
    {op : TxnOp V}
    (hok : HashOk hash32 known)
    (hsound : s.Sound hash32 known)
    (hop : op.Tracked known)
    (hstep : s.step hash32 op = some t)
    (hfollowed : t.followed = true) :
    s.followed = true := by
  cases op with
  | set idx value =>
      rw [TxnSystem.step, if_neg (by simp [hsound.running])] at hstep
      obtain rfl := Option.some.inj hstep
      exact hfollowed
  | reset _ | lock =>
      exact absurd hop id
  | execute command digestText =>
      obtain ⟨pg, hpg, rfl⟩ := hsound.execute hok hop.2 hstep
      exact (Bool.and_eq_true_iff.mp hfollowed).1

/-! ## Runs -/

theorem Sound.init
    {vars : ConnVars V}
    (hvars : VarsOk hash32 known vars) :
    (init vars).Sound hash32 known where
  client := hvars
  server idx := (hvars idx).1
  pending _ := Or.inl rfl
  snapshots x hx := by
    simp [TxnSystem.init] at hx
  shaped := Or.inl ⟨rfl, rfl⟩
  inTransaction := rfl
  start hopen := by
    simp [TxnSystem.init] at hopen
  unlocked := rfl
  running := rfl

/-- Along a run of operations that the manager was made to follow. -/
theorem run_sound_followed
    {vars : ConnVars V} {ops : List (TxnOp V)}
    (hok : HashOk hash32 known)
    (hvars : VarsOk hash32 known vars)
    (hops : ∀ op ∈ ops, op.Tracked known)
    (hrun : Run (fun s op t => step hash32 s op = some t) (init vars) ops s) :
    s.Sound hash32 known ∧ (s.followed = true → s.Followed) := by
  induction hrun with
  | nil =>
      exact ⟨.init hvars, fun _ => .closed rfl rfl⟩
  | @snoc ls t u op _ hstep ih =>
      have htracked : op.Tracked known := hops op (by simp)
      obtain ⟨hsound, hfollowed⟩ := ih fun op hop => hops op (by simp [hop])
      refine ⟨hsound.step hok htracked hstep, fun hu => ?_⟩
      have ht := followed_of_step hok hsound htracked hstep hu
      exact (hfollowed ht).step hok hsound htracked hstep hu

/-- The live savepoints that the manager has. -/
def heldSavepoints (pg : PgSession V) : List (LiveSavepoint V) :=
  match pg.block with
  | none => []
  | some b => heldOf b.savepoints

theorem Sound.vectors
    (h : s.Sound hash32 known) :
    if s.session.isInTransaction then
      s.session.mgr.transactionState.length = s.session.mgr.savepoint.length + 1
    else s.session.mgr.transactionState = [] ∧ s.session.mgr.savepoint = [] := by
  split
  · rename_i hin
    obtain ⟨first, rest, hstate⟩ := TxnSession.exists_of_isInTransaction hin
    exact h.shaped.length_eq (by simp [hstate])
  · rename_i hin
    have hempty := TxnSession.isInTransaction_eq_false (Bool.eq_false_iff.mpr hin)
    exact ⟨hempty, h.shaped.savepoint_eq_nil hempty⟩

theorem Sound.rollback
    {chain : Bool}
    (hok : HashOk hash32 known)
    (h : s.Sound hash32 known)
    (hopen : s.pg.block.isSome = true)
    (hkept : (TxnCommand.rollback chain).KeptBy digestText)
    (hstep : s.step hash32 (.execute (.rollback chain) digestText) = some t) :
    t.session.client = s.startVars ∧ t.session.server = s.startVars := by
  obtain ⟨pg, -, rfl⟩ := h.execute hok hkept hstep
  obtain ⟨rest, hstate⟩ : ∃ rest, s.session.mgr.transactionState = s.startVars :: rest := by
    obtain ⟨first, rest, hstate⟩ :=
      TxnSession.exists_of_isInTransaction (h.inTransaction.trans hopen)
    have hstart := h.start hopen
    rw [hstate, List.head?_cons, Option.some.injEq] at hstart
    exact ⟨rest, by rw [hstate, hstart]⟩
  have hsame : (s.sync hash32).session.mgr = s.session.mgr := rfl
  simp only [TxnSystem.afterCommand, TxnSession.follow, hsame, hstate]
  exact ⟨trivial, trivial⟩

theorem Followed.count_eq
    (hsound : s.Sound hash32 known)
    (h : s.Followed) :
    s.session.getSavepointCount = (heldSavepoints s.pg).length := by
  cases hb : s.pg.block with
  | none =>
      have hin := hsound.inTransaction
      rw [hb] at hin
      have hempty := TxnSession.isInTransaction_eq_false hin
      rw [TxnSession.getSavepointCount, hsound.shaped.savepoint_eq_nil hempty, heldSavepoints, hb]
      rfl
  | some b =>
      have hnames := congrArg List.length (h.names b hb)
      rw [List.length_map, List.length_map] at hnames
      rw [TxnSession.getSavepointCount, hnames, heldSavepoints, hb]

theorem Followed.rollbackTo
    {name : SavepointName}
    (hok : HashOk hash32 known)
    (hsound : s.Sound hash32 known)
    (h : s.Followed)
    (hheld : s.pg.namesHeld (.rollbackTo name) = true)
    (hkept : (TxnCommand.rollbackTo name).KeptBy digestText)
    (hstep : s.step hash32 (.execute (.rollbackTo name) digestText) = some t) :
    ∃ b e older, s.pg.block = some b ∧ PgSession.fromSavepoint b name = e :: older ∧
      values t.session.client = e.vars ∧ values t.session.server = e.vars := by
  obtain ⟨pg, hpg, rfl⟩ := hsound.execute hok hkept hstep
  have hsync := h.sync hok hsound
  cases executed_of_execute hpg with
  | outside _ hend =>
      simp at hend
  | @rolledBackTo b _ e older hb hfrom =>
      have hb' : s.pg.block = some b := hb
      refine ⟨b, e, older, hb', hfrom, ?_⟩
      simp only [PgSession.namesHeld, hb', Option.all_some, hfrom, List.head?_cons] at hheld
      obtain ⟨index, snapshot, hfind, hsnapshot, hvalues, -⟩ := hsync.cutAt hb hfrom hheld
      simp only [TxnSystem.afterCommand, TxnSession.follow, hfind, hsnapshot]
      exact ⟨hvalues, hvalues⟩

/-- The tracker along every run whose digests keep the commands: no assertion fails, it knows whether a
block is open, ROLLBACK restores the variables, and while every RELEASE and ROLLBACK TO names a
savepoint it has, it agrees with the backend on the variables. -/
theorem txn_state_follows_backend
    {vars : ConnVars V} {ops : List (TxnOp V)}
    (hok : HashOk hash32 known)
    (hvars : VarsOk hash32 known vars)
    (hops : ∀ op ∈ ops, op.Tracked known)
    (hrun : Run (fun s op t => step hash32 s op = some t) (init vars) ops s) :
    s.aborted = false ∧
      s.session.isInTransaction = s.pg.block.isSome ∧
      (if s.session.isInTransaction then
        s.session.mgr.transactionState.length = s.session.mgr.savepoint.length + 1
      else s.session.mgr.transactionState = [] ∧ s.session.mgr.savepoint = []) ∧
      (∀ chain digestText t, s.pg.block.isSome = true →
        (TxnCommand.rollback chain).KeptBy digestText →
        s.step hash32 (.execute (.rollback chain) digestText) = some t →
        t.session.client = s.startVars ∧ t.session.server = s.startVars) ∧
      (s.followed = true →
        s.session.getSavepointCount = (heldSavepoints s.pg).length ∧
        values (s.sync hash32).session.client = (s.sync hash32).pg.vars ∧
        values (s.sync hash32).session.server = (s.sync hash32).pg.vars ∧
        ∀ name digestText t, s.pg.namesHeld (.rollbackTo name) = true →
          (TxnCommand.rollbackTo name).KeptBy digestText →
          s.step hash32 (.execute (.rollbackTo name) digestText) = some t →
          ∃ b e older, s.pg.block = some b ∧ PgSession.fromSavepoint b name = e :: older ∧
            values t.session.client = e.vars ∧ values t.session.server = e.vars) := by
  obtain ⟨hsound, hfollowed⟩ := run_sound_followed hok hvars hops hrun
  refine ⟨hsound.running, hsound.inTransaction, hsound.vectors,
    fun chain digestText t => hsound.rollback hok, fun hf => ?_⟩
  have h := hfollowed hf
  have hvalues := (h.sync hok hsound).vars
  have hserver := (hsound.settled_sync hok).server
  refine ⟨h.count_eq hsound, ?_, hvalues, fun name digestText t => h.rollbackTo hok hsound⟩
  rw [← hserver]
  exact hvalues

/-- Only the critical variables have a value. -/
def criticalSet : ConnVars Nat :=
  fun idx => if idx.val < lastLowWm then ⟨1, some 0⟩ else {}

/-- A savepoint named `a`. -/
def savepointA : SavepointName :=
  ⟨['a'], false, by decide, List.all_eq_true.mp rfl⟩

/-- A variable is changed between two savepoints, then the later one is rolled back. -/
def twoSavepoints : List (TxnOp Nat) :=
  [.plain .begin_, .plain (.savepoint ⟨['b'], false, by decide, List.all_eq_true.mp rfl⟩),
    .set 7 5, .plain (.savepoint savepointA), .set 7 6, .plain (.rollbackTo savepointA)]

theorem txn_state_follows_twoSavepoints :
    ∃ s, Run (fun s op t => step (· + 1) s op = some t) (init criticalSet) twoSavepoints s ∧
      s.followed = true ∧ s.session.isInTransaction = true ∧ s.pg.block.isSome = true ∧
      s.session.getSavepointCount = 1 ∧ values (s.sync (· + 1)).session.client 7 = some 5 := by
  have hok : HashOk (V := Nat) (· + 1) (fun _ => True) :=
    ⟨fun v _ => by omega, fun v w _ _ h => by omega⟩
  have hvars : VarsOk (· + 1) (fun _ => True) criticalSet := by
    intro idx
    unfold criticalSet
    split
    · exact ⟨Or.inr ⟨0, trivial, rfl⟩, fun _ => by decide⟩
    · rename_i hhigh
      exact ⟨Or.inl rfl, fun hlow => absurd hlow hhigh⟩
  have hkept : ∀ command : TxnCommand, command.KeptBy (some command.text) :=
    fun command => ⟨command.text, rfl, rfl⟩
  have hops : ∀ op ∈ twoSavepoints, op.Tracked fun _ => True := by
    simp [twoSavepoints, TxnOp.plain, TxnOp.Tracked, hkept]
  have heval : (twoSavepoints.foldlM (step (· + 1)) (init criticalSet)).map
      (fun s => (s.followed, s.pg.block.isSome, (heldSavepoints s.pg).length,
        (s.sync (· + 1)).pg.vars 7)) = some (true, true, 1, some 5) := by
    decide +kernel
  obtain ⟨s, hrun, hs⟩ := Run.exists_of_foldlM_map twoSavepoints heval
  simp only [Prod.mk.injEq] at hs
  obtain ⟨hf, hopen, hheld, hpg⟩ := hs
  obtain ⟨-, hin, -, -, hagree⟩ := txn_state_follows_backend hok hvars hops hrun
  obtain ⟨hcount, hvalues, -⟩ := hagree hf
  refine ⟨s, hrun, hf, hin.trans hopen, hopen, hcount.trans hheld, ?_⟩
  rw [hvalues]
  exact hpg

/-- The run of operations that are evaluated, with what is observed at its end -/
theorem exists_run
    {α β : Type} {g : TxnSystem Nat → α} {g' : TxnSystem Nat → β} {x : α} {y : β}
    (ops : List (TxnOp Nat))
    (heval : (ops.foldlM (step (· + 1)) (init criticalSet)).map (fun s => (g s, g' s)) =
      some (x, y)) :
    ∃ s, Run (fun s op t => step (· + 1) s op = some t) (init criticalSet) ops s ∧
      g s = x ∧ g' s = y := by
  obtain ⟨s, hrun, hs⟩ := Run.exists_of_foldlM_map ops heval
  exact ⟨s, hrun, Prod.mk.inj hs⟩

/-- Where the tracker and PostgreSQL part: a savepoint that was rolled back to is
forgotten and cannot be rolled back to again; a savepoint of a name that is in use is
not recorded; COMMIT AND CHAIN is taken for a COMMIT; a RESET that the backend has not
seen fails an assertion; neither a session that is locked on a hostgroup nor a command without a digest
text is followed. -/
theorem txn_state_parts_from_postgres :
    (∃ s, Run (fun s op t => step (· + 1) s op = some t) (init criticalSet)
        [.plain .begin_, .plain (.savepoint savepointA), .plain (.rollbackTo savepointA)] s ∧
      s.session.getSavepointCount = 0 ∧ s.pg.block.map (·.savepoints.length) = some 1) ∧
    (∃ s, Run (fun s op t => step (· + 1) s op = some t) (init criticalSet)
        [.plain .begin_, .plain (.savepoint savepointA), .plain (.rollbackTo savepointA),
          .set 7 5, .plain (.rollbackTo savepointA)] s ∧
      (s.session.client 7).value = some 5 ∧ s.pg.vars 7 = none) ∧
    (∃ s, Run (fun s op t => step (· + 1) s op = some t) (init criticalSet)
        [.plain .begin_, .plain (.savepoint savepointA), .set 7 5,
          .plain (.savepoint savepointA), .plain (.rollbackTo savepointA)] s ∧
      (s.session.client 7).value = none ∧ s.pg.vars 7 = some 5) ∧
    (∃ s, Run (fun s op t => step (· + 1) s op = some t) (init criticalSet)
        [.plain .begin_, .plain (.commit true)] s ∧
      s.session.isInTransaction = false ∧ s.pg.block.isSome = true) ∧
    (∃ s, Run (fun s op t => step (· + 1) s op = some t) (init criticalSet)
        [.set 7 5, .plain .begin_, .reset 7, .plain (.rollback false)] s ∧
      s.aborted = true) ∧
    (∃ s, Run (fun s op t => step (· + 1) s op = some t) (init criticalSet)
        [.lock, .plain .begin_] s ∧
      s.session.isInTransaction = false ∧ s.pg.block.isSome = true) ∧
    ∃ s, Run (fun s op t => step (· + 1) s op = some t) (init criticalSet)
        [.execute .begin_ none] s ∧
      s.session.isInTransaction = false ∧ s.pg.block.isSome = true := by
  refine ⟨exists_run _ (by decide +kernel), exists_run _ (by decide +kernel),
    exists_run _ (by decide +kernel), exists_run _ (by decide +kernel), ?_,
    exists_run _ (by decide +kernel), exists_run _ (by decide +kernel)⟩
  exact Run.exists_of_foldlM_map _ (by decide +kernel)

end TxnSystem

end PolarProxy
