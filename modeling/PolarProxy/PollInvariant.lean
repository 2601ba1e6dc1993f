import PolarProxy.PollTable
import PolarProxy.Library.Runs
import PolarProxy.Library.SwapRemove

/-!
# What the poll table keeps

The entries of a table are the used cells of its arrays.  Every operation is one on the list of
entries: the arrays are long enough for what it writes, and a stream that is in the table has its
index there.  The arrays have 2^31 cells at most, and an entry beyond them is never added: the
search for the next power of two does not end.

**Results.** `lNearPow2_meets`, `add_meets`, `removeIndexFast_meets`, `removeDataStream_meets`,
`updateFdAtIndex_meets`, `run_keeps`.
-/

namespace PolarProxy

namespace PollTable

open Loops RowRun SwapRemove Transition

variable {S P : Type}

/-! ## Sizes -/

theorem nearPow2Loop_meets
    {n : Nat}
    (hn : n ≤ 2 ^ 31)
    (fuel k : Nat)
    (hk : k ≤ 31) :
    Meets (fun e => e = .outOfFuel ∧ fuel + k < 32) (loop (nearPow2Step n) fuel (2 ^ k))
      (fun m => n ≤ m ∧ 0 < m ∧ m ≤ 2 ^ 31) := by
  have hpow : 2 ^ k ≤ 2 ^ 31 := Nat.pow_le_pow_right (by omega) hk
  have hpos : 0 < 2 ^ k := Nat.two_pow_pos k
  induction fuel generalizing k with
  | zero =>
      exact Meets.error ⟨rfl, by omega⟩
  | succ fuel ih =>
      rw [loop, nearPow2Step]
      split
      case isTrue hlt =>
        have hk' : k + 1 ≤ 31 := by
          refine Nat.lt_of_not_le fun hge => ?_
          obtain rfl : k = 31 := by omega
          omega
        have hle : 2 ^ (k + 1) ≤ 2 ^ 31 := Nat.pow_le_pow_right (by omega) hk'
        have hshift : 2 ^ k * 2 % 2 ^ 32 = 2 ^ (k + 1) := by
          rw [← Nat.pow_succ]
          exact Nat.mod_eq_of_lt (by omega)
        rw [ok_bind, if_pos rfl, hshift]
        refine (ih (k + 1) hk' hle (Nat.two_pow_pos _)).mono ?_ fun _ h => h
        rintro e ⟨he, hfuel⟩
        exact ⟨he, by omega⟩
      case isFalse hge =>
        rw [ok_bind, if_neg Bool.false_ne_true]
        exact Meets.ok ⟨Nat.le_of_not_lt hge, hpos, hpow⟩

/-- Above the largest power of two the search does not end. -/
theorem nearPow2Loop_outOfFuel
    {n : Nat}
    (hn : 2 ^ 31 < n)
    (fuel : Nat) :
    loop (nearPow2Step n) fuel 1 = .error .outOfFuel := by
  refine loop_outOfFuel (I := fun i => i = 0 ∨ ∃ k ≤ 31, i = 2 ^ k) ?_ fuel 1
    (Or.inr ⟨0, by omega, rfl⟩)
  rintro i (rfl | ⟨k, hk, rfl⟩)
  · refine ⟨0, ?_, Or.inl rfl⟩
    rw [nearPow2Step, if_pos (by omega)]
    rfl
  · have hle : 2 ^ k ≤ 2 ^ 31 := Nat.pow_le_pow_right (by omega) hk
    refine ⟨2 ^ k * 2 % 2 ^ 32, ?_, ?_⟩
    · rw [nearPow2Step, if_pos (by omega)]
    · rw [← Nat.pow_succ]
      rcases Nat.lt_or_eq_of_le hk with hlt | rfl
      · have hle' : 2 ^ (k + 1) ≤ 2 ^ 31 := Nat.pow_le_pow_right (by omega) hlt
        exact Or.inr ⟨k + 1, hlt, Nat.mod_eq_of_lt (by omega)⟩
      · exact Or.inl (by decide)

/-- The search ends unless there is no such power of 32 bits. -/
theorem lNearPow2_meets (fuel n : Nat) :
    Meets (fun e => e = .outOfFuel ∧ (fuel < 32 ∨ 2 ^ 31 < n)) (lNearPow2 fuel n)
      (fun m => n ≤ m ∧ m ≤ 2 ^ 31) := by
  rw [lNearPow2]
  rcases Nat.lt_or_ge (2 ^ 31) n with hlarge | hsmall
  · rw [nearPow2Loop_outOfFuel hlarge]
    exact Meets.error ⟨rfl, Or.inr hlarge⟩
  · refine Meets.bind (R := fun m => n ≤ m ∧ 0 < m ∧ m ≤ 2 ^ 31) ?_ ?_
    · refine (nearPow2Loop_meets hsmall fuel 0 (by omega)).mono ?_ fun _ h => h
      rintro e ⟨he, hfuel⟩
      exact ⟨he, Or.inl (by omega)⟩
    · rintro m ⟨hle, hpos, hmax⟩
      rw [if_pos (Nat.pos_iff_ne_zero.mp hpos)]
      exact Meets.ok ⟨hle, hmax⟩

/-! ## Cells and entries -/

theorem set_of_getElem?
    {α : Type} {xs : List α} {i : Nat} {a : α}
    (h : xs[i]? = some a) :
    xs.set i a = xs := by
  obtain ⟨hlt, rfl⟩ := List.getElem?_eq_some_iff.mp h
  exact List.set_getElem_self hlt

theorem modify_of_getElem?
    {α : Type} {xs : List α} {i : Nat} {a : α} (f : α → α)
    (h : xs[i]? = some a) :
    xs.modify i f = xs.set i (f a) := by
  obtain ⟨hlt, -⟩ := List.getElem?_eq_some_iff.mp h
  apply List.ext_getElem?
  intro j
  rw [List.getElem?_modify, List.getElem?_set]
  by_cases hj : i = j
  · rw [if_pos hj, if_pos hlt, ← hj, h]
    simp
  · simp [hj]

namespace Poll

def cells (p : Poll S) : List (Entry S) :=
  ((p.fds.zip p.myds).zip (p.lastRecv.zip p.lastSent)).map fun c =>
    ⟨c.1.1, c.1.2, c.2.1, c.2.2⟩

/-- The cells that are used -/
def entries (p : Poll S) : List (Entry S) :=
  p.cells.take p.len

/-- The arrays have one size, and are long enough. -/
structure WellFormed (p : Poll S) : Prop where
  len_le : p.len ≤ p.size
  size_le : p.size ≤ 2 ^ 31
  fds : p.fds.length = p.size
  myds : p.myds.length = p.size
  lastRecv : p.lastRecv.length = p.size
  lastSent : p.lastSent.length = p.size

/-- The cells at an index with another content -/
def set (p : Poll S) (i : Nat) (e : Entry S) : Poll S :=
  { p with
    fds := p.fds.set i e.pollFd
    myds := p.myds.set i e.myds
    lastRecv := p.lastRecv.set i e.lastRecv
    lastSent := p.lastSent.set i e.lastSent }

variable {p : Poll S}

theorem WellFormed.length_cells (h : p.WellFormed) : p.cells.length = p.size := by
  rw [cells, List.length_map, List.length_zip, List.length_zip, List.length_zip, h.fds, h.myds, h.lastRecv,
    h.lastSent]
  omega

theorem WellFormed.length_entries (h : p.WellFormed) : p.entries.length = p.len := by
  rw [entries, List.length_take_of_le]
  rw [h.length_cells]
  exact h.len_le

theorem WellFormed.set
    (h : p.WellFormed)
    (i : Nat) (e : Entry S) :
    (p.set i e).WellFormed where
  len_le := h.len_le
  size_le := h.size_le
  fds := by rw [Poll.set, List.length_set, h.fds]
  myds := by rw [Poll.set, List.length_set, h.myds]
  lastRecv := by rw [Poll.set, List.length_set, h.lastRecv]
  lastSent := by rw [Poll.set, List.length_set, h.lastSent]

theorem cells_set (p : Poll S) (i : Nat) (e : Entry S) :
    (p.set i e).cells = p.cells.set i e := by
  rw [cells, Poll.set]
  dsimp only
  rw [zip_set, zip_set, zip_set, List.map_set, cells]

theorem getElem?_cells {i : Nat} {e : Entry S} :
    p.cells[i]? = some e ↔ p.fds[i]? = some e.pollFd ∧ p.myds[i]? = some e.myds ∧
      p.lastRecv[i]? = some e.lastRecv ∧ p.lastSent[i]? = some e.lastSent := by
  rw [cells, List.getElem?_map, Option.map_eq_some_iff]
  constructor
  · rintro ⟨c, hc, rfl⟩
    obtain ⟨hab, hcd⟩ := List.getElem?_zip_eq_some.mp hc
    obtain ⟨ha, hb⟩ := List.getElem?_zip_eq_some.mp hab
    obtain ⟨hc, hd⟩ := List.getElem?_zip_eq_some.mp hcd
    exact ⟨ha, hb, hc, hd⟩
  · rintro ⟨ha, hb, hc, hd⟩
    refine ⟨((e.pollFd, e.myds), (e.lastRecv, e.lastSent)), ?_, rfl⟩
    exact List.getElem?_zip_eq_some.mpr
      ⟨List.getElem?_zip_eq_some.mpr ⟨ha, hb⟩, List.getElem?_zip_eq_some.mpr ⟨hc, hd⟩⟩

theorem WellFormed.write_eq
    (h : p.WellFormed)
    {i : Nat}
    (hi : i < p.size)
    (e : Entry S) :
    p.write i e = .ok (p.set i e) := by
  rw [write, writeAt, if_pos (h.myds.symm ▸ hi), ok_bind, writeAt, if_pos (h.fds.symm ▸ hi), ok_bind,
    writeAt, if_pos (h.lastRecv.symm ▸ hi), ok_bind, writeAt, if_pos (h.lastSent.symm ▸ hi)]
  rfl

theorem cell_of_entry
    {i : Nat} {e : Entry S}
    (he : p.entries[i]? = some e) :
    p.cells[i]? = some e := by
  rw [entries, List.getElem?_take] at he
  split at he
  case isTrue =>
    exact he
  case isFalse =>
    cases he

theorem read_eq
    {i : Nat} {e : Entry S}
    (he : p.entries[i]? = some e) :
    p.read i = .ok e ∧ readAt p.myds i = .ok e.myds ∧ readAt p.fds i = .ok e.pollFd := by
  obtain ⟨hfd, hmyds, hrecv, hsent⟩ := getElem?_cells.mp (cell_of_entry he)
  refine ⟨?_, by rw [readAt, hmyds], by rw [readAt, hfd]⟩
  rw [read, readAt, hmyds, ok_bind, readAt, hfd, ok_bind, readAt, hrecv, ok_bind, readAt, hsent]
  rfl

theorem WellFormed.exists_entry
    (h : p.WellFormed)
    {i : Nat}
    (hi : i < p.len) :
    ∃ e, p.entries[i]? = some e :=
  ⟨_, List.getElem?_eq_getElem (h.length_entries.symm ▸ hi)⟩

theorem length_realloc {α : Type} (xs : List α) (newSize : Nat) (fresh : Nat → α) :
    (realloc xs newSize fresh).length = newSize := by
  rw [realloc, List.length_append, List.length_take, List.length_map, List.length_range]
  omega

theorem take_realloc
    {α : Type} (xs : List α) {len newSize : Nat} (fresh : Nat → α)
    (hlen : len ≤ xs.length)
    (hle : len ≤ newSize) :
    (realloc xs newSize fresh).take len = xs.take len := by
  rw [realloc, List.take_append_of_le_length, List.take_take, Nat.min_eq_left hle]
  rw [List.length_take]
  omega

theorem WellFormed.resize
    (h : p.WellFormed)
    {newSize : Nat} (fresh : Nat → Entry S)
    (hle : p.len ≤ newSize)
    (hmax : newSize ≤ 2 ^ 31) :
    (p.resize newSize fresh).WellFormed ∧ (p.resize newSize fresh).entries = p.entries := by
  refine ⟨⟨hle, hmax, length_realloc _ _ _, length_realloc _ _ _, length_realloc _ _ _,
    length_realloc _ _ _⟩, ?_⟩
  have hlen := h.len_le
  rw [entries, entries, cells, cells, Poll.resize]
  dsimp only
  simp only [← List.map_take, List.zip, List.take_zipWith,
    take_realloc _ _ (h.fds.symm ▸ hlen) hle, take_realloc _ _ (h.myds.symm ▸ hlen) hle,
    take_realloc _ _ (h.lastRecv.symm ▸ hlen) hle, take_realloc _ _ (h.lastSent.symm ▸ hlen) hle]

/-! ## Parts of the operations -/

theorem WellFormed.makeRoom_meets
    (h : p.WellFormed)
    (fuel : Nat) (fresh : Nat → Entry S) :
    Meets (fun e => e = .outOfFuel ∧ (fuel < 32 ∨ p.len = 2 ^ 31))
      (p.makeRoom fuel fresh)
      (fun p' => p'.WellFormed ∧ p'.entries = p.entries ∧ p'.len = p.len ∧ p.len < p'.size) := by
  have hlen := h.len_le
  have hmax := h.size_le
  rw [makeRoom]
  refine Meets.ite (fun hfull => ?_) (fun hroom => ?_)
  · have hsum : (p.len + 1) % 2 ^ 32 = p.len + 1 := Nat.mod_eq_of_lt (by omega)
    rw [expand, hsum, if_pos (by omega)]
    refine ((lNearPow2_meets fuel (p.len + 1)).mono ?_ fun _ hm => hm).bind ?_
    · rintro e ⟨he, hcause⟩
      exact ⟨he, hcause.imp_right fun hlarge => by omega⟩
    · rintro newSize ⟨hle, hle'⟩
      obtain ⟨hwf, hentries⟩ := h.resize fresh (by omega : p.len ≤ newSize) hle'
      exact Meets.ok ⟨hwf, hentries, rfl, hle⟩
  · exact Meets.ok ⟨h, rfl, rfl, by omega⟩

theorem WellFormed.dropLast_meets
    (h : p.WellFormed)
    (hpos : 0 < p.len)
    (fuel : Nat) (fresh : Nat → Entry S) :
    Meets (fun e => e = .outOfFuel ∧ fuel < 32) (p.dropLast fuel fresh)
      (fun p' => p'.WellFormed ∧ p'.entries = p.entries.dropLast ∧ p'.len = p.len - 1) := by
  have hlen := h.len_le
  have hmax := h.size_le
  have hdropped : ({ p with len := p.len - 1 } : Poll S).WellFormed :=
    ⟨by dsimp only; omega, hmax, h.fds, h.myds, h.lastRecv, h.lastSent⟩
  have hentries : ({ p with len := p.len - 1 } : Poll S).entries = p.entries.dropLast := by
    rw [entries, entries, List.dropLast_eq_take, List.length_take_of_le, List.take_take,
      Nat.min_eq_left (Nat.sub_le _ _)]
    · rfl
    · rw [h.length_cells]
      exact hlen
  have hsum : (p.len - 1 + 1) % 2 ^ 32 = p.len := by
    rw [Nat.sub_add_cancel hpos]
    exact Nat.mod_eq_of_lt (by omega)
  rw [dropLast]
  refine Meets.ite (fun hsparse => ?_) (fun hdense => ?_)
  · rw [shrink]
    dsimp only
    rw [hsum]
    refine ((lNearPow2_meets fuel p.len).mono ?_ fun _ hm => hm).bind ?_
    · rintro e ⟨he, hcause⟩
      exact ⟨he, by omega⟩
    · rintro newSize ⟨hle, hle'⟩
      obtain ⟨hwf, hsame⟩ := hdropped.resize fresh (by dsimp only; omega) hle'
      exact Meets.ok ⟨hwf, hsame.trans hentries, rfl⟩
  · exact Meets.ok ⟨hdropped, hentries, rfl⟩

/-- An index is outside exactly if it is behind the entries. -/
theorem WellFormed.isOutside_iff
    (h : p.WellFormed)
    (i : Nat) :
    p.isOutside i = true ↔ p.len ≤ i := by
  have hlen := h.len_le
  have hmax := h.size_le
  rw [isOutside, decide_eq_true_iff]
  omega

theorem WellFormed.findFrom_meets [DecidableEq S]
    (h : p.WellFormed)
    (s : S) (rounds i : Nat)
    (hrounds : i + rounds = p.len) :
    Meets (fun _ => False) (p.findFrom s rounds i)
      (fun idx => (∃ (j : Nat) (e : Entry S), idx = j ∧ p.entries[j]? = some e ∧
          e.myds = some s) ∨
        idx = -1 ∧ ∀ j e, i ≤ j → p.entries[j]? = some e → e.myds ≠ some s) := by
  have hlen := h.len_le
  have hmax := h.size_le
  induction rounds generalizing i with
  | zero =>
      refine Meets.ok (Or.inr ⟨rfl, fun j e hj he => ?_⟩)
      have hlt := (List.getElem?_eq_some_iff.mp he).1
      rw [h.length_entries] at hlt
      omega
  | succ rounds ih =>
      obtain ⟨e, he⟩ := h.exists_entry (by omega : i < p.len)
      rw [findFrom, (read_eq he).2.1, ok_bind]
      refine Meets.ite (fun hfound => ?_) (fun hother => ?_)
      · refine Meets.ok (Or.inl ⟨i, e, ?_, he, hfound⟩)
        exact wrapInt_of_lt (by omega) (by omega)
      · refine (ih (i + 1) (by omega)).imp ?_
        rintro idx (hfound | ⟨hidx, hnone⟩)
        · exact Or.inl hfound
        · refine Or.inr ⟨hidx, fun j e' hj he' => ?_⟩
          rcases Nat.eq_or_lt_of_le hj with rfl | hlt
          · obtain rfl := Option.some.inj (he.symm.trans he')
            exact hother
          · exact hnone j e' hlt he'

end Poll

/-! ## The operations -/

/-- A stream has an entry. -/
def InTable (st : State S P) (s : S) : Prop :=
  ∃ e ∈ st.poll.entries, e.myds = some s

/-- The arrays are long enough, and the streams of the entries have their index. -/
structure Inv (this : P) (st : State S P) : Prop where
  wellFormed : st.poll.WellFormed
  placed : ∀ (i : Nat) (e : Entry S) (s : S), st.poll.entries[i]? = some e → e.myds = some s →
    st.stream s = ⟨i, some this⟩

variable {this : P} {st : State S P}

theorem Inv.index_unique
    (h : Inv this st)
    {i j : Nat} {e e' : Entry S} {s : S}
    (he : st.poll.entries[i]? = some e)
    (hs : e.myds = some s)
    (he' : st.poll.entries[j]? = some e')
    (hs' : e'.myds = some s) :
    i = j := by
  have heq := (h.placed i e s he hs).symm.trans (h.placed j e' s he' hs')
  exact Int.ofNat.inj (congrArg DataStream.pollFdsIdx heq)

theorem Inv.updateFdAtIndex_meets
    (h : Inv this st)
    (idx : Nat) (fd : Int) :
    Meets (fun _ => False) (st.updateFdAtIndex idx fd)
      (fun st' => Inv this st' ∧
        st'.poll.entries =
          st.poll.entries.modify idx (fun e => { e with pollFd := { e.pollFd with fd := fd } }) ∧
        st'.stream = st.stream) := by
  have hwf := h.wellFormed
  have hlen := hwf.len_le
  rw [State.updateFdAtIndex]
  refine Meets.ite (fun hout => ?_) (fun hin => ?_)
  · refine Meets.ok ⟨h, ?_, rfl⟩
    rw [hwf.isOutside_iff] at hout
    rw [List.modify_eq_self]
    rw [hwf.length_entries]
    exact hout
  · have hidx : idx < st.poll.len := Nat.lt_of_not_le fun hle => hin ((hwf.isOutside_iff idx).mpr hle)
    obtain ⟨e, he⟩ := hwf.exists_entry hidx
    rw [(Poll.read_eq he).2.2, ok_bind, writeAt, if_pos (by rw [hwf.fds]; omega), ok_bind]
    have hset := hwf.set idx { e with pollFd := { e.pollFd with fd := fd } }
    have hcell := Poll.cell_of_entry he
    obtain ⟨-, hmyds, hrecv, hsent⟩ := Poll.getElem?_cells.mp hcell
    have hpoll : ({ st.poll with fds := st.poll.fds.set idx { e.pollFd with fd := fd } } : Poll S) =
        st.poll.set idx { e with pollFd := { e.pollFd with fd := fd } } := by
      rw [Poll.set, set_of_getElem? hmyds, set_of_getElem? hrecv, set_of_getElem? hsent]
    have hentries : (st.poll.set idx { e with pollFd := { e.pollFd with fd := fd } }).entries =
        st.poll.entries.modify idx (fun e => { e with pollFd := { e.pollFd with fd := fd } }) := by
      rw [modify_of_getElem? _ he, Poll.entries, Poll.cells_set, List.take_set]
      rfl
    rw [hpoll]
    refine Meets.ok ⟨⟨hset, ?_⟩, hentries, rfl⟩
    intro i e' s he' hs
    dsimp only at he' ⊢
    rw [hentries, List.getElem?_modify] at he'
    obtain ⟨a, ha, rfl⟩ := Option.map_eq_some_iff.mp he'
    refine h.placed i a s ha ?_
    split at hs
    · exact hs
    · exact hs

theorem inv_new (this : P) (fresh : Nat → Entry S) (stream : S → DataStream P) :
    Inv this ⟨Poll.new fresh, stream⟩ where
  wellFormed := ⟨Nat.zero_le _, (by decide : minPollLen ≤ 2 ^ 31), rfl, rfl, rfl, rfl⟩
  placed i e s he _ := by
    rw [Poll.entries, Poll.new, List.take_zero] at he
    cases he

variable [DecidableEq S]

@[simp]
theorem poll_setStream (st : State S P) (o : Option S) (f : DataStream P → DataStream P) :
    (st.setStream o f).poll = st.poll := by
  cases o with
  | none =>
      rfl
  | some s =>
      rfl

theorem stream_setStream (st : State S P) (o : Option S) (f : DataStream P → DataStream P) (s : S) :
    (st.setStream o f).stream s = if o = some s then f (st.stream s) else st.stream s := by
  cases o with
  | none =>
      rfl
  | some a =>
      rw [State.setStream]
      dsimp only
      rw [Function.update_apply]
      by_cases h : s = a
      · rw [if_pos h, if_pos (congrArg some h.symm), h]
      · rw [if_neg h, if_neg (fun heq => h (Option.some.inj heq).symm)]

/-- A stream is found by the index that it keeps or by the search, whatever it keeps. -/
theorem indexOf_meets
    (st : State S P)
    (h : st.poll.WellFormed)
    (s : S) :
    Meets (fun _ => False) (st.indexOf s)
      (fun idx => (∃ (j : Nat) (e : Entry S), idx = j ∧ st.poll.entries[j]? = some e ∧
          e.myds = some s) ∨
        idx = -1 ∧ ∀ e ∈ st.poll.entries, e.myds ≠ some s) := by
  have hsearch : Meets (fun _ => False) (st.poll.findDataStream s)
      (fun idx => (∃ (j : Nat) (e : Entry S), idx = j ∧ st.poll.entries[j]? = some e ∧
          e.myds = some s) ∨
        idx = -1 ∧ ∀ e ∈ st.poll.entries, e.myds ≠ some s) := by
    refine (h.findFrom_meets s st.poll.len 0 (Nat.zero_add _)).imp ?_
    rintro idx (hfound | ⟨hidx, hnone⟩)
    · exact Or.inl hfound
    · refine Or.inr ⟨hidx, fun e he => ?_⟩
      obtain ⟨j, hj⟩ := List.mem_iff_getElem?.mp he
      exact hnone j e (Nat.zero_le j) hj
  have hcached : Meets (fun _ => False) (st.cachedIndex s)
      (fun idx => idx < 0 ∨ ∃ (j : Nat) (e : Entry S), idx = j ∧ st.poll.entries[j]? = some e ∧
        e.myds = some s) := by
    rw [State.cachedIndex]
    refine Meets.ite (fun hrange => ?_) (fun hrange => ?_)
    · obtain ⟨e, he⟩ := h.exists_entry hrange.2
      rw [(Poll.read_eq he).2.1, ok_bind]
      refine Meets.ite (fun hs => ?_) (fun hs => ?_)
      · exact Meets.ok (Or.inr ⟨_, e, (Int.toNat_of_nonneg hrange.1).symm, he, hs⟩)
      · exact Meets.ok (Or.inl (by decide))
    · exact Meets.ok (Or.inl (by decide))
  rw [State.indexOf]
  refine hcached.bind fun idx hidx => Meets.ite (fun hneg => hsearch) (fun hnonneg => ?_)
  exact Meets.ok (Or.inl (hidx.resolve_left hnonneg))

theorem setStream_setStream (st : State S P) (s : S) (f : DataStream P → DataStream P)
    (ds : DataStream P) :
    (st.setStream (some s) f).setStream (some s) (fun _ => ds) =
      st.setStream (some s) fun _ => ds := by
  simp only [State.setStream, Function.update_idem]

/-- The removal of an entry does not depend on what its stream keeps. -/
theorem removeIndexFast_setStream
    (fuel : Nat) (fresh : Nat → Entry S) (f : DataStream P → DataStream P)
    {i : Nat} {e : Entry S} {s : S}
    (hin : st.poll.isOutside i = false)
    (he : st.poll.entries[i]? = some e)
    (hs : e.myds = some s) :
    (st.setStream (some s) f).removeIndexFast fuel fresh i = st.removeIndexFast fuel fresh i := by
  rw [State.removeIndexFast, State.removeIndexFast, poll_setStream]
  rw [hin, (Poll.read_eq he).2.1, ok_bind, ok_bind, hs, setStream_setStream,
    if_neg Bool.false_ne_true, if_neg Bool.false_ne_true]

namespace Inv

theorem add_meets
    (h : Inv this st)
    (fuel : Nat) (fresh : Nat → Entry S) (events : BitVec 32) (fd : Int) (myds : Option S)
    (now sentTime : Nat)
    (hnew : ∀ s, myds = some s → ¬ InTable st s) :
    Meets (fun e => e = .outOfFuel ∧ (fuel < 32 ∨ st.poll.len = 2 ^ 31))
      (st.add this fuel fresh events fd myds now sentTime)
      (fun st' => Inv this st' ∧
        st'.poll.entries =
          st.poll.entries ++ [⟨⟨fd, events.setWidth 16, 0⟩, myds, now, sentTime⟩] ∧
        ∀ s, myds ≠ some s → st'.stream s = st.stream s) := by
  have hwf := h.wellFormed
  rw [State.add]
  refine (hwf.makeRoom_meets fuel fresh).bind ?_
  rintro p ⟨hp, hsame, hlen, hroom⟩
  have hmax := hp.size_le
  have hsum : (p.len + 1) % 2 ^ 32 = p.len + 1 := Nat.mod_eq_of_lt (by omega)
  rw [hp.write_eq (hlen.symm ▸ hroom), ok_bind, hsum]
  have hset := hp.set p.len ⟨⟨fd, events.setWidth 16, 0⟩, myds, now, sentTime⟩
  have hentries : ({ p.set p.len ⟨⟨fd, events.setWidth 16, 0⟩, myds, now, sentTime⟩ with
      len := p.len + 1 } : Poll S).entries =
        st.poll.entries ++ [⟨⟨fd, events.setWidth 16, 0⟩, myds, now, sentTime⟩] := by
    rw [← hsame, Poll.entries, Poll.entries]
    change (Poll.cells (p.set p.len _)).take (p.len + 1) = _
    rw [Poll.cells_set, List.take_add_one, List.getElem?_set_self (by
      rw [hp.length_cells]
      omega), List.take_set_of_le (Nat.le_refl _)]
    rfl
  refine Meets.ok ⟨⟨⟨?_, hset.size_le, hset.fds, hset.myds, hset.lastRecv, hset.lastSent⟩, ?_⟩,
    hentries, ?_⟩
  · change p.len + 1 ≤ p.size
    omega
  · intro i e s he hs
    dsimp only at he
    rw [hentries, List.getElem?_append, hwf.length_entries] at he
    change (st.setStream myds _).stream s = _
    rw [stream_setStream]
    split at he
    case isTrue hlt =>
      have hmem : InTable st s := ⟨e, List.mem_of_getElem? he, hs⟩
      rw [if_neg fun heq => hnew s heq hmem]
      exact h.placed i e s he hs
    case isFalse hge =>
      have hi : i - st.poll.len = 0 := by
        have hlt := (List.getElem?_eq_some_iff.mp he).1
        rw [List.length_singleton] at hlt
        omega
      rw [hi] at he
      obtain rfl := Option.some.inj he
      rw [if_pos hs, hlen, wrapInt_of_lt (by omega) (by omega)]
      congr 1
      omega
  · intro s hs
    change (st.setStream myds _).stream s = _
    rw [stream_setStream, if_neg hs]

theorem moveLast_ok
    (h : Inv this st)
    {i : Nat} {e : Entry S}
    (he : st.poll.entries[i]? = some e) :
    ∃ st', (st.setStream e.myds fun _ => ⟨-1, none⟩).moveLast i = .ok st' ∧
      st'.poll.WellFormed ∧ st'.poll.len = st.poll.len ∧
      st'.poll.entries.dropLast = swapRemove st.poll.entries i ∧
      (∀ (j : Nat) (a : Entry S) (s : S), (swapRemove st.poll.entries i)[j]? = some a →
        a.myds = some s → st'.stream s = ⟨j, some this⟩) ∧
      (∀ s, e.myds = some s → st'.stream s = ⟨-1, none⟩) ∧
      ∀ s, ¬ InTable st s → st'.stream s = st.stream s := by
  have hwf := h.wellFormed
  have hmax := hwf.size_le
  have hlen := hwf.len_le
  have hi : i < st.poll.len := by
    rw [← hwf.length_entries]
    exact (List.getElem?_eq_some_iff.mp he).1
  obtain ⟨last, hlast⟩ := hwf.exists_entry (by omega : st.poll.len - 1 < st.poll.len)
  have hgetLast : st.poll.entries.getLast? = some last := by
    rw [List.getLast?_eq_getElem?, hwf.length_entries, hlast]
  have hswap : swapRemove st.poll.entries i = (st.poll.entries.set i last).dropLast := by
    rw [swapRemove, hgetLast]
  have hat := fun j => getElem?_swapRemove (j := j) (by rw [hwf.length_entries]; exact hi :
    i < st.poll.entries.length)
  rw [hwf.length_entries, hgetLast] at hat
  have hmem : ∀ {j : Nat} {a : Entry S} {s : S}, st.poll.entries[j]? = some a → a.myds = some s →
      InTable st s := fun ha hs => ⟨_, List.mem_of_getElem? ha, hs⟩
  rw [State.moveLast, poll_setStream]
  by_cases hmove : i ≠ st.poll.len - 1
  · rw [if_pos hmove, (Poll.read_eq hlast).1, ok_bind, hwf.write_eq (by omega), ok_bind]
    refine ⟨_, rfl, ?_, ?_, ?_, ?_, ?_, ?_⟩
    · rw [poll_setStream]
      exact hwf.set i last
    · rw [poll_setStream]
      rfl
    · rw [poll_setStream, hswap, Poll.entries, Poll.cells_set, List.take_set]
      rfl
    · intro j a s ha hs
      rw [hat] at ha
      rw [stream_setStream, stream_setStream]
      split at ha
      case isFalse =>
        cases ha
      case isTrue hj =>
        split at ha
        case isTrue hji =>
          obtain rfl := Option.some.inj ha
          have hother : e.myds ≠ some s := fun heq => hmove (h.index_unique he heq hlast hs)
          rw [if_pos hs, if_neg hother, h.placed _ _ s hlast hs, hji,
            wrapInt_of_lt (by omega) (by omega)]
        case isFalse hji =>
          have hother : e.myds ≠ some s := fun heq => hji (h.index_unique ha hs he heq)
          have hother' : last.myds ≠ some s := fun heq => by
            have := h.index_unique ha hs hlast heq
            omega
          rw [if_neg hother', if_neg hother, h.placed j a s ha hs]
    · intro s hs
      have hother : last.myds ≠ some s := fun heq => hmove (h.index_unique he hs hlast heq)
      rw [stream_setStream, if_neg hother, stream_setStream, if_pos hs]
    · intro s hs
      rw [stream_setStream, if_neg fun heq => hs (hmem hlast heq), stream_setStream,
        if_neg fun heq => hs (hmem he heq)]
  · rw [if_neg hmove]
    have hi' : i = st.poll.len - 1 := not_not.mp hmove
    refine ⟨_, rfl, ?_, ?_, ?_, ?_, ?_, ?_⟩
    · rw [poll_setStream]
      exact hwf
    · rw [poll_setStream]
    · rw [poll_setStream, hswap, hi', set_of_getElem? hlast]
    · intro j a s ha hs
      rw [hat] at ha
      split at ha
      case isFalse =>
        cases ha
      case isTrue hj =>
        rw [if_neg (by omega)] at ha
        have hother : e.myds ≠ some s := fun heq => by
          have := h.index_unique ha hs he heq
          omega
        rw [stream_setStream, if_neg hother, h.placed j a s ha hs]
    · intro s hs
      rw [stream_setStream, if_pos hs]
    · intro s hs
      rw [stream_setStream, if_neg fun heq => hs (hmem he heq)]

/-- An entry is removed: its stream has no index, and the others keep what they are. -/
theorem removeIndexFast_meets
    (h : Inv this st)
    (fuel : Nat) (fresh : Nat → Entry S)
    {i : Nat} {e : Entry S}
    (he : st.poll.entries[i]? = some e) :
    Meets (fun err => err = .outOfFuel ∧ fuel < 32) (st.removeIndexFast fuel fresh i)
      (fun st' => Inv this st' ∧ st.poll.entries.Perm (e :: st'.poll.entries) ∧
        (∀ s, e.myds = some s → st'.stream s = ⟨-1, none⟩) ∧
        ∀ s, ¬ InTable st s → st'.stream s = st.stream s) := by
  have hwf := h.wellFormed
  have hi : i < st.poll.len := by
    rw [← hwf.length_entries]
    exact (List.getElem?_eq_some_iff.mp he).1
  obtain ⟨st', hmove, hwf', hlen, hentries, hplaced, hremoved, hothers⟩ := h.moveLast_ok he
  rw [State.removeIndexFast, if_neg fun hout => by
    rw [hwf.isOutside_iff] at hout
    omega]
  rw [(Poll.read_eq he).2.1, ok_bind, hmove, ok_bind]
  refine (hwf'.dropLast_meets (by omega) fuel fresh).bind ?_
  rintro p ⟨hp, hpentries, -⟩
  rw [hentries] at hpentries
  refine Meets.ok ⟨⟨hp, ?_⟩, ?_, hremoved, hothers⟩
  · intro j a s ha hs
    dsimp only at ha ⊢
    rw [hpentries] at ha
    exact hplaced j a s ha hs
  · dsimp only
    rw [hpentries]
    exact swapRemove_perm he

theorem removeIndexFast_outside
    (h : Inv this st)
    (fuel : Nat) (fresh : Nat → Entry S)
    {i : Nat}
    (hi : st.poll.len ≤ i) :
    st.removeIndexFast fuel fresh i = .ok st := by
  rw [State.removeIndexFast, if_pos ((h.wellFormed.isOutside_iff i).mpr hi)]
  rfl

/-- A stream is removed, and no other one, whatever it keeps. -/
theorem removeDataStream_meets
    (h : Inv this st)
    (fuel : Nat) (fresh : Nat → Entry S) (s : S) (stale : DataStream P → DataStream P) :
    Meets (fun err => err = .outOfFuel ∧ fuel < 32)
      ((st.setStream (some s) stale).removeDataStream fuel fresh (some s))
      (fun st' => Inv this st' ∧
        st'.poll.entries.Perm (st.poll.entries.filter fun e => e.myds ≠ some s) ∧
        st'.stream s = ⟨-1, none⟩ ∧
        ∀ s', s' ≠ s → ¬ InTable st s' → st'.stream s' = st.stream s') := by
  have hwf := h.wellFormed
  rw [State.removeDataStream]
  refine ((indexOf_meets (st.setStream (some s) stale) (by rw [poll_setStream]; exact hwf)
    s).mono (fun _ hf => hf.elim) fun _ hidx => hidx).bind ?_
  rw [poll_setStream]
  rintro idx (⟨j, e, rfl, he, hs⟩ | ⟨rfl, hnone⟩)
  · have hin : st.poll.isOutside j = false := by
      have hlt := (List.getElem?_eq_some_iff.mp he).1
      rw [hwf.length_entries] at hlt
      rw [Bool.eq_false_iff, Ne, hwf.isOutside_iff]
      omega
    rw [if_pos (Int.natCast_nonneg j), Int.toNat_natCast,
      removeIndexFast_setStream fuel fresh stale hin he hs]
    refine (h.removeIndexFast_meets fuel fresh he).imp ?_
    rintro st' ⟨hinv, hperm, hremoved, hothers⟩
    refine ⟨hinv, ?_, hremoved s hs, fun s' _ hs' => hothers s' hs'⟩
    have hkept : st'.poll.entries.filter (fun e => e.myds ≠ some s) = st'.poll.entries := by
      refine List.filter_eq_self.mpr fun a ha => decide_eq_true fun heq => ?_
      obtain ⟨i, hi⟩ := List.mem_iff_getElem?.mp ha
      have hidx := congrArg DataStream.pollFdsIdx ((hinv.placed i a s hi heq).symm.trans
        (hremoved s hs))
      exact absurd hidx (by dsimp only; omega)
    have hfilter := (hperm.filter fun e => e.myds ≠ some s).symm
    rw [List.filter_cons_of_neg (by simpa using hs), hkept] at hfilter
    exact hfilter
  · have hkept : st.poll.entries.filter (fun e => e.myds ≠ some s) = st.poll.entries :=
      List.filter_eq_self.mpr fun a ha => decide_eq_true (hnone a ha)
    rw [if_neg (by decide), setStream_setStream]
    refine Meets.ok ⟨⟨?_, ?_⟩, ?_, ?_, ?_⟩
    · rw [poll_setStream]
      exact hwf
    · intro i a s' ha hs'
      rw [poll_setStream] at ha
      rw [stream_setStream, if_neg fun heq => hnone a (List.mem_of_getElem? ha) (hs'.trans heq.symm)]
      exact h.placed i a s' ha hs'
    · rw [poll_setStream, hkept]
    · rw [stream_setStream, if_pos rfl]
    · intro s' hne _
      rw [stream_setStream, if_neg fun heq => hne (Option.some.inj heq).symm]

end Inv

/-! ## Runs -/

/-- A stream that is added is not in the table. -/
def Allowed (st : State S P) : Op S P → Prop
  | .add _ _ myds _ _ => ∀ s, myds = some s → ¬ InTable st s
  | _ => True

/-- The last cell of the largest arrays is used. -/
def Full (st : State S P) : Op S P → Prop
  | .add .. => st.poll.len = 2 ^ 31
  | _ => False

/-- What an operation does to the entries and the streams -/
def Effect (st st' : State S P) : Op S P → Prop
  | .add events fd myds now sentTime =>
      st'.poll.entries =
          st.poll.entries ++ [⟨⟨fd, events.setWidth 16, 0⟩, myds, now, sentTime⟩] ∧
        ∀ s, myds ≠ some s → st'.stream s = st.stream s
  | .updateFdAtIndex idx fd =>
      st'.poll.entries =
          st.poll.entries.modify idx (fun e => { e with pollFd := { e.pollFd with fd := fd } }) ∧
        st'.stream = st.stream
  | .removeIndexFast i =>
      match st.poll.entries[i]? with
      | some e => st.poll.entries.Perm (e :: st'.poll.entries) ∧
          (∀ s, e.myds = some s → st'.stream s = ⟨-1, none⟩) ∧
          ∀ s, ¬ InTable st s → st'.stream s = st.stream s
      | none => st' = st
  | .removeDataStream myds _ =>
      match myds with
      | some s => st'.poll.entries.Perm (st.poll.entries.filter fun e => e.myds ≠ some s) ∧
          st'.stream s = ⟨-1, none⟩ ∧
          ∀ s', s' ≠ s → ¬ InTable st s' → st'.stream s' = st.stream s'
      | none => st' = st

/-- An operation keeps the invariant.  It returns, unless a full table grows. -/
theorem step_meets
    (h : Inv this st)
    (fuel : Nat) (fresh : Nat → Entry S) (op : Op S P)
    (hop : Allowed st op) :
    Meets (fun err => err = .outOfFuel ∧ (fuel < 32 ∨ Full st op)) (step this fuel fresh st op)
      (fun st' => Inv this st' ∧ Effect st st' op) := by
  cases op with
  | add events fd myds now sentTime =>
      exact h.add_meets fuel fresh events fd myds now sentTime hop
  | updateFdAtIndex idx fd =>
      exact (h.updateFdAtIndex_meets idx fd).mono (fun _ hf => hf.elim) fun _ hst => hst
  | removeIndexFast i =>
      rcases Nat.lt_or_ge i st.poll.len with hi | hi
      · obtain ⟨e, he⟩ := h.wellFormed.exists_entry hi
        refine (h.removeIndexFast_meets fuel fresh he).mono
          (fun _ herr => ⟨herr.1, Or.inl herr.2⟩) ?_
        rintro st' ⟨hinv, heffect⟩
        rw [Effect, he]
        exact ⟨hinv, heffect⟩
      · rw [step, h.removeIndexFast_outside fuel fresh hi]
        refine Meets.ok ⟨h, ?_⟩
        rw [Effect, List.getElem?_eq_none (by rw [h.wellFormed.length_entries]; exact hi)]
  | removeDataStream myds stale =>
      cases myds with
      | none =>
          exact Meets.ok ⟨h, rfl⟩
      | some s =>
          exact (h.removeDataStream_meets fuel fresh s stale).mono
            (fun _ herr => ⟨herr.1, Or.inl herr.2⟩) fun _ hst => hst

def Returns (this : P) (st : State S P) (op : Op S P) (st' : State S P) : Prop :=
  Allowed st op ∧ ∃ fuel fresh, step this fuel fresh st op = .ok st'

/-- In every state of a run the arrays are long enough and the streams of the entries have their
index.  The next operation does not leave the arrays, returns unless a full table grows, and changes
the entries as it should. -/
theorem run_keeps
    (this : P) (fresh : Nat → Entry S) (stream : S → DataStream P) (ops : List (Op S P))
    (st : State S P)
    (h : Run (Returns this) ⟨Poll.new fresh, stream⟩ ops st) :
    Inv this st ∧ ∀ op, Allowed st op → ∀ fuel fresh,
      Meets (fun err => err = .outOfFuel ∧ (fuel < 32 ∨ Full st op)) (step this fuel fresh st op)
        (fun st' => Inv this st' ∧ Effect st st' op) := by
  have hinv : Inv this st := by
    refine h.invariant (inv_new this fresh stream) ?_
    rintro t op u ht ⟨hop, fuel, fresh, hstep⟩
    exact ((step_meets ht fuel fresh op hop).of_ok hstep).1
  exact ⟨hinv, fun op hop fuel fresh => step_meets hinv fuel fresh op hop⟩

instance (st : State S P) : (op : Op S P) → Decidable (Allowed st op)
  | .add _ _ none _ _ => isTrue nofun
  | .add _ _ (some s) _ _ =>
      decidable_of_iff (∀ e ∈ st.poll.entries, e.myds ≠ some s)
        ⟨fun h _ hs ⟨e, he, heq⟩ => h e he (heq.trans hs.symm), fun h e he heq => h s rfl ⟨e, he, heq⟩⟩
  | .updateFdAtIndex .. => isTrue trivial
  | .removeIndexFast _ => isTrue trivial
  | .removeDataStream .. => isTrue trivial

def newTable : State Nat Unit where
  poll := Poll.new fun _ => ⟨⟨0, 0, 0⟩, none, 0, 0⟩
  stream _ := ⟨-1, none⟩

/-- An operation that is allowed, with cells that hold nothing where the arrays grow -/
def perform (st : State Nat Unit) (op : Op Nat Unit) : Option (State Nat Unit) :=
  if Allowed st op then (step () 32 (fun _ => ⟨⟨0, 0, 0⟩, none, 0, 0⟩) st op).toOption else none

theorem run_of_perform
    {ops : List (Op Nat Unit)} {st st' : State Nat Unit}
    (h : Run (fun st op st' => perform st op = some st') st ops st') :
    Run (Returns ()) st ops st' := by
  induction h with
  | nil =>
      exact .nil
  | @snoc _ t u op _ hstep ih =>
      refine ih.snoc ?_
      unfold perform at hstep
      split at hstep
      · rename_i hallowed
        cases hresult : step () 32 (fun _ => ⟨⟨0, 0, 0⟩, none, 0, 0⟩) t op with
        | error f =>
            rw [hresult] at hstep
            cases hstep
        | ok v =>
            rw [hresult] at hstep
            obtain rfl := Option.some.inj hstep
            exact ⟨hallowed, 32, _, hresult⟩
      · cases hstep

/-- The arrays grow to 128 cells for the last of 65 streams; it moves to the place of the first one; and
they shrink again when 49 streams more, whose index was lost, are found and removed. -/
def manyStreams : List (Op Nat Unit) :=
  (List.range 65).map (fun i => .add 1 i (some i) 5 6) ++
    .removeIndexFast 0 :: .updateFdAtIndex 0 9 ::
      (List.range 49).map fun i => .removeDataStream (some (i + 1)) fun _ => ⟨-1, none⟩

theorem run_keeps_manyStreams :
    ∃ st, Run (Returns ()) newTable manyStreams st ∧
      (st.poll.len, st.poll.size, (st.stream 64).pollFdsIdx) = (15, 16, 0) ∧
      Inv () st ∧ ∀ op, Allowed st op → ∀ fuel fresh,
        Meets (fun err => err = .outOfFuel ∧ (fuel < 32 ∨ Full st op)) (step () fuel fresh st op)
          (fun st' => Inv () st' ∧ Effect st st' op) := by
  have heval : (manyStreams.foldlM perform newTable).map
      (fun st => (st.poll.len, st.poll.size, (st.stream 64).pollFdsIdx)) = some (15, 16, 0) := by
    decide +kernel
  obtain ⟨st, hperform, hst⟩ := Run.exists_of_foldlM_map manyStreams heval
  have hrun := run_of_perform hperform
  exact ⟨st, hrun, hst, run_keeps () _ _ manyStreams st hrun⟩

end PollTable

end PolarProxy
