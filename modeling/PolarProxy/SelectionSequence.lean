import PolarProxy.Library.Spreading
import Mathlib.Algebra.GroupWithZero.Nat

/-!
# The sequence of reader selections

With two configured readers a worker does not draw at random: it keeps, for each hostgroup, the number
of its next selection and derives the reader from it.  A new server list drops all numbers; the first
number of a hostgroup comes from a counter that the workers share.

Numbers and weights are 64 bits wide, the products of the choice 128 bits.

**Results.** `selectionValues_consecutive`, `weightedSelection_fair`.
-/

namespace PolarProxy

open Spreading

/-- `PolarDB_ReaderSelectionState` -/
structure ReaderSelectionState where
  hostgroupId : Nat
  nextSequence : Nat
  deriving DecidableEq

/-- The selection state of `PgSQL_Thread` -/
structure SelectionThread where
  generation : Nat := 0
  generationInitialized : Bool := false
  sequences : List ReaderSelectionState := []
  deriving DecidableEq

/-- `++` of a `uint64_t` -/
def nextUint64 (n : Nat) : Nat :=
  (n + 1) % 2 ^ 64

namespace SelectionThread

/-- The loop over the stored states: the number of the hostgroup, which then advances. -/
def takeSequence (hostgroupId : Nat) :
    List ReaderSelectionState → Option (Nat × List ReaderSelectionState)
  | [] => none
  | state :: rest =>
      if state.hostgroupId = hostgroupId then
        some (state.nextSequence,
          { state with nextSequence := nextUint64 state.nextSequence } :: rest)
      else (takeSequence hostgroupId rest).map fun (n, rest) => (n, state :: rest)

/-- The numbers of another server list are dropped. -/
def forGeneration (th : SelectionThread) (generation : Nat) : SelectionThread :=
  if th.generationInitialized = false ∨ th.generation ≠ generation then
    { generation := generation, generationInitialized := true, sequences := [] }
  else th

/-- `polardb_next_reader_selection_sequence`, with the shared counter of the hostgroup, `none` where
there is none -/
def nextSequence (th : SelectionThread) (hostgroupId generation : Nat)
    (selectionStart : Option Nat) : Nat × SelectionThread × Option Nat :=
  let th := th.forGeneration generation
  match takeSequence hostgroupId th.sequences with
  | some (n, sequences) => (n, { th with sequences := sequences }, selectionStart)
  | none =>
      let first := selectionStart.getD 0
      (first,
        { th with sequences := th.sequences ++ [⟨hostgroupId, nextUint64 first⟩] },
        selectionStart.map nextUint64)

end SelectionThread

/-- The reader that a number selects -/
def weightedIndex (sequence weight0 weight1 : Nat) : Nat :=
  let weightSum := (weight0 + weight1) % 2 ^ 64
  if weight0 ≠ weight1 ∧ weightSum ≠ 0 then
    let slot := sequence % weightSum
    let before := slot * weight1 / weightSum
    let after := (slot + 1) * weight1 / weightSum
    if before < after then 1 else 0
  else sequence % 2

/-- `polardb_reader_select_weighted_index`: without a worker the shared counter is the sequence. -/
def selectWeightedIndex (th : Option SelectionThread) (hostgroupId generation selectionStart : Nat)
    (weight0 weight1 : Nat) : Nat × Option SelectionThread × Nat :=
  match th with
  | some th =>
      let (n, th, start) := th.nextSequence hostgroupId generation (some selectionStart)
      (weightedIndex n weight0 weight1, some th, start.getD 0)
  | none => (weightedIndex selectionStart weight0 weight1, none, nextUint64 selectionStart)

/-- The weight that the caller passes: an `int64_t` of the server list, zero for a negative one -/
structure ReaderWeight where
  value : Nat
  lt : value < 2 ^ 63

/-! ## Numbers of a worker -/

/-- A call of a worker under one server list: the hostgroup, and the shared counter at that moment,
which other workers move -/
structure SelectionCall where
  hostgroupId : Nat
  selectionStart : Option Nat
  deriving DecidableEq

namespace SelectionThread

variable {th : SelectionThread} {hid gen : Nat}

/-- The numbers that the calls for one hostgroup return. -/
def selectionValues (hid gen : Nat) : SelectionThread → List SelectionCall → List Nat
  | _, [] => []
  | th, call :: rest =>
      let result := th.nextSequence call.hostgroupId gen call.selectionStart
      if call.hostgroupId = hid then result.1 :: selectionValues hid gen result.2.1 rest
      else selectionValues hid gen result.2.1 rest

/-- The number that the hostgroup has next. -/
def pending (th : SelectionThread) (hid : Nat) : Option Nat :=
  (takeSequence hid th.sequences).map (·.1)

/-- The numbers belong to this server list. -/
def Current (th : SelectionThread) (gen : Nat) : Prop :=
  th.generationInitialized = true ∧ th.generation = gen

theorem Current.forGeneration
    (h : th.Current gen) :
    th.forGeneration gen = th := by
  refine if_neg ?_
  rw [h.1, h.2]
  simp

theorem current_forGeneration
    (th : SelectionThread) (gen : Nat) :
    (th.forGeneration gen).Current gen := by
  unfold SelectionThread.forGeneration
  split
  · exact ⟨rfl, rfl⟩
  · rename_i h
    rw [not_or, not_not, Bool.not_eq_false] at h
    exact h

theorem takeSequence_append
    {l : List ReaderSelectionState} {n : Nat}
    (h : takeSequence hid l = none) :
    takeSequence hid (l ++ [⟨hid, n⟩]) =
      some (n, l ++ [⟨hid, nextUint64 n⟩]) := by
  induction l with
  | nil =>
      exact if_pos rfl
  | cons state rest ih =>
      rw [takeSequence] at h
      split at h
      · cases h
      · rename_i hne
        rw [List.cons_append, takeSequence, if_neg hne, ih (Option.map_eq_none_iff.mp h)]
        rfl

theorem takeSequence_again
    {l l' : List ReaderSelectionState} {n : Nat}
    (h : takeSequence hid l = some (n, l')) :
    (takeSequence hid l').map (·.1) = some (nextUint64 n) := by
  induction l generalizing l' with
  | nil =>
      cases h
  | cons state rest ih =>
      rw [takeSequence] at h
      split at h
      · rename_i heq
        obtain ⟨rfl, rfl⟩ := Prod.mk.inj (Option.some.inj h)
        rw [takeSequence, if_pos heq]
        rfl
      · rename_i hne
        obtain ⟨⟨m, rest'⟩, hrest, hpair⟩ := Option.map_eq_some_iff.mp h
        obtain ⟨rfl, rfl⟩ := Prod.mk.inj hpair
        have hnext := ih hrest
        rw [takeSequence, if_neg hne]
        rw [Option.map_map]
        exact hnext

theorem takeSequence_other
    {l l' : List ReaderSelectionState} {n other : Nat}
    (hother : other ≠ hid)
    (h : takeSequence other l = some (n, l')) :
    (takeSequence hid l').map (·.1) = (takeSequence hid l).map (·.1) := by
  induction l generalizing l' with
  | nil =>
      cases h
  | cons state rest ih =>
      rw [takeSequence] at h
      split at h
      · rename_i heq
        obtain ⟨rfl, rfl⟩ := Prod.mk.inj (Option.some.inj h)
        have hne : ¬ state.hostgroupId = hid := fun heq' => hother (heq.symm.trans heq')
        rw [takeSequence, takeSequence, if_neg hne, if_neg hne, Option.map_map, Option.map_map]
        rfl
      · obtain ⟨⟨m, rest'⟩, hrest, hpair⟩ := Option.map_eq_some_iff.mp h
        obtain ⟨rfl, rfl⟩ := Prod.mk.inj hpair
        have hnext := ih hrest
        rw [takeSequence, takeSequence]
        split
        · rfl
        · rw [Option.map_map, Option.map_map]
          exact hnext

theorem takeSequence_append_other
    {l : List ReaderSelectionState} {n other : Nat}
    (hother : other ≠ hid) :
    (takeSequence hid (l ++ [⟨other, n⟩])).map (·.1) = (takeSequence hid l).map (·.1) := by
  induction l with
  | nil =>
      simp only [List.nil_append, takeSequence, hother, if_false, Option.map_none]
  | cons state rest ih =>
      rw [List.cons_append, takeSequence, takeSequence]
      split
      · rfl
      · rw [Option.map_map, Option.map_map]
        exact ih

/-- A call returns the number of its hostgroup and advances it. -/
theorem nextSequence_same
    (th : SelectionThread) (start : Option Nat) :
    (th.nextSequence hid gen start).2.1.Current gen ∧
      (th.nextSequence hid gen start).1 = ((th.forGeneration gen).pending hid).getD (start.getD 0) ∧
        (th.nextSequence hid gen start).2.1.pending hid =
          some (nextUint64 (th.nextSequence hid gen start).1) := by
  have hcurrent := current_forGeneration th gen
  rw [nextSequence, pending, pending]
  cases htake : takeSequence hid (th.forGeneration gen).sequences with
  | none =>
      refine ⟨hcurrent, rfl, ?_⟩
      dsimp only
      rw [takeSequence_append htake]
      rfl
  | some taken =>
      exact ⟨hcurrent, rfl, takeSequence_again htake⟩

/-- A call for another hostgroup leaves the number where it is. -/
theorem nextSequence_other
    {other : Nat}
    (th : SelectionThread)
    (hother : other ≠ hid)
    (start : Option Nat) :
    (th.nextSequence other gen start).2.1.Current gen ∧
      (th.nextSequence other gen start).2.1.pending hid = (th.forGeneration gen).pending hid := by
  have hcurrent := current_forGeneration th gen
  rw [nextSequence, pending, pending]
  cases htake : takeSequence other (th.forGeneration gen).sequences with
  | none =>
      exact ⟨hcurrent, takeSequence_append_other hother⟩
  | some taken =>
      exact ⟨hcurrent, takeSequence_other hother htake⟩

/-- The numbers of a hostgroup that a worker has begun go on with the one that is pending. -/
theorem selectionValues_head
    {first : Nat}
    (hcurrent : th.Current gen)
    (hpending : th.pending hid = some first)
    (calls : List SelectionCall) :
    ∀ n ∈ (selectionValues hid gen th calls).head?, n = first := by
  induction calls generalizing th with
  | nil =>
      intro n hn
      cases hn
  | cons call rest ih =>
      rw [selectionValues]
      split
      · rename_i heq
        intro n hn
        obtain rfl := Option.some.inj hn
        rw [heq, (nextSequence_same th call.selectionStart).2.1, hcurrent.forGeneration, hpending]
        rfl
      · rename_i hne
        obtain ⟨hcurrent', hpending'⟩ := nextSequence_other th hne call.selectionStart
        rw [hcurrent.forGeneration, hpending] at hpending'
        exact ih hcurrent' hpending'

/-- While the server list stays, the numbers that a worker draws for one hostgroup follow each
other, whatever it draws for others in between. -/
theorem selectionValues_consecutive
    (hid gen : Nat) (th : SelectionThread) (calls : List SelectionCall) :
    (selectionValues hid gen th calls).IsChain fun a b => b = nextUint64 a := by
  induction calls generalizing th with
  | nil =>
      exact List.isChain_nil
  | cons call rest ih =>
      rw [selectionValues]
      split
      · rename_i heq
        subst heq
        obtain ⟨hcurrent, -, hpending⟩ := nextSequence_same th call.selectionStart
        exact List.isChain_cons.mpr ⟨selectionValues_head hcurrent hpending rest, ih _⟩
      · exact ih _

end SelectionThread

/-! ## Fairness -/

/-- How often an index is chosen over the numbers from `first` on. -/
def timesChosen (index first count : Nat) (weight0 weight1 : ReaderWeight) : Nat :=
  Nat.count (fun k => weightedIndex (first + k) weight0.value weight1.value = index) count

variable {weight0 weight1 : ReaderWeight}

theorem weightedIndex_of_ne
    (hne : weight0.value ≠ weight1.value)
    (n : Nat) :
    weightedIndex n weight0.value weight1.value =
      if Chosen weight1.value (weight0.value + weight1.value) n then 1 else 0 := by
  have h0 := weight0.lt
  have h1 := weight1.lt
  have hsum : (weight0.value + weight1.value) % 2 ^ 64 = weight0.value + weight1.value :=
    Nat.mod_eq_of_lt (by omega)
  have hpos : 0 < weight0.value + weight1.value := by omega
  have hcond : weight0.value ≠ weight1.value ∧ weight0.value + weight1.value ≠ 0 :=
    ⟨hne, Nat.ne_of_gt hpos⟩
  rw [weightedIndex]
  dsimp only
  rw [hsum, if_pos hcond]
  exact if_congr (Chosen.mod_iff hpos n) rfl rfl

theorem weightedIndex_of_eq
    (heq : weight0.value = weight1.value)
    (n : Nat) :
    weightedIndex n weight0.value weight1.value = n % 2 := by
  rw [weightedIndex]
  exact if_neg fun h => h.1 heq

theorem weightedIndex_lt (n : Nat) : weightedIndex n weight0.value weight1.value < 2 := by
  by_cases heq : weight0.value = weight1.value
  · rw [weightedIndex_of_eq heq]
    exact Nat.mod_lt _ (by decide)
  · rw [weightedIndex_of_ne heq]
    split
    · decide
    · decide

/-- A number that does not choose one reader chooses the other. -/
theorem timesChosen_add (first count : Nat) :
    timesChosen 0 first count weight0 weight1 + timesChosen 1 first count weight0 weight1 =
      count := by
  induction count with
  | zero =>
      rfl
  | succ count ih =>
      have hlt := @weightedIndex_lt weight0 weight1 (first + count)
      rw [timesChosen, timesChosen] at ih ⊢
      rw [Nat.count_succ, Nat.count_succ]
      by_cases h : weightedIndex (first + count) weight0.value weight1.value = 0
      · rw [if_pos h, if_neg (by omega)]
        omega
      · rw [if_neg h, if_pos (by omega)]
        omega

theorem timesChosen_of_ne
    (hne : weight0.value ≠ weight1.value)
    (first count : Nat) :
    timesChosen 1 first count weight0 weight1 =
      Nat.count (fun k => Chosen weight1.value (weight0.value + weight1.value) (first + k)) count := by
  rw [timesChosen]
  congr 1
  funext k
  rw [weightedIndex_of_ne hne]
  split
  · rename_i h
    exact propext ⟨fun _ => h, fun _ => rfl⟩
  · rename_i h
    exact propext ⟨fun h0 => absurd h0 Nat.zero_ne_one, fun h' => absurd h' h⟩

theorem timesChosen_of_eq
    (heq : weight0.value = weight1.value)
    (first count : Nat) :
    timesChosen 1 first count weight0 weight1 =
      Nat.count (fun k => Chosen 1 2 (first + k)) count := by
  rw [timesChosen]
  congr 1
  funext k
  rw [weightedIndex_of_eq heq]
  exact propext (Chosen.half_iff _).symm

/-- Over as many numbers as the weights have units, each reader is chosen by its weight. -/
theorem timesChosen_cycle
    (hpos : 0 < weight0.value + weight1.value)
    (first : Nat) :
    timesChosen 1 first (weight0.value + weight1.value) weight0 weight1 = weight1.value ∧
      timesChosen 0 first (weight0.value + weight1.value) weight0 weight1 = weight0.value := by
  have hone : timesChosen 1 first (weight0.value + weight1.value) weight0 weight1 =
      weight1.value := by
    by_cases heq : weight0.value = weight1.value
    · have hwindow := count_window (w := 1) (S := 2) (by decide) (by decide) first
        (weight0.value + weight1.value)
      rw [timesChosen_of_eq heq]
      omega
    · rw [timesChosen_of_ne heq]
      exact count_cycle (Nat.le_add_left _ _) hpos first
  have hsum := @timesChosen_add weight0 weight1 first
    (weight0.value + weight1.value)
  exact ⟨hone, by omega⟩

/-- From a multiple of the sum on, the second reader has its share. -/
theorem timesChosen_initial
    (hpos : 0 < weight0.value + weight1.value)
    (q n : Nat) :
    timesChosen 1 (q * (weight0.value + weight1.value)) n weight0 weight1 =
      n * weight1.value / (weight0.value + weight1.value) := by
  by_cases heq : weight0.value = weight1.value
  · have hstart : q * (weight0.value + weight1.value) = q * weight1.value * 2 := by
      rw [heq, ← Nat.mul_two, Nat.mul_assoc]
    have hshare : n * weight1.value / (weight0.value + weight1.value) = n * 1 / 2 := by
      rw [heq, ← Nat.mul_two, Nat.mul_one, Nat.mul_comm weight1.value 2]
      exact Nat.mul_div_mul_right _ _ (by omega)
    rw [timesChosen_of_eq heq, hstart, hshare]
    exact count_prefix (by decide) (by decide) _ _
  · rw [timesChosen_of_ne heq]
    exact count_prefix (Nat.le_add_left _ _) hpos q n

theorem weightedIndex_ne_of_zero
    (hpos : 0 < weight0.value + weight1.value)
    (n : Nat) :
    (weight0.value = 0 → weightedIndex n weight0.value weight1.value ≠ 0) ∧
      (weight1.value = 0 → weightedIndex n weight0.value weight1.value ≠ 1) := by
  constructor
  · intro hzero
    rw [weightedIndex_of_ne (by omega), hzero, Nat.zero_add, if_pos (Chosen.all (by omega) n)]
    decide
  · intro hzero
    rw [weightedIndex_of_ne (by omega), hzero, if_neg (Chosen.none n)]
    decide

/-- Of two configured readers, each is chosen by its weight over any `weight0 + weight1` numbers in a row
that do not cross the wrap of the sequence; in any prefix of such a window that starts at a multiple of
the sum the second reader is less than one selection away from its share; a reader of weight zero is
never chosen.  A call selects by the number that it draws, and the numbers that a worker draws for a
hostgroup do follow each other. -/
theorem weightedSelection_fair
    (weight0 weight1 : ReaderWeight)
    (hpos : 0 < weight0.value + weight1.value) :
    (∀ first, first + (weight0.value + weight1.value) ≤ 2 ^ 64 →
      timesChosen 1 first (weight0.value + weight1.value) weight0 weight1 = weight1.value ∧
        timesChosen 0 first (weight0.value + weight1.value) weight0 weight1 = weight0.value) ∧
    (∀ q n, n ≤ weight0.value + weight1.value →
      q * (weight0.value + weight1.value) + n ≤ 2 ^ 64 →
        |(timesChosen 1 (q * (weight0.value + weight1.value)) n weight0 weight1 : ℚ) -
          (n : ℚ) * weight1.value / (weight0.value + weight1.value : Nat)| < 1) ∧
    (∀ sequence,
      (weight0.value = 0 → weightedIndex sequence weight0.value weight1.value ≠ 0) ∧
        (weight1.value = 0 → weightedIndex sequence weight0.value weight1.value ≠ 1)) ∧
    (∀ hid gen start,
      (selectWeightedIndex none hid gen start weight0.value weight1.value).1 =
          weightedIndex start weight0.value weight1.value ∧
        ∀ th, (selectWeightedIndex (some th) hid gen start weight0.value weight1.value).1 =
          weightedIndex (th.nextSequence hid gen (some start)).1 weight0.value weight1.value) ∧
    ∀ hid gen th calls,
      (SelectionThread.selectionValues hid gen th calls).IsChain fun a b => b = nextUint64 a := by
  refine ⟨fun first _ => timesChosen_cycle hpos first, fun q n _ _ => ?_,
    weightedIndex_ne_of_zero hpos, fun _ _ _ => ⟨rfl, fun _ => rfl⟩,
    SelectionThread.selectionValues_consecutive⟩
  rw [timesChosen_initial hpos]
  exact share_error hpos n

/-- Weights three and one -/
theorem weightedSelection_fair_threeToOne :
    timesChosen 1 5 4 ⟨3, by decide⟩ ⟨1, by decide⟩ = 1 ∧
      timesChosen 0 5 4 ⟨3, by decide⟩ ⟨1, by decide⟩ = 3 :=
  (weightedSelection_fair ⟨3, by decide⟩ ⟨1, by decide⟩ (by decide)).1 5 (by decide)

end PolarProxy
