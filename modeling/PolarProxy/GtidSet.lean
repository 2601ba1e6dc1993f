import Mathlib.Algebra.Group.Int.Defs
import Mathlib.Algebra.Group.Nat.Defs
import Mathlib.Data.List.AList
import Mathlib.Data.List.Sort
import PolarProxy.Library.IntervalLists
import PolarProxy.Text

/-!
# Sets of transaction ids

For each server uuid a `GTID_Set` keeps a list of intervals of transaction ids.  An
interval that comes in is appended to the last one, merged into one that it touches, or
stored at the end; after a merge the list is sorted and neighbours that touch are merged.

Transaction ids are of type `int64_t`.  An interval has its bounds in this range and in
order, as every constructor of the source leaves them; the sums `end + 1` and `start - 1`
wrap around.

**Results.** `append_eq`, `merge_eq`, `addTo_spec`, `gtid_set_refines`.
-/

namespace PolarProxy

open IntervalLists

/-- `INT64_MIN` -/
def minTrxId : Int := -2 ^ 63

/-- `INT64_MAX` -/
def maxTrxId : Int := 2 ^ 63 - 1

/-- Sums of type `trxid_t`. -/
def wrapTrxId (n : Int) : Int :=
  n.bmod (2 ^ 64)

theorem wrapTrxId_eq
    {n : Int}
    (hlow : minTrxId ≤ n)
    (hhigh : n ≤ maxTrxId) :
    wrapTrxId n = n := by
  unfold wrapTrxId minTrxId maxTrxId at *
  rw [Int.bmod_eq_of_le] <;> omega

/-- `TrxId_Interval` -/
structure TrxIdInterval where
  start : Int
  fin : Int
  le : start ≤ fin
  low : minTrxId ≤ start
  high : fin ≤ maxTrxId
  deriving DecidableEq

/-- A value of type `trxid_t`. -/
structure TrxId where
  val : Int
  low : minTrxId ≤ val
  high : val ≤ maxTrxId
  deriving DecidableEq

namespace TrxIdInterval

/-- `TrxId_Interval(const trxid_t _start, const trxid_t _end)` -/
def ofRange (start fin : TrxId) : TrxIdInterval :=
  if h : start.val ≤ fin.val then ⟨start.val, fin.val, h, start.low, fin.high⟩
  else ⟨fin.val, start.val, by omega, fin.low, start.high⟩

/-- `TrxId_Interval(const trxid_t trxid)` -/
def ofId (trxid : TrxId) : TrxIdInterval :=
  ofRange trxid trxid

/-! ## Parsing -/

def digitValue (c : Char) : Nat :=
  c.toNat - '0'.toNat

def digitsValue (digits : List Char) : Nat :=
  digits.foldl (fun value c => 10 * value + digitValue c) 0

/-- `parse_trxid_component`: digits whose value `strtoll` can return, and the rest. -/
def parseTrxidComponent (p : List Char) : Option (TrxId × List Char) :=
  let digits := p.takeWhile Char.isDigit
  if digits.isEmpty then none
  else if h : (digitsValue digits : Int) ≤ maxTrxId then
    some (⟨digitsValue digits, by unfold minTrxId; omega, h⟩, p.dropWhile Char.isDigit)
  else none

/-- `parse`, of the text up to its NUL -/
def parse (s : List Char) : Option TrxIdInterval :=
  match parseTrxidComponent (cString s) with
  | none => none
  | some (start, '-' :: p) =>
      match parseTrxidComponent p with
      | some (fin, []) => some (ofRange start fin)
      | _ => none
  | some (start, []) => some (ofId start)
  | some _ => none

/-- `TrxId_Interval(const char *s)`: a text that cannot be parsed gives the interval 0-0. -/
def ofText (s : List Char) : TrxIdInterval :=
  (parse s).getD ⟨0, 0, by omega, by decide, by decide⟩

/-! ## Intervals -/

/-- `contains` of an interval -/
def contains (iv other : TrxIdInterval) : Bool :=
  other.start ≥ iv.start && other.fin ≤ iv.fin

/-- `contains` of a transaction id -/
def containsId (iv : TrxIdInterval) (trxid : Int) : Bool :=
  trxid ≥ iv.start && trxid ≤ iv.fin

/-- `append` -/
def append (iv other : TrxIdInterval) : Option TrxIdInterval :=
  if h : other.start ≥ iv.start ∧ other.fin ≥ iv.fin ∧ other.start ≤ wrapTrxId (iv.fin + 1) then
    some ⟨iv.start, other.fin, le_trans iv.le h.2.1, iv.low, other.high⟩
  else none

/-- `merge`; `none` when the intervals are not merged. -/
def merge (iv other : TrxIdInterval) : Option TrxIdInterval :=
  if other.start ≥ iv.start ∧ other.fin ≤ iv.fin then some iv
  else if other.start ≤ iv.start ∧ other.fin ≥ iv.fin then some other
  else if h : other.start ≤ iv.start ∧ other.fin ≥ wrapTrxId (iv.start - 1) then
    some ⟨other.start, iv.fin, le_trans h.1 iv.le, other.low, iv.high⟩
  else if h : other.fin ≥ iv.fin ∧ other.start ≤ wrapTrxId (iv.fin + 1) then
    some ⟨iv.start, other.fin, le_trans iv.le h.1, iv.low, other.high⟩
  else none

/-- `operator<`, by `cmp` -/
def before (iv other : TrxIdInterval) : Bool :=
  iv.start < other.start || (iv.start == other.start && iv.fin < other.fin)

end TrxIdInterval

/-! ## Lists of intervals -/

/-- The loop of `add` that looks for a place; `none` when the interval is there already. -/
def placeInterval (iv : TrxIdInterval) : List TrxIdInterval → Option (List TrxIdInterval)
  | [] => some [iv]
  | pos :: rest =>
      if pos.contains iv then none
      else
        match pos.merge iv with
        | some merged => some (merged :: rest)
        | none => (placeInterval iv rest).map (pos :: ·)

/-- `sort`, and the loop that merges neighbours -/
def mergeNeighbours (l : List TrxIdInterval) : List TrxIdInterval :=
  joinTouching TrxIdInterval.merge (l.mergeSort fun iv iv' => !iv'.before iv)

/-- The slow path of `add`. -/
def insertInterval (l : List TrxIdInterval) (iv : TrxIdInterval) : Option (List TrxIdInterval) :=
  (placeInterval iv l).map mergeNeighbours

/-- `add` to the list of a uuid; `none` when the list is not modified. -/
def addTo (l : List TrxIdInterval) (iv : TrxIdInterval) : Option (List TrxIdInterval) :=
  match l.getLast? with
  | none => insertInterval l iv
  | some last =>
      if last.contains iv then none
      else
        match last.append iv with
        | some appended => some (l.dropLast ++ [appended])
        | none => insertInterval l iv

/-- `GTID_Set`, with the lists of each uuid -/
structure GtidSet where
  map : AList fun _ : List Char => List TrxIdInterval := ∅

/-- What the overloads of `add` are called with. -/
inductive GtidArg
  | interval (iv : TrxIdInterval)
  | id (trxid : TrxId)
  | range (start fin : TrxId)
  /-- `const char *` -/
  | cText (s : List Char)
  /-- `const std::string&` -/
  | text (s : List Char)

def GtidArg.interval? : GtidArg → Option TrxIdInterval
  | .interval iv => some iv
  | .id trxid => some (.ofId trxid)
  | .range start fin => some (.ofRange start fin)
  | .cText s => TrxIdInterval.parse s
  | .text s => some (.ofText s)

namespace GtidSet

/-- `add(const std::string& uuid, const TrxId_Interval& iv)` -/
def addInterval (s : GtidSet) (uuid : List Char) (iv : TrxIdInterval) : Bool × GtidSet :=
  match s.map.lookup uuid with
  | none => (true, ⟨s.map.insert uuid [iv]⟩)
  | some l =>
      match addTo l iv with
      | none => (false, s)
      | some l => (true, ⟨s.map.insert uuid l⟩)

/-- `add`, all overloads -/
def add (s : GtidSet) (uuid : List Char) (arg : GtidArg) : Bool × GtidSet :=
  match arg.interval? with
  | none => (false, s)
  | some iv => s.addInterval uuid iv

/-- `has_gtid` -/
def hasGtid (s : GtidSet) (uuid : List Char) (trxid : Int) : Bool :=
  match s.map.lookup uuid with
  | none => false
  | some l => l.any fun iv => iv.containsId trxid

/-- The set after a sequence of calls. -/
def addAll (s : GtidSet) (calls : List (List Char × GtidArg)) : GtidSet :=
  calls.foldl (fun s call => (s.add call.1 call.2).2) s

end GtidSet

/-! ## Intervals -/

/-- The bounds of intervals of transaction ids. -/
def trxIdBounds : Bounds TrxIdInterval :=
  ⟨TrxIdInterval.start, TrxIdInterval.fin, TrxIdInterval.le⟩

def TrxIdInterval.Has (iv : TrxIdInterval) (n : Int) : Prop :=
  iv.start ≤ n ∧ n ≤ iv.fin

namespace TrxIdInterval

variable {iv other c : TrxIdInterval}

theorem contains_iff :
    iv.contains other = true ↔ iv.start ≤ other.start ∧ other.fin ≤ iv.fin := by
  simp [contains]

/-- An interval that is not contained and can be appended ends later and begins before the
end or next to it; the sum does not wrap. -/
theorem append_eq
    (hnot : iv.contains other = false)
    (h : iv.append other = some c) :
    c.start = iv.start ∧ c.fin = other.fin ∧ iv.start ≤ other.start ∧ iv.fin < other.fin ∧
      other.start ≤ iv.fin + 1 := by
  rw [append] at h
  split at h
  · rename_i hcond
    obtain ⟨hstart, hfin, htouch⟩ := hcond
    obtain rfl := Option.some.inj h
    have hout : ¬ (iv.start ≤ other.start ∧ other.fin ≤ iv.fin) := by
      rw [← contains_iff, hnot]
      exact Bool.false_ne_true
    have hlt : iv.fin < other.fin := by
      omega
    have hhigh := other.high
    have hlow := iv.low
    have hle := iv.le
    rw [wrapTrxId_eq (by omega) (by omega)] at htouch
    exact ⟨rfl, rfl, hstart, hlt, htouch⟩
  · cases h

/-- Intervals are merged when they overlap or are next to each other, into the interval
that spans both; no sum wraps. -/
theorem merge_eq :
    (iv.merge other = none → other.fin + 1 < iv.start ∨ iv.fin + 1 < other.start) ∧
      ∀ c, iv.merge other = some c → c.start = min iv.start other.start ∧
        c.fin = max iv.fin other.fin ∧ other.start ≤ iv.fin + 1 ∧ iv.start ≤ other.fin + 1 := by
  have hle := iv.le
  have hle' := other.le
  have hlow := other.low
  have hhigh := other.high
  have hlow' := iv.low
  have hhigh' := iv.high
  rw [merge]
  split
  · rename_i hcond
    refine ⟨nofun, ?_⟩
    intro c hc
    obtain rfl := Option.some.inj hc
    omega
  · rename_i hin
    split
    · rename_i hcond
      refine ⟨nofun, ?_⟩
      intro c hc
      obtain rfl := Option.some.inj hc
      omega
    · rename_i hout
      -- neither contains the other, so the sums stay in the range
      have hstart : other.start ≤ iv.start →
          wrapTrxId (iv.start - 1) = iv.start - 1 := by
        intro h
        exact wrapTrxId_eq (by omega) (by omega)
      have hfin : other.fin ≥ iv.fin → wrapTrxId (iv.fin + 1) = iv.fin + 1 := by
        intro h
        exact wrapTrxId_eq (by omega) (by omega)
      split
      · rename_i hcond
        have hwrap := hstart hcond.1
        refine ⟨nofun, ?_⟩
        intro c hc
        obtain rfl := Option.some.inj hc
        dsimp only
        omega
      · rename_i hbefore
        split
        · rename_i hcond
          have hwrap := hfin hcond.1
          refine ⟨nofun, ?_⟩
          intro c hc
          obtain rfl := Option.some.inj hc
          dsimp only
          omega
        · rename_i hafter
          constructor
          · intro _
            by_cases hs : other.start ≤ iv.start
            · have hwrap := hstart hs
              omega
            · have hwrap := hfin (by omega)
              omega
          · intro c hc
            cases hc

theorem joins_merge : Joins trxIdBounds merge where
  joined := by
    intro a a' c hle h
    obtain ⟨hstart, hfin, htouch, -⟩ := merge_eq.2 c h
    change a.start ≤ a'.start at hle
    change c.start = a.start ∧ ∀ n, (c.start ≤ n ∧ n ≤ c.fin) ↔
      (a.start ≤ n ∧ n ≤ a.fin) ∨ (a'.start ≤ n ∧ n ≤ a'.fin)
    have hle' := a.le
    have hle'' := a'.le
    refine ⟨by omega, ?_⟩
    intro n
    omega
  apart := by
    intro a a' hle h
    have hapart := merge_eq.1 h
    change a.start ≤ a'.start at hle
    change a.fin + 1 < a'.start
    have hle' := a.le
    have hle'' := a'.le
    omega

end TrxIdInterval

/-! ## Adding to a list -/

/-- The transaction id lies in an interval of the list. -/
abbrev InList (l : List TrxIdInterval) (n : Int) : Prop :=
  Covers trxIdBounds l n

/-- Sorted, disjoint, not adjacent. -/
abbrev CanonicalList (l : List TrxIdInterval) : Prop :=
  Canonical trxIdBounds l

theorem mergeNeighbours_spec
    (l : List TrxIdInterval) :
    CanonicalList (mergeNeighbours l) ∧ ∀ n, InList (mergeNeighbours l) n ↔ InList l n := by
  have hsorted : (l.mergeSort fun iv iv' => !iv'.before iv).Pairwise
      fun a a' => trxIdBounds.lo a ≤ trxIdBounds.lo a' := by
    have hpair := @List.pairwise_mergeSort _ (fun iv iv' : TrxIdInterval => !iv'.before iv)
      (by
        intro a a' a'' h h'
        simp only [TrxIdInterval.before, Bool.not_eq_true', Bool.or_eq_false_iff,
          Bool.and_eq_false_iff, decide_eq_false_iff_not, beq_eq_false_iff_ne] at *
        omega)
      (by
        intro a a'
        simp only [TrxIdInterval.before, Bool.or_eq_true, Bool.not_eq_true',
          Bool.or_eq_false_iff, Bool.and_eq_false_iff, decide_eq_false_iff_not,
          beq_eq_false_iff_ne]
        omega) l
    refine hpair.imp ?_
    intro a a' h
    simp only [TrxIdInterval.before, Bool.not_eq_true', Bool.or_eq_false_iff,
      decide_eq_false_iff_not] at h
    change a.start ≤ a'.start
    omega
  obtain ⟨hcanon, hcovers⟩ := joinTouching_spec TrxIdInterval.joins_merge hsorted
  exact ⟨hcanon, fun n => (hcovers n).trans (covers_perm (List.mergeSort_perm _ _) n)⟩

variable {l : List TrxIdInterval}

/-- A place is found unless a member contains the interval. -/
theorem placeInterval_spec
    (h : CanonicalList l)
    (iv : TrxIdInterval) :
    match placeInterval iv l with
    | none => ∃ pos ∈ l, pos.contains iv = true
    | some l' => (∀ pos ∈ l, pos.contains iv = false) ∧
        ∀ n, InList l' n ↔ InList l n ∨ iv.Has n := by
  induction l with
  | nil =>
      simp [placeInterval, TrxIdInterval.Has, trxIdBounds]
  | cons pos rest ih =>
      obtain ⟨hgap, hrest⟩ := List.pairwise_cons.mp h
      have ih := ih hrest
      rw [placeInterval]
      by_cases hin : pos.contains iv = true
      · rw [if_pos hin]
        exact ⟨pos, List.mem_cons_self, hin⟩
      · rw [if_neg hin]
        rw [Bool.not_eq_true] at hin
        have hle := iv.le
        have hle' := pos.le
        cases hmerge : pos.merge iv with
        | some merged =>
            obtain ⟨hstart, hfin, htouch, htouch'⟩ := TrxIdInterval.merge_eq.2 merged hmerge
            refine ⟨?_, ?_⟩
            · intro pos' hpos'
              obtain rfl | hpos' := List.mem_cons.mp hpos'
              · exact hin
              · rw [← Bool.not_eq_true, TrxIdInterval.contains_iff]
                have hlater := hgap pos' hpos'
                change pos.fin + 1 < pos'.start at hlater
                omega
            · intro n
              have hspan : (merged.start ≤ n ∧ n ≤ merged.fin) ↔
                  (pos.start ≤ n ∧ n ≤ pos.fin) ∨ iv.Has n := by
                unfold TrxIdInterval.Has
                omega
              simp only [covers_cons, trxIdBounds, hspan]
              tauto
        | none =>
            cases hplace : placeInterval iv rest with
            | none =>
                rw [hplace] at ih
                obtain ⟨pos', hpos', hcon⟩ := ih
                exact ⟨pos', List.mem_cons_of_mem pos hpos', hcon⟩
            | some l' =>
                rw [hplace] at ih
                refine ⟨?_, ?_⟩
                · intro pos' hpos'
                  obtain rfl | hpos' := List.mem_cons.mp hpos'
                  · exact hin
                  · exact ih.1 pos' hpos'
                · intro n
                  simp only [covers_cons, ih.2 n, or_assoc]

/-- The list is not modified when it has all ids of the interval; otherwise it gets them. -/
def Adds (l : List TrxIdInterval) (iv : TrxIdInterval) : Option (List TrxIdInterval) → Prop
  | none => ∀ n, iv.Has n → InList l n
  | some l' => CanonicalList l' ∧ (∀ n, InList l' n ↔ InList l n ∨ iv.Has n) ∧
      ∃ n, iv.Has n ∧ ¬ InList l n

theorem exists_new
    {iv : TrxIdInterval}
    (h : CanonicalList l)
    (hnot : ∀ pos ∈ l, pos.contains iv = false) :
    ∃ n, iv.Has n ∧ ¬ InList l n := by
  by_contra hall
  push Not at hall
  obtain ⟨pos, hpos, hcon⟩ := h.contains iv.le fun n hlo hhi => hall n ⟨hlo, hhi⟩
  have hin := TrxIdInterval.contains_iff.mpr hcon
  rw [hnot pos hpos] at hin
  cases hin

theorem inList_of_contains
    {pos iv : TrxIdInterval}
    (hpos : pos ∈ l)
    (hcon : pos.contains iv = true)
    (n : Int)
    (hn : iv.Has n) :
    InList l n := by
  obtain ⟨hlo, hhi⟩ := TrxIdInterval.contains_iff.mp hcon
  obtain ⟨hlo', hhi'⟩ := hn
  refine ⟨pos, hpos, ?_⟩
  change pos.start ≤ n ∧ n ≤ pos.fin
  omega

theorem insertInterval_spec
    (h : CanonicalList l)
    (iv : TrxIdInterval) :
    Adds l iv (insertInterval l iv) := by
  have hplace := placeInterval_spec h iv
  rw [insertInterval]
  cases hl : placeInterval iv l with
  | none =>
      rw [hl] at hplace
      obtain ⟨pos, hpos, hcon⟩ := hplace
      exact inList_of_contains hpos hcon
  | some l' =>
      rw [hl] at hplace
      obtain ⟨hcanon, hcovers⟩ := mergeNeighbours_spec l'
      refine ⟨hcanon, ?_, exists_new h hplace.1⟩
      intro n
      rw [hcovers, hplace.2]

theorem addTo_spec
    (h : CanonicalList l)
    (iv : TrxIdInterval) :
    Adds l iv (addTo l iv) := by
  rw [addTo]
  rcases List.eq_nil_or_concat' l with rfl | ⟨front, last, rfl⟩
  · exact insertInterval_spec h iv
  · simp only [List.getLast?_concat, List.dropLast_concat]
    obtain ⟨hfront, -, hlast⟩ := List.pairwise_append.mp h
    by_cases hin : last.contains iv = true
    · rw [if_pos hin]
      exact inList_of_contains (List.mem_append_right front List.mem_cons_self) hin
    · rw [if_neg hin]
      rw [Bool.not_eq_true] at hin
      cases happend : last.append iv with
      | none =>
          exact insertInterval_spec h iv
      | some appended =>
          obtain ⟨hstart, hfin, hge, hlt, htouch⟩ := TrxIdInterval.append_eq hin happend
          have hle := last.le
          refine ⟨?_, ?_, iv.fin, ⟨iv.le, Int.le_refl _⟩, ?_⟩
          · refine List.pairwise_append.mpr ⟨hfront, List.pairwise_singleton _ _, ?_⟩
            intro pos hpos pos' hpos'
            have hgap := hlast pos hpos last List.mem_cons_self
            rw [List.mem_singleton.mp hpos']
            change pos.fin + 1 < last.start at hgap
            change pos.fin + 1 < appended.start
            omega
          · intro n
            simp only [covers_append, covers_cons, TrxIdInterval.Has, trxIdBounds, covers_nil,
              or_false, or_assoc]
            refine or_congr_right ?_
            omega
          · -- the front ends before the last one, and the last one before the new end
            rintro ⟨pos, hpos, -, hhi⟩
            change iv.fin ≤ pos.fin at hhi
            obtain hpos | hpos := List.mem_append.mp hpos
            · have hgap := hlast pos hpos last List.mem_cons_self
              change pos.fin + 1 < last.start at hgap
              omega
            · rw [List.mem_singleton.mp hpos] at hhi
              omega

/-! ## Sets -/

namespace GtidSet

variable {s : GtidSet} {uuid : List Char}

/-- The list of a uuid, empty when the map has none. -/
def listOf (s : GtidSet) (uuid : List Char) : List TrxIdInterval :=
  (s.map.lookup uuid).getD []

def Canonical (s : GtidSet) : Prop :=
  ∀ uuid, CanonicalList (s.listOf uuid)

theorem hasGtid_iff
    (n : Int) :
    s.hasGtid uuid n = true ↔ InList (s.listOf uuid) n := by
  rw [hasGtid, listOf]
  cases s.map.lookup uuid with
  | none =>
      simp
  | some l =>
      simp [Covers, TrxIdInterval.containsId, trxIdBounds]

/-- One call: the list of the uuid gets the ids of the interval, the other lists stay. -/
theorem addInterval_spec
    (h : s.Canonical)
    (uuid : List Char) (iv : TrxIdInterval) :
    (s.addInterval uuid iv).2.Canonical ∧
      (∀ uuid' n, (s.addInterval uuid iv).2.hasGtid uuid' n = true ↔
        s.hasGtid uuid' n = true ∨ uuid' = uuid ∧ iv.Has n) ∧
      ((s.addInterval uuid iv).1 = true ↔ ∃ n, iv.Has n ∧ s.hasGtid uuid n = false) := by
  have hadds : ∀ l', Adds (s.listOf uuid) iv (some l') →
      GtidSet.Canonical ⟨s.map.insert uuid l'⟩ ∧
        (∀ uuid' n, GtidSet.hasGtid ⟨s.map.insert uuid l'⟩ uuid' n = true ↔
          s.hasGtid uuid' n = true ∨ uuid' = uuid ∧ iv.Has n) ∧
        (true = true ↔ ∃ n, iv.Has n ∧ s.hasGtid uuid n = false) := by
    rintro l' ⟨hcanon, hcovers, n, hn, hnew⟩
    have hself : listOf ⟨s.map.insert uuid l'⟩ uuid = l' := by
      simp [listOf]
    have hother : ∀ uuid', uuid' ≠ uuid →
        listOf ⟨s.map.insert uuid l'⟩ uuid' = s.listOf uuid' := by
      intro uuid' hne
      simp [listOf, AList.lookup_insert_ne hne]
    refine ⟨?_, ?_, fun _ => ⟨n, hn, ?_⟩, fun _ => rfl⟩
    · intro uuid'
      by_cases hu : uuid' = uuid
      · rw [hu, hself]
        exact hcanon
      · rw [hother uuid' hu]
        exact h uuid'
    · intro uuid' n
      rw [hasGtid_iff, hasGtid_iff]
      by_cases hu : uuid' = uuid
      · subst hu
        simp only [hself, hcovers, true_and]
      · simp only [hother uuid' hu, hu, false_and, or_false]
    · rw [← Bool.not_eq_true, hasGtid_iff]
      exact hnew
  rw [addInterval]
  cases hl : s.map.lookup uuid with
  | none =>
      have hempty : s.listOf uuid = [] := by
        simp [listOf, hl]
      refine hadds [iv] ?_
      rw [hempty]
      refine ⟨List.pairwise_singleton _ _, ?_, iv.start, ⟨Int.le_refl _, iv.le⟩, by simp⟩
      intro n
      simp [TrxIdInterval.Has, trxIdBounds]
  | some l =>
      have hlist : s.listOf uuid = l := by
        simp [listOf, hl]
      have hadd := addTo_spec (hlist ▸ h uuid) iv
      rw [← hlist] at hadd ⊢
      dsimp only
      cases hto : addTo (s.listOf uuid) iv with
      | some l' =>
          rw [hto] at hadd
          exact hadds l' hadd
      | none =>
          rw [hto] at hadd
          refine ⟨h, ?_, ?_⟩
          · intro uuid' n
            constructor
            · exact Or.inl
            · rintro (hold | ⟨rfl, hn⟩)
              · exact hold
              · exact (hasGtid_iff n).mpr (hadd n hn)
          · constructor
            · intro hfalse
              cases hfalse
            · rintro ⟨n, hn, hnew⟩
              rw [(hasGtid_iff n).mpr (hadd n hn)] at hnew
              cases hnew

theorem add_spec
    (h : s.Canonical)
    (uuid : List Char) (arg : GtidArg) :
    (s.add uuid arg).2.Canonical ∧
      (∀ uuid' n, (s.add uuid arg).2.hasGtid uuid' n = true ↔
        s.hasGtid uuid' n = true ∨ uuid' = uuid ∧ ∃ iv ∈ arg.interval?, iv.Has n) ∧
      ((s.add uuid arg).1 = true ↔
        ∃ iv ∈ arg.interval?, ∃ n, iv.Has n ∧ s.hasGtid uuid n = false) := by
  rw [add]
  cases arg.interval? with
  | none =>
      exact ⟨h, by simp, by simp⟩
  | some iv =>
      simpa using addInterval_spec h uuid iv

/-- After every sequence of calls the set of a uuid has the ids of the intervals that were
added for it, its list is canonical, and the next call tells whether the set grows. -/
theorem gtid_set_refines
    (calls : List (List Char × GtidArg)) :
    (∀ uuid n, (addAll {} calls).hasGtid uuid n = true ↔
        ∃ arg, (uuid, arg) ∈ calls ∧ ∃ iv ∈ arg.interval?, iv.Has n) ∧
      (∀ uuid, CanonicalList ((addAll {} calls).listOf uuid)) ∧
      (∀ uuid arg, ((addAll {} calls).add uuid arg).1 = true ↔
        ∃ iv ∈ arg.interval?, ∃ n, iv.Has n ∧ (addAll {} calls).hasGtid uuid n = false) := by
  have hrun : ∀ (calls : List (List Char × GtidArg)) (s : GtidSet), s.Canonical →
      (addAll s calls).Canonical ∧
        ∀ uuid n, (addAll s calls).hasGtid uuid n = true ↔ s.hasGtid uuid n = true ∨
          ∃ arg, (uuid, arg) ∈ calls ∧ ∃ iv ∈ arg.interval?, iv.Has n := by
    intro calls
    induction calls with
    | nil =>
        intro s h
        exact ⟨h, by simp [addAll]⟩
    | cons call calls ih =>
        intro s h
        obtain ⟨uuid, arg⟩ := call
        obtain ⟨hcanon, hset, -⟩ := add_spec h uuid arg
        obtain ⟨hcanon', hset'⟩ := ih _ hcanon
        refine ⟨hcanon', ?_⟩
        intro uuid' n
        change (addAll (s.add uuid arg).2 calls).hasGtid uuid' n = true ↔ _
        rw [hset', hset, or_assoc]
        refine or_congr_right ?_
        simp only [List.mem_cons, Prod.mk.injEq, or_and_right, exists_or, and_assoc]
        refine or_congr_left ?_
        constructor
        · rintro ⟨rfl, hiv⟩
          exact ⟨arg, rfl, rfl, hiv⟩
        · rintro ⟨arg', rfl, rfl, hiv⟩
          exact ⟨rfl, hiv⟩
  have hempty : GtidSet.Canonical {} := by
    intro uuid
    simp [listOf, CanonicalList, IntervalLists.Canonical]
  obtain ⟨hcanon, hset⟩ := hrun calls {} hempty
  refine ⟨?_, hcanon, fun uuid arg => (add_spec hcanon uuid arg).2.2⟩
  intro uuid n
  rw [hset]
  simp [hasGtid]

end GtidSet

end PolarProxy
