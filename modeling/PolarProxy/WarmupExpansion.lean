import Mathlib.Algebra.Order.BigOperators.Group.List
import Mathlib.Algebra.Order.Ring.Nat
import PolarProxy.WarmupTargets

/-!
# The steps that a warmup request expands to

A step is a visit of a server.  The visits are the servers in the order of the steps, by their index
among the eligible ones; the free count that a step requires follows from the visits before it.  The
passes make visits until no step is missing or no server has room.  That a server has as many
connections as the limit never ends a visit: its connections are counted in the total, so no step
is missing then.

**Results.** `Visits.addTarget`, `firstPass_visits`, `pass_visits`, `round_visits`,
`collect_expands`.
-/

namespace PolarProxy

namespace Warmup

open Loops RowRun

variable {I K : Type}

/-! ## Visits -/

/-- The steps of visits, in order.  A step requires one connection more than the server has with the
steps before. -/
inductive StepsOf (req : Request I) (compatible : Server K → Nat) (eligible : List (Server K)) :
    List Nat → List (Request I) → Prop
  | nil : StepsOf req compatible eligible [] []
  | snoc {visits : List Nat} {steps : List (Request I)} {i : Nat} {s : Server K}
      {address : String} :
      StepsOf req compatible eligible visits steps →
      eligible[i]? = some s →
      s.address = some address →
      StepsOf req compatible eligible (visits ++ [i])
        (steps ++ [targetRequest req address s.port (compatible s + visits.count i + 1)])

/-- No server without a matching connection is left out for one that has some. -/
def ColdFirst (compatible : Server K → Nat) (eligible : List (Server K)) (visits : List Nat) : Prop :=
  ∀ i ∈ visits, ∀ s, eligible[i]? = some s → 0 < compatible s →
    ∀ (j : Nat) (t : Server K), eligible[j]? = some t → compatible t = 0 → 0 < t.availableSlots →
      j ∈ visits

/-- A plan after visits: the candidates know how often they were visited. -/
structure Visits (req : Request I) (compatible : Server K → Nat) (eligible : List (Server K))
    (old : List (Request I)) (missing : Nat) (visits : List Nat) (plan : Plan I K) : Prop where
  candidates : ∀ i : Nat, plan.candidates[i]? = (eligible[i]?).map fun s =>
    ⟨s, compatible s, s.availableSlots, visits.count i⟩
  steps : ∃ steps, plan.targetRequests = old ++ steps ∧ StepsOf req compatible eligible visits steps
  planned : (plan.candidates.map (·.planned)).sum = visits.length
  remaining : plan.remaining + visits.length = missing
  within : ∀ c ∈ plan.candidates, c.planned ≤ c.capacityAvailable

variable {req : Request I} {compatible : Server K → Nat} {eligible : List (Server K)}
  {old : List (Request I)} {missing : Nat} {visits : List Nat} {plan : Plan I K}

variable {i : Nat}

theorem sum_set_planned
    {cs : List (Candidate K)} {c : Candidate K}
    (h : cs[i]? = some c) :
    ((cs.set i { c with planned := c.planned + 1 }).map (·.planned)).sum =
      (cs.map (·.planned)).sum + 1 := by
  induction cs generalizing i with
  | nil =>
      cases h
  | cons a cs ih =>
      cases i with
      | zero =>
          obtain rfl := Option.some.inj h
          simp only [List.set_cons_zero, List.map_cons, List.sum_cons]
          omega
      | succ i =>
          simp only [List.set_cons_succ, List.map_cons, List.sum_cons]
          rw [ih (by simpa using h)]
          omega

theorem StepsOf.length_eq
    {steps : List (Request I)}
    (h : StepsOf req compatible eligible visits steps) :
    steps.length = visits.length := by
  induction h with
  | nil =>
      rfl
  | snoc _ _ _ ih =>
      rw [List.length_append, List.length_append, ih]
      rfl

namespace Visits

theorem nil (req : Request I) (compatible : Server K → Nat) (eligible : List (Server K))
    (old : List (Request I)) (missing : Nat) :
    Visits req compatible eligible old missing []
      ⟨eligible.map fun s => ⟨s, compatible s, s.availableSlots, 0⟩, missing, old⟩ where
  candidates i := List.getElem?_map
  steps := ⟨[], (List.append_nil _).symm, .nil⟩
  planned := by
    rw [List.map_map]
    exact List.sum_eq_zero fun n hn => by
      obtain ⟨s, -, rfl⟩ := List.mem_map.mp hn
      rfl
  remaining := Nat.add_zero _
  within c hc := by
    obtain ⟨s, -, rfl⟩ := List.mem_map.mp hc
    exact Nat.zero_le _

variable {s : Server K}

theorem candidate
    (h : Visits req compatible eligible old missing visits plan)
    (hs : eligible[i]? = some s) :
    plan.candidates[i]? = some ⟨s, compatible s, s.availableSlots, visits.count i⟩ := by
  rw [h.candidates, hs]
  rfl

/-- A visit of a server that has room, while a step is missing. -/
theorem addTarget
    (h : Visits req compatible eligible old missing visits plan)
    {address : String}
    (hs : eligible[i]? = some s)
    (haddress : s.address = some address)
    (hroom : visits.count i < s.availableSlots)
    (hmissing : 0 < plan.remaining) :
    Visits req compatible eligible old missing (visits ++ [i]) (plan.addTarget req i) ∧
      (plan.addTarget req i).targetRequests.length = plan.targetRequests.length + 1 := by
  have hc := h.candidate hs
  have hlt := (List.getElem?_eq_some_iff.mp hc).1
  obtain ⟨steps, hsteps, hof⟩ := h.steps
  have heq : plan.addTarget req i =
      { candidates := plan.candidates.set i
          ⟨s, compatible s, s.availableSlots, visits.count i + 1⟩
        remaining := plan.remaining - 1
        targetRequests := plan.targetRequests ++
          [targetRequest req address s.port (compatible s + visits.count i + 1)] } := by
    rw [Plan.addTarget, hc]
    dsimp only
    rw [haddress]
    dsimp only
    rw [if_neg (by omega)]
  rw [heq]
  refine ⟨⟨?_, ?_, ?_, ?_, ?_⟩, ?_⟩
  · intro j
    dsimp only
    rw [List.getElem?_set]
    by_cases hij : i = j
    · subst hij
      rw [if_pos rfl, if_pos hlt, hs, List.count_append, List.count_singleton_self]
      rfl
    · rw [if_neg hij, h.candidates, List.count_append, List.count_singleton, if_neg (by simpa using hij)]
      rfl
  · refine ⟨steps ++ [targetRequest req address s.port (compatible s + visits.count i + 1)], ?_, ?_⟩
    · dsimp only
      rw [hsteps, List.append_assoc]
    · exact hof.snoc hs haddress
  · dsimp only
    rw [List.length_append, List.length_singleton, ← h.planned]
    exact sum_set_planned hc
  · have := h.remaining
    dsimp only
    rw [List.length_append, List.length_singleton]
    omega
  · intro c hmem
    rcases List.mem_or_eq_of_mem_set hmem with hmem | rfl
    · exact h.within c hmem
    · exact hroom
  · dsimp only
    rw [List.length_append, List.length_singleton]

theorem addTarget_full
    (h : Visits req compatible eligible old missing visits plan)
    (hs : eligible[i]? = some s)
    (hfull : s.availableSlots ≤ visits.count i) :
    plan.addTarget req i = plan := by
  rw [Plan.addTarget, h.candidate hs]
  dsimp only
  cases s.address with
  | none =>
      rfl
  | some address =>
      dsimp only
      rw [if_pos (Or.inl hfull)]

theorem addTarget_cases
    (h : Visits req compatible eligible old missing visits plan)
    {address : String}
    (hs : eligible[i]? = some s)
    (haddress : s.address = some address)
    (hmissing : 0 < plan.remaining) :
    (s.availableSlots ≤ visits.count i ∧ plan.addTarget req i = plan) ∨
      (Visits req compatible eligible old missing (visits ++ [i]) (plan.addTarget req i) ∧
        (plan.addTarget req i).targetRequests.length = plan.targetRequests.length + 1) := by
  rcases Nat.lt_or_ge (visits.count i) s.availableSlots with hroom | hfull
  · exact Or.inr (h.addTarget hs haddress hroom hmissing)
  · exact Or.inl ⟨hfull, h.addTarget_full hs hfull⟩

end Visits

/-! ## Passes -/

theorem exists_server
    (start : Nat)
    (hne : eligible ≠ [])
    (order : Nat) :
    ∃ s, eligible[(start + order) % eligible.length]? = some s :=
  ⟨_, List.getElem?_eq_getElem (Nat.mod_lt _ (List.length_pos_of_ne_nil hne))⟩

theorem exists_order
    {n i : Nat}
    (start : Nat)
    (hi : i < n) :
    ∃ order ∈ List.range n, (start + order) % n = i := by
  refine ⟨(i + (n - start % n)) % n, List.mem_range.mpr (Nat.mod_lt _ (by omega)), ?_⟩
  have hlt : start % n < n := Nat.mod_lt _ (by omega)
  have hsplit := Nat.div_add_mod start n
  have hsum : start + (i + (n - start % n)) = i + n * (start / n + 1) := by
    rw [Nat.mul_add, Nat.mul_one]
    omega
  rw [Nat.add_mod_mod, hsum, Nat.add_mul_mod_self_left, Nat.mod_eq_of_lt hi]

/-- The first pass visits servers without a matching connection, and all of them unless no step is
missing before. -/
theorem firstPass_visits
    (start : Nat)
    (haddress : ∀ s ∈ eligible, ∃ address, s.address = some address)
    (hne : eligible ≠ [])
    (orders : List Nat)
    (h : Visits req compatible eligible old missing visits plan)
    (hcold : ∀ i ∈ visits, ∀ s, eligible[i]? = some s → compatible s = 0) :
    ∃ visits', Visits req compatible eligible old missing visits'
        (plan.firstPass req start eligible.length orders) ∧
      (∀ i ∈ visits', ∀ s, eligible[i]? = some s → compatible s = 0) ∧
      visits <+: visits' ∧
      ((plan.firstPass req start eligible.length orders).remaining = 0 ∨
        ∀ order ∈ orders, ∀ s, eligible[(start + order) % eligible.length]? = some s →
          compatible s = 0 → 0 < s.availableSlots →
            (start + order) % eligible.length ∈ visits') := by
  induction orders generalizing plan visits with
  | nil =>
      exact ⟨visits, h, hcold, List.prefix_refl _, Or.inr nofun⟩
  | cons order orders ih =>
      rw [Plan.firstPass]
      by_cases hdone : plan.remaining = 0
      · rw [if_pos hdone]
        exact ⟨visits, h, hcold, List.prefix_refl _, Or.inl hdone⟩
      · obtain ⟨s, hs⟩ := exists_server start hne order
        obtain ⟨address, hsome⟩ := haddress s (List.mem_of_getElem? hs)
        rw [if_neg hdone]
        dsimp only
        rw [h.candidate hs]
        dsimp only
        by_cases hzero : compatible s = 0
        · rw [if_pos hzero]
          rcases h.addTarget_cases hs hsome (Nat.pos_of_ne_zero hdone) with ⟨hfull, hsame⟩ | ⟨hadd, -⟩
          · rw [hsame]
            obtain ⟨visits', hvisits, hcold', hpre, hall⟩ := ih h hcold
            refine ⟨visits', hvisits, hcold', hpre, hall.imp_right fun hothers => ?_⟩
            refine List.forall_mem_cons.mpr ⟨fun t ht _ hslots => ?_, hothers⟩
            obtain rfl := Option.some.inj (hs.symm.trans ht)
            exact hpre.subset (List.count_pos_iff.mp (by omega))
          · obtain ⟨visits', hvisits, hcold', hpre, hall⟩ := ih hadd (by
              intro i hi t ht
              rcases List.mem_append.mp hi with hi | hi
              · exact hcold i hi t ht
              · rw [List.mem_singleton.mp hi] at ht
                obtain rfl := Option.some.inj (hs.symm.trans ht)
                exact hzero)
            refine ⟨visits', hvisits, hcold', (List.prefix_append _ _).trans hpre,
              hall.imp_right fun hothers => ?_⟩
            exact List.forall_mem_cons.mpr
              ⟨fun _ _ _ _ => hpre.subset (List.mem_append_right _ (List.mem_singleton_self _)),
                hothers⟩
        · rw [if_neg hzero]
          obtain ⟨visits', hvisits, hcold', hpre, hall⟩ := ih h hcold
          refine ⟨visits', hvisits, hcold', hpre, hall.imp_right fun hothers => ?_⟩
          refine List.forall_mem_cons.mpr ⟨fun t ht hzero' _ => ?_, hothers⟩
          obtain rfl := Option.some.inj (hs.symm.trans ht)
          exact absurd hzero' hzero

/-- All servers without a matching connection are visited, or no step is missing. -/
def ColdDone (compatible : Server K → Nat) (eligible : List (Server K)) (visits : List Nat)
    (plan : Plan I K) : Prop :=
  plan.remaining = 0 ∨ ∀ (i : Nat) (s : Server K), eligible[i]? = some s → compatible s = 0 →
    0 < s.availableSlots → i ∈ visits

theorem firstPass_all
    (start : Nat)
    (haddress : ∀ s ∈ eligible, ∃ address, s.address = some address)
    (h : Visits req compatible eligible old missing [] plan) :
    ∃ visits, Visits req compatible eligible old missing visits
        (plan.firstPass req start eligible.length (List.range eligible.length)) ∧
      ColdFirst compatible eligible visits ∧
      ColdDone compatible eligible visits
        (plan.firstPass req start eligible.length (List.range eligible.length)) := by
  rcases eq_or_ne eligible [] with rfl | hne
  · exact ⟨[], h, nofun, Or.inr nofun⟩
  · obtain ⟨visits, hvisits, hcold, -, hall⟩ :=
      firstPass_visits start haddress hne (List.range eligible.length) h nofun
    refine ⟨visits, hvisits, ?_, hall.imp_right fun hvisited i s hs hzero hslots => ?_⟩
    · intro i hi s hs hpos
      have := hcold i hi s hs
      omega
    · obtain ⟨order, horder, heq⟩ := exists_order start (List.getElem?_eq_some_iff.mp hs).1
      have := hvisited order horder s (by rw [heq]; exact hs) hzero hslots
      rw [heq] at this
      exact this

variable {s : Server K}

/-- No server has as many connections as the limit while a step is missing. -/
theorem Visits.below_limit
    (h : Visits req compatible eligible old missing visits plan)
    {limit i : Nat}
    (hmissing : missing = limit - (eligible.map compatible).sum)
    (hs : eligible[i]? = some s)
    (hremaining : 0 < plan.remaining) :
    compatible s + visits.count i < limit := by
  have hcount : visits.count i ≤ visits.length := List.count_le_length
  have hle : compatible s ≤ (eligible.map compatible).sum :=
    List.single_le_sum (fun _ _ => Nat.zero_le _) _ (List.mem_map_of_mem (List.mem_of_getElem? hs))
  have hsum := h.remaining
  omega

/-- A pass visits servers that have room.  It says whether it did, and if not then none has room. -/
theorem pass_visits
    {limit : Nat} (start : Nat)
    (haddress : ∀ s ∈ eligible, ∃ address, s.address = some address)
    (hne : eligible ≠ [])
    (hmissing : missing = limit - (eligible.map compatible).sum)
    (orders : List Nat) (added : Bool)
    (h : Visits req compatible eligible old missing visits plan) :
    ∃ visits', Visits req compatible eligible old missing visits'
        (Plan.pass req limit start eligible.length orders (plan, added)).1 ∧
      visits <+: visits' ∧
      (Plan.pass req limit start eligible.length orders (plan, added)).2 =
        (added || decide (visits.length < visits'.length)) ∧
      (visits' = visits → plan.remaining = 0 ∨
        ∀ order ∈ orders, ∀ s, eligible[(start + order) % eligible.length]? = some s →
          s.availableSlots ≤ visits.count ((start + order) % eligible.length)) := by
  induction orders generalizing plan visits added with
  | nil =>
      refine ⟨visits, h, List.prefix_refl _, ?_, fun _ => Or.inr nofun⟩
      rw [Plan.pass, decide_eq_false (Nat.lt_irrefl _), Bool.or_false]
  | cons order orders ih =>
      rw [Plan.pass]
      by_cases hdone : plan.remaining = 0
      · rw [if_pos hdone]
        refine ⟨visits, h, List.prefix_refl _, ?_, fun _ => Or.inl hdone⟩
        rw [decide_eq_false (Nat.lt_irrefl _), Bool.or_false]
      · obtain ⟨s, hs⟩ := exists_server start hne order
        obtain ⟨address, hsome⟩ := haddress s (List.mem_of_getElem? hs)
        have hbelow := h.below_limit hmissing hs (Nat.pos_of_ne_zero hdone)
        rw [if_neg hdone]
        dsimp only
        rw [h.candidate hs]
        dsimp only
        rw [if_neg (by omega)]
        rcases h.addTarget_cases hs hsome (Nat.pos_of_ne_zero hdone) with
          ⟨hfull, hsame⟩ | ⟨hadd, hlen⟩
        · rw [hsame, bne_self_eq_false, Bool.or_false]
          obtain ⟨visits', hvisits, hpre, hadded, hall⟩ := ih added h
          refine ⟨visits', hvisits, hpre, hadded, fun heq => (hall heq).imp_right fun hothers => ?_⟩
          refine List.forall_mem_cons.mpr ⟨fun t ht => ?_, hothers⟩
          obtain rfl := Option.some.inj (hs.symm.trans ht)
          exact hfull
        · have hchanged : ((plan.addTarget req ((start + order) % eligible.length)).targetRequests.length
              != plan.targetRequests.length) = true := by
            rw [hlen]
            exact bne_iff_ne.mpr (by omega)
          rw [hchanged, Bool.or_true]
          obtain ⟨visits', hvisits, hpre, hadded, -⟩ := ih true hadd
          have hlonger := hpre.length_le
          rw [List.length_append, List.length_singleton] at hlonger
          refine ⟨visits', hvisits, (List.prefix_append _ _).trans hpre, ?_, fun heq => ?_⟩
          · rw [hadded, decide_eq_true (Nat.lt_of_succ_le hlonger)]
            simp
          · rw [heq] at hlonger
            omega

/-- The visits are over. -/
def Complete (eligible : List (Server K)) (visits : List Nat) (plan : Plan I K) : Prop :=
  plan.remaining = 0 ∨ ∀ (i : Nat) (s : Server K), eligible[i]? = some s →
    s.availableSlots ≤ visits.count i

/-- A round makes a visit, or the visits are over. -/
theorem round_visits
    {limit : Nat} (start : Nat)
    (haddress : ∀ s ∈ eligible, ∃ address, s.address = some address)
    (hmissing : missing = limit - (eligible.map compatible).sum)
    (h : Visits req compatible eligible old missing visits plan)
    (hfirst : ColdFirst compatible eligible visits)
    (hcold : ColdDone compatible eligible visits plan) :
    ∃ r, Plan.round req limit start eligible.length plan = .ok r ∧
      ∃ visits', Visits req compatible eligible old missing visits' r.1 ∧
        ColdFirst compatible eligible visits' ∧
        if r.2 then ColdDone compatible eligible visits' r.1 ∧ r.1.remaining < plan.remaining
        else Complete eligible visits' r.1 := by
  rw [Plan.round]
  by_cases hdone : plan.remaining > 0
  · rw [if_pos hdone]
    refine ⟨_, rfl, ?_⟩
    have hall := hcold.resolve_left (by omega)
    rcases eq_or_ne eligible [] with rfl | hne
    · exact ⟨visits, h, hfirst, Or.inr nofun⟩
    · obtain ⟨visits', hvisits, hpre, hadded, hnone⟩ :=
        pass_visits start haddress hne hmissing (List.range eligible.length) false h
      have hsum := h.remaining
      have hsum' := hvisits.remaining
      refine ⟨visits', hvisits, ?_, ?_⟩
      · intro i _ s _ _ j t ht hzero hslots
        exact hpre.subset (hall j t ht hzero hslots)
      · rw [hadded, Bool.false_or]
        by_cases hlonger : visits.length < visits'.length
        · rw [if_pos (decide_eq_true hlonger)]
          refine ⟨Or.inr fun j t ht hzero hslots => ?_, by omega⟩
          exact hpre.subset (hall j t ht hzero hslots)
        · rw [if_neg (by simpa using hlonger)]
          have hsame : visits' = visits :=
            (hpre.eq_of_length_le (Nat.le_of_not_lt hlonger)).symm
          subst hsame
          refine (hnone rfl).imp (fun hzero => absurd hzero (by omega)) fun hfull i s hs => ?_
          obtain ⟨order, horder, heq⟩ := exists_order start (List.getElem?_eq_some_iff.mp hs).1
          have := hfull order horder s (by rw [heq]; exact hs)
          rw [heq] at this
          exact this
  · rw [if_neg hdone]
    exact ⟨_, rfl, visits, h, hfirst, Or.inl (by dsimp only; omega)⟩

theorem loop_visits
    {limit : Nat} (start : Nat)
    (haddress : ∀ s ∈ eligible, ∃ address, s.address = some address)
    (hmissing : missing = limit - (eligible.map compatible).sum)
    (h : Visits req compatible eligible old missing visits plan)
    (hfirst : ColdFirst compatible eligible visits)
    (hcold : ColdDone compatible eligible visits plan) :
    ∃ last, loop (Plan.round req limit start eligible.length) (plan.remaining + 2) plan = .ok last ∧
      ∃ visits', Visits req compatible eligible old missing visits' last ∧
        ColdFirst compatible eligible visits' ∧ Complete eligible visits' last := by
  refine (Meets.loop_measure (I := fun plan : Plan I K => ∃ visits,
      Visits req compatible eligible old missing visits plan ∧
        ColdFirst compatible eligible visits ∧ ColdDone compatible eligible visits plan)
    (fun plan => plan.remaining) ?_ _ plan ⟨visits, h, hfirst, hcold⟩ (by omega)).exists_ok
  rintro plan ⟨visits, h, hfirst, hcold⟩
  obtain ⟨r, hround, visits', hvisits, hfirst', hr⟩ :=
    round_visits start haddress hmissing h hfirst hcold
  rw [hround]
  refine Meets.ok ?_
  split
  case isTrue hagain =>
    rw [if_pos hagain] at hr
    exact ⟨⟨visits', hvisits, hfirst', hr.1⟩, hr.2⟩
  case isFalse hover =>
    rw [if_neg hover] at hr
    exact ⟨visits', hvisits, hfirst', hr⟩

theorem Visits.length_eq
    (h : Visits req compatible eligible old missing visits plan)
    (hcomplete : Complete eligible visits plan) :
    visits.length = min missing ((eligible.map Server.availableSlots).sum) := by
  have hcapacity : plan.candidates.map (·.capacityAvailable) =
      eligible.map Server.availableSlots := by
    apply List.ext_getElem?
    intro i
    rw [List.getElem?_map, List.getElem?_map, h.candidates, Option.map_map]
    rfl
  have hle : (plan.candidates.map (·.planned)).sum ≤
      (plan.candidates.map (·.capacityAvailable)).sum := List.sum_le_sum h.within
  have hplanned := h.planned
  have hremaining := h.remaining
  rw [hcapacity] at hle
  rcases hcomplete with hdone | hfull
  · omega
  · have heq : plan.candidates.map (·.planned) = plan.candidates.map (·.capacityAvailable) := by
      refine List.map_congr_left fun c hc => Nat.le_antisymm (h.within c hc) ?_
      obtain ⟨i, hi⟩ := List.mem_iff_getElem?.mp hc
      have hi' := hi
      rw [h.candidates, Option.map_eq_some_iff] at hi'
      obtain ⟨s, hs, rfl⟩ := hi'
      exact hfull i s hs
    rw [heq, hcapacity] at hplanned
    omega

/-! ## Requests -/

/-- The servers that take a connection -/
def eligibleServers (defaultMaxLatencyMs : Nat) (mysrvs : List (Option (Server K))) :
    List (Server K) :=
  mysrvs.filterMap fun o => if unavailableReason defaultMaxLatencyMs o = none then o else none

theorem eligible_spec
    {defaultMaxLatencyMs : Nat}
    (h : unavailableReason defaultMaxLatencyMs (some s) = none) :
    (∃ address, s.address = some address) ∧ 0 < s.availableSlots := by
  rw [unavailableReason] at h
  cases haddress : s.address with
  | none =>
      rw [haddress] at h
      grind
  | some address =>
      refine ⟨⟨address, rfl⟩, Nat.pos_of_ne_zero fun hzero => ?_⟩
      rw [hzero] at h
      grind

theorem exists_address
    {defaultMaxLatencyMs : Nat} {mysrvs : List (Option (Server K))}
    (h : s ∈ eligibleServers defaultMaxLatencyMs mysrvs) :
    ∃ address, s.address = some address := by
  obtain ⟨o, -, ho⟩ := List.mem_filterMap.mp h
  split at ho
  case isTrue havailable =>
    rw [ho] at havailable
    exact (eligible_spec havailable).1
  case isFalse =>
    cases ho

theorem eligibleServers_cons
    (defaultMaxLatencyMs : Nat) (o : Option (Server K)) (mysrvs : List (Option (Server K))) :
    eligibleServers defaultMaxLatencyMs (o :: mysrvs) =
      (if unavailableReason defaultMaxLatencyMs o = none then o.toList else []) ++
        eligibleServers defaultMaxLatencyMs mysrvs := by
  rw [eligibleServers, List.filterMap_cons]
  by_cases h : unavailableReason defaultMaxLatencyMs o = none
  · rw [if_pos h, if_pos h]
    cases o with
    | none =>
        rfl
    | some s =>
        rfl
  · rw [if_neg h, if_neg h]
    rfl

variable [DecidableEq K]

theorem scanServer_unavailable
    (env : Env I K) (req : Request I) (profile : StartupProfile) (scan : Scan K)
    {o : Option (Server K)}
    (h : unavailableReason env.defaultMaxLatencyMs o ≠ none) :
    scanServer env req profile scan o = scan := by
  unfold scanServer
  split
  case h_1 hnone =>
    exact absurd hnone h
  case h_2 =>
    rfl

theorem scanServer_available
    (env : Env I K) (req : Request I) (profile : StartupProfile) (scan : Scan K)
    (h : unavailableReason env.defaultMaxLatencyMs (some s) = none) :
    (scanServer env req profile scan (some s)).candidates =
        scan.candidates ++ [⟨s, env.compatibleFreeCount req profile s, s.availableSlots, 0⟩] ∧
      (scanServer env req profile scan (some s)).compatibleFreeTotal =
        scan.compatibleFreeTotal + env.compatibleFreeCount req profile s := by
  have hslots := (eligible_spec h).2
  unfold scanServer
  rw [h]
  dsimp only
  rw [if_neg (by omega)]
  exact ⟨rfl, rfl⟩

theorem foldl_scanServer
    (env : Env I K) (req : Request I) (profile : StartupProfile)
    (mysrvs : List (Option (Server K))) (scan : Scan K) :
    (mysrvs.foldl (scanServer env req profile) scan).candidates = scan.candidates ++
        (eligibleServers env.defaultMaxLatencyMs mysrvs).map (fun s =>
          ⟨s, env.compatibleFreeCount req profile s, s.availableSlots, 0⟩) ∧
      (mysrvs.foldl (scanServer env req profile) scan).compatibleFreeTotal =
        scan.compatibleFreeTotal + ((eligibleServers env.defaultMaxLatencyMs mysrvs).map
          (env.compatibleFreeCount req profile)).sum := by
  induction mysrvs generalizing scan with
  | nil =>
      exact ⟨(List.append_nil _).symm, rfl⟩
  | cons o mysrvs ih =>
      obtain ⟨hcandidates, htotal⟩ := ih (scanServer env req profile scan o)
      rw [List.foldl_cons, hcandidates, htotal, eligibleServers_cons]
      by_cases h : unavailableReason env.defaultMaxLatencyMs o = none
      · rw [if_pos h]
        cases o with
        | none =>
            cases h
        | some s =>
            obtain ⟨hcandidates', htotal'⟩ := scanServer_available env req profile scan h
            rw [hcandidates', htotal', List.append_assoc, Nat.add_assoc]
            exact ⟨rfl, rfl⟩
      · rw [if_neg h, scanServer_unavailable env req profile scan h]
        exact ⟨rfl, rfl⟩

/-- A request of a hostgroup whose profile asks for the LSN and the XIDs expands to as many steps as
are missing and as the servers have room for. -/
theorem collect_expands
    (env : Env I K) (req : Request I) (old : List (Request I)) (nextCandidate : Nat)
    (hg : Hostgroup K)
    (hexists : env.hostgroup req.hostgroupId = some hg)
    (hlsn : (env.warmupProfile hg).requestsRfqLsn = true)
    (hxid : requestsRfqXid (env.warmupProfile hg) = true) :
    ∃ out, collectSplitWarmupTargets env req old nextCandidate = .ok out ∧
      ∃ visits steps, out.targetRequests = old ++ steps ∧
        StepsOf req (env.compatibleFreeCount req (env.warmupProfile hg))
          (eligibleServers env.defaultMaxLatencyMs hg.mysrvs) visits steps ∧
        steps.length = min
          (connectionLimit (wrapInt req.maxConnectionsPerRequest) -
            ((eligibleServers env.defaultMaxLatencyMs hg.mysrvs).map
              (env.compatibleFreeCount req (env.warmupProfile hg))).sum)
          (((eligibleServers env.defaultMaxLatencyMs hg.mysrvs).map Server.availableSlots).sum) ∧
        (∀ (i : Nat) (s : Server K), (eligibleServers env.defaultMaxLatencyMs hg.mysrvs)[i]? = some s →
          visits.count i ≤ s.availableSlots) ∧
        ColdFirst (env.compatibleFreeCount req (env.warmupProfile hg))
          (eligibleServers env.defaultMaxLatencyMs hg.mysrvs) visits := by
  obtain ⟨hcandidates, htotal⟩ := foldl_scanServer env req (env.warmupProfile hg) hg.mysrvs
    ⟨[], 0, false, false⟩
  generalize hscan : hg.mysrvs.foldl (scanServer env req (env.warmupProfile hg))
    ⟨[], 0, false, false⟩ = scan at hcandidates htotal
  generalize heligible : eligibleServers env.defaultMaxLatencyMs hg.mysrvs = eligible
    at hcandidates htotal
  generalize hlimit : connectionLimit (wrapInt req.maxConnectionsPerRequest) = limit
  rw [List.nil_append] at hcandidates
  rw [Nat.zero_add] at htotal
  have haddress : ∀ s ∈ eligible, ∃ address, s.address = some address := fun s hs =>
    exists_address (heligible.symm ▸ hs)
  rw [collectSplitWarmupTargets, hexists]
  dsimp only
  rw [if_neg (by simp [hlsn, hxid]), hscan, hlimit, htotal]
  by_cases hwarm : (eligible.map (env.compatibleFreeCount req (env.warmupProfile hg))).sum ≥ limit
  · rw [if_pos hwarm]
    refine ⟨_, rfl, [], [], (List.append_nil _).symm, .nil, ?_, ?_, nofun⟩
    · rw [Nat.sub_eq_zero_of_le hwarm, Nat.zero_min]
      rfl
    · intro i s _
      exact Nat.zero_le _
  · rw [if_neg hwarm, hcandidates, List.length_map]
    generalize hstart : (if eligible.length = 0 then 0 else nextCandidate % eligible.length) = start
    obtain ⟨visits, hvisits, hfirst, hcold⟩ := firstPass_all start haddress
      (Visits.nil req (env.compatibleFreeCount req (env.warmupProfile hg)) eligible old
        (limit - (eligible.map (env.compatibleFreeCount req (env.warmupProfile hg))).sum))
    obtain ⟨last, hloop, visits', hvisits', hfirst', hcomplete⟩ :=
      loop_visits start haddress rfl hvisits hfirst hcold
    obtain ⟨steps, hsteps, hof⟩ := hvisits'.steps
    rw [hloop]
    refine ⟨_, rfl, visits', steps, hsteps, hof, ?_, ?_, hfirst'⟩
    · rw [hof.length_eq]
      exact hvisits'.length_eq hcomplete
    · intro i s hs
      exact hvisits'.within _ (List.mem_of_getElem? (hvisits'.candidate hs))

/-- A reader with a matching connection, and one without -/
def twoReaders : Hostgroup Nat where
  proxyProtocol := 2
  mysrvs := [some ⟨true, some "a", 5432, 1, 0, 0, 4, true, some [7], 0, 1⟩, none,
    some ⟨true, some "b", 5432, 1, 0, 0, 2, true, some [], 0, 0⟩]

def readersEnv : Env Unit Nat where
  hostgroup _ := some twoReaders
  proxyProtocol := 0
  defaultMaxLatencyMs := 0
  matchKey _ _ := 7

theorem collect_expands_readers :
    ∃ out, collectSplitWarmupTargets readersEnv ⟨1, (), 5, "", 0, 0⟩ [] 0 = .ok out ∧
      ∃ visits steps, out.targetRequests = [] ++ steps ∧
        StepsOf ⟨1, (), 5, "", 0, 0⟩
          (readersEnv.compatibleFreeCount ⟨1, (), 5, "", 0, 0⟩ (readersEnv.warmupProfile twoReaders))
          (eligibleServers readersEnv.defaultMaxLatencyMs twoReaders.mysrvs) visits steps ∧
        steps.length = min
          (connectionLimit (wrapInt (5 : Nat)) -
            ((eligibleServers readersEnv.defaultMaxLatencyMs twoReaders.mysrvs).map
              (readersEnv.compatibleFreeCount ⟨1, (), 5, "", 0, 0⟩
                (readersEnv.warmupProfile twoReaders))).sum)
          (((eligibleServers readersEnv.defaultMaxLatencyMs twoReaders.mysrvs).map
            Server.availableSlots).sum) ∧
        (∀ (i : Nat) (s : Server Nat),
          (eligibleServers readersEnv.defaultMaxLatencyMs twoReaders.mysrvs)[i]? = some s →
            visits.count i ≤ s.availableSlots) ∧
        ColdFirst
          (readersEnv.compatibleFreeCount ⟨1, (), 5, "", 0, 0⟩ (readersEnv.warmupProfile twoReaders))
          (eligibleServers readersEnv.defaultMaxLatencyMs twoReaders.mysrvs) visits :=
  collect_expands readersEnv ⟨1, (), 5, "", 0, 0⟩ [] 0 twoReaders rfl rfl rfl

end Warmup

end PolarProxy
