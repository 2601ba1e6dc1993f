import PolarProxy.SubnetLists

/-!
# Clients in trusted subnets

An entry `address/n` covers the clients of its family whose first `n` bits are those of the address.
The number of an entry is the one that is written; the proxy keeps its low 8 bits.

An accepted list is matched exactly, unless an entry is written with a number that is out of range and
is accepted by its low 8 bits, the buffer is too short for an address, or an IPv4 client meets an entry
for all of IPv4 addresses.

**Results.** `isValidSubnet_spec`, `isInNetwork_spec`, `trustedSubnets_iff`.
-/

namespace PolarProxy

namespace Subnets

open Loops PrefixBits

variable (pton : InetPton)

/-! ## Entries -/

def writtenNumber (text : List Char) : Option Int :=
  if (numberText text).2 = [] then none
  else if (numberText text).1 then some (-(decimal (numberText text).2 : Int))
  else some (decimal (numberText text).2)

/-- The token is the address, a slash and the text of a number. -/
structure IsEntry (token addrStr text : List Char) : Prop where
  nonempty : addrStr ≠ []
  noSlash : '/' ∉ addrStr
  split : token = addrStr ++ '/' :: text

/-- The words have the same first bits. -/
def SameBits {w : Nat} (n : Nat) (x y : BitVec w) : Prop :=
  ∀ j < n, x.getMsbD j = y.getMsbD j

/-- The client is of the family of the entry, and its first bits are those of the address. -/
def Contains (client : ClientAddr) (token : List Char) : Prop :=
  ∃ addrStr text, IsEntry token addrStr text ∧ ∃ n : Nat, writtenNumber text = some (n : Int) ∧
    match client with
    | .inet addr => n ≤ 32 ∧ ∃ subnet, pton.inet addrStr = some subnet ∧ SameBits n addr subnet
    | .inet6 addr => n ≤ 128 ∧ ∃ subnet, pton.inet6 addrStr = some subnet ∧ SameBits n addr subnet

/-- An entry of a valid address with a number that the family does not have -/
def OutOfRange (token : List Char) : Prop :=
  ∃ addrStr text, IsEntry token addrStr text ∧ ∃ n : Int, writtenNumber text = some n ∧
    (((pton.inet addrStr).isSome ∧ (n < 0 ∨ 32 < n)) ∨ ((pton.inet6 addrStr).isSome ∧ (n < 0 ∨ 128 < n)))

/-- The text before the slash does not fit the buffer. -/
def LongAddress (token : List Char) : Prop :=
  ∃ addrStr text, IsEntry token addrStr text ∧ inet6Addrstrlen ≤ addrStr.length

/-- An entry of a valid address whose number is at most 128 in its low 8 bits; the family is the one
that a colon anywhere in the token says. -/
def Accepted (token : List Char) : Prop :=
  ∃ addrStr text, IsEntry token addrStr text ∧ addrStr.length < inet6Addrstrlen ∧
    (∃ n, scanNumber text = some n ∧ n % 2 ^ 8 ≤ 128) ∧
    (if ':' ∈ token then (pton.inet6 addrStr).isSome else (pton.inet addrStr).isSome)

/-- The entry of all IPv4 addresses, for a client that has one -/
def AllOfInet (client : ClientAddr) (token : List Char) : Prop :=
  (∃ addr, client = .inet addr) ∧
    ∃ addrStr text, IsEntry token addrStr text ∧ (pton.inet addrStr).isSome ∧ writtenNumber text = some 0

/-- Every token with the one property comes after one with the other. -/
def Guarded (bad stops : List Char → Prop) (list : List (List Char)) : Prop :=
  ∀ pre token post, list = pre ++ token :: post → bad token → ∃ u ∈ pre, stops u

/-- The check of the list ends; if the list is accepted, a client is found in it exactly if an entry
contains it; and an entry out of range is rejected. -/
structure MatchesExactly (client : ClientAddr) (subnetList : List Char) : Prop where
  decided : ∃ valid, isValidSubnetList pton subnetList = .ok valid
  exact : isValidSubnetList pton subnetList = .ok true →
    ∃ found, isClientInAnySubnet pton client subnetList = .ok found ∧
      (found = true ↔ ∃ token ∈ tokens subnetList, Contains pton client token)
  rejected : ∀ token ∈ tokens subnetList, OutOfRange pton token → isValidSubnet pton token = .ok false

theorem guarded_nil {bad stops : List Char → Prop} :
    Guarded bad stops [] :=
  fun _ _ _ hlist => absurd hlist.symm (List.append_ne_nil_of_right_ne_nil _ (List.cons_ne_nil _ _))

theorem guarded_cons
    {bad stops : List Char → Prop} {token : List Char} {list : List (List Char)} :
    Guarded bad stops (token :: list) ↔ ¬bad token ∧ (stops token ∨ Guarded bad stops list) := by
  constructor
  · intro h
    refine ⟨fun hbad => ?_, ?_⟩
    · obtain ⟨u, hu, _⟩ := h [] token list rfl hbad
      exact absurd hu List.not_mem_nil
    · by_cases hstops : stops token
      · exact Or.inl hstops
      · refine Or.inr fun pre t post hlist hbad => ?_
        obtain ⟨u, hu, hstop⟩ := h (token :: pre) t post (by rw [hlist, List.cons_append]) hbad
        rcases List.mem_cons.mp hu with rfl | hpre
        · exact absurd hstop hstops
        · exact ⟨u, hpre, hstop⟩
  · rintro ⟨hbad, hrest⟩ pre t post hlist ht
    cases pre with
    | nil =>
        obtain ⟨rfl, rfl⟩ := List.cons.inj hlist
        exact absurd ht hbad
    | cons p pre =>
        obtain ⟨rfl, hpost⟩ := List.cons.inj hlist
        rcases hrest with hstops | hguard
        · exact ⟨token, List.mem_cons_self, hstops⟩
        · obtain ⟨u, hu, hstop⟩ := hguard pre t post hpost ht
          exact ⟨u, List.mem_cons_of_mem _ hu, hstop⟩

/-! ## Numbers -/

variable {pton}

theorem scanNumber_of_written
    {text : List Char} {n : Nat}
    (h : writtenNumber text = some (n : Int))
    (hn : n < 2 ^ 64) :
    scanNumber text = some n := by
  unfold writtenNumber at h
  unfold scanNumber strtoul
  split at h
  case isTrue =>
    cases h
  case isFalse hdigits =>
    rw [if_neg hdigits]
    split at h
    case isTrue hneg =>
      have hzero : decimal (numberText text).2 = 0 ∧ n = 0 := by
        have := Option.some.inj h
        omega
      have hwrapped : (2 ^ 64 - decimal (numberText text).2) % 2 ^ 64 = n := by
        omega
      rw [if_neg (by omega), if_pos hneg, hwrapped]
    case isFalse hpos =>
      have heq : decimal (numberText text).2 = n := by
        exact Int.natCast_inj.mp (Option.some.inj h)
      rw [if_neg (by omega), if_neg hpos, heq]

theorem writtenNumber_isSome {text : List Char} {n : Nat} (h : scanNumber text = some n) :
    ∃ m, writtenNumber text = some m := by
  unfold scanNumber at h
  unfold writtenNumber
  split at h
  case isTrue =>
    cases h
  case isFalse hdigits =>
    rw [if_neg hdigits]
    split
    case isTrue =>
      exact ⟨_, rfl⟩
    case isFalse =>
      exact ⟨_, rfl⟩

/-! ## Reading an entry -/

variable {token addrStr text : List Char}

theorem IsEntry.takeWhile
    (h : IsEntry token addrStr text) :
    (token.takeWhile fun c => c ≠ '/') = addrStr := by
  rw [h.split, List.takeWhile_append_of_pos (fun c hc => by
    simp only [ne_eq, decide_not, Bool.not_eq_eq_eq_not, Bool.not_true, decide_eq_false_iff_not]
    rintro rfl
    exact h.noSlash hc)]
  simp

theorem IsEntry.dropWhile
    (h : IsEntry token addrStr text) :
    (token.dropWhile fun c => c ≠ '/') = '/' :: text := by
  rw [h.split, List.dropWhile_append_of_pos (fun c hc => by
    simp only [ne_eq, decide_not, Bool.not_eq_eq_eq_not, Bool.not_true, decide_eq_false_iff_not]
    rintro rfl
    exact h.noSlash hc)]
  simp

theorem IsEntry.inj
    {token addrStr addrStr' text text' : List Char}
    (h : IsEntry token addrStr text)
    (h' : IsEntry token addrStr' text') :
    addrStr = addrStr' ∧ text = text' := by
  have haddr := h.takeWhile.symm.trans h'.takeWhile
  have htext := h.dropWhile.symm.trans h'.dropWhile
  exact ⟨haddr, (List.cons.inj htext).2⟩

theorem IsEntry.slash_mem
    (h : IsEntry token addrStr text) :
    '/' ∈ token := by
  rw [h.split]
  exact List.mem_append_right _ List.mem_cons_self

theorem IsEntry.colon_mem
    (h : IsEntry token addrStr text)
    (hcolon : ':' ∈ addrStr) :
    ':' ∈ token := by
  rw [h.split]
  exact List.mem_append_left _ hcolon

theorem slash_cases
    {token : List Char}
    (hslash : '/' ∈ token) :
    (token.takeWhile fun c => c ≠ '/') = [] ∨ ∃ addrStr text, IsEntry token addrStr text := by
  obtain ⟨addrStr, text, hsplit, hno⟩ := List.eq_append_cons_of_mem hslash
  by_cases haddr : addrStr = []
  · refine Or.inl ?_
    rw [hsplit, haddr]
    rfl
  · exact Or.inr ⟨addrStr, text, haddr, hno, hsplit⟩

theorem scanSubnet_entry
    (h : IsEntry token addrStr text) :
    scanSubnet token =
      if addrStr.length ≥ inet6Addrstrlen then .error .outsideArray
      else .ok ((scanNumber text).map fun n => (addrStr, n % 2 ^ 8)) := by
  unfold scanSubnet
  dsimp only
  rw [h.takeWhile, h.dropWhile, if_neg h.nonempty]
  split
  case isTrue =>
    rfl
  case isFalse =>
    dsimp only
    cases scanNumber text with
    | none => rfl
    | some n => rfl

/-! ## Accepted entries -/

theorem isValidSubnet_of_not_entry
    {token : List Char}
    (h : ¬∃ addrStr text, IsEntry token addrStr text) :
    isValidSubnet pton token = .ok false := by
  unfold isValidSubnet
  by_cases hslash : '/' ∈ token
  · have hne : token ≠ [] := by
      rintro rfl
      cases hslash
    rcases slash_cases hslash with hfirst | hentry
    · have hscan : scanSubnet token = .ok none := by
        unfold scanSubnet
        dsimp only
        rw [hfirst, if_pos rfl]
      rw [if_neg hne, if_neg (not_not_intro hslash), hscan]
      rfl
    · exact absurd hentry h
  · by_cases hne : token = []
    · rw [if_pos hne]
      rfl
    · rw [if_neg hne, if_pos hslash]
      rfl

theorem isValidSubnet_entry
    (h : IsEntry token addrStr text) :
    isValidSubnet pton token =
      if addrStr.length ≥ inet6Addrstrlen then .error .outsideArray
      else .ok ((scanNumber text).any fun n => decide (n % 2 ^ 8 ≤ 128) &&
        if ':' ∈ token then (pton.inet6 addrStr).isSome else (pton.inet addrStr).isSome) := by
  have hne : token ≠ [] := by
    rw [h.split]
    exact List.append_ne_nil_of_right_ne_nil _ (List.cons_ne_nil _ _)
  unfold isValidSubnet
  rw [if_neg hne, if_neg (not_not_intro h.slash_mem), scanSubnet_entry h]
  split
  case isTrue =>
    rfl
  case isFalse =>
    cases scanNumber text with
    | none => rfl
    | some n =>
        dsimp only [Option.map_some, Option.any_some, ok_bind]
        by_cases hmask : n % 2 ^ 8 > 128
        · rw [if_pos hmask, decide_eq_false (Nat.not_le.mpr hmask), Bool.false_and]
          rfl
        · rw [if_neg hmask, decide_eq_true (Nat.not_lt.mp hmask), Bool.true_and]
          by_cases hcolon : ':' ∈ token
          · rw [if_pos hcolon, if_pos hcolon]
            rfl
          · rw [if_neg hcolon, if_neg hcolon]
            rfl

/-- An entry is accepted, or it is rejected, or its address does not fit the buffer. -/
theorem isValidSubnet_spec (pton : InetPton) (token : List Char) :
    (Accepted pton token ∧ ¬LongAddress token ∧ isValidSubnet pton token = .ok true) ∨
      (¬Accepted pton token ∧ ¬LongAddress token ∧ isValidSubnet pton token = .ok false) ∨
      (¬Accepted pton token ∧ LongAddress token ∧
        isValidSubnet pton token = .error .outsideArray) := by
  by_cases hex : ∃ addrStr text, IsEntry token addrStr text
  · obtain ⟨addrStr, text, hentry⟩ := hex
    have haccepted : Accepted pton token ↔ addrStr.length < inet6Addrstrlen ∧
        (∃ n, scanNumber text = some n ∧ n % 2 ^ 8 ≤ 128) ∧
        (if ':' ∈ token then (pton.inet6 addrStr).isSome else (pton.inet addrStr).isSome) := by
      constructor
      · rintro ⟨addrStr', text', hentry', h⟩
        obtain ⟨rfl, rfl⟩ := hentry.inj hentry'
        exact h
      · intro h
        exact ⟨addrStr, text, hentry, h⟩
    have hlong : LongAddress token ↔ inet6Addrstrlen ≤ addrStr.length := by
      constructor
      · rintro ⟨addrStr', text', hentry', h⟩
        obtain ⟨rfl, rfl⟩ := hentry.inj hentry'
        exact h
      · intro h
        exact ⟨addrStr, text, hentry, h⟩
    rw [haccepted, hlong, isValidSubnet_entry hentry]
    by_cases hfits : addrStr.length ≥ inet6Addrstrlen
    · rw [if_pos hfits]
      exact Or.inr (Or.inr ⟨fun h => absurd h.1 (Nat.not_lt.mpr hfits), hfits, rfl⟩)
    · rw [if_neg hfits]
      cases hresult : ((scanNumber text).any fun n => decide (n % 2 ^ 8 ≤ 128) &&
          if ':' ∈ token then (pton.inet6 addrStr).isSome else (pton.inet addrStr).isSome) with
      | true =>
          refine Or.inl ⟨⟨Nat.not_le.mp hfits, ?_⟩, hfits, rfl⟩
          obtain ⟨n, hscan, hn⟩ := (Option.any_eq_true _ _).mp hresult
          rw [Bool.and_eq_true, decide_eq_true_iff] at hn
          refine ⟨⟨n, hscan, hn.1⟩, ?_⟩
          split <;> rename_i hcolon
          · rw [if_pos hcolon] at hn
            exact hn.2
          · rw [if_neg hcolon] at hn
            exact hn.2
      | false =>
          refine Or.inr (Or.inl ⟨?_, hfits, rfl⟩)
          rintro ⟨_, ⟨n, hscan, hn⟩, hfamily⟩
          rw [hscan, Option.any_some, decide_eq_true hn, Bool.true_and] at hresult
          split at hfamily <;> rename_i hcolon
          · rw [if_pos hcolon, hfamily] at hresult
            cases hresult
          · rw [if_neg hcolon, hfamily] at hresult
            cases hresult
  · have hnot : ¬Accepted pton token ∧ ¬LongAddress token := by
      constructor
      · rintro ⟨addrStr, text, hentry, _⟩
        exact hex ⟨addrStr, text, hentry⟩
      · rintro ⟨addrStr, text, hentry, _⟩
        exact hex ⟨addrStr, text, hentry⟩
    exact Or.inr (Or.inl ⟨hnot.1, hnot.2, isValidSubnet_of_not_entry hex⟩)

/-! ## A client in an entry -/

theorem length_maskBytes (n : Nat) (xs : List (BitVec 8)) :
    (maskBytes n xs).length = xs.length := by
  induction xs generalizing n with
  | nil => rfl
  | cons x xs ih =>
      unfold maskBytes
      split
      case isTrue =>
        rw [List.length_cons, ih, List.length_cons]
      case isFalse =>
        split
        case isTrue =>
          rw [List.length_cons, ih, List.length_cons]
        case isFalse =>
          rw [List.length_cons, ih, List.length_cons]

theorem agree_maskBytes (n : Nat) (xs : List (BitVec 8)) :
    Agree n (maskBytes n xs) xs := by
  induction xs generalizing n with
  | nil =>
      intro j _
      rfl
  | cons x xs ih =>
      intro j hj
      unfold maskBytes
      by_cases hlt : j < 8
      · have hdiv : j / 8 = 0 := by
          omega
        unfold bitAt
        rw [hdiv]
        split
        case isTrue =>
          rfl
        case isFalse hsmall =>
          rw [if_pos (by omega), List.getD_cons_zero, List.getD_cons_zero]
          have hmask : x &&& (BitVec.allOnes 8 <<< (8 - n)) &&& (BitVec.allOnes 8 <<< (8 - n)) =
              x &&& (BitVec.allOnes 8 <<< (8 - n)) := by
            rw [BitVec.and_assoc, BitVec.and_self]
          exact (byte_mask_iff (by omega)).mp hmask (j % 8) (by omega)
      · rw [if_pos (by omega)]
        have hdiv : j / 8 = (j - 8) / 8 + 1 := by
          omega
        have hmod : j % 8 = (j - 8) % 8 := by
          omega
        unfold bitAt
        rw [hdiv, hmod, List.getD_cons_succ, List.getD_cons_succ]
        exact ih (n - 8) (j - 8) (by omega)

/-- The comparison tells whether the first bits are equal. -/
theorem compareMasked_spec
    {n : Nat} (xs ys : List (BitVec 8))
    (hx : xs.length = 16)
    (hy : ys.length = 16)
    (hn : n ≤ 128) :
    ∃ same, compareMasked xs ys n = .ok same ∧ (same = true ↔ Agree n xs ys) := by
  have hiff := agree_iff (hx.trans hy.symm) (show n ≤ 8 * xs.length by omega)
  unfold compareMasked memcmpEq
  rw [if_pos (by omega), ok_bind]
  cases hwhole : (xs.take (n / 8) == ys.take (n / 8)) with
  | false =>
      refine ⟨false, rfl, ?_⟩
      have hne : ¬xs.take (n / 8) = ys.take (n / 8) := by
        simpa using hwhole
      rw [hiff]
      constructor
      · intro h
        cases h
      · intro h
        exact absurd h.1 hne
  | true =>
      have heq : xs.take (n / 8) = ys.take (n / 8) := by
        simpa using hwhole
      by_cases hrest : n % 8 > 0
      · have hread : ∀ zs : List (BitVec 8), zs.length = 16 →
            readByte zs (n / 8) = .ok (zs.getD (n / 8) 0) := by
          intro zs hz
          unfold readByte
          rw [List.getD_eq_getElem?_getD, List.getElem?_eq_getElem (by omega)]
          rfl
        refine ⟨xs.getD (n / 8) 0 &&& 0xFF#8 <<< (8 - n % 8) ==
          ys.getD (n / 8) 0 &&& 0xFF#8 <<< (8 - n % 8), ?_, ?_⟩
        · rw [hread xs hx, hread ys hy, if_pos hrest]
          rfl
        · rw [hiff, beq_iff_eq]
          exact ⟨fun h => ⟨heq, fun _ => h⟩, fun h => h.2 hrest⟩
      · refine ⟨true, ?_, ?_⟩
        · rw [if_neg hrest]
          rfl
        · rw [hiff]
          exact ⟨fun _ => ⟨heq, fun h => absurd h hrest⟩, fun _ => rfl⟩

theorem Accepted.family
    {token : List Char}
    (doc : pton.Documented)
    (h : Accepted pton token)
    (hrange : ¬OutOfRange pton token) :
    ∃ addrStr text n, IsEntry token addrStr text ∧ addrStr.length < inet6Addrstrlen ∧
      scanNumber text = some n ∧ writtenNumber text = some (n : Int) ∧
      ((n ≤ 32 ∧ (∃ subnet, pton.inet addrStr = some subnet) ∧ pton.inet6 addrStr = none) ∨
        (n ≤ 128 ∧ (∃ subnet, pton.inet6 addrStr = some subnet) ∧ pton.inet addrStr = none)) := by
  obtain ⟨addrStr, text, hentry, hfits, ⟨n, hscan, _⟩, hfamily⟩ := h
  obtain ⟨m, hwritten⟩ := writtenNumber_isSome hscan
  have hread : ∀ bound : Nat, bound ≤ 128 → ¬(m < 0 ∨ (bound : Int) < m) → m = n ∧ n ≤ bound := by
    intro bound hbound hin
    have hm : m = (m.toNat : Int) := by
      omega
    rw [hm] at hwritten
    have hscan' := scanNumber_of_written hwritten (by omega)
    rw [hscan'] at hscan
    have := Option.some.inj hscan
    omega
  split at hfamily
  case isTrue hcolon =>
    obtain ⟨subnet, hsubnet⟩ := Option.isSome_iff_exists.mp hfamily
    have hin := hread 128 (Nat.le_refl _) fun h =>
      hrange ⟨addrStr, text, hentry, m, hwritten, Or.inr ⟨hfamily, by exact_mod_cast h⟩⟩
    refine ⟨addrStr, text, n, hentry, hfits, hscan, hin.1 ▸ hwritten, Or.inr ⟨hin.2, ⟨subnet, hsubnet⟩, ?_⟩⟩
    cases hinet : pton.inet addrStr with
    | none => rfl
    | some addr => exact absurd (doc.inet6_colon _ _ hsubnet) (doc.inet_noColon _ _ hinet)
  case isFalse hcolon =>
    obtain ⟨subnet, hsubnet⟩ := Option.isSome_iff_exists.mp hfamily
    have hin := hread 32 (by omega) fun h =>
      hrange ⟨addrStr, text, hentry, m, hwritten, Or.inl ⟨hfamily, by exact_mod_cast h⟩⟩
    refine ⟨addrStr, text, n, hentry, hfits, hscan, hin.1 ▸ hwritten, Or.inl ⟨hin.2, ⟨subnet, hsubnet⟩, ?_⟩⟩
    cases hinet6 : pton.inet6 addrStr with
    | none => rfl
    | some addr => exact absurd (hentry.colon_mem (doc.inet6_colon _ _ hinet6)) hcolon

theorem contains_iff
    {client : ClientAddr} {n : Nat}
    (hentry : IsEntry token addrStr text)
    (hwritten : writtenNumber text = some (n : Int)) :
    Contains pton client token ↔
      match client with
      | .inet addr => n ≤ 32 ∧ ∃ subnet, pton.inet addrStr = some subnet ∧ SameBits n addr subnet
      | .inet6 addr => n ≤ 128 ∧ ∃ subnet, pton.inet6 addrStr = some subnet ∧ SameBits n addr subnet := by
  constructor
  · rintro ⟨addrStr', text', hentry', m, hwritten', h⟩
    obtain ⟨rfl, rfl⟩ := hentry.inj hentry'
    have hm : m = n := by
      have := Option.some.inj (hwritten'.symm.trans hwritten)
      omega
    rw [hm] at h
    exact h
  · intro h
    exact ⟨addrStr, text, hentry, n, hwritten, h⟩

theorem agree_bytes
    {w n : Nat} {x y : BitVec w} (rest rest' : List (BitVec 8))
    (hw : 8 ∣ w)
    (hn : n ≤ w) :
    Agree n (bytes x ++ rest) (bytes y ++ rest') ↔ SameBits n x y := by
  constructor
  · intro h j hj
    have hbit := h j hj
    rw [bitAt_bytes x rest (by omega) hw, bitAt_bytes y rest' (by omega) hw] at hbit
    exact hbit
  · intro h j hj
    rw [bitAt_bytes x rest (by omega) hw, bitAt_bytes y rest' (by omega) hw]
    exact h j hj

theorem sameBits_masked
    {n : Nat} (x y : BitVec 32)
    (hn : n ≤ 32) :
    SameBits n (x &&& (0xFFFFFFFF#32 <<< (32 - n))) y ↔ SameBits n y x := by
  have hbit : ∀ j < n, (x &&& (BitVec.allOnes 32 <<< (32 - n))).getMsbD j = x.getMsbD j := by
    intro j hj
    rw [BitVec.getMsbD_and, BitVec.getMsbD_shiftLeft, BitVec.getMsbD_allOnes,
      decide_eq_true (by omega), Bool.and_true]
  constructor
  · intro h j hj
    exact ((hbit j hj).symm.trans (h j hj)).symm
  · intro h j hj
    exact (hbit j hj).trans (h j hj).symm

/-- A client is looked for in an accepted entry exactly, or the entry is for all IPv4 addresses. -/
theorem isInNetwork_spec
    {token : List Char} (client : ClientAddr)
    (doc : pton.Documented)
    (h : Accepted pton token)
    (hrange : ¬OutOfRange pton token) :
    (AllOfInet pton client token ∧ isInNetwork pton client token = .error .shiftAmount) ∨
      (¬AllOfInet pton client token ∧ ∃ found, isInNetwork pton client token = .ok found ∧
        (found = true ↔ Contains pton client token)) := by
  obtain ⟨addrStr, text, n, hentry, hfits, hscan, hwritten, hfamily⟩ := h.family doc hrange
  have hmask : n % 2 ^ 8 = n := by
    omega
  have hall : AllOfInet pton client token ↔
      (∃ addr, client = .inet addr) ∧ (pton.inet addrStr).isSome ∧ n = 0 := by
    constructor
    · rintro ⟨hclient, addrStr', text', hentry', hsome, hzero⟩
      obtain ⟨rfl, rfl⟩ := hentry.inj hentry'
      have := Option.some.inj (hwritten.symm.trans hzero)
      exact ⟨hclient, hsome, by omega⟩
    · rintro ⟨hclient, hsome, rfl⟩
      exact ⟨hclient, addrStr, text, hentry, hsome, hwritten⟩
  rw [hall, contains_iff hentry hwritten]
  unfold isInNetwork
  rw [scanSubnet_entry hentry, if_neg (Nat.not_le.mpr hfits), hscan, Option.map_some, ok_bind, hmask]
  dsimp only
  cases client with
  | inet addr =>
      rcases hfamily with ⟨hn, ⟨subnet, hsubnet⟩, _⟩ | ⟨_, _, hnone⟩
      · rw [hsubnet]
        dsimp only
        by_cases hzero : n = 0
        · refine Or.inl ⟨⟨⟨addr, rfl⟩, rfl, hzero⟩, ?_⟩
          rw [hzero]
          rfl
        · refine Or.inr ⟨fun hbad => hzero hbad.2.2, ?_⟩
          have hshift : shiftLeft 0xFFFFFFFF#32 (32 - n) = .ok (0xFFFFFFFF#32 <<< (32 - n)) := by
            have hamount : (32 - (n : Int)).toNat = 32 - n := by
              omega
            unfold shiftLeft
            rw [if_pos (by omega), hamount]
          obtain ⟨same, hsame, hiff⟩ := compareMasked_spec (n := n)
            (bytes (subnet &&& (0xFFFFFFFF#32 <<< (32 - n))) ++ List.replicate 12 0)
            (bytes addr ++ List.replicate 12 0)
            (by rw [List.length_append, length_bytes, List.length_replicate])
            (by rw [List.length_append, length_bytes, List.length_replicate]) (by omega)
          refine ⟨same, ?_, ?_⟩
          · rw [hshift, ok_bind]
            exact hsame
          · rw [hiff, agree_bytes _ _ ⟨4, rfl⟩ hn, sameBits_masked subnet addr hn]
            constructor
            · intro hbits
              exact ⟨hn, subnet, rfl, hbits⟩
            · rintro ⟨_, subnet', hsubnet', hbits⟩
              rw [Option.some.inj hsubnet']
              exact hbits
      · rw [hnone]
        refine Or.inr ⟨fun hbad => absurd hbad.2.1 Bool.false_ne_true, false, rfl, ?_⟩
        constructor
        · intro hfalse
          cases hfalse
        · rintro ⟨_, subnet, hsubnet, _⟩
          cases hsubnet
  | inet6 addr =>
      refine Or.inr ⟨?_, ?_⟩
      · rintro ⟨⟨addr', haddr⟩, _⟩
        cases haddr
      rcases hfamily with ⟨_, _, hnone⟩ | ⟨hn, ⟨subnet, hsubnet⟩, _⟩
      · rw [hnone]
        refine ⟨false, rfl, ?_⟩
        constructor
        · intro hfalse
          cases hfalse
        · rintro ⟨_, subnet, hsubnet, _⟩
          cases hsubnet
      · rw [hsubnet]
        dsimp only
        have hbytes := agree_bytes [] [] (x := subnet) (y := addr) ⟨16, rfl⟩ hn
        rw [List.append_nil, List.append_nil] at hbytes
        obtain ⟨same, hsame, hiff⟩ := compareMasked_spec
          (maskBytes n (bytes subnet)) (bytes addr)
          (by rw [length_maskBytes, length_bytes]) (by rw [length_bytes]) hn
        refine ⟨same, hsame, ?_⟩
        have hmasked : Agree n (maskBytes n (bytes subnet)) (bytes addr) ↔
            Agree n (bytes subnet) (bytes addr) :=
          ⟨(agree_maskBytes n _).symm.trans, (agree_maskBytes n _).trans⟩
        rw [hiff, hmasked, hbytes]
        constructor
        · intro hbits
          exact ⟨hn, subnet, rfl, fun j hj => (hbits j hj).symm⟩
        · rintro ⟨_, subnet', hsubnet', hbits⟩ j hj
          rw [Option.some.inj hsubnet']
          exact (hbits j hj).symm

/-! ## Lists -/

/-- The check of a list ends unless an address that is too long comes after accepted entries only. -/
theorem allTokens_decided (list : List (List Char)) :
    (∃ valid, allTokens pton list = .ok valid) ↔
      Guarded LongAddress (fun u => ¬Accepted pton u) list := by
  induction list with
  | nil =>
      constructor
      · intro _
        exact guarded_nil
      · intro _
        exact ⟨true, rfl⟩
  | cons token list ih =>
      rw [guarded_cons]
      unfold allTokens
      rcases isValidSubnet_spec pton token with ⟨hacc, hlong, heq⟩ | ⟨hacc, hlong, heq⟩ |
        ⟨hacc, hlong, heq⟩
      · rw [heq, ok_bind, Bool.not_true, if_neg Bool.false_ne_true, ih]
        constructor
        · intro h
          exact ⟨hlong, Or.inr h⟩
        · rintro ⟨_, hnot | h⟩
          · exact absurd hacc hnot
          · exact h
      · rw [heq, ok_bind, Bool.not_false, if_pos rfl]
        constructor
        · intro _
          exact ⟨hlong, Or.inl hacc⟩
        · intro _
          exact ⟨false, rfl⟩
      · rw [heq]
        constructor
        · rintro ⟨valid, h⟩
          cases h
        · intro h
          exact absurd hlong h.1

theorem allTokens_accepted (list : List (List Char)) :
    allTokens pton list = .ok true ↔ ∀ token ∈ list, Accepted pton token := by
  induction list with
  | nil =>
      constructor
      · intro _ token htoken
        cases htoken
      · intro _
        rfl
  | cons token list ih =>
      rw [List.forall_mem_cons]
      unfold allTokens
      rcases isValidSubnet_spec pton token with ⟨hacc, _, heq⟩ | ⟨hacc, _, heq⟩ |
        ⟨hacc, _, heq⟩
      · rw [heq, ok_bind, Bool.not_true, if_neg Bool.false_ne_true, ih]
        exact ⟨fun h => ⟨hacc, h⟩, fun h => h.2⟩
      · rw [heq, ok_bind, Bool.not_false, if_pos rfl]
        constructor
        · intro h
          cases h
        · intro h
          exact absurd h.1 hacc
      · rw [heq]
        constructor
        · intro h
          cases h
        · intro h
          exact absurd h.1 hacc

/-- The search of accepted entries is exact and ends unless an entry of all IPv4 addresses comes
before any that contains the client. -/
theorem anyToken_spec
    {list : List (List Char)} (client : ClientAddr)
    (doc : pton.Documented)
    (haccepted : ∀ token ∈ list, Accepted pton token)
    (hrange : ∀ token ∈ list, ¬OutOfRange pton token) :
    (∃ found, anyToken pton client list = .ok found ∧
        (found = true ↔ ∃ token ∈ list, Contains pton client token)) ↔
      Guarded (AllOfInet pton client) (Contains pton client) list := by
  induction list with
  | nil =>
      constructor
      · intro _
        exact guarded_nil
      · intro _
        refine ⟨false, rfl, ?_⟩
        constructor
        · intro h
          cases h
        · rintro ⟨token, htoken, _⟩
          cases htoken
  | cons token list ih =>
      have hrest := ih (fun t ht => haccepted t (List.mem_cons_of_mem _ ht))
        (fun t ht => hrange t (List.mem_cons_of_mem _ ht))
      rw [guarded_cons]
      unfold anyToken
      rcases isInNetwork_spec client doc (haccepted token List.mem_cons_self)
        (hrange token List.mem_cons_self) with ⟨hall, heq⟩ | ⟨hall, found, heq, hiff⟩
      · rw [heq]
        constructor
        · rintro ⟨found, h, _⟩
          cases h
        · intro h
          exact absurd hall h.1
      · rw [heq, ok_bind]
        cases found with
        | true =>
            have hcontains := hiff.mp rfl
            rw [if_pos rfl]
            constructor
            · intro _
              exact ⟨hall, Or.inl hcontains⟩
            · intro _
              exact ⟨true, rfl, fun _ => ⟨token, List.mem_cons_self, hcontains⟩, fun _ => rfl⟩
        | false =>
            have hnot : ¬Contains pton client token := fun h => Bool.false_ne_true (hiff.mpr h)
            have hexists : (∃ t ∈ token :: list, Contains pton client t) ↔
                ∃ t ∈ list, Contains pton client t := by
              rw [List.exists_mem_cons_iff]
              exact ⟨fun h => h.resolve_left hnot, Or.inr⟩
            rw [if_neg Bool.false_ne_true, hexists, hrest]
            constructor
            · intro h
              exact ⟨hall, Or.inr h⟩
            · rintro ⟨_, h | h⟩
              · exact absurd h hnot
              · exact h

/-- The matching of a list is exact if and only if every address that is too long comes after an
entry that is rejected, no accepted entry is written with a number out of range, and in an accepted
list an IPv4 client meets an entry that contains it before any for all IPv4 addresses. -/
theorem trustedSubnets_iff
    (client : ClientAddr) (subnetList : List Char)
    (doc : pton.Documented) :
    MatchesExactly pton client subnetList ↔
      Guarded LongAddress (fun token => ¬Accepted pton token) (tokens subnetList) ∧
      (∀ token ∈ tokens subnetList, Accepted pton token → ¬OutOfRange pton token) ∧
      ((∀ token ∈ tokens subnetList, Accepted pton token) →
        Guarded (AllOfInet pton client) (Contains pton client) (tokens subnetList)) := by
  have hrejected : (∀ token ∈ tokens subnetList, OutOfRange pton token →
        isValidSubnet pton token = .ok false) ↔
      ∀ token ∈ tokens subnetList, Accepted pton token → ¬OutOfRange pton token := by
    constructor
    · intro h token htoken hacc hout
      rcases isValidSubnet_spec pton token with ⟨_, _, heq⟩ | ⟨hnot, _, _⟩ | ⟨hnot, _, _⟩
      · cases heq.symm.trans (h token htoken hout)
      · exact hnot hacc
      · exact hnot hacc
    · intro h token htoken hout
      rcases isValidSubnet_spec pton token with ⟨hacc, _, _⟩ | ⟨_, _, heq⟩ | ⟨_, hlong, _⟩
      · exact absurd hout (h token htoken hacc)
      · exact heq
      · obtain ⟨addrStr, text, hentry, n, _, hfamily⟩ := hout
        obtain ⟨addrStr', text', hentry', hlength⟩ := hlong
        obtain ⟨rfl, rfl⟩ := hentry.inj hentry'
        have hfits : addrStr.length < 46 := by
          rcases hfamily with ⟨hsome, _⟩ | ⟨hsome, _⟩
          · obtain ⟨addr, haddr⟩ := Option.isSome_iff_exists.mp hsome
            exact doc.inet_fits _ _ haddr
          · obtain ⟨addr, haddr⟩ := Option.isSome_iff_exists.mp hsome
            exact doc.inet6_fits _ _ haddr
        exact absurd hlength (Nat.not_le.mpr hfits)
  by_cases hempty : subnetList = []
  · have htokens : tokens subnetList = [] := by
      rw [hempty]
      rfl
    have hlist : isValidSubnetList pton subnetList = .ok false := by
      unfold isValidSubnetList
      rw [if_pos hempty]
      rfl
    constructor
    · intro h
      exact ⟨htokens ▸ guarded_nil, hrejected.mp h.rejected, fun _ => htokens ▸ guarded_nil⟩
    · rintro ⟨_, hrange, _⟩
      refine ⟨⟨false, hlist⟩, fun hvalid => ?_, hrejected.mpr hrange⟩
      cases hlist.symm.trans hvalid
  · have hlist : isValidSubnetList pton subnetList = allTokens pton (tokens subnetList) := by
      unfold isValidSubnetList
      rw [if_neg hempty]
    have hsearch : ∀ hrange : (∀ token ∈ tokens subnetList, Accepted pton token →
          ¬OutOfRange pton token),
        (∀ token ∈ tokens subnetList, Accepted pton token) →
          ((∃ found, isClientInAnySubnet pton client subnetList = .ok found ∧
              (found = true ↔ ∃ token ∈ tokens subnetList, Contains pton client token)) ↔
            Guarded (AllOfInet pton client) (Contains pton client) (tokens subnetList)) :=
      fun hrange hacc => anyToken_spec client doc hacc fun t ht => hrange t ht (hacc t ht)
    constructor
    · intro h
      have hrange := hrejected.mp h.rejected
      refine ⟨(allTokens_decided _).mp (hlist ▸ h.decided), hrange, fun hacc => ?_⟩
      exact (hsearch hrange hacc).mp (h.exact (hlist.trans ((allTokens_accepted _).mpr hacc)))
    · rintro ⟨hlong, hrange, hall⟩
      refine ⟨hlist ▸ (allTokens_decided _).mpr hlong, fun hvalid => ?_, hrejected.mpr hrange⟩
      have hacc := (allTokens_accepted _).mp (hlist.symm.trans hvalid)
      exact (hsearch hrange hacc).mpr (hall hacc)

/-- Two addresses of the documentation's prefixes, one of each family -/
def twoAddresses : InetPton where
  inet text := if text = "192.0.2.0".toList then some 0xC0000200#32 else none
  inet6 text :=
    if text = "2001:db8::".toList then some 0x20010DB8000000000000000000000000#128 else none

theorem twoAddresses_documented : twoAddresses.Documented where
  inet_noColon text addr h := by
    dsimp only [twoAddresses] at h
    split at h
    case isTrue heq =>
      rw [heq]
      decide
    case isFalse =>
      cases h
  inet6_colon text addr h := by
    dsimp only [twoAddresses] at h
    split at h
    case isTrue heq =>
      rw [heq]
      decide
    case isFalse =>
      cases h
  inet_fits text addr h := by
    dsimp only [twoAddresses] at h
    split at h
    case isTrue heq =>
      rw [heq]
      decide
    case isFalse =>
      cases h
  inet6_fits text addr h := by
    dsimp only [twoAddresses] at h
    split at h
    case isTrue heq =>
      rw [heq]
      decide
    case isFalse =>
      cases h

/-- The matching of one entry in range is exact. -/
theorem trustedSubnets_iff_prefix32 :
    twoAddresses.Documented ∧
      (MatchesExactly twoAddresses (.inet6 0x20010DB8000000000000000000000001#128)
          "2001:db8::/32".toList ↔
        Guarded LongAddress (fun token => ¬Accepted twoAddresses token)
          (tokens "2001:db8::/32".toList) ∧
        (∀ token ∈ tokens "2001:db8::/32".toList, Accepted twoAddresses token →
          ¬OutOfRange twoAddresses token) ∧
        ((∀ token ∈ tokens "2001:db8::/32".toList, Accepted twoAddresses token) →
          Guarded (AllOfInet twoAddresses (.inet6 0x20010DB8000000000000000000000001#128))
            (Contains twoAddresses (.inet6 0x20010DB8000000000000000000000001#128))
            (tokens "2001:db8::/32".toList))) :=
  ⟨twoAddresses_documented, trustedSubnets_iff _ _ twoAddresses_documented⟩

/-- An entry with the number 256 is accepted, and it contains every IPv6 client. -/
theorem isClientInAnySubnet_number256 :
    twoAddresses.Documented ∧
      isValidSubnetList twoAddresses "2001:db8::/256".toList = .ok true ∧
      isClientInAnySubnet twoAddresses (.inet6 1#128) "2001:db8::/256".toList = .ok true ∧
      ¬MatchesExactly twoAddresses (.inet6 1#128) "2001:db8::/256".toList := by
  have hvalid : isValidSubnetList twoAddresses "2001:db8::/256".toList = .ok true := by
    decide +kernel
  have hfound : isClientInAnySubnet twoAddresses (.inet6 1#128) "2001:db8::/256".toList =
      .ok true := by
    decide +kernel
  refine ⟨twoAddresses_documented, hvalid, hfound, fun h => ?_⟩
  have htokens : tokens "2001:db8::/256".toList = ["2001:db8::/256".toList] := by
    decide +kernel
  have hentry : IsEntry "2001:db8::/256".toList "2001:db8::".toList "256".toList :=
    ⟨by decide, by decide, by decide⟩
  have hwritten : writtenNumber "256".toList = some ((256 : Nat) : Int) := by
    decide +kernel
  obtain ⟨found, heq, hiff⟩ := h.exact hvalid
  have htrue : found = true := by
    have := heq.symm.trans hfound
    injection this
  obtain ⟨token, htoken, hcontains⟩ := hiff.mp htrue
  rw [htokens, List.mem_singleton] at htoken
  rw [htoken, contains_iff hentry hwritten] at hcontains
  have hle : 256 ≤ 128 := hcontains.1
  omega

end Subnets

end PolarProxy
