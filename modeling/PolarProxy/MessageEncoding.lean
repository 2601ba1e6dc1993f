import Mathlib.Data.List.Forall2
import PolarProxy.Library.ExactOutcomes
import PolarProxy.Library.Slices
import PolarProxy.ExtendedMessage

/-!
# The encoding of extended query messages

The format of the messages on the wire: texts that a NUL ends, numbers in big-endian order,
counted arrays, and parameter values that are NULL or have a length of type `int32_t`.  Each
part of a parser reads exactly the words of this format and stays in the packet.

**Results.** `getUint16be_exact`, `getUint32be_exact`, `readHeader_exact`, `readText_exact`,
`readFields_exact`, `readStmtType_exact`.
-/

namespace PolarProxy

namespace ExtendedMessage

open Slices ExactOutcomes

/-! ## Words -/

/-- A number of two bytes. -/
def be16 (n : Nat) : List UInt8 :=
  [UInt8.ofNat (n / 2 ^ 8), UInt8.ofNat n]

/-- A number of four bytes. -/
def be32 (n : Nat) : List UInt8 :=
  [UInt8.ofNat (n / 2 ^ 24), UInt8.ofNat (n / 2 ^ 16), UInt8.ofNat (n / 2 ^ 8), UInt8.ofNat n]

/-- A text without NUL. -/
structure Text where
  bytes : List UInt8
  noNul : 0 ∉ bytes
  deriving DecidableEq

/-- An array of numbers that 16 bits count. -/
structure FieldList (bound : Nat) where
  fields : List (Fin bound)
  count : fields.length < 2 ^ 16
  deriving DecidableEq

/-- A parameter value; `none` is NULL. -/
abbrev WireValue : Type :=
  Option { bytes : List UInt8 // bytes.length ≤ int32Max }

/-- Parameter values that 16 bits count. -/
structure ValueList where
  values : List WireValue
  count : values.length < 2 ^ 16
  deriving DecidableEq

def Text.encode (t : Text) : List UInt8 :=
  t.bytes ++ [0]

def FieldList.encode {bound : Nat} (be : Nat → List UInt8) (l : FieldList bound) : List UInt8 :=
  be16 l.fields.length ++ l.fields.flatMap fun n : Fin bound => be n

def WireValue.encode : WireValue → List UInt8
  | none => be32 pgsqlParamNull
  | some v => be32 v.1.length ++ v.1

def ValueList.encode (l : ValueList) : List UInt8 :=
  be16 l.values.length ++ l.values.flatMap WireValue.encode

/-- A message with its type byte and its length. -/
def frame (type : Char) (body : List UInt8) : List UInt8 :=
  type.toUInt8 :: be32 (body.length + 4) ++ body

@[simp]
theorem length_be16 (n : Nat) : (be16 n).length = 2 :=
  rfl

@[simp]
theorem length_be32 (n : Nat) : (be32 n).length = 4 :=
  rfl

@[simp]
theorem Text.length_encode (t : Text) : t.encode.length = t.bytes.length + 1 := by
  simp [encode]

theorem be16_eq_iff {b₀ b₁ : UInt8} {n : Nat} :
    b₀.toNat * 2 ^ 8 + b₁.toNat = n ↔ n < 2 ^ 16 ∧ [b₀, b₁] = be16 n := by
  have h₀ := b₀.toNat_lt
  have h₁ := b₁.toNat_lt
  simp only [be16, List.cons.injEq, and_true, ← UInt8.toNat_inj, UInt8.toNat_ofNat']
  omega

theorem be32_eq_iff {b₀ b₁ b₂ b₃ : UInt8} {n : Nat} :
    b₀.toNat * 2 ^ 24 + b₁.toNat * 2 ^ 16 + b₂.toNat * 2 ^ 8 + b₃.toNat = n ↔
      n < 2 ^ 32 ∧ [b₀, b₁, b₂, b₃] = be32 n := by
  have h₀ := b₀.toNat_lt
  have h₁ := b₁.toNat_lt
  have h₂ := b₂.toNat_lt
  have h₃ := b₃.toNat_lt
  simp only [be32, List.cons.injEq, and_true, ← UInt8.toNat_inj, UInt8.toNat_ofNat']
  omega

theorem exists_be16
    (xs : List UInt8)
    (hlen : xs.length = 2) :
    ∃ n : Fin (2 ^ 16), be16 n = xs := by
  match xs, hlen with
  | [b₀, b₁], _ =>
      obtain ⟨hlt, heq⟩ := be16_eq_iff.mp (rfl : b₀.toNat * 2 ^ 8 + b₁.toNat = _)
      exact ⟨⟨_, hlt⟩, heq.symm⟩

theorem exists_be32
    (xs : List UInt8)
    (hlen : xs.length = 4) :
    ∃ n : Fin (2 ^ 32), be32 n = xs := by
  match xs, hlen with
  | [b₀, b₁, b₂, b₃], _ =>
      obtain ⟨hlt, heq⟩ := be32_eq_iff.mp
        (rfl : b₀.toNat * 2 ^ 24 + b₁.toNat * 2 ^ 16 + b₂.toNat * 2 ^ 8 + b₃.toNat = _)
      exact ⟨⟨_, hlt⟩, heq.symm⟩

theorem be32_inj
    {n m : Nat}
    (hn : n < 2 ^ 32)
    (hm : m < 2 ^ 32)
    (h : be32 n = be32 m) :
    n = m := by
  have hself := be32_eq_iff.mpr ⟨hn, (rfl : be32 n = be32 n)⟩
  have hother := be32_eq_iff.mpr ⟨hm, h⟩
  exact hself.symm.trans hother

/-! ## Parts -/

section Parts

variable {p : List UInt8} {o : Nat}

theorem byteAt_exact
    (ho : o < p.length) :
    Exact .outside (byteAt p o) (fun b => At p o [b]) := by
  have hget : p[o]? = some p[o] := List.getElem?_eq_getElem ho
  have hok : byteAt p o = .ok p[o] := by
    rw [byteAt, hget]
  rw [hok]
  refine (Exact.pure p[o]).congr ?_
  intro b
  rw [at_singleton, hget]
  simp [eq_comm]

theorem getUint16be_exact
    (ho : o + 2 ≤ p.length) :
    Exact .outside (getUint16be p o) (fun n => n < 2 ^ 16 ∧ At p o (be16 n)) := by
  refine ((byteAt_exact (by omega)).bind fun b₀ _ =>
    (byteAt_exact (by omega)).bind fun b₁ _ => Exact.pure _).congr ?_
  intro n
  constructor
  · rintro ⟨b₀, h₀, b₁, h₁, rfl⟩
    obtain ⟨hlt, heq⟩ := be16_eq_iff.mp (rfl : b₀.toNat * 2 ^ 8 + b₁.toNat = _)
    refine ⟨hlt, ?_⟩
    rw [← heq]
    exact at_cons.mpr ⟨at_singleton.mp h₀, h₁⟩
  · rintro ⟨hlt, hat⟩
    obtain ⟨h₀, h₁⟩ := at_cons.mp hat
    exact ⟨_, at_singleton.mpr h₀, _, h₁, (be16_eq_iff.mpr ⟨hlt, rfl⟩).symm⟩

theorem getUint32be_exact
    (ho : o + 4 ≤ p.length) :
    Exact .outside (getUint32be p o) (fun n => n < 2 ^ 32 ∧ At p o (be32 n)) := by
  refine ((byteAt_exact (by omega)).bind fun b₀ _ =>
    (byteAt_exact (by omega)).bind fun b₁ _ =>
      (byteAt_exact (by omega)).bind fun b₂ _ =>
        (byteAt_exact (by omega)).bind fun b₃ _ => Exact.pure _).congr ?_
  intro n
  constructor
  · rintro ⟨b₀, h₀, b₁, h₁, b₂, h₂, b₃, h₃, rfl⟩
    obtain ⟨hlt, heq⟩ := be32_eq_iff.mp
      (rfl : b₀.toNat * 2 ^ 24 + b₁.toNat * 2 ^ 16 + b₂.toNat * 2 ^ 8 + b₃.toNat = _)
    refine ⟨hlt, ?_⟩
    rw [← heq]
    exact at_cons.mpr ⟨at_singleton.mp h₀, at_cons.mpr ⟨at_singleton.mp h₁,
      at_cons.mpr ⟨at_singleton.mp h₂, h₃⟩⟩⟩
  · rintro ⟨hlt, hat⟩
    obtain ⟨h₀, hat⟩ := at_cons.mp hat
    obtain ⟨h₁, hat⟩ := at_cons.mp hat
    obtain ⟨h₂, h₃⟩ := at_cons.mp hat
    exact ⟨_, at_singleton.mpr h₀, _, at_singleton.mpr h₁, _, at_singleton.mpr h₂, _, h₃,
      (be32_eq_iff.mpr ⟨hlt, rfl⟩).symm⟩

theorem check_exact (c : Prop) [Decidable c] :
    Exact Failure.outside (check c) (fun _ => c) := by
  by_cases hc : c
  · rw [check, if_pos hc]
    exact (Exact.pure ()).congr (fun _ => by simp [hc])
  · rw [check, if_neg hc]
    exact (Exact.error (by simp)).congr (fun _ => by simp [hc])

/-- The type and the length of a message. -/
theorem readHeader_exact
    (hsize : p.length < 2 ^ 32) (type : UInt8) :
    Exact .outside (readHeader p type) (fun o =>
      o = 5 ∧ 5 ≤ p.length ∧ At p 0 (type :: be32 (p.length - 1))) := by
  refine ((check_exact _).bind fun _ _ => (check_exact _).bind fun _ hlen =>
    (byteAt_exact (by omega)).bind fun b _ => (check_exact _).bind fun _ _ =>
      (getUint32be_exact (by omega)).bind fun n _ => (check_exact _).bind fun _ _ =>
        Exact.pure _).congr ?_
  intro o
  constructor
  · rintro ⟨-, hne, -, hlen, b, hb, -, rfl, n, ⟨hn, hat⟩, -, rfl, rfl⟩
    exact ⟨rfl, by omega, at_cons.mpr ⟨at_singleton.mp hb, hat⟩⟩
  · rintro ⟨rfl, hlen, hat⟩
    obtain ⟨hb, hat⟩ := at_cons.mp hat
    exact ⟨(), by omega, (), by omega, _, at_singleton.mpr hb, (), rfl, _, ⟨by omega, hat⟩, (), rfl, rfl⟩

theorem strnlen_exact :
    Exact .outside (strnlen p o (p.length - o)) (fun n => n = endedLength 0 (p.drop o)) := by
  have htake : (p.drop o).take (p.length - o) = p.drop o := by
    rw [← List.length_drop, List.take_length]
  have hok : strnlen p o (p.length - o) = .ok (endedLength 0 (p.drop o)) := by
    rw [strnlen, htake, List.length_drop, if_pos (Or.inr rfl)]
    rfl
  rw [hok]
  exact Exact.pure _

/-- A text. -/
theorem readText_exact
    (ho : o ≤ p.length) :
    Exact .outside (readText p o) (fun o' =>
      ∃ t : Text, At p o t.encode ∧ o' = o + t.encode.length) := by
  refine ((check_exact _).bind fun _ _ => strnlen_exact.bind fun n _ =>
    (check_exact _).bind fun _ _ => Exact.pure _).congr ?_
  intro o'
  constructor
  · rintro ⟨-, hlt, n, hn, -, hfits, rfl⟩
    obtain ⟨t, rfl, ht, hat⟩ := (at_ended_iff 0 ho).mpr ⟨(by omega : o + n < p.length), hn.symm⟩
    exact ⟨⟨t, ht⟩, hat, by simp; omega⟩
  · rintro ⟨t, hat, rfl⟩
    obtain ⟨hfits, hn⟩ := (at_ended_iff 0 ho).mp ⟨t.bytes, rfl, t.noNul, hat⟩
    exact ⟨(), by omega, _, hn.symm, (), by omega, by simp; omega⟩

/-- What a parser keeps of an array. -/
def FieldList.at {bound : Nat} (l : FieldList bound) (o : Nat) : Fields :=
  ⟨l.fields.length, if l.fields.length > 0 then some (o + 2) else none⟩

theorem FieldList.length_encode
    {bound size : Nat} {be : Nat → List UInt8}
    (hbe : ∀ n, (be n).length = size)
    (l : FieldList bound) :
    (l.encode be).length = 2 + l.fields.length * size := by
  rw [encode, List.length_append, length_be16]
  rw [@length_blocks _ _ (fun n : Fin bound => be n) size (fun n => hbe n)]

/-- An array of numbers of one size. -/
theorem readFields_exact
    {bound size : Nat} {be : Nat → List UInt8}
    (hbe : ∀ n, (be n).length = size)
    (hsurj : ∀ xs : List UInt8, xs.length = size → ∃ n : Fin bound, be n = xs)
    (ho : o ≤ p.length) :
    Exact .outside (readFields p size o) (fun r =>
      ∃ l : FieldList bound, At p o (l.encode be) ∧ r = (l.at o, o + (l.encode be).length)) := by
  refine ((check_exact _).bind fun _ _ => (getUint16be_exact (by omega)).bind fun n _ =>
    Exact.ite (fun _ => (check_exact _).bind fun _ _ => Exact.pure _) (fun _ => Exact.pure _)).congr ?_
  rintro ⟨f, o'⟩
  constructor
  · rintro ⟨-, hlt, n, ⟨hn, hcount⟩, hcase⟩
    have hfits : o + 2 + n * size ≤ p.length := by
      rcases hcase with ⟨-, -, hfits, -⟩ | ⟨hzero, -⟩
      · omega
      · have hn0 : n = 0 := by omega
        rw [hn0, Nat.zero_mul]
        omega
    obtain ⟨xs, hxs, hat⟩ := exists_at hfits
    obtain ⟨l, rfl, rfl⟩ := exists_blocks hsurj n hxs
    refine ⟨⟨l, hn⟩, at_append.mpr ⟨hcount, hat⟩, ?_⟩
    rw [FieldList.length_encode hbe, FieldList.at]
    rcases hcase with ⟨hpos, -, -, heq⟩ | ⟨hzero, heq⟩
    · obtain ⟨rfl, rfl⟩ := Prod.mk.inj heq
      dsimp only
      rw [if_pos hpos, Nat.add_assoc]
    · obtain ⟨rfl, rfl⟩ := Prod.mk.inj heq
      have hn0 : l.length = 0 := by omega
      dsimp only
      rw [hn0, if_neg (by omega), Nat.zero_mul]
  · rintro ⟨l, hat, heq⟩
    obtain ⟨rfl, rfl⟩ := Prod.mk.inj heq
    have hle := hat.le
    rw [FieldList.length_encode hbe] at hle ⊢
    refine ⟨(), by omega, l.fields.length, ⟨l.count, (at_append.mp hat).1⟩, ?_⟩
    by_cases hpos : l.fields.length > 0
    · refine Or.inl ⟨hpos, (), by omega, ?_⟩
      rw [FieldList.at, if_pos hpos, Nat.add_assoc]
    · refine Or.inr ⟨hpos, ?_⟩
      have hzero : l.fields.length = 0 := by omega
      rw [FieldList.at, if_neg hpos, hzero, Nat.zero_mul]

/-- The type of what a message names. -/
theorem readStmtType_exact :
    Exact .outside (readStmtType p o) (fun r =>
      ∃ b : UInt8, (b = 'S'.toUInt8 ∨ b = 'P'.toUInt8) ∧ At p o [b] ∧ r = (b, o + 1)) := by
  refine ((check_exact _).bind fun _ _ => (byteAt_exact (by omega)).bind fun b _ =>
    (check_exact _).bind fun _ _ => Exact.pure _).congr ?_
  rintro r
  constructor
  · rintro ⟨-, -, b, hat, -, hb, rfl⟩
    exact ⟨b, hb, hat, rfl⟩
  · rintro ⟨b, hb, hat, rfl⟩
    have hle := hat.le
    rw [List.length_singleton] at hle
    exact ⟨(), by omega, b, hat, (), hb, rfl⟩

end Parts

end ExtendedMessage

end PolarProxy
