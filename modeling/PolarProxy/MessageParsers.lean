import PolarProxy.MessageEncoding

/-!
# Parsers of extended query messages

A parser accepts the encodings of its messages and nothing else, what it keeps leads the
readers to the values that were encoded, and it stays in the packet.  The loop over the
parameter values of a Bind message adds a length of the client to a 32-bit offset: a length
beyond `INT32_MAX`, or one that carries the offset past 2³², moves the cursor to a place that
has nothing to do with the message.  The parsers are exact for a packet unless this happens
and the rest, from that place on, still ends with the packet.

**Results.**
* `parseParse_exact`, `parseTarget_exact`, `parseExecute_exact`, `parseBind_exact`: what the
  parsers return.
* `walk_of_values`, `values_of_walk`: the loop over the values, when no length is bad.
* `readAll_fields`, `readAll_values`: the readers.
* `parsers_exact_iff`: the packets for which the parsers are exact.
-/

namespace PolarProxy

namespace ExtendedMessage

open Slices ExactOutcomes

/-! ## Messages -/

structure ParseMsg where
  stmtName : Text
  queryString : Text
  paramTypes : FieldList (2 ^ 32)

/-- A Describe or Close message, of a portal or of a statement. -/
structure TargetMsg where
  portal : Bool
  stmtName : Text

structure BindMsg where
  portalName : Text
  stmtName : Text
  paramFormats : FieldList (2 ^ 16)
  paramValues : ValueList
  resultFormats : FieldList (2 ^ 16)

structure ExecuteMsg where
  portalName : Text
  maxRows : Fin (2 ^ 32)

namespace ParseMsg

variable (m : ParseMsg)

def encode : List UInt8 :=
  frame 'P' (m.stmtName.encode ++ m.queryString.encode ++ m.paramTypes.encode be32)

def data : ParseData :=
  let queryString := 5 + m.stmtName.encode.length
  { stmtName := 5
    queryString := queryString
    paramTypes := m.paramTypes.at (queryString + m.queryString.encode.length) }

end ParseMsg

namespace TargetMsg

variable (m : TargetMsg)

def stmtType : UInt8 :=
  if m.portal then 'P'.toUInt8 else 'S'.toUInt8

def encode (type : Char) : List UInt8 :=
  frame type (m.stmtType :: m.stmtName.encode)

def data : TargetData where
  stmtType := m.stmtType
  stmtName := 6

end TargetMsg

namespace BindMsg

variable (m : BindMsg)

def encode : List UInt8 :=
  frame 'B' (m.portalName.encode ++ m.stmtName.encode ++ m.paramFormats.encode be16 ++
    m.paramValues.encode ++ m.resultFormats.encode be16)

end BindMsg

namespace ExecuteMsg

variable (m : ExecuteMsg)

def encode : List UInt8 :=
  frame 'E' (m.portalName.encode ++ be32 m.maxRows)

def data : ExecuteData where
  portalName := 5
  maxRows := m.maxRows

end ExecuteMsg

/-- A packet is a frame when the words of its body follow the header up to its end. -/
theorem eq_frame_iff
    {p : List UInt8} {type : Char} {body : List UInt8} :
    p = frame type body ↔
      5 ≤ p.length ∧ At p 0 (type.toUInt8 :: be32 (p.length - 1)) ∧ At p 5 body ∧
        5 + body.length = p.length := by
  have hframe : frame type body = (type.toUInt8 :: be32 (body.length + 4)) ++ body := rfl
  have hlen : (frame type body).length = 5 + body.length := by
    rw [hframe, List.length_append, List.length_cons, length_be32]
  constructor
  · rintro rfl
    have hat : At (frame type body) 0 ((type.toUInt8 :: be32 (body.length + 4)) ++ body) :=
      (at_all.mpr hframe).1
    obtain ⟨hheader, hbody⟩ := at_append.mp hat
    refine ⟨by omega, ?_, hbody, hlen.symm⟩
    rwa [hlen, (by omega : 5 + body.length - 1 = body.length + 4)]
  · rintro ⟨-, hheader, hbody, heq⟩
    refine at_all.mp ⟨?_, by omega⟩
    rw [hframe]
    refine at_append.mpr ⟨?_, hbody⟩
    rwa [(by omega : body.length + 4 = p.length - 1)]

section Parsers

variable {p : List UInt8}

/-! ## Parse, Describe, Close, Execute -/

theorem parseParse_exact
    (hsize : p.length < 2 ^ 32) :
    Exact .outside (parseParse p) (fun d => ∃ m : ParseMsg, p = m.encode ∧ d = m.data) := by
  refine ((readHeader_exact hsize _).bind fun o ho => (readText_exact (by omega)).bind fun o₁ ho₁ =>
    (readText_exact ?_).bind fun o₂ ho₂ => (readFields_exact length_be32 exists_be32 ?_).bind fun r hr =>
      (check_exact _).bind fun _ _ => Exact.pure _).congr ?_
  · obtain ⟨t, hat, rfl⟩ := ho₁
    exact hat.le
  · obtain ⟨t, hat, rfl⟩ := ho₂
    exact hat.le
  · intro d
    constructor
    · rintro ⟨_, ⟨rfl, hlen, hheader⟩, _, ⟨name, hname, rfl⟩, _, ⟨query, hquery, rfl⟩, _,
        ⟨types, htypes, rfl⟩, -, hend, rfl⟩
      refine ⟨⟨name, query, types⟩, ?_, rfl⟩
      refine eq_frame_iff.mpr ⟨hlen, hheader, ?_, ?_⟩
      · refine at_append.mpr ⟨at_append.mpr ⟨hname, hquery⟩, ?_⟩
        rwa [List.length_append, ← Nat.add_assoc]
      · rw [List.length_append, List.length_append]
        dsimp only at hend ⊢
        omega
    · rintro ⟨m, hp, rfl⟩
      obtain ⟨hlen, hheader, hbody, hend⟩ := eq_frame_iff.mp hp
      obtain ⟨hbody, htypes⟩ := at_append.mp hbody
      obtain ⟨hname, hquery⟩ := at_append.mp hbody
      rw [List.length_append, ← Nat.add_assoc] at htypes
      rw [List.length_append, List.length_append] at hend
      exact ⟨5, ⟨rfl, hlen, hheader⟩, _, ⟨m.stmtName, hname, rfl⟩, _, ⟨m.queryString, hquery, rfl⟩, _,
        ⟨m.paramTypes, htypes, rfl⟩, (), by dsimp only; omega, rfl⟩

theorem parseTarget_exact
    (hsize : p.length < 2 ^ 32) (type : Char) :
    Exact .outside (parseTarget p type.toUInt8) (fun d =>
      ∃ m : TargetMsg, p = m.encode type ∧ d = m.data) := by
  refine ((readHeader_exact hsize _).bind fun o ho => readStmtType_exact.bind fun r hr =>
    (readText_exact ?_).bind fun o₁ ho₁ => (check_exact _).bind fun _ _ => Exact.pure _).congr ?_
  · obtain ⟨b, -, hat, rfl⟩ := hr
    exact hat.le
  · intro d
    constructor
    · rintro ⟨_, ⟨rfl, hlen, hheader⟩, _, ⟨b, hb, hat, rfl⟩, _, ⟨name, hname, rfl⟩, -, hend, rfl⟩
      have hmsg : ∃ portal : Bool, (if portal then 'P'.toUInt8 else 'S'.toUInt8) = b := by
        rcases hb with rfl | rfl
        · exact ⟨false, rfl⟩
        · exact ⟨true, rfl⟩
      obtain ⟨portal, rfl⟩ := hmsg
      refine ⟨⟨portal, name⟩, ?_, rfl⟩
      refine eq_frame_iff.mpr ⟨hlen, hheader, at_cons.mpr ⟨at_singleton.mp hat, hname⟩, ?_⟩
      rw [List.length_cons]
      dsimp only at hend ⊢
      omega
    · rintro ⟨m, hp, rfl⟩
      obtain ⟨hlen, hheader, hbody, hend⟩ := eq_frame_iff.mp hp
      obtain ⟨hat, hname⟩ := at_cons.mp hbody
      rw [List.length_cons] at hend
      have htype : m.stmtType = 'S'.toUInt8 ∨ m.stmtType = 'P'.toUInt8 := by
        rw [TargetMsg.stmtType]
        split
        · exact Or.inr rfl
        · exact Or.inl rfl
      exact ⟨5, ⟨rfl, hlen, hheader⟩, _, ⟨_, htype, at_singleton.mpr hat, rfl⟩, _,
        ⟨m.stmtName, hname, rfl⟩, (), by dsimp only; omega, rfl⟩

theorem parseExecute_exact
    (hsize : p.length < 2 ^ 32) :
    Exact .outside (parseExecute p) (fun d => ∃ m : ExecuteMsg, p = m.encode ∧ d = m.data) := by
  refine ((readHeader_exact hsize _).bind fun o ho => (readText_exact (by omega)).bind fun o₁ ho₁ =>
    (check_exact _).bind fun _ _ => (getUint32be_exact (by omega)).bind fun n hn =>
      (check_exact _).bind fun _ _ => Exact.pure _).congr ?_
  intro d
  constructor
  · rintro ⟨_, ⟨rfl, hlen, hheader⟩, _, ⟨name, hname, rfl⟩, -, -, n, ⟨hn, hat⟩, -, hend, rfl⟩
    refine ⟨⟨name, ⟨n, hn⟩⟩, ?_, rfl⟩
    refine eq_frame_iff.mpr ⟨hlen, hheader, at_append.mpr ⟨hname, hat⟩, ?_⟩
    rw [List.length_append, length_be32]
    omega
  · rintro ⟨m, hp, rfl⟩
    obtain ⟨hlen, hheader, hbody, hend⟩ := eq_frame_iff.mp hp
    obtain ⟨hname, hat⟩ := at_append.mp hbody
    rw [List.length_append, length_be32] at hend
    exact ⟨5, ⟨rfl, hlen, hheader⟩, _, ⟨m.portalName, hname, rfl⟩, (), by omega, _,
      ⟨m.maxRows.isLt, hat⟩, (), by omega, rfl⟩

/-! ## The loop over parameter values -/

/-- The lengths that the loop meets, each with the offset it is added to, and the offset at
the end. -/
inductive Walk (p : List UInt8) : Nat → Nat → List (Nat × Nat) → Nat → Prop
  | done (o : Nat) : Walk p 0 o [] o
  | null {n o o' : Nat} {met : List (Nat × Nat)} :
      At p o (be32 pgsqlParamNull) →
      Walk p n (o + 4) met o' →
      Walk p (n + 1) o ((o + 4, pgsqlParamNull) :: met) o'
  | value {n o len o' : Nat} {met : List (Nat × Nat)} :
      len < 2 ^ 32 →
      At p o (be32 len) →
      len ≠ pgsqlParamNull →
      wrap32 (o + 4 + len) ≤ p.length →
      Walk p n (wrap32 (o + 4 + len)) met o' →
      Walk p (n + 1) o ((o + 4, len) :: met) o'

/-- A length that is no length of a value, or carries the offset past 32 bits. -/
def BadLength (offset len : Nat) : Prop :=
  len ≠ pgsqlParamNull ∧ (int32Max < len ∨ 2 ^ 32 ≤ offset + len)

variable {met : List (Nat × Nat)}

theorem Walk.le
    {n o o' : Nat}
    (h : Walk p n o met o')
    (ho : o ≤ p.length) :
    o' ≤ p.length := by
  induction h with
  | done o =>
      exact ho
  | null hat _ ih =>
      exact ih hat.le
  | value _ _ _ hle _ ih =>
      exact ih hle

theorem Walk.unique
    {n o o₁ o₂ : Nat} {met₁ met₂ : List (Nat × Nat)}
    (h₁ : Walk p n o met₁ o₁)
    (h₂ : Walk p n o met₂ o₂) :
    met₁ = met₂ ∧ o₁ = o₂ := by
  induction h₁ generalizing met₂ with
  | done o =>
      cases h₂ with
      | done =>
          exact ⟨rfl, rfl⟩
  | null hat _ ih =>
      cases h₂ with
      | null _ h₂ =>
          obtain ⟨rfl, rfl⟩ := ih h₂
          exact ⟨rfl, rfl⟩
      | value hlt hat' hne _ _ =>
          exact absurd (be32_inj (by decide) hlt (hat.eq hat' rfl)).symm hne
  | value hlt hat hne _ _ ih =>
      cases h₂ with
      | null hat' _ =>
          exact absurd (be32_inj hlt (by decide) (hat.eq hat' rfl)) hne
      | value hlt' hat' _ _ h₂ =>
          obtain rfl := be32_inj hlt hlt' (hat.eq hat' rfl)
          obtain ⟨rfl, rfl⟩ := ih h₂
          exact ⟨rfl, rfl⟩

theorem skipValues_exact
    (n : Nat) {o : Nat} :
    Exact .outside (skipValues p n o) (fun o' => ∃ met, Walk p n o met o') := by
  induction n generalizing o with
  | zero =>
      refine (Exact.pure o).congr ?_
      intro o'
      constructor
      · rintro rfl
        exact ⟨[], Walk.done _⟩
      · rintro ⟨met, h⟩
        cases h
        rfl
  | succ n ih =>
      refine ((check_exact _).bind fun _ _ => (getUint32be_exact (by omega)).bind fun len _ =>
        Exact.ite (fun _ => (check_exact _).bind fun _ _ => ih) (fun _ => ih)).congr ?_
      intro o'
      constructor
      · rintro ⟨-, -, len, ⟨hlt, hat⟩, ⟨hne, -, hle, met, h⟩ | ⟨heq, met, h⟩⟩
        · exact ⟨_, Walk.value hlt hat hne (by omega) h⟩
        · obtain rfl : len = pgsqlParamNull := by omega
          exact ⟨_, Walk.null hat h⟩
      · rintro ⟨met, h⟩
        cases h with
        | null hat h =>
            exact ⟨(), by have hle := hat.le; rw [length_be32] at hle; omega, _, ⟨by decide, hat⟩,
              Or.inr ⟨by simp, _, h⟩⟩
        | value hlt hat hne hle h =>
            exact ⟨(), by have hle := hat.le; rw [length_be32] at hle; omega, _, ⟨hlt, hat⟩,
              Or.inl ⟨hne, (), by omega, _, h⟩⟩

theorem WireValue.length_encode (v : WireValue) :
    v.encode.length = 4 + (v.map fun bytes => bytes.1.length).getD 0 := by
  cases v with
  | none =>
      rfl
  | some v =>
      simp [encode]

/-- Over values the loop meets their lengths only, and ends behind them. -/
theorem walk_of_values
    (hsize : p.length < 2 ^ 32)
    (values : List WireValue) {o : Nat}
    (hat : At p o (values.flatMap WireValue.encode)) :
    ∃ met, Walk p values.length o met (o + (values.flatMap WireValue.encode).length) ∧
      ∀ q ∈ met, ¬ BadLength q.1 q.2 := by
  induction values generalizing o with
  | nil =>
      exact ⟨[], Walk.done o, by simp⟩
  | cons v values ih =>
      rw [List.flatMap_cons] at hat ⊢
      obtain ⟨hv, hrest⟩ := at_append.mp hat
      obtain ⟨met, hwalk, hgood⟩ := ih hrest
      rw [List.length_append, ← Nat.add_assoc]
      have hle := hrest.le
      cases v with
      | none =>
          refine ⟨_, Walk.null hv hwalk, ?_⟩
          intro q hq
          rcases List.mem_cons.mp hq with rfl | hq
          · exact fun hbad => hbad.1 rfl
          · exact hgood q hq
      | some bytes =>
          have hmax : bytes.1.length ≤ 2 ^ 31 - 1 := bytes.2
          have hlen : (WireValue.encode (some bytes)).length = 4 + bytes.1.length := by
            rw [WireValue.length_encode]
            rfl
          rw [hlen, ← Nat.add_assoc] at hwalk hle ⊢
          have hwrap : wrap32 (o + 4 + bytes.1.length) = o + 4 + bytes.1.length := by
            rw [wrap32, Nat.mod_eq_of_lt]
            omega
          refine ⟨_, Walk.value (by omega) (at_append.mp hv).1 ?_ (by omega) (by rwa [hwrap]), ?_⟩
          · rw [pgsqlParamNull]
            omega
          · intro q hq
            rcases List.mem_cons.mp hq with rfl | hq
            · rintro ⟨-, hbad⟩
              have hint32 : int32Max = 2 ^ 31 - 1 := rfl
              dsimp only at hbad
              omega
            · exact hgood q hq

/-- When no length is bad, the loop goes over values. -/
theorem values_of_walk
    {n o o' : Nat}
    (ho : o ≤ p.length)
    (h : Walk p n o met o')
    (hgood : ∀ q ∈ met, ¬ BadLength q.1 q.2) :
    ∃ values : List WireValue, values.length = n ∧ At p o (values.flatMap WireValue.encode) ∧
      o' = o + (values.flatMap WireValue.encode).length := by
  induction h with
  | done o =>
      exact ⟨[], rfl, at_nil.mpr ho, rfl⟩
  | null hat h ih =>
      obtain ⟨values, rfl, hvalues, rfl⟩ := ih hat.le (fun q hq => hgood q (List.mem_cons_of_mem _ hq))
      refine ⟨none :: values, rfl, ?_, ?_⟩
      · rw [List.flatMap_cons]
        exact at_append.mpr ⟨hat, hvalues⟩
      · rw [List.flatMap_cons, List.length_append, WireValue.length_encode, ← Nat.add_assoc]
        rfl
  | @value n o len o' met hlt hat hne hle h ih =>
      have hlen : ¬ BadLength (o + 4) len := hgood _ List.mem_cons_self
      have hfits : len ≤ int32Max ∧ o + 4 + len < 2 ^ 32 := by
        constructor
        · by_contra hbad
          exact hlen ⟨hne, Or.inl (by omega)⟩
        · by_contra hbad
          exact hlen ⟨hne, Or.inr (by omega)⟩
      have hwrap : wrap32 (o + 4 + len) = o + 4 + len := Nat.mod_eq_of_lt hfits.2
      rw [hwrap] at hle h ih
      obtain ⟨bytes, rfl, hbytes⟩ := exists_at hle
      obtain ⟨values, rfl, hvalues, rfl⟩ := ih hle (fun q hq => hgood q (List.mem_cons_of_mem _ hq))
      refine ⟨some ⟨bytes, hfits.1⟩ :: values, rfl, ?_, ?_⟩
      · rw [List.flatMap_cons]
        refine at_append.mpr ⟨at_append.mpr ⟨hat, hbytes⟩, ?_⟩
        rw [WireValue.length_encode, ← Nat.add_assoc]
        exact hvalues
      · rw [List.flatMap_cons, List.length_append, WireValue.length_encode, ← Nat.add_assoc,
          ← Nat.add_assoc]
        rfl

/-! ## Bind -/

/-- A packet that the parser of Bind messages accepts: its parts, the lengths that the loop
meets, and where the loop ends. -/
structure BindShape (p : List UInt8) (portalName stmtName : Text) (paramFormats : FieldList (2 ^ 16))
    (count : Nat) (met : List (Nat × Nat)) (next : Nat) (resultFormats : FieldList (2 ^ 16)) : Prop where
  long : 5 ≤ p.length
  header : At p 0 ('B'.toUInt8 :: be32 (p.length - 1))
  fields : At p 5 (portalName.encode ++ stmtName.encode ++ paramFormats.encode be16 ++ be16 count)
  few : count < 2 ^ 16
  walk : Walk p count (5 + (portalName.encode ++ stmtName.encode ++ paramFormats.encode be16 ++
    be16 count).length) met next
  results : At p next (resultFormats.encode be16)
  ends : next + (resultFormats.encode be16).length = p.length

/-- What the parser keeps of a packet. -/
def bindData (portalName stmtName : Text) (paramFormats : FieldList (2 ^ 16)) (count next : Nat)
    (resultFormats : FieldList (2 ^ 16)) : BindData :=
  let formats := 5 + portalName.encode.length + stmtName.encode.length
  let values := formats + (paramFormats.encode be16).length
  { portalName := 5
    stmtName := 5 + portalName.encode.length
    paramFormats := paramFormats.at formats
    paramValues := ⟨count, if count > 0 then some (values + 2) else none⟩
    resultFormats := resultFormats.at next }

theorem readValues_exact {o : Nat} :
    Exact .outside (readValues p o) (fun r => ∃ count met next, count < 2 ^ 16 ∧
      At p o (be16 count) ∧ Walk p count (o + 2) met next ∧
        r = (⟨count, if count > 0 then some (o + 2) else none⟩, next)) := by
  refine ((check_exact _).bind fun _ _ => (getUint16be_exact (by omega)).bind fun count _ =>
    Exact.ite (fun _ => (skipValues_exact count).bind fun _ _ => Exact.pure _)
      (fun _ => Exact.pure _)).congr ?_
  intro r
  constructor
  · rintro ⟨-, -, count, ⟨hlt, hat⟩, ⟨hpos, next, ⟨met, hwalk⟩, rfl⟩ | ⟨hzero, rfl⟩⟩
    · exact ⟨count, met, next, hlt, hat, hwalk, by rw [if_pos hpos]⟩
    · obtain rfl : count = 0 := by omega
      exact ⟨0, [], o + 2, hlt, hat, Walk.done _, rfl⟩
  · rintro ⟨count, met, next, hlt, hat, hwalk, rfl⟩
    have hle := hat.le
    rw [length_be16] at hle
    refine ⟨(), by omega, count, ⟨hlt, hat⟩, ?_⟩
    by_cases hpos : count > 0
    · exact Or.inl ⟨hpos, next, ⟨met, hwalk⟩, by rw [if_pos hpos]⟩
    · obtain rfl : count = 0 := by omega
      cases hwalk
      exact Or.inr ⟨hpos, rfl⟩

theorem parseBind_exact
    (hsize : p.length < 2 ^ 32) :
    Exact .outside (parseBind p) (fun d => ∃ portalName stmtName paramFormats count met next
      resultFormats, BindShape p portalName stmtName paramFormats count met next resultFormats ∧
        d = bindData portalName stmtName paramFormats count next resultFormats) := by
  refine ((readHeader_exact hsize _).bind fun o ho => (readText_exact (by omega)).bind fun o₁ ho₁ =>
    (readText_exact ?_).bind fun o₂ ho₂ => (readFields_exact length_be16 exists_be16 ?_).bind fun r hr =>
      readValues_exact.bind fun v hv => (readFields_exact length_be16 exists_be16 ?_).bind fun r' hr' =>
        (check_exact _).bind fun _ _ => Exact.pure _).congr ?_
  · obtain ⟨t, hat, rfl⟩ := ho₁
    exact hat.le
  · obtain ⟨t, hat, rfl⟩ := ho₂
    exact hat.le
  · obtain ⟨count, met, next, -, hat, hwalk, rfl⟩ := hv
    exact hwalk.le hat.le
  · intro d
    constructor
    · rintro ⟨_, ⟨rfl, hlen, hheader⟩, _, ⟨portal, hportal, rfl⟩, _, ⟨stmt, hstmt, rfl⟩, _,
        ⟨formats, hformats, rfl⟩, _, ⟨count, met, next, hcount, hat, hwalk, rfl⟩, _,
        ⟨results, hresults, rfl⟩, -, hend, rfl⟩
      refine ⟨portal, stmt, formats, count, met, next, results, ⟨hlen, hheader, ?_, hcount, ?_, hresults,
        hend⟩, rfl⟩
      · refine at_append.mpr ⟨at_append.mpr ⟨at_append.mpr ⟨hportal, hstmt⟩, ?_⟩, ?_⟩
        · rwa [List.length_append, ← Nat.add_assoc]
        · rwa [List.length_append, List.length_append, ← Nat.add_assoc, ← Nat.add_assoc]
      · rw [List.length_append, List.length_append, List.length_append, length_be16, ← Nat.add_assoc,
          ← Nat.add_assoc, ← Nat.add_assoc]
        exact hwalk
    · rintro ⟨portal, stmt, formats, count, met, next, results, hshape, rfl⟩
      obtain ⟨hfields, hat⟩ := at_append.mp hshape.fields
      obtain ⟨hfields, hformats⟩ := at_append.mp hfields
      obtain ⟨hportal, hstmt⟩ := at_append.mp hfields
      have hwalk := hshape.walk
      rw [List.length_append, List.length_append, List.length_append, length_be16, ← Nat.add_assoc,
        ← Nat.add_assoc, ← Nat.add_assoc] at hwalk
      rw [List.length_append, List.length_append, ← Nat.add_assoc, ← Nat.add_assoc] at hat
      rw [List.length_append, ← Nat.add_assoc] at hformats
      exact ⟨5, ⟨rfl, hshape.long, hshape.header⟩, _, ⟨portal, hportal, rfl⟩, _, ⟨stmt, hstmt, rfl⟩, _,
        ⟨formats, hformats, rfl⟩, _, ⟨count, met, next, hshape.few, hat, hwalk, rfl⟩, _,
        ⟨results, hshape.results, rfl⟩, (), hshape.ends, rfl⟩

theorem bindShape_of_encode
    (hsize : p.length < 2 ^ 32)
    {m : BindMsg}
    (hp : p = m.encode) :
    ∃ met next, BindShape p m.portalName m.stmtName m.paramFormats m.paramValues.values.length met
        next m.resultFormats ∧
      At p (5 + (m.portalName.encode ++ m.stmtName.encode ++ m.paramFormats.encode be16 ++
        be16 m.paramValues.values.length).length) (m.paramValues.values.flatMap WireValue.encode) ∧
      ∀ q ∈ met, ¬ BadLength q.1 q.2 := by
  obtain ⟨hlen, hheader, hbody, hend⟩ := eq_frame_iff.mp hp
  rw [ValueList.encode, ← List.append_assoc (_ ++ _ ++ _)] at hbody hend
  obtain ⟨hbody, hresults⟩ := at_append.mp hbody
  obtain ⟨hfields, hvalues⟩ := at_append.mp hbody
  obtain ⟨met, hwalk, hgood⟩ := walk_of_values hsize _ hvalues
  refine ⟨met, _, ⟨hlen, hheader, hfields, m.paramValues.count, hwalk, ?_, ?_⟩, hvalues, hgood⟩
  · rwa [List.length_append, ← Nat.add_assoc] at hresults
  · rw [List.length_append, List.length_append] at hend
    omega

theorem encode_of_bindShape
    {portalName stmtName : Text} {paramFormats resultFormats : FieldList (2 ^ 16)}
    {count next : Nat}
    (h : BindShape p portalName stmtName paramFormats count met next resultFormats)
    (hgood : ∀ q ∈ met, ¬ BadLength q.1 q.2) :
    ∃ m : BindMsg, p = m.encode := by
  obtain ⟨values, rfl, hvalues, rfl⟩ := values_of_walk h.fields.le h.walk hgood
  refine ⟨⟨portalName, stmtName, paramFormats, ⟨values, h.few⟩, resultFormats⟩, ?_⟩
  refine eq_frame_iff.mpr ⟨h.long, h.header, ?_, ?_⟩
  · rw [ValueList.encode, ← List.append_assoc (_ ++ _ ++ _)]
    refine at_append.mpr ⟨at_append.mpr ⟨h.fields, hvalues⟩, ?_⟩
    rw [List.length_append, ← Nat.add_assoc]
    exact h.results
  · have hends := h.ends
    rw [ValueList.encode, ← List.append_assoc (_ ++ _ ++ _), List.length_append, List.length_append]
    dsimp only
    omega

/-- The loop meets a bad length, and the result formats after it end with the packet. -/
def MeetsBadLength (p : List UInt8) : Prop :=
  ∃ portalName stmtName paramFormats count met next resultFormats,
    BindShape p portalName stmtName paramFormats count met next resultFormats ∧
      ∃ q ∈ met, BadLength q.1 q.2

theorem not_meetsBadLength_of_encode
    (hsize : p.length < 2 ^ 32)
    {m : BindMsg}
    (hp : p = m.encode) :
    ¬ MeetsBadLength p := by
  rintro ⟨portal, stmt, formats, count, met, next, results, hshape, q, hq, hbad⟩
  obtain ⟨met', next', hshape', -, hgood⟩ := bindShape_of_encode hsize hp
  have hdata := (parseBind_exact hsize).eq
    ⟨_, _, _, _, _, _, _, hshape, rfl⟩ ⟨_, _, _, _, _, _, _, hshape', rfl⟩
  have hvalues : (bindData portal stmt formats count next results).paramValues =
      (bindData m.portalName m.stmtName m.paramFormats m.paramValues.values.length next'
        m.resultFormats).paramValues :=
    congrArg BindData.paramValues hdata
  have hpos : count > 0 := by
    cases count with
    | zero =>
        have hwalk := hshape.walk
        cases hwalk
        cases hq
    | succ n =>
        exact Nat.succ_pos n
  simp only [bindData, Fields.mk.injEq] at hvalues
  obtain ⟨hcount, hstart⟩ := hvalues
  rw [← hcount, if_pos hpos, if_pos hpos, Option.some.injEq] at hstart
  have hwalk := hshape.walk
  have hwalk' := hshape'.walk
  simp only [List.length_append, length_be16, ← Nat.add_assoc] at hwalk hwalk'
  rw [← hcount, ← hstart] at hwalk'
  obtain ⟨rfl, -⟩ := hwalk.unique hwalk'
  exact hgood q hq hbad

/-! ## Readers -/

/-- The reader of an array gives its numbers. -/
theorem readAll_fields
    {bound size : Nat} {be : Nat → List UInt8} {read : Nat → Except Failure Nat}
    (hbe : ∀ n, (be n).length = size)
    (hread : ∀ o, o + size ≤ p.length → Exact .outside (read o) (fun n => n < bound ∧ At p o (be n)))
    (fields : List (Fin bound)) {o : Nat}
    (hat : At p o (fields.flatMap fun n : Fin bound => be n)) :
    readAll (nextUint read size) fields.length ⟨some o, fields.length⟩ =
      .ok (some (fields.map Fin.val)) := by
  induction fields generalizing o with
  | nil =>
      rfl
  | cons n fields ih =>
      rw [List.flatMap_cons] at hat
      obtain ⟨hn, hrest⟩ := at_append.mp hat
      have hle := hn.le
      rw [hbe] at hle hrest
      have hok : read o = .ok n.val := ((hread o hle).iff n).mpr ⟨n.isLt, hn⟩
      have hnext : nextUint read size ⟨some o, fields.length + 1⟩ =
          .ok (some (n.val, ⟨some (o + size), fields.length⟩)) := by
        rw [nextUint, if_neg (Nat.succ_ne_zero _), readCurrent]
        dsimp only
        rw [hok]
        rfl
      rw [List.length_cons, readAll, hnext]
      change (do
        let rest ← readAll (nextUint read size) fields.length ⟨some (o + size), fields.length⟩
        pure (rest.map (n.val :: ·))) = _
      rw [ih hrest]
      rfl

theorem readAll_fieldsAt
    {bound size : Nat} {be : Nat → List UInt8} {read : Nat → Except Failure Nat}
    (hbe : ∀ n, (be n).length = size)
    (hread : ∀ o, o + size ≤ p.length → Exact .outside (read o) (fun n => n < bound ∧ At p o (be n)))
    (l : FieldList bound) {o : Nat}
    (hat : At p o (l.encode be)) :
    readAll (nextUint read size) (l.at o).count (l.at o).reader = .ok (some (l.fields.map Fin.val)) := by
  have hfields := (at_append.mp hat).2
  rw [length_be16] at hfields
  cases hl : l.fields with
  | nil =>
      simp only [FieldList.at, hl, List.length_nil]
      rfl
  | cons n fields =>
      have hpos : l.fields.length > 0 := by
        rw [hl]
        exact Nat.succ_pos _
      rw [Fields.reader, FieldList.at, if_pos hpos, ← hl]
      exact readAll_fields hbe hread l.fields hfields

/-- What a parameter value says of the packet. -/
def ParamValue.Denotes (p : List UInt8) (pv : ParamValue) : WireValue → Prop
  | none => pv = ⟨-1, .null⟩
  | some bytes => pv.len = bytes.1.length ∧
      ((bytes.1 = [] ∧ pv.value = .emptyString) ∨ ∃ o, pv.value = .at o ∧ At p o bytes.1)

theorem nextValue_eq
    {v : WireValue} {o remaining : Nat}
    (hat : At p o v.encode) :
    ∃ pv : ParamValue, nextValue p ⟨some o, remaining + 1⟩ =
      .ok (some (pv, ⟨some (o + v.encode.length), remaining⟩)) ∧ pv.Denotes p v := by
  cases v with
  | none =>
      have hok : getUint32be p o = .ok pgsqlParamNull :=
        ((getUint32be_exact hat.le).iff _).mpr ⟨by decide, hat⟩
      refine ⟨⟨-1, .null⟩, ?_, rfl⟩
      rw [nextValue, if_neg (Nat.succ_ne_zero _), readCurrent]
      dsimp only
      rw [hok]
      rfl
  | some bytes =>
      obtain ⟨hlen, hbytes⟩ := at_append.mp hat
      rw [length_be32] at hbytes
      have hmax : bytes.1.length ≤ int32Max := bytes.2
      have hint32 : int32Max = 2 ^ 31 - 1 := rfl
      have hnull : bytes.1.length ≠ pgsqlParamNull := by
        rw [pgsqlParamNull]
        omega
      have hok : getUint32be p o = .ok bytes.1.length :=
        ((getUint32be_exact hlen.le).iff _).mpr ⟨by omega, hlen⟩
      have hnext : nextValue p ⟨some o, remaining + 1⟩ =
          if bytes.1.length = 0 then
            .ok (some (⟨0, .emptyString⟩, ⟨some (o + 4), remaining⟩))
          else .ok (some (⟨bytes.1.length, .at (o + 4)⟩, ⟨some (o + 4 + bytes.1.length), remaining⟩)) := by
        rw [nextValue, if_neg (Nat.succ_ne_zero _), readCurrent]
        dsimp only
        rw [hok]
        change (if bytes.1.length ≠ pgsqlParamNull ∧ bytes.1.length > int32Max then _ else _) = _
        rw [if_neg (by omega), if_neg hnull]
        rfl
      have hlength : (WireValue.encode (some bytes)).length = 4 + bytes.1.length := by
        rw [WireValue.length_encode]
        rfl
      rw [hnext, hlength, ← Nat.add_assoc]
      by_cases hzero : bytes.1.length = 0
      · rw [if_pos hzero, hzero]
        refine ⟨_, rfl, ?_, Or.inl ⟨List.length_eq_zero_iff.mp hzero, rfl⟩⟩
        rw [hzero]
        rfl
      · rw [if_neg hzero]
        exact ⟨_, rfl, rfl, Or.inr ⟨_, rfl, hbytes⟩⟩

/-- The reader of parameter values gives the values. -/
theorem readAll_values
    (values : List WireValue) {o : Nat}
    (hat : At p o (values.flatMap WireValue.encode)) :
    ∃ pvs, readAll (nextValue p) values.length ⟨some o, values.length⟩ = .ok (some pvs) ∧
      List.Forall₂ (ParamValue.Denotes p) pvs values := by
  induction values generalizing o with
  | nil =>
      exact ⟨[], rfl, List.Forall₂.nil⟩
  | cons v values ih =>
      rw [List.flatMap_cons] at hat
      obtain ⟨hv, hrest⟩ := at_append.mp hat
      obtain ⟨pv, hnext, hpv⟩ := @nextValue_eq p v o values.length hv
      obtain ⟨pvs, hall, hpvs⟩ := ih hrest
      refine ⟨pv :: pvs, ?_, List.Forall₂.cons hpv hpvs⟩
      rw [List.length_cons, readAll, hnext]
      change (do
        let rest ← readAll (nextValue p) values.length ⟨some (o + v.encode.length), values.length⟩
        pure (rest.map (pv :: ·))) = _
      rw [hall]
      rfl

/-! ## Exact parsers -/

/-- A parser is exact for a packet: it stays inside, accepts the packet if and only if it is
the encoding of a message, and keeps data that yield the message; the message takes the
packet over, or the caller keeps it. -/
structure ParsesExactly {D M : Type} (parse : List UInt8 → Except Failure D)
    (encode : M → List UInt8) (Yields : List UInt8 → D → M → Prop) (p : List UInt8) : Prop where
  inside : parse p ≠ .error .outside
  accepts : (receive parse p).result = true ↔ ∃ m, p = encode m
  yields : ∀ m, p = encode m → ∃ d, (receive parse p).message = some (d, p) ∧ Yields p d m
  kept : (receive parse p).result = false →
    (receive parse p).caller = p ∧ (receive parse p).message = none

def ParseYields (p : List UInt8) (d : ParseData) (m : ParseMsg) : Prop :=
  At p d.stmtName m.stmtName.encode ∧ At p d.queryString m.queryString.encode ∧
    d.paramTypes.count = m.paramTypes.fields.length ∧
    readAll (nextUint (getUint32be p) 4) d.paramTypes.count d.paramTypes.reader =
      .ok (some (m.paramTypes.fields.map Fin.val))

def TargetYields (p : List UInt8) (d : TargetData) (m : TargetMsg) : Prop :=
  d.stmtType = m.stmtType ∧ At p d.stmtName m.stmtName.encode

def BindYields (p : List UInt8) (d : BindData) (m : BindMsg) : Prop :=
  At p d.portalName m.portalName.encode ∧ At p d.stmtName m.stmtName.encode ∧
    d.paramFormats.count = m.paramFormats.fields.length ∧
    readAll (nextUint (getUint16be p) 2) d.paramFormats.count d.paramFormats.reader =
      .ok (some (m.paramFormats.fields.map Fin.val)) ∧
    d.paramValues.count = m.paramValues.values.length ∧
    (∃ pvs, readAll (nextValue p) d.paramValues.count d.paramValues.reader = .ok (some pvs) ∧
      List.Forall₂ (ParamValue.Denotes p) pvs m.paramValues.values) ∧
    d.resultFormats.count = m.resultFormats.fields.length ∧
    readAll (nextUint (getUint16be p) 2) d.resultFormats.count d.resultFormats.reader =
      .ok (some (m.resultFormats.fields.map Fin.val))

def ExecuteYields (p : List UInt8) (d : ExecuteData) (m : ExecuteMsg) : Prop :=
  At p d.portalName m.portalName.encode ∧ d.maxRows = m.maxRows

theorem receive_ok
    {D : Type} {parse : List UInt8 → Except Failure D} {d : D}
    (h : parse p = .ok d) :
    receive parse p = { result := true, message := some (d, p), caller := [] } := by
  rw [receive, h]

theorem receive_error
    {D : Type} {parse : List UInt8 → Except Failure D} {e : Failure}
    (h : parse p = .error e) :
    receive parse p = { result := false, message := none, caller := p } := by
  rw [receive, h]

theorem ParsesExactly.of_exact
    {D M : Type} {parse : List UInt8 → Except Failure D} {encode : M → List UInt8}
    {Yields : List UInt8 → D → M → Prop} {R : D → Prop}
    (h : Exact .outside (parse p) R)
    (hencode : ∀ d, R d → ∃ m, p = encode m)
    (hyields : ∀ m, p = encode m → ∃ d, R d ∧ Yields p d m) :
    ParsesExactly parse encode Yields p where
  inside := h.never
  accepts := by
    constructor
    · intro hresult
      cases hparse : parse p with
      | error e =>
          rw [receive_error hparse] at hresult
          cases hresult
      | ok d =>
          exact hencode d ((h.iff d).mp hparse)
    · rintro ⟨m, hp⟩
      obtain ⟨d, hd, -⟩ := hyields m hp
      rw [receive_ok ((h.iff d).mpr hd)]
  yields := by
    intro m hp
    obtain ⟨d, hd, hyield⟩ := hyields m hp
    exact ⟨d, by rw [receive_ok ((h.iff d).mpr hd)], hyield⟩
  kept := by
    intro hresult
    cases hparse : parse p with
    | error e =>
        rw [receive_error hparse]
        exact ⟨rfl, rfl⟩
    | ok d =>
        rw [receive_ok hparse] at hresult
        cases hresult

theorem parse_parsesExactly
    (hsize : p.length < 2 ^ 32) :
    ParsesExactly parseParse ParseMsg.encode ParseYields p := by
  refine ParsesExactly.of_exact (parseParse_exact hsize) ?_ ?_
  · rintro d ⟨m, hp, -⟩
    exact ⟨m, hp⟩
  · intro m hp
    obtain ⟨-, -, hbody, -⟩ := eq_frame_iff.mp hp
    obtain ⟨hbody, htypes⟩ := at_append.mp hbody
    obtain ⟨hname, hquery⟩ := at_append.mp hbody
    rw [List.length_append, ← Nat.add_assoc] at htypes
    exact ⟨m.data, ⟨m, hp, rfl⟩, hname, hquery, rfl,
      readAll_fieldsAt length_be32 (fun _ ho => getUint32be_exact ho) m.paramTypes htypes⟩

theorem target_parsesExactly
    (hsize : p.length < 2 ^ 32) (type : Char) :
    ParsesExactly (fun p => parseTarget p type.toUInt8) (fun m => m.encode type) TargetYields p := by
  refine ParsesExactly.of_exact (parseTarget_exact hsize type) ?_ ?_
  · rintro d ⟨m, hp, -⟩
    exact ⟨m, hp⟩
  · intro m hp
    obtain ⟨-, -, hbody, -⟩ := eq_frame_iff.mp hp
    exact ⟨m.data, ⟨m, hp, rfl⟩, rfl, (at_cons.mp hbody).2⟩

theorem execute_parsesExactly
    (hsize : p.length < 2 ^ 32) :
    ParsesExactly parseExecute ExecuteMsg.encode ExecuteYields p := by
  refine ParsesExactly.of_exact (parseExecute_exact hsize) ?_ ?_
  · rintro d ⟨m, hp, -⟩
    exact ⟨m, hp⟩
  · intro m hp
    obtain ⟨-, -, hbody, -⟩ := eq_frame_iff.mp hp
    exact ⟨m.data, ⟨m, hp, rfl⟩, (at_append.mp hbody).1, rfl⟩

/-- The parser of Bind messages is exact unless the loop meets a bad length. -/
theorem bind_parsesExactly
    (hsize : p.length < 2 ^ 32)
    (hgood : ¬ MeetsBadLength p) :
    ParsesExactly parseBind BindMsg.encode BindYields p := by
  refine ParsesExactly.of_exact (parseBind_exact hsize) ?_ ?_
  · rintro d ⟨portal, stmt, formats, count, met, next, results, hshape, -⟩
    refine encode_of_bindShape hshape ?_
    intro q hq hbad
    exact hgood ⟨portal, stmt, formats, count, met, next, results, hshape, q, hq, hbad⟩
  · intro m hp
    obtain ⟨met, next, hshape, hvalues, -⟩ := bindShape_of_encode hsize hp
    refine ⟨_, ⟨_, _, _, _, _, _, _, hshape, rfl⟩, ?_⟩
    obtain ⟨hfields, -⟩ := at_append.mp hshape.fields
    obtain ⟨hfields, hformats⟩ := at_append.mp hfields
    obtain ⟨hportal, hstmt⟩ := at_append.mp hfields
    rw [List.length_append, ← Nat.add_assoc] at hformats
    have hread : ∀ o, o + 2 ≤ p.length →
        Exact .outside (getUint16be p o) (fun n => n < 2 ^ 16 ∧ At p o (be16 n)) :=
      fun _ ho => getUint16be_exact ho
    refine ⟨hportal, hstmt, rfl, readAll_fieldsAt length_be16 hread _ hformats, rfl, ?_, rfl,
      readAll_fieldsAt length_be16 hread _ hshape.results⟩
    simp only [List.length_append, length_be16, ← Nat.add_assoc] at hvalues
    obtain ⟨pvs, hall, hdenotes⟩ := readAll_values _ hvalues
    refine ⟨pvs, ?_, hdenotes⟩
    rw [← hall]
    simp only [bindData, Fields.reader]
    split
    · rfl
    case isFalse hzero =>
      have hlen : m.paramValues.values.length = 0 := by omega
      rw [hlen]
      rfl

/-- The parsers are exact for a packet if and only if it is no packet on which the loop over
the values of a Bind message meets a bad length. -/
theorem parsers_exact_iff
    (p : List UInt8)
    (hsize : p.length < 2 ^ 32) :
    (ParsesExactly parseParse ParseMsg.encode ParseYields p ∧
        ParsesExactly parseDescribe (fun m : TargetMsg => m.encode 'D') TargetYields p ∧
        ParsesExactly parseClose (fun m : TargetMsg => m.encode 'C') TargetYields p ∧
        ParsesExactly parseBind BindMsg.encode BindYields p ∧
        ParsesExactly parseExecute ExecuteMsg.encode ExecuteYields p) ↔
      ¬ MeetsBadLength p := by
  constructor
  · rintro ⟨-, -, -, hbind, -⟩ ⟨portal, stmt, formats, count, met, next, results, hshape, hbad⟩
    have hparse := ((parseBind_exact hsize).iff _).mpr
      ⟨portal, stmt, formats, count, met, next, results, hshape, rfl⟩
    obtain ⟨m, hp⟩ := hbind.accepts.mp (by rw [receive_ok hparse])
    exact not_meetsBadLength_of_encode hsize hp
      ⟨portal, stmt, formats, count, met, next, results, hshape, hbad⟩
  · intro hgood
    exact ⟨parse_parsesExactly hsize, target_parsesExactly hsize 'D', target_parsesExactly hsize 'C',
      bind_parsesExactly hsize hgood, execute_parsesExactly hsize⟩

/-- A Bind message with one parameter value whose length, 2³² - 8, takes the cursor back to
the format codes. -/
def backwardsBind : List UInt8 :=
  [66, 0, 0, 0, 16, 0, 0, 0, 1, 0, 3, 0, 1, 255, 255, 255, 248]

theorem parsers_exact_iff_backwardsBind :
    (ParsesExactly parseParse ParseMsg.encode ParseYields backwardsBind ∧
        ParsesExactly parseDescribe (fun m : TargetMsg => m.encode 'D') TargetYields backwardsBind ∧
        ParsesExactly parseClose (fun m : TargetMsg => m.encode 'C') TargetYields backwardsBind ∧
        ParsesExactly parseBind BindMsg.encode BindYields backwardsBind ∧
        ParsesExactly parseExecute ExecuteMsg.encode ExecuteYields backwardsBind) ↔
      ¬ MeetsBadLength backwardsBind :=
  parsers_exact_iff backwardsBind (by decide)

/-- The parser accepts the packet, no message has it as its encoding, and the reader of the
parameter values fails. -/
theorem backwardsBind_accepted :
    (receive parseBind backwardsBind).result = true ∧
      (¬ ∃ m : BindMsg, backwardsBind = m.encode) ∧
      nextValue backwardsBind ⟨some 13, 1⟩ = .ok none ∧
      ¬ ParsesExactly parseBind BindMsg.encode BindYields backwardsBind := by
  have hresult : (receive parseBind backwardsBind).result = true := by decide
  have hencode : ¬ ∃ m : BindMsg, backwardsBind = m.encode := by
    rintro ⟨m, hp⟩
    refine not_meetsBadLength_of_encode (by decide) hp ?_
    refine ⟨⟨[], by simp⟩, ⟨[], by simp⟩, ⟨[3], by decide⟩, 1, [(17, 2 ^ 32 - 8)], 9,
      ⟨[1, 65535, 65528], by decide⟩, ⟨by decide, ?_, ?_, by decide, ?_, ?_, by decide⟩, _,
      List.mem_singleton_self _, by decide, Or.inl (by decide)⟩
    · exact ⟨[], backwardsBind.drop 5, rfl, rfl⟩
    · exact ⟨backwardsBind.take 5, backwardsBind.drop 13, rfl, rfl⟩
    · exact Walk.value (by decide) ⟨backwardsBind.take 13, [], rfl, rfl⟩ (by decide) (by decide)
        (Walk.done _)
    · exact ⟨backwardsBind.take 9, [], rfl, rfl⟩
  refine ⟨hresult, hencode, by decide, ?_⟩
  intro h
  exact hencode (h.accepts.mp hresult)

end Parsers

end ExtendedMessage

end PolarProxy
