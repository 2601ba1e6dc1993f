import PolarProxy.RowRuns

/-!
# ReadyForQuery with the extension of PolarDB

The body of a ReadyForQuery message is a status byte.  The extension puts fields behind it that
have no tags: the LSN of eight bytes, and a marker with a list of transaction numbers that a NUL
ends.  The frontend asks for each of them when it connects, and `getReadyForQuery` reads what it
asked for and skips the rest of the message.

The buffer is the bytes that may be read; a read of another byte is a fault.  `pqGetc`,
`pqGetnchar` and `malloc` are parameters.

**Results.** `Libpq.parseLsn_eq`, `Libpq.parseXact_eq`, `Libpq.getReadyForQuery_carries`.
-/

namespace PolarProxy

namespace ReadyForQuery

open Loops Slices ExtendedMessage
open RowRun (Checked Rc wrapInt)

/-- What `getReadyForQuery` uses of a connection -/
structure PGconn where
  inBuffer : List UInt8
  inStart : Nat
  inCursor : Nat
  inEnd : Nat
  polarProxySendLsn : Bool
  polarHasLsn : Bool
  polarLastLsn : Nat
  polarProxySendXact : Bool
  polarXactSplittable : Bool
  polarXactWalPending : Bool
  polarXactXids : Option (List UInt8)
  deriving DecidableEq

/-- The readers of libpq, where nothing is `EOF`, and the sizes that can be allocated. -/
structure Libpq where
  pqGetc : PGconn → Option (UInt8 × PGconn)
  pqGetnchar : Nat → PGconn → Option (List UInt8 × PGconn)
  malloc : Nat → Bool

/-- The readers return the next bytes and put the cursor behind them. -/
structure Libpq.Reads (lib : Libpq) : Prop where
  getc : ∀ conn b, conn.inCursor < conn.inEnd → conn.inBuffer[conn.inCursor]? = some b →
    lib.pqGetc conn = some (b, { conn with inCursor := conn.inCursor + 1 })
  getnchar : ∀ conn bytes, conn.inCursor + bytes.length ≤ conn.inEnd →
    At conn.inBuffer conn.inCursor bytes →
      lib.pqGetnchar bytes.length conn =
        some (bytes, { conn with inCursor := conn.inCursor + bytes.length })

namespace PGconn

variable (conn : PGconn)

def byteAt (pos : Nat) : Checked UInt8 :=
  match conn.inBuffer[pos]? with
  | some b => .ok b
  | none => .error (.fault .outsideBuffer)

def readBytes (pos n : Nat) : Checked (List UInt8) :=
  if pos + n ≤ conn.inBuffer.length then .ok ((conn.inBuffer.drop pos).take n)
  else .error (.fault .outsideBuffer)

end PGconn

/-- A number in network order -/
def ntoh (bytes : List UInt8) : Nat :=
  bytes.foldl (fun n b => n * 2 ^ 8 + b.toNat) 0

/-- A round of the search for the NUL behind the cursor -/
def nulStep (conn : PGconn) (remaining : Int) (len : Nat) : Checked (Nat × Bool) := do
  if len < remaining then
    let b ← conn.byteAt (conn.inCursor + len)
    return if b ≠ 0 then (len + 1, true) else (len, false)
  else return (len, false)

namespace Libpq

variable (lib : Libpq)

/-- The LSN, if it is asked for and present -/
def parseLsn (msgEnd : Int) (conn : PGconn) : PGconn :=
  let conn := { conn with
    polarHasLsn := false
    polarLastLsn := 0 }
  if conn.polarProxySendLsn ∧ msgEnd - conn.inCursor ≥ 8 then
    match lib.pqGetnchar 8 conn with
    | some (lsnBuf, conn) => { conn with
        polarLastLsn := ntoh lsnBuf
        polarHasLsn := true }
    | none => conn
  else conn

/-- The marker and its list, if they are asked for and present.  The marker `x` says that the
transaction can be split, and `w` that its WAL is not flushed. -/
def parseXact (msgEnd : Int) (conn : PGconn) : Checked PGconn := do
  let conn := { conn with
    polarXactSplittable := false
    polarXactWalPending := false
    polarXactXids := none }
  if conn.polarProxySendXact ∧ msgEnd - conn.inCursor ≥ 1 then
    match lib.pqGetc conn with
    | some (marker, conn) =>
        if marker = 'x'.toUInt8 ∨ marker = 'w'.toUInt8 then
          let remaining := msgEnd - conn.inCursor
          let len ← loop (nulStep conn remaining) (remaining.toNat + 1) 0
          if len < remaining ∧ lib.malloc (len + 1) then
            let xids ← conn.readBytes conn.inCursor len
            return { conn with
              inCursor := conn.inCursor + len + 1
              polarXactSplittable := marker = 'x'.toUInt8
              polarXactWalPending := marker ≠ 'x'.toUInt8
              polarXactXids := some xids }
          else return conn
        else return conn
    | none => return conn
  else return conn

/-- `getReadyForQuery` behind the status byte -/
def parseExtension (conn : PGconn) : Checked PGconn := do
  let rawLen ← conn.readBytes (conn.inStart + 1) 4
  let msgEnd := wrapInt (conn.inStart + 1 + wrapInt (ntoh rawLen))
  let conn ← lib.parseXact msgEnd (lib.parseLsn msgEnd conn)
  return if msgEnd - conn.inCursor > 0 then { conn with inCursor := msgEnd.toNat } else conn

/-- `getReadyForQuery` -/
def getReadyForQuery (conn : PGconn) : Checked (Rc PGconn) := do
  match lib.pqGetc conn with
  | none => return .eof
  | some (_, conn) => return .zero (← lib.parseExtension conn)

end Libpq

/-! ## What a message carries -/

/-- The marker of a transaction that can be split, and of one whose WAL is not flushed -/
inductive Marker
  | x
  | w
  deriving DecidableEq

def Marker.byte : Marker → UInt8
  | x => 'x'.toUInt8
  | w => 'w'.toUInt8

structure Extension where
  lsn : Option (Fin (2 ^ 64))
  xact : Option (Marker × Text)
  deriving DecidableEq

/-- A number of eight bytes -/
def be64 (n : Nat) : List UInt8 :=
  be32 (n / 2 ^ 32) ++ be32 (n % 2 ^ 32)

def xactField (marker : Marker) (xids : Text) : List UInt8 :=
  marker.byte :: xids.encode

/-- The fields as they stand behind the status byte -/
def Extension.encode (e : Extension) : List UInt8 :=
  (e.lsn.elim [] fun n => be64 n) ++ e.xact.elim [] fun (marker, xids) => xactField marker xids

/-- A connection after a message with these fields -/
def PGconn.report (conn : PGconn) (cursor : Nat) (e : Extension) : PGconn :=
  { conn with
    inCursor := cursor
    polarHasLsn := e.lsn.isSome
    polarLastLsn := e.lsn.elim 0 fun n => n
    polarXactSplittable := e.xact.any fun (marker, _) => marker = .x
    polarXactWalPending := e.xact.any fun (marker, _) => marker = .w
    polarXactXids := e.xact.map fun (_, xids) => xids.bytes }

/-- The number of bytes behind the status byte that are read as the LSN -/
def lsnLength (sendLsn : Bool) (rest : List UInt8) : Nat :=
  if sendLsn ∧ 8 ≤ rest.length then 8 else 0

/-- The bytes behind the status byte start with these fields, so far as they are asked for.  The
marker stands behind the bytes of the LSN if it is read, and at the start if not. -/
structure Carries
    (malloc : Nat → Bool) (sendLsn sendXact : Bool) (rest : List UInt8) (e : Extension) : Prop where
  lsn : ∀ n, e.lsn = some n ↔ sendLsn = true ∧ be64 n <+: rest
  xact : ∀ marker xids, e.xact = some (marker, xids) ↔ sendXact = true ∧
    xactField marker xids <+: rest.drop (lsnLength sendLsn rest) ∧
      malloc (xids.bytes.length + 1) = true

/-! ## Numbers and texts -/

@[simp]
theorem length_be64 (n : Nat) : (be64 n).length = 8 :=
  rfl

theorem ntoh_be32
    {n : Nat}
    (h : n < 2 ^ 32) :
    ntoh (be32 n) = n := by
  simp only [ntoh, be32, List.foldl_cons, List.foldl_nil, UInt8.toNat_ofNat']
  omega

theorem ntoh_be64
    {n : Nat}
    (h : n < 2 ^ 64) :
    ntoh (be64 n) = n := by
  simp only [ntoh, be64, be32, List.cons_append, List.nil_append, List.foldl_cons, List.foldl_nil,
    UInt8.toNat_ofNat']
  omega

theorem exists_be64
    (xs : List UInt8)
    (hlen : xs.length = 8) :
    ∃ n : Fin (2 ^ 64), be64 n = xs := by
  obtain ⟨high, hhigh⟩ := exists_be32 (xs.take 4) (List.length_take_of_le (by omega))
  obtain ⟨low, hlow⟩ := exists_be32 (xs.drop 4) (by rw [List.length_drop, hlen])
  have hlt := high.isLt
  have hlt' := low.isLt
  refine ⟨⟨high * 2 ^ 32 + low, by omega⟩, ?_⟩
  have hdiv : ((high : Nat) * 2 ^ 32 + low) / 2 ^ 32 = high := by
    omega
  have hmod : ((high : Nat) * 2 ^ 32 + low) % 2 ^ 32 = low := by
    omega
  rw [be64, hdiv, hmod, hhigh, hlow, List.take_append_drop]

/-- What the search for the NUL finds -/
structure ScannedTo (rest : List UInt8) (len : Nat) : Prop where
  le : len ≤ rest.length
  noNul : 0 ∉ rest.take len
  nul : len < rest.length → rest[len]? = some 0

theorem ScannedTo.encode_prefix_iff
    {rest : List UInt8} {len : Nat}
    (h : ScannedTo rest len)
    (xids : Text) :
    xids.encode <+: rest ↔ len < rest.length ∧ xids.bytes = rest.take len := by
  constructor
  · rintro ⟨post, rfl⟩
    have hnul : (xids.encode ++ post)[xids.bytes.length]? = some 0 := by
      simp [Text.encode]
    have hge : xids.bytes.length ≤ len → xids.bytes.length = len := by
      intro hle
      refine Nat.le_antisymm hle (Nat.le_of_not_lt fun hlt => h.noNul ?_)
      refine List.mem_iff_getElem?.mpr ⟨xids.bytes.length, ?_⟩
      rw [List.getElem?_take_of_lt hlt, hnul]
    have heq : xids.bytes.length = len := by
      refine hge (Nat.le_of_not_lt fun hlt => xids.noNul ?_)
      have hat := h.nul (by
        simp only [List.length_append, Text.length_encode]
        omega)
      rw [Text.encode, List.append_assoc, List.getElem?_append_left hlt] at hat
      exact List.mem_iff_getElem?.mpr ⟨len, hat⟩
    rw [← heq]
    refine ⟨?_, ?_⟩
    · simp only [List.length_append, Text.length_encode]
      omega
    · rw [Text.encode, List.append_assoc, List.take_left]
  · rintro ⟨hlt, hxids⟩
    obtain ⟨hlen, hnul⟩ := List.getElem?_eq_some_iff.mp (h.nul hlt)
    refine ⟨rest.drop (len + 1), ?_⟩
    rw [Text.encode, hxids, List.append_assoc, List.singleton_append, ← hnul,
      List.getElem_cons_drop, List.take_append_drop]

/-! ## The fields -/

variable {lib : Libpq} {conn : PGconn} {rest : List UInt8}

theorem byteAt_ok
    {i : Nat}
    (hat : At conn.inBuffer conn.inCursor rest)
    (hlt : i < rest.length) :
    ∃ b, rest[i]? = some b ∧ conn.byteAt (conn.inCursor + i) = .ok b := by
  obtain ⟨pre, post, hbuffer, hpre⟩ := hat
  obtain ⟨b, hb⟩ : ∃ b, rest[i]? = some b := ⟨_, List.getElem?_eq_getElem hlt⟩
  refine ⟨b, hb, ?_⟩
  rw [PGconn.byteAt, hbuffer, List.append_assoc, ← hpre, List.getElem?_append_right (by omega),
    Nat.add_sub_cancel_left, List.getElem?_append_left hlt, hb]

theorem readBytes_ok
    {pos n : Nat} {bytes : List UInt8}
    (hat : At conn.inBuffer pos bytes)
    (hlen : bytes.length = n) :
    conn.readBytes pos n = .ok bytes := by
  have hle := hat.le
  obtain ⟨-, hpre⟩ := at_iff.mp hat
  rw [PGconn.readBytes, if_pos (by omega), ← hlen, ← List.prefix_iff_eq_take.mp hpre]

theorem nulLoop_ok (hat : At conn.inBuffer conn.inCursor rest) :
    ∃ len, loop (nulStep conn rest.length) (rest.length + 1) 0 = .ok len ∧ ScannedTo rest len := by
  refine (Meets.loop_measure (I := fun len => len ≤ rest.length ∧ 0 ∉ rest.take len)
    (fun len => rest.length - len) ?_ _ 0 ⟨Nat.zero_le _, ?_⟩ (by omega)).exists_ok
  · rintro len ⟨hle, hnone⟩
    rw [nulStep]
    refine Meets.ite (fun hlt => ?_) (fun hge => ?_)
    · obtain ⟨b, hb, hread⟩ := byteAt_ok hat (Int.ofNat_lt.mp hlt)
      rw [hread, ok_bind]
      by_cases hnul : b = 0
      · rw [if_neg (not_not.mpr hnul)]
        refine Meets.ok ?_
        rw [if_neg Bool.false_ne_true]
        exact ⟨hle, hnone, fun _ => by rw [hb, hnul]⟩
      · rw [if_pos hnul]
        refine Meets.ok ?_
        rw [if_pos rfl]
        have hlen := Int.ofNat_lt.mp hlt
        refine ⟨⟨hlen, ?_⟩, ?_⟩
        · rw [List.take_add_one, hb]
          intro hmem
          rcases List.mem_append.mp hmem with hmem | hmem
          · exact hnone hmem
          · exact hnul (List.mem_singleton.mp hmem).symm
        · dsimp only
          omega
    · refine Meets.ok ?_
      rw [if_neg Bool.false_ne_true]
      exact ⟨hle, hnone, fun hlt => absurd (Int.ofNat_lt.mpr hlt) hge⟩
  · exact List.not_mem_nil

/-- The transaction fields that bytes start with -/
def StartsWith (malloc : Nat → Bool) (sendXact : Bool) (rest : List UInt8)
    (xact : Option (Marker × Text)) : Prop :=
  ∀ marker xids, xact = some (marker, xids) ↔
    sendXact = true ∧ xactField marker xids <+: rest ∧ malloc (xids.bytes.length + 1) = true

theorem Marker.byte_inj
    {m m' : Marker}
    (h : m.byte = m'.byte) :
    m = m' := by
  cases m <;> cases m' <;> first | rfl | exact absurd h (by decide)

theorem startsWith_cons
    (malloc : Nat → Bool) {sendXact : Bool} (marker : Marker) {t : List UInt8} {len : Nat}
    (hsend : sendXact = true)
    (h : ScannedTo t len) :
    StartsWith malloc sendXact (marker.byte :: t)
      (if len < t.length ∧ malloc (len + 1) = true then some (marker, ⟨t.take len, h.noNul⟩)
        else none) := by
  intro m xids
  have hfield : xactField m xids <+: marker.byte :: t ↔
      m = marker ∧ len < t.length ∧ xids.bytes = t.take len := by
    rw [xactField, List.cons_prefix_cons, h.encode_prefix_iff]
    exact and_congr_left' ⟨fun heq => Marker.byte_inj heq, fun heq => by rw [heq]⟩
  rw [hfield]
  constructor
  · intro heq
    split at heq
    case isTrue hfound =>
      obtain ⟨rfl, rfl⟩ := Prod.mk.inj (Option.some.inj heq)
      refine ⟨hsend, ⟨rfl, hfound.1, rfl⟩, ?_⟩
      rw [List.length_take_of_le h.le]
      exact hfound.2
    case isFalse =>
      cases heq
  · rintro ⟨-, ⟨rfl, hlt, hbytes⟩, hmalloc⟩
    have hlen : xids.bytes.length = len := by
      rw [hbytes, List.length_take_of_le h.le]
    rw [hlen] at hmalloc
    rw [if_pos ⟨hlt, hmalloc⟩]
    cases xids
    cases hbytes
    rfl

namespace Libpq

/-- The LSN is read if eight bytes are left. -/
theorem parseLsn_eq
    (hlib : lib.Reads)
    (hat : At conn.inBuffer conn.inCursor rest)
    (hend : conn.inCursor + rest.length ≤ conn.inEnd) :
    ∃ lsn : Option (Fin (2 ^ 64)),
      (∀ n, lsn = some n ↔ conn.polarProxySendLsn = true ∧ be64 n <+: rest) ∧
        lib.parseLsn ((conn.inCursor + rest.length : Nat) : Int) conn =
          { conn with
            inCursor := conn.inCursor + lsnLength conn.polarProxySendLsn rest
            polarHasLsn := lsn.isSome
            polarLastLsn := lsn.elim 0 fun n => n } := by
  by_cases hpresent : conn.polarProxySendLsn = true ∧ 8 ≤ rest.length
  · obtain ⟨n, hn⟩ := exists_be64 (rest.take 8) (List.length_take_of_le hpresent.2)
    refine ⟨some n, ?_, ?_⟩
    · intro m
      constructor
      · rintro hm
        obtain rfl := Option.some.inj hm
        exact ⟨hpresent.1, hn ▸ List.take_prefix _ _⟩
      · rintro ⟨-, hm⟩
        have heq : be64 m = be64 n := by
          rw [hn]
          exact List.prefix_iff_eq_take.mp hm
        have hval := congrArg ntoh heq
        rw [ntoh_be64 m.isLt, ntoh_be64 n.isLt] at hval
        rw [Fin.ext hval]
    · rw [parseLsn]
      dsimp only
      rw [if_pos ⟨hpresent.1, by omega⟩, lsnLength, if_pos hpresent]
      have hbytes : At conn.inBuffer conn.inCursor (be64 n) := by
        rw [hn]
        refine at_iff.mpr ⟨(at_iff.mp hat).1, (List.take_prefix _ _).trans (at_iff.mp hat).2⟩
      have hget := hlib.getnchar { conn with polarHasLsn := false, polarLastLsn := 0 } (be64 n)
        (by rw [length_be64]; dsimp only; omega) hbytes
      rw [length_be64] at hget
      rw [hget]
      dsimp only
      rw [ntoh_be64 n.isLt]
      rfl
  · refine ⟨none, ?_, ?_⟩
    · intro n
      constructor
      · nofun
      · rintro ⟨hsend, hn⟩
        exact absurd ⟨hsend, hn.length_le⟩ hpresent
    · rw [parseLsn]
      dsimp only
      rw [if_neg, lsnLength, if_neg hpresent]
      · rfl
      · rintro ⟨hsend, hlen⟩
        exact hpresent ⟨hsend, by omega⟩

/-- The marker is read with its list if they are there. -/
theorem parseXact_eq
    (conn : PGconn)
    (hlib : lib.Reads)
    (hat : At conn.inBuffer conn.inCursor rest)
    (hend : conn.inCursor + rest.length ≤ conn.inEnd) :
    ∃ xact cursor, cursor ≤ conn.inCursor + rest.length ∧
      StartsWith lib.malloc conn.polarProxySendXact rest xact ∧
        lib.parseXact ((conn.inCursor + rest.length : Nat) : Int) conn =
          .ok { conn with
            inCursor := cursor
            polarXactSplittable := xact.any fun (marker, _) => marker = .x
            polarXactWalPending := xact.any fun (marker, _) => marker = .w
            polarXactXids := xact.map fun (_, xids) => xids.bytes } := by
  by_cases hsend : conn.polarProxySendXact = true
  · cases rest with
    | nil =>
        refine ⟨none, conn.inCursor, Nat.le_add_right _ _, ?_, ?_⟩
        · intro marker xids
          refine ⟨nofun, fun h => ?_⟩
          exact absurd (List.prefix_nil.mp h.2.1) (List.cons_ne_nil _ _)
        · rw [parseXact]
          dsimp only
          rw [if_neg]
          · rfl
          · rintro ⟨-, hlen⟩
            rw [List.length_nil] at hlen
            omega
    | cons m t =>
        obtain ⟨hm, ht⟩ := at_cons.mp hat
        rw [List.length_cons] at hend
        have hget := hlib.getc { conn with
          polarXactSplittable := false
          polarXactWalPending := false
          polarXactXids := none } m (by dsimp only; omega) hm
        have hleft : ((conn.inCursor + (m :: t).length : Nat) : Int) - (conn.inCursor + 1 : Nat) =
            t.length := by
          rw [List.length_cons]
          omega
        rw [parseXact]
        dsimp only
        rw [if_pos ⟨hsend, by rw [List.length_cons]; omega⟩, hget]
        dsimp only
        rw [hleft, Int.toNat_natCast]
        by_cases hmarker : m = 'x'.toUInt8 ∨ m = 'w'.toUInt8
        · obtain ⟨marker, rfl⟩ : ∃ marker : Marker, marker.byte = m := by
            rcases hmarker with rfl | rfl
            · exact ⟨.x, rfl⟩
            · exact ⟨.w, rfl⟩
          rw [if_pos hmarker]
          generalize hcleared : ({ conn with
            inCursor := conn.inCursor + 1
            polarXactSplittable := false
            polarXactWalPending := false
            polarXactXids := none } : PGconn) = cleared
          have htail : At cleared.inBuffer cleared.inCursor t := by
            rw [← hcleared]
            exact ht
          obtain ⟨len, hloop, hscan⟩ := nulLoop_ok htail
          rw [hloop, ok_bind]
          have hstarts := startsWith_cons lib.malloc marker hsend hscan
          by_cases hfound : len < t.length ∧ lib.malloc (len + 1) = true
          · have hbytes : At cleared.inBuffer (conn.inCursor + 1) (t.take len) := by
              rw [← hcleared]
              exact at_iff.mpr ⟨(at_iff.mp ht).1, (List.take_prefix _ _).trans (at_iff.mp ht).2⟩
            rw [if_pos hfound] at hstarts
            rw [if_pos ⟨Int.ofNat_lt.mpr hfound.1, hfound.2⟩]
            refine ⟨_, conn.inCursor + 1 + len + 1, ?_, hstarts, ?_⟩
            · rw [List.length_cons]
              omega
            · rw [readBytes_ok hbytes (List.length_take_of_le hscan.le), ok_bind]
              cases marker
              · rfl
              · rfl
          · rw [if_neg hfound] at hstarts
            rw [if_neg (fun h => hfound ⟨Int.ofNat_lt.mp h.1, h.2⟩)]
            refine ⟨none, conn.inCursor + 1, ?_, hstarts, ?_⟩
            · rw [List.length_cons]
              omega
            · rw [← hcleared]
              rfl
        · rw [if_neg hmarker]
          refine ⟨none, conn.inCursor + 1, ?_, ?_, rfl⟩
          · rw [List.length_cons]
            omega
          · intro marker xids
            refine ⟨nofun, fun h => ?_⟩
            have hbyte := (List.cons_prefix_cons.mp h.2.1).1
            refine absurd ?_ hmarker
            rw [← hbyte]
            cases marker
            · exact Or.inl rfl
            · exact Or.inr rfl
  · refine ⟨none, conn.inCursor, Nat.le_add_right _ _, ?_, ?_⟩
    · intro marker xids
      exact ⟨nofun, fun h => absurd h.1 hsend⟩
    · rw [parseXact]
      dsimp only
      rw [if_neg (fun h => hsend h.1)]
      rfl

theorem parseExtension_eq
    (conn : PGconn)
    (hlib : lib.Reads)
    (hlength : At conn.inBuffer (conn.inStart + 1) (be32 (rest.length + 5)))
    (hcursor : conn.inCursor = conn.inStart + 6)
    (hat : At conn.inBuffer conn.inCursor rest)
    (hend : conn.inCursor + rest.length ≤ conn.inEnd)
    (hint : conn.inEnd < 2 ^ 31) :
    ∃ e, Carries lib.malloc conn.polarProxySendLsn conn.polarProxySendXact rest e ∧
      lib.parseExtension conn = .ok (conn.report (conn.inCursor + rest.length) e) := by
  obtain ⟨lsn, hlsn, hparseLsn⟩ := parseLsn_eq hlib hat hend
  have hskip : lsnLength conn.polarProxySendLsn rest ≤ rest.length := by
    rw [lsnLength]
    split
    case isTrue h =>
      exact h.2
    case isFalse =>
      exact Nat.zero_le _
  have hrest : At conn.inBuffer (conn.inCursor + lsnLength conn.polarProxySendLsn rest)
      (rest.drop (lsnLength conn.polarProxySendLsn rest)) := by
    have hsplit := hat
    rw [← List.take_append_drop (lsnLength conn.polarProxySendLsn rest) rest] at hsplit
    have hlater := (at_append.mp hsplit).2
    rw [List.length_take_of_le hskip] at hlater
    exact hlater
  have hleft : conn.inCursor + rest.length =
      conn.inCursor + lsnLength conn.polarProxySendLsn rest +
        (rest.drop (lsnLength conn.polarProxySendLsn rest)).length := by
    rw [List.length_drop]
    omega
  obtain ⟨xact, cursor, hle, hxact, hparseXact⟩ := parseXact_eq ({ conn with
    inCursor := conn.inCursor + lsnLength conn.polarProxySendLsn rest
    polarHasLsn := lsn.isSome
    polarLastLsn := lsn.elim 0 fun n => n }) hlib hrest (hleft ▸ hend)
  dsimp only at hle hparseXact
  rw [← hleft] at hle hparseXact
  refine ⟨⟨lsn, xact⟩, ⟨hlsn, hxact⟩, ?_⟩
  have hmsgEnd : wrapInt ((conn.inStart : Int) + 1 + wrapInt ((rest.length + 5 : Nat) : Int)) =
      ((conn.inCursor + rest.length : Nat) : Int) := by
    rw [RowRun.wrapInt_add_wrapInt, RowRun.wrapInt_of_lt (by omega) (by omega)]
    omega
  rw [parseExtension, readBytes_ok hlength (length_be32 _), ok_bind, ntoh_be32 (by omega), hmsgEnd]
  dsimp only
  rw [hparseLsn, hparseXact, ok_bind]
  rcases Nat.lt_or_eq_of_le hle with hlt | rfl
  · rw [if_pos (by dsimp only; omega)]
    rfl
  · rw [if_neg (by dsimp only; omega)]
    rfl

end Libpq

theorem Carries.eq_of_encode
    {malloc : Nat → Bool} {sendLsn sendXact : Bool} {e sent : Extension} {trailing : List UInt8}
    (h : Carries malloc sendLsn sendXact (sent.encode ++ trailing) e)
    (hlsn : sent.lsn.isSome = sendLsn)
    (hxact : sent.xact.isSome = sendXact)
    (hmalloc : ∀ marker xids, sent.xact = some (marker, xids) →
      malloc (xids.bytes.length + 1) = true) :
    e = sent := by
  obtain ⟨lsn, xact⟩ := sent
  have hlsnEq : e.lsn = lsn := by
    cases lsn with
    | none =>
        refine Option.eq_none_iff_forall_ne_some.mpr fun n hn => ?_
        exact absurd (hlsn.trans ((h.lsn n).mp hn).1) Bool.false_ne_true
    | some n =>
        refine (h.lsn n).mpr ⟨hlsn.symm, ?_⟩
        rw [Extension.encode, List.append_assoc]
        exact List.prefix_append _ _
  have hskip : (Extension.encode ⟨lsn, xact⟩ ++ trailing).drop
      (lsnLength sendLsn (Extension.encode ⟨lsn, xact⟩ ++ trailing)) =
        (xact.elim [] fun (marker, xids) => xactField marker xids) ++ trailing := by
    cases lsn with
    | none =>
        obtain rfl := hlsn
        rw [lsnLength, if_neg (fun hsend => Bool.false_ne_true hsend.1)]
        rfl
    | some n =>
        obtain rfl := hlsn
        have hlen : 8 ≤ (Extension.encode ⟨some n, xact⟩ ++ trailing).length := by
          rw [Extension.encode, List.append_assoc, List.length_append]
          exact Nat.le_add_right _ _
        rw [lsnLength, if_pos ⟨rfl, hlen⟩, Extension.encode, List.append_assoc]
        rfl
  have hxactEq : e.xact = xact := by
    cases xact with
    | none =>
        refine Option.eq_none_iff_forall_ne_some.mpr fun (marker, xids) hsome => ?_
        exact absurd (hxact.trans ((h.xact marker xids).mp hsome).1) Bool.false_ne_true
    | some field =>
        refine (h.xact field.1 field.2).mpr ⟨hxact.symm, ?_, hmalloc _ _ rfl⟩
        rw [hskip]
        exact List.prefix_append _ _
  cases e
  cases hlsnEq
  cases hxactEq
  rfl

/-- A message is read up to its end and not behind it.  The connection reports the fields that the
message starts with, so far as they are asked for, and nothing of an earlier message. -/
theorem getReadyForQuery_carries
    (lib : Libpq) (conn : PGconn) (status : UInt8) (rest : List UInt8)
    (hlib : lib.Reads)
    (hmessage : At conn.inBuffer conn.inStart (frame 'Z' (status :: rest)))
    (hcursor : conn.inCursor = conn.inStart + 5)
    (hend : conn.inStart + (frame 'Z' (status :: rest)).length ≤ conn.inEnd)
    (hint : conn.inEnd < 2 ^ 31) :
    ∃ e, lib.getReadyForQuery conn =
        .ok (.zero (conn.report (conn.inStart + (frame 'Z' (status :: rest)).length) e)) ∧
      Carries lib.malloc conn.polarProxySendLsn conn.polarProxySendXact rest e ∧
      ∀ sent trailing, rest = Extension.encode sent ++ trailing →
        sent.lsn.isSome = conn.polarProxySendLsn → sent.xact.isSome = conn.polarProxySendXact →
        (∀ marker xids, sent.xact = some (marker, xids) →
          lib.malloc (xids.bytes.length + 1) = true) →
        e = sent := by
  have hlen : (frame 'Z' (status :: rest)).length = rest.length + 6 := by
    rw [frame, List.length_append, List.length_cons, length_be32, List.length_cons]
    omega
  rw [hlen] at hend ⊢
  obtain ⟨hhead, hbody⟩ := at_append.mp hmessage
  obtain ⟨hstatus, hrest⟩ := at_cons.mp hbody
  rw [List.length_cons, length_be32] at hstatus hrest
  have hget := hlib.getc conn status (by omega) (by rw [hcursor]; exact hstatus)
  obtain ⟨e, he, hparse⟩ := Libpq.parseExtension_eq ({ conn with
    inCursor := conn.inCursor + 1 }) hlib (at_cons.mp hhead).2 (by dsimp only; omega)
    (by dsimp only; rw [hcursor]; exact hrest) (by dsimp only; omega) hint
  refine ⟨e, ?_, he, ?_⟩
  · rw [Libpq.getReadyForQuery, hget]
    dsimp only
    rw [hparse, ok_bind]
    dsimp only
    have hpos : conn.inCursor + 1 + rest.length = conn.inStart + (rest.length + 6) := by
      omega
    rw [hpos]
    rfl
  · intro sent trailing heq hlsn hxact hmalloc
    rw [heq] at he
    exact he.eq_of_encode hlsn hxact hmalloc

/-- The readers of libpq on the bytes that may be read, where every allocation succeeds -/
def bufferReaders : Libpq where
  pqGetc conn :=
    if conn.inCursor < conn.inEnd then
      conn.inBuffer[conn.inCursor]?.map fun b => (b, { conn with inCursor := conn.inCursor + 1 })
    else none
  pqGetnchar n conn :=
    if conn.inCursor + n ≤ conn.inEnd then
      some ((conn.inBuffer.drop conn.inCursor).take n,
        { conn with inCursor := conn.inCursor + n })
    else none
  malloc _ := true

theorem bufferReaders_reads : bufferReaders.Reads where
  getc conn b hlt hb := by
    rw [bufferReaders]
    dsimp only
    rw [if_pos hlt, hb]
    rfl
  getnchar conn bytes hle hat := by
    obtain ⟨-, hpre⟩ := at_iff.mp hat
    rw [bufferReaders]
    dsimp only
    rw [if_pos hle, ← List.prefix_iff_eq_take.mp hpre]

/-- A frontend that asks for both fields, and holds those of an earlier message -/
def frontend (message : List UInt8) : PGconn where
  inBuffer := message
  inStart := 0
  inCursor := 5
  inEnd := message.length
  polarProxySendLsn := true
  polarHasLsn := true
  polarLastLsn := 9
  polarProxySendXact := true
  polarXactSplittable := false
  polarXactWalPending := true
  polarXactXids := some [49]

/-- A message with an LSN, a marker and two more bytes -/
theorem getReadyForQuery_carries_both :
    ∃ e, bufferReaders.getReadyForQuery
        (frontend (frame 'Z' (84 :: (be64 5 ++ xactField .x ⟨[49, 50], by decide⟩ ++ [7, 0])))) =
        .ok (.zero ((frontend
          (frame 'Z' (84 :: (be64 5 ++ xactField .x ⟨[49, 50], by decide⟩ ++ [7, 0])))).report
            (0 + (frame 'Z' (84 :: (be64 5 ++ xactField .x ⟨[49, 50], by decide⟩ ++ [7, 0]))).length)
            e)) ∧
      Carries bufferReaders.malloc true true
        (be64 5 ++ xactField .x ⟨[49, 50], by decide⟩ ++ [7, 0]) e ∧
      ∀ sent trailing, be64 5 ++ xactField .x ⟨[49, 50], by decide⟩ ++ [7, 0] =
          Extension.encode sent ++ trailing →
        sent.lsn.isSome = true → sent.xact.isSome = true →
        (∀ marker xids, sent.xact = some (marker, xids) →
          bufferReaders.malloc (xids.bytes.length + 1) = true) →
        e = sent :=
  getReadyForQuery_carries bufferReaders _ 84 _ bufferReaders_reads ⟨[], [], by rfl, rfl⟩ rfl
    (by decide) (by decide)

/-- Two bytes of an LSN are read as a marker with an empty list. -/
theorem getReadyForQuery_short_lsn :
    [120, 0] = (be64 (120 * 2 ^ 56)).take 2 ∧
      ∃ conn, bufferReaders.getReadyForQuery (frontend (frame 'Z' (84 :: [120, 0]))) =
          .ok (.zero conn) ∧
        conn.polarHasLsn = false ∧ conn.polarXactSplittable = true ∧
          conn.polarXactXids = some [] := by
  refine ⟨by decide, _, rfl, ?_, ?_, ?_⟩
  · decide
  · decide
  · decide

end ReadyForQuery

end PolarProxy
