import Mathlib.Data.Int.Bitwise
import PolarProxy.Library.PrefixCodes
import PolarProxy.BackendIdentity

/-!
# Tokens and keys of a startup

A connection carries two numbers that stand for the way it was started.  The generation token
packs the profile and the identity mode into one word.  The reuse key hashes the context of the
client: the fields are written one after the other, each text behind its length, and the bytes
go through FNV-1a.

`MachineContext` is the context with the integers and strings of the source, where a string is
any sequence of bytes; `StartupClientContext`, which the checks of the pools use, has numbers and
texts in their place.

**Results.** `token_eq_iff`, `serialize_eq_iff`, `keysApart_of_serialize`.
-/

namespace PolarProxy

open PrefixCodes StartupClientContext

/-! ## Packed words -/

/-- A field below the lowest bit of another is told apart from it. -/
theorem shiftLeft_or_inj
    {width a a' b b' : Nat}
    (hb : b < 2 ^ width)
    (hb' : b' < 2 ^ width) :
    a <<< width ||| b = a' <<< width ||| b' ↔ a = a' ∧ b = b' := by
  rw [← Nat.shiftLeft_add_eq_or_of_lt hb, ← Nat.shiftLeft_add_eq_or_of_lt hb',
    Nat.shiftLeft_eq, Nat.shiftLeft_eq]
  constructor
  · intro h
    have hpos : 0 < 2 ^ width := Nat.two_pow_pos width
    have hlow := congrArg (· % 2 ^ width) h
    simp only [Nat.mul_add_mod_self_right, Nat.mod_eq_of_lt hb, Nat.mod_eq_of_lt hb'] at hlow
    subst hlow
    exact ⟨Nat.eq_of_mul_eq_mul_right hpos (Nat.add_right_cancel h), rfl⟩
  · rintro ⟨rfl, rfl⟩
    rfl

theorem ProxyProtocol.toNat_inj
    {p q : ProxyProtocol} :
    p.toNat = q.toNat ↔ p = q := by
  cases p <;> cases q <;> decide

/-! ## Generation tokens -/

namespace StartupProfile

/-- `identity_bits` of `generation`: nothing is said of the mode when nothing is sent. -/
def identityBits (profile : StartupProfile) (identityMode : Int32) : Nat :=
  if profile.emitsStartupParams then (identityMode.toUInt32 &&& 0x3).toNat else 0

/-- `generation`, for any `int` as the identity mode -/
def generationOfInt (profile : StartupProfile) (identityMode : Int32) : Nat :=
  profile.protocol.toNat <<< 24 ||| profile.identityBits identityMode <<< 22 |||
    profile.requestBits &&& 0x003fffff

/-- A resolved identity mode as an `int` -/
def intOfMode : IdentityMode → Int32
  | .client => 0
  | .proxy => 1

theorem generation_eq_generationOfInt
    (profile : StartupProfile)
    (mode : IdentityMode) :
    profile.generation mode = profile.generationOfInt (intOfMode mode) := by
  cases mode <;> rfl

theorem identityBits_lt
    (profile : StartupProfile)
    (identityMode : Int32) :
    profile.identityBits identityMode < 2 ^ 2 := by
  rw [identityBits]
  split
  · have hle := @Nat.and_le_right identityMode.toUInt32.toNat 3
    rw [UInt32.toNat_and]
    exact Nat.lt_succ_of_le hle
  · decide

theorem generationOfInt_eq_iff
    (p q : StartupProfile)
    (m n : Int32) :
    p.generationOfInt m = q.generationOfInt n ↔
      p.protocol = q.protocol ∧ p.requestBits % 2 ^ 22 = q.requestBits % 2 ^ 22 ∧
        p.identityBits m = q.identityBits n := by
  have hpack : ∀ (r : StartupProfile) (k : Int32), r.generationOfInt k =
      (r.protocol.toNat <<< 2 ||| r.identityBits k) <<< 22 ||| r.requestBits % 2 ^ 22 := by
    intro r k
    rw [generationOfInt, Nat.shiftLeft_or_distrib, ← Nat.shiftLeft_add]
    exact congrArg _ (Nat.and_two_pow_sub_one_eq_mod r.requestBits 22)
  have hlow : ∀ n : Nat, n % 2 ^ 22 < 2 ^ 22 := fun n => Nat.mod_lt n (Nat.two_pow_pos 22)
  rw [hpack, hpack, shiftLeft_or_inj (hlow _) (hlow _),
    shiftLeft_or_inj (p.identityBits_lt m) (q.identityBits_lt n), ProxyProtocol.toNat_inj]
  constructor
  · rintro ⟨⟨hprotocol, hidentity⟩, hrequest⟩
    exact ⟨hprotocol, hrequest, hidentity⟩
  · rintro ⟨hprotocol, hrequest, hidentity⟩
    exact ⟨⟨hprotocol, hidentity⟩, hrequest⟩

/-- The bits of a resolved mode tell it, if anything is sent. -/
theorem identityBits_intOfMode_eq_iff
    {p q : StartupProfile}
    (h : p = q)
    (m n : IdentityMode) :
    p.identityBits (intOfMode m) = q.identityBits (intOfMode n) ↔
      (p.emitsStartupParams = true → m = n) := by
  subst h
  unfold identityBits
  cases p.emitsStartupParams with
  | true =>
      cases m <;> cases n <;> decide
  | false =>
      simp

/-- Every bit that a profile requests is told by the token. -/
theorem requestBits_fromProtocol_lt
    (protocol : ProxyProtocol) :
    (fromProtocol protocol).requestBits < 2 ^ 22 := by
  cases protocol <;> decide

theorem generation_eq_iff
    {p q : StartupProfile}
    (hp : p.requestBits < 2 ^ 22)
    (hq : q.requestBits < 2 ^ 22)
    (m n : IdentityMode) :
    p.generation m = q.generation n ↔
      p.protocol = q.protocol ∧ p.requestBits = q.requestBits ∧
        (p.emitsStartupParams = true → m = n) := by
  rw [generation_eq_generationOfInt, generation_eq_generationOfInt, generationOfInt_eq_iff,
    Nat.mod_eq_of_lt hp, Nat.mod_eq_of_lt hq]
  refine and_congr_right fun hprotocol => and_congr_right fun hrequest => ?_
  have hprofile : p = q := by
    cases p
    cases q
    simp_all
  exact identityBits_intOfMode_eq_iff hprofile m n

end StartupProfile

/-! ## Contexts -/

/-- `std::string`, whose size is a `size_t` -/
abbrev ByteString : Type :=
  { bytes : List UInt8 // bytes.length < 2 ^ 64 }

/-- `PolarDB_StartupIdentity`, with the types of the source -/
structure MachineIdentity where
  host : ByteString := ⟨[], Nat.two_pow_pos 64⟩
  port : Int32 := 0
  source : IdentitySource := .none
  deriving DecidableEq

/-- `PolarDB_StartupClientContext`, with the types of the source -/
structure MachineContext where
  identity : MachineIdentity := {}
  frontendSsl : Bool := false
  sslVersion : ByteString := ⟨[], Nat.two_pow_pos 64⟩
  sslCipher : ByteString := ⟨[], Nat.two_pow_pos 64⟩
  hasProxySession : Bool := false
  proxySessionId : UInt64 := 0
  proxyCancelKey : UInt32 := 0
  deriving DecidableEq

/-- What a connection is started with: `polardb_startup_profile`,
`polardb_startup_identity_mode` and `polardb_startup_client` -/
structure StartupContext where
  profile : StartupProfile
  identityMode : Int32
  client : MachineContext
  deriving DecidableEq

/-- `polardb_startup_profile_generation` -/
def StartupContext.token (context : StartupContext) : Nat :=
  context.profile.generationOfInt context.identityMode

namespace MachineContext

/-- `compatible_for_reuse` -/
def compatibleForReuse (a b : MachineContext) : Bool :=
  a.identity.source == b.identity.source && a.identity.host == b.identity.host &&
    a.identity.port == b.identity.port && a.frontendSsl == b.frontendSsl &&
    a.sslVersion == b.sslVersion && a.sslCipher == b.sslCipher &&
    a.hasProxySession == b.hasProxySession && a.proxySessionId == b.proxySessionId &&
    a.proxyCancelKey == b.proxyCancelKey

theorem compatibleForReuse_eq_true_iff
    (a b : MachineContext) :
    a.compatibleForReuse b = true ↔ a = b := by
  obtain ⟨⟨host, port, source⟩, ssl, version, cipher, session, id, key⟩ := a
  obtain ⟨⟨host', port', source'⟩, ssl', version', cipher', session', id', key'⟩ := b
  simp only [compatibleForReuse, Bool.and_eq_true, beq_iff_eq, mk.injEq, MachineIdentity.mk.injEq]
  tauto

/-! ## Reuse keys -/

/-- `polardb_pool_hash_string` -/
def hashByteString (hash : Nat) (value : ByteString) : Nat :=
  hashBytes (hashU64 hash value.1.length) (value.1.map UInt8.toNat)

/-- `hash ? hash : 1` -/
def orOne (hash : Nat) : Nat :=
  if hash = 0 then 1 else hash

/-- `polardb_startup_client_reuse_key` -/
def reuseKey (context : MachineContext) : Nat :=
  let hash := 1469598103934665603
  let hash := hashByteString hash context.identity.host
  let hash := hashI32 hash context.identity.source.toNat
  let hash := hashI32 hash context.identity.port.toInt
  let hash := hashU64 hash context.frontendSsl.toNat
  let hash := hashByteString hash context.sslVersion
  let hash := hashByteString hash context.sslCipher
  let hash := hashU64 hash context.hasProxySession.toNat
  let hash := hashU64 hash context.proxySessionId.toNat
  let hash := hashU64 hash context.proxyCancelKey.toNat
  orOne hash

/-- The bytes of an `int` -/
def intBytes (value : Int) : List Nat :=
  wordBytes 4 (value % 2 ^ 32).toNat

def stringBytes (value : ByteString) : List Nat :=
  wordBytes 8 value.1.length ++ value.1.map UInt8.toNat

/-- The bytes that the key hashes -/
def serialize (context : MachineContext) : List Nat :=
  stringBytes context.identity.host ++ intBytes context.identity.source.toNat ++
    intBytes context.identity.port.toInt ++ wordBytes 8 context.frontendSsl.toNat ++
    stringBytes context.sslVersion ++ stringBytes context.sslCipher ++
    wordBytes 8 context.hasProxySession.toNat ++ wordBytes 8 context.proxySessionId.toNat ++
    wordBytes 8 context.proxyCancelKey.toNat

/-- A hash of all bytes that is never 0 -/
def hashKey (bytes : List Nat) : Nat :=
  orOne (hashBytes 1469598103934665603 bytes)

theorem hashBytes_append
    (hash : Nat)
    (xs ys : List Nat) :
    hashBytes hash (xs ++ ys) = hashBytes (hashBytes hash xs) ys := by
  rw [hashBytes, List.foldl_append]
  rfl

theorem reuseKey_eq_hashKey
    (context : MachineContext) :
    context.reuseKey = hashKey context.serialize := by
  simp only [reuseKey, hashKey, serialize, hashByteString, hashU64, hashI32, stringBytes, intBytes,
    hashBytes_append]

/-! ## Words of fields -/

theorem length_wordBytes
    (width value : Nat) :
    (wordBytes width value).length = width := by
  induction width generalizing value with
  | zero =>
      rfl
  | succ width ih =>
      rw [wordBytes, List.length_cons, ih]

theorem wordBytes_inj
    {width m n : Nat}
    (hm : m < 256 ^ width)
    (hn : n < 256 ^ width)
    (h : wordBytes width m = wordBytes width n) :
    m = n := by
  induction width generalizing m n with
  | zero =>
      omega
  | succ width ih =>
      obtain ⟨hlow, hhigh⟩ := List.cons.inj h
      rw [Nat.pow_succ] at hm hn
      have hdiv := ih (Nat.div_lt_of_lt_mul (by omega)) (Nat.div_lt_of_lt_mul (by omega)) hhigh
      omega

theorem isPrefixCode_wordBytes
    (width : Nat) :
    IsPrefixCode fun n : Fin (256 ^ width) => wordBytes width n := by
  refine .of_length (fun n => length_wordBytes width n) ?_
  intro m n h
  exact Fin.ext (wordBytes_inj m.isLt n.isLt h)

theorem isPrefixCode_intBytes :
    IsPrefixCode fun value : Int32 => intBytes value.toInt := by
  refine .of_length (fun value => length_wordBytes 4 _) ?_
  intro a b h
  have ha := a.toInt_lt
  have ha' := a.le_toInt
  have hb := b.toInt_lt
  have hb' := b.le_toInt
  have hbits := wordBytes_inj (by omega) (by omega) h
  exact Int32.toInt_inj.mp (by omega)

theorem isPrefixCode_sourceBytes :
    IsPrefixCode fun source : IdentitySource => intBytes source.toNat := by
  refine .of_length (fun source => length_wordBytes 4 _) ?_
  intro a b h
  revert h
  cases a <;> cases b <;> decide

theorem isPrefixCode_flagBytes :
    IsPrefixCode fun flag : Bool => wordBytes 8 flag.toNat := by
  refine .of_length (fun flag => length_wordBytes 8 _) ?_
  intro a b h
  revert h
  cases a <;> cases b <;> decide

theorem isPrefixCode_idBytes :
    IsPrefixCode fun id : UInt64 => wordBytes 8 id.toNat := by
  refine .of_length (fun id => length_wordBytes 8 _) ?_
  intro a b h
  exact UInt64.toNat_inj.mp (wordBytes_inj a.toNat_lt b.toNat_lt h)

theorem isPrefixCode_cancelKeyBytes :
    IsPrefixCode fun key : UInt32 => wordBytes 8 key.toNat := by
  refine .of_length (fun key => length_wordBytes 8 _) ?_
  intro a b h
  have ha := a.toNat_lt
  have hb := b.toNat_lt
  exact UInt32.toNat_inj.mp (wordBytes_inj (by omega) (by omega) h)

/-- A string tells where it ends, as its size stands before it. -/
theorem isPrefixCode_stringBytes :
    IsPrefixCode stringBytes := by
  have hcounted := (isPrefixCode_wordBytes 8).counted
  let numbers : ByteString → { xs : List Nat // xs.length < 256 ^ 8 } := fun text =>
    ⟨text.1.map UInt8.toNat, by rw [List.length_map]; exact text.2⟩
  have hnumbers : Function.Injective numbers := by
    intro a b h
    have hbytes := List.map_injective_iff.mpr (fun x y => UInt8.toNat_inj.mp) (congrArg Subtype.val h)
    exact Subtype.ext hbytes
  intro a b x y h
  refine hcounted.comp hnumbers ?_
  simpa only [numbers, List.length_map, stringBytes] using h

theorem serialize_injective :
    Function.Injective serialize := by
  rintro ⟨⟨host, port, source⟩, ssl, version, cipher, session, id, key⟩
    ⟨⟨host', port', source'⟩, ssl', version', cipher', session', id', key'⟩ h
  simp only [serialize, List.append_assoc] at h
  obtain ⟨hhost, h⟩ := isPrefixCode_stringBytes h
  obtain ⟨hsource, h⟩ := isPrefixCode_sourceBytes h
  obtain ⟨hport, h⟩ := isPrefixCode_intBytes h
  obtain ⟨hssl, h⟩ := isPrefixCode_flagBytes h
  obtain ⟨hversion, h⟩ := isPrefixCode_stringBytes h
  obtain ⟨hcipher, h⟩ := isPrefixCode_stringBytes h
  obtain ⟨hsession, h⟩ := isPrefixCode_flagBytes h
  obtain ⟨hid, h⟩ := isPrefixCode_idBytes h
  have hkey := isPrefixCode_cancelKeyBytes.injective h
  simp only [hhost, hsource, hport, hssl, hversion, hcipher, hsession, hid, hkey]

/-- Contexts are written alike exactly when they may be reused for one another. -/
theorem serialize_eq_iff
    (a b : MachineContext) :
    a.serialize = b.serialize ↔ a.compatibleForReuse b = true := by
  rw [compatibleForReuse_eq_true_iff]
  exact serialize_injective.eq_iff

end MachineContext

/-- A token tells the protocol, the request bits in its low 22 bits and, when startup parameters
are sent, the identity mode; the reuse key hashes an injective serialization of the fields that
decide whether contexts may be reused for one another. -/
theorem startup_profile_identity :
    (∀ a b : StartupContext, a.token = b.token ↔
      a.profile.protocol = b.profile.protocol ∧
        a.profile.requestBits % 2 ^ 22 = b.profile.requestBits % 2 ^ 22 ∧
          a.profile.identityBits a.identityMode = b.profile.identityBits b.identityMode) ∧
    (∀ (p q : StartupProfile) (m n : IdentityMode),
      p.requestBits < 2 ^ 22 → q.requestBits < 2 ^ 22 →
        (p.generation m = q.generation n ↔ p.protocol = q.protocol ∧
          p.requestBits = q.requestBits ∧ (p.emitsStartupParams = true → m = n))) ∧
    Function.Injective MachineContext.serialize ∧
    (∀ a b : MachineContext, a.serialize = b.serialize ↔ a.compatibleForReuse b = true) ∧
    (∀ a : MachineContext, a.reuseKey = MachineContext.hashKey a.serialize) ∧
    (∀ a b : MachineContext, a.compatibleForReuse b = true → a.reuseKey = b.reuseKey) := by
  refine ⟨?_, ?_, MachineContext.serialize_injective, MachineContext.serialize_eq_iff,
    MachineContext.reuseKey_eq_hashKey, ?_⟩
  · intro a b
    exact StartupProfile.generationOfInt_eq_iff a.profile b.profile a.identityMode b.identityMode
  · intro p q m n hp hq
    exact StartupProfile.generation_eq_iff hp hq m n
  · intro a b hreuse
    have hbytes := (MachineContext.serialize_eq_iff a b).mpr hreuse
    rw [MachineContext.reuseKey_eq_hashKey, MachineContext.reuseKey_eq_hashKey, hbytes]

/-- A connection for the client `10.0.0.x`, where `digit` is the last character of the address -/
def startedForClient (digit : UInt8) : StartupContext where
  profile := .fromProtocol .v15
  identityMode := 0
  client :=
    { identity :=
        { host := ⟨[49, 48, 46, 48, 46, 48, 46, digit], by simp⟩
          port := 5000
          source := .client } }

/-- The token does not tell which client a connection was started for, nor the request bits
above its low 22 bits. -/
theorem token_ignores_client :
    ¬ (∀ a b : StartupContext, a.token = b.token ↔
      a.profile.protocol = b.profile.protocol ∧
        a.profile.requestBits = b.profile.requestBits ∧
          (a.profile.emitsStartupParams = true → a.client.identity = b.client.identity)) ∧
    ∃ a b : StartupContext, a.token = b.token ∧ a.profile.requestBits ≠ b.profile.requestBits := by
  constructor
  · intro h
    obtain ⟨-, -, hclient⟩ := (h (startedForClient 49) (startedForClient 50)).mp (by decide)
    exact absurd (hclient (by decide)) (by decide)
  · refine ⟨{ startedForClient 49 with profile := ⟨.v15, 1⟩ },
      { startedForClient 49 with profile := ⟨.v15, 2 ^ 22 + 1⟩ }, ?_, ?_⟩
    · decide
    · decide

/-! ## Contexts of the pools -/

namespace StartupClientContext

def textBytes (text : String) : List UInt8 :=
  text.toList.flatMap String.utf8EncodeChar

theorem textBytes_injective :
    Function.Injective textBytes := by
  intro s t h
  have hencoded : s.toList.utf8Encode = t.toList.utf8Encode :=
    congrArg List.toByteArray h
  rw [String.utf8Encode_toList, String.utf8Encode_toList] at hencoded
  exact String.toByteArray_inj.mp hencoded

/-- The values of a context are in the ranges of their types. -/
structure Representable (context : StartupClientContext) : Prop where
  host : (textBytes context.identity.host).length < 2 ^ 64
  port : -2 ^ 31 ≤ context.identity.port ∧ context.identity.port < 2 ^ 31
  sslVersion : (textBytes context.sslVersion).length < 2 ^ 64
  sslCipher : (textBytes context.sslCipher).length < 2 ^ 64
  proxySessionId : context.proxySessionId < 2 ^ 64
  proxyCancelKey : context.proxyCancelKey < 2 ^ 32

/-- A context with the types of the source -/
def machine (context : StartupClientContext) (h : context.Representable) : MachineContext where
  identity :=
    { host := ⟨textBytes context.identity.host, h.host⟩
      port := Int32.ofInt context.identity.port
      source := context.identity.source }
  frontendSsl := context.frontendSsl
  sslVersion := ⟨textBytes context.sslVersion, h.sslVersion⟩
  sslCipher := ⟨textBytes context.sslCipher, h.sslCipher⟩
  hasProxySession := context.hasProxySession
  proxySessionId := UInt64.ofNat context.proxySessionId
  proxyCancelKey := UInt32.ofNat context.proxyCancelKey

variable {a b : StartupClientContext}

theorem reuseKey_machine
    (h : a.Representable) :
    (a.machine h).reuseKey = a.reuseKey := by
  have hport : (Int32.ofInt a.identity.port).toInt = a.identity.port :=
    Int32.toInt_ofInt_of_le h.port.1 h.port.2
  have hid : (UInt64.ofNat a.proxySessionId).toNat = a.proxySessionId :=
    UInt64.toNat_ofNat_of_lt' h.proxySessionId
  have hkey : (UInt32.ofNat a.proxyCancelKey).toNat = a.proxyCancelKey :=
    UInt32.toNat_ofNat_of_lt' h.proxyCancelKey
  have htext : ∀ (hash : Nat) (text : String) (hlen : (textBytes text).length < 2 ^ 64),
      MachineContext.hashByteString hash ⟨textBytes text, hlen⟩ = hashString hash text := by
    intro hash text hlen
    simp only [MachineContext.hashByteString, hashString, textBytes, List.length_flatMap,
      List.map_flatMap, List.length_map]
  change MachineContext.orOne _ = MachineContext.orOne _
  simp only [machine, htext, hport, hid, hkey]

/-- A context is told by its values in the types of the source. -/
theorem machine_inj
    (ha : a.Representable)
    (hb : b.Representable) :
    a.machine ha = b.machine hb ↔ a = b := by
  constructor
  · intro h
    simp only [machine, MachineContext.mk.injEq, MachineIdentity.mk.injEq, Subtype.mk.injEq,
      textBytes_injective.eq_iff] at h
    obtain ⟨⟨hhost, hport, hsource⟩, hssl, hversion, hcipher, hsession, hid, hkey⟩ := h
    have hport := congrArg Int32.toInt hport
    rw [Int32.toInt_ofInt_of_le ha.port.1 ha.port.2,
      Int32.toInt_ofInt_of_le hb.port.1 hb.port.2] at hport
    have hid := congrArg UInt64.toNat hid
    rw [UInt64.toNat_ofNat_of_lt' ha.proxySessionId,
      UInt64.toNat_ofNat_of_lt' hb.proxySessionId] at hid
    have hkey := congrArg UInt32.toNat hkey
    rw [UInt32.toNat_ofNat_of_lt' ha.proxyCancelKey,
      UInt32.toNat_ofNat_of_lt' hb.proxyCancelKey] at hkey
    obtain ⟨⟨_, _, _⟩, _, _, _, _, _, _⟩ := a
    obtain ⟨⟨_, _, _⟩, _, _, _, _, _, _⟩ := b
    simp_all
  · rintro rfl
    rfl

theorem compatibleForReuse_machine
    (ha : a.Representable)
    (hb : b.Representable) :
    (a.machine ha).compatibleForReuse (b.machine hb) = a.compatibleForReuse b := by
  rw [Bool.eq_iff_iff, MachineContext.compatibleForReuse_eq_true_iff, machine_inj,
    compatibleForReuse_iff]

end StartupClientContext

/-- The reuse keys tell the clients apart when the hash tells their bytes apart. -/
theorem keysApart_of_serialize
    {addresses : AddressSyntax} {streams : Nat → ClientStream}
    (hrepresentable : ∀ i a, (streams i).clientContext addresses = some a → a.Representable)
    (hhash : ∀ i j a b (ha : a.Representable) (hb : b.Representable),
      (streams i).clientContext addresses = some a →
        (streams j).clientContext addresses = some b →
          MachineContext.hashKey (a.machine ha).serialize =
            MachineContext.hashKey (b.machine hb).serialize →
              (a.machine ha).serialize = (b.machine hb).serialize) :
    KeysApart addresses streams := by
  intro i j a b ha hb hkeys
  have hra := hrepresentable i a ha
  have hrb := hrepresentable j b hb
  rw [← reuseKey_machine hra, ← reuseKey_machine hrb, MachineContext.reuseKey_eq_hashKey,
    MachineContext.reuseKey_eq_hashKey] at hkeys
  have hbytes := hhash i j a b hra hrb ha hb hkeys
  exact (machine_inj hra hrb).mp (MachineContext.serialize_injective hbytes)

end PolarProxy
