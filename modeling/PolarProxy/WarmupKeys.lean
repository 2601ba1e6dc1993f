import PolarProxy.EpochIsolation
import PolarProxy.WarmupTargets

/-!
# Keys of warmup requests

A warmup request names the startup identity that the connections are opened with and, for a
repair or a planned step, the server that they are opened to.  Requests with one key are one
request: the key joins the fields by a separator.

**Results.** `splitWarmupKey_eq_iff`, `hasTargetServer_of_key_eq`.
-/

namespace PolarProxy

namespace Warmup

/-- The fields of `PgSQL_SplitWarmupRequest` that the steps of a request repeat. -/
structure RequestFields where
  username : String
  password : String
  dbname : String
  startupClient : StartupClientContext
  startupOptionsHash : Nat
  hasStartupParameters : Bool
  startupIdentityMode : IdentityMode
  startupConfigGeneration : Nat
  requestedAtUs : Nat
  targetServerListGeneration : Nat
  deriving DecidableEq

/-- `PgSQL_SplitWarmupRequest` -/
abbrev SplitWarmupRequest : Type :=
  Request RequestFields

/-- `has_target_server` -/
def Request.hasTargetServer {I : Type} (r : Request I) : Bool :=
  r.targetAddress ≠ "" ∨ r.targetPort ≠ 0

/-! ## The key -/

/-- The mark between two fields of a key -/
def keySeparator : Char :=
  '\x1f'

/-- `std::to_string` of a signed number -/
def intText : Int → List Char
  | .ofNat n => Nat.toDigits 10 n
  | .negSucc n => '-' :: Nat.toDigits 10 (n + 1)

/-- The fields of a key that every request has -/
def identityFields (r : SplitWarmupRequest) : List (List Char) :=
  [Nat.toDigits 10 r.hostgroupId,
    r.rest.username.toList,
    r.rest.dbname.toList,
    r.rest.startupClient.identity.host.toList,
    Nat.toDigits 10 r.rest.startupClient.identity.source.toNat,
    intText r.rest.startupClient.identity.port,
    (if r.rest.startupClient.frontendSsl then "ssl" else "nossl").toList,
    r.rest.startupClient.sslVersion.toList,
    r.rest.startupClient.sslCipher.toList,
    (if r.rest.startupClient.hasProxySession then "sid" else "nosid").toList,
    Nat.toDigits 10 r.rest.startupClient.proxySessionId,
    Nat.toDigits 10 r.rest.startupClient.proxyCancelKey,
    Nat.toDigits 10 r.rest.startupIdentityMode.toNat,
    Nat.toDigits 10 r.rest.startupConfigGeneration,
    Nat.toDigits 10 (if r.rest.hasStartupParameters then 1 else 0),
    Nat.toDigits 10 r.rest.startupOptionsHash]

/-- The fields of a key that a request with a target has beside them.  A repair is one step;
the steps of an expansion are told apart by the free count they require. -/
def targetFields (r : SplitWarmupRequest) : List (List Char) :=
  if r.hasTargetServer then
    [r.targetAddress.toList,
      Nat.toDigits 10 r.targetPort,
      Nat.toDigits 10 r.rest.targetServerListGeneration] ++
    (if r.rest.targetServerListGeneration = 0 then
      [Nat.toDigits 10 r.targetRequiredFreeCount] else [])
  else []

/-- `polardb_split_warmup_key` -/
def splitWarmupKey (r : SplitWarmupRequest) : List Char :=
  [keySeparator].intercalate (identityFields r ++ targetFields r)

/-! ## Reading a key -/

/-- No text of a request contains the separator. -/
structure Request.Plain (r : SplitWarmupRequest) : Prop where
  username : keySeparator ∉ r.rest.username.toList
  dbname : keySeparator ∉ r.rest.dbname.toList
  host : keySeparator ∉ r.rest.startupClient.identity.host.toList
  sslVersion : keySeparator ∉ r.rest.startupClient.sslVersion.toList
  sslCipher : keySeparator ∉ r.rest.startupClient.sslCipher.toList
  address : keySeparator ∉ r.targetAddress.toList

instance (r : SplitWarmupRequest) : Decidable r.Plain :=
  decidable_of_iff
    (keySeparator ∉ r.rest.username.toList ∧ keySeparator ∉ r.rest.dbname.toList ∧
      keySeparator ∉ r.rest.startupClient.identity.host.toList ∧
      keySeparator ∉ r.rest.startupClient.sslVersion.toList ∧
      keySeparator ∉ r.rest.startupClient.sslCipher.toList ∧
      keySeparator ∉ r.targetAddress.toList)
    ⟨fun ⟨a, b, c, d, e, f⟩ => ⟨a, b, c, d, e, f⟩, fun ⟨a, b, c, d, e, f⟩ => ⟨a, b, c, d, e, f⟩⟩

theorem separator_not_mem_toDigits
    (n : Nat) :
    keySeparator ∉ Nat.toDigits 10 n :=
  not_mem_toDigits rfl n

theorem separator_not_mem_intText
    (i : Int) :
    keySeparator ∉ intText i := by
  cases i with
  | ofNat n =>
      exact separator_not_mem_toDigits n
  | negSucc n =>
      intro hmem
      rcases List.mem_cons.mp hmem with hdash | hdigit
      · exact absurd hdash (by decide)
      · exact separator_not_mem_toDigits _ hdigit

theorem intText_inj
    {i j : Int} :
    intText i = intText j ↔ i = j := by
  have hdash : ∀ n m : Nat, Nat.toDigits 10 n ≠ '-' :: Nat.toDigits 10 m := by
    intro n m h
    exact not_mem_toDigits (c := '-') rfl n (h ▸ List.mem_cons_self)
  constructor
  · intro h
    cases i with
    | ofNat n =>
        cases j with
        | ofNat m =>
            exact congrArg Int.ofNat (toDigits_inj.mp h)
        | negSucc m =>
            exact absurd h (hdash n (m + 1))
    | negSucc n =>
        cases j with
        | ofNat m =>
            exact absurd h.symm (hdash m (n + 1))
        | negSucc m =>
            have htail := toDigits_inj.mp (List.cons.inj h).2
            rw [Nat.succ_injective htail]
  · rintro rfl
    rfl

theorem separator_not_mem_field
    {r : SplitWarmupRequest}
    (hr : r.Plain)
    {field : List Char}
    (hfield : field ∈ identityFields r ++ targetFields r) :
    keySeparator ∉ field := by
  have htext : ∀ b : Bool, ∀ s t : String, keySeparator ∉ s.toList → keySeparator ∉ t.toList →
      keySeparator ∉ (if b then s else t).toList := by
    intro b s t hs ht
    cases b with
    | false => exact ht
    | true => exact hs
  rcases List.mem_append.mp hfield with hid | htarget
  · simp only [identityFields, List.mem_cons, List.not_mem_nil, or_false] at hid
    rcases hid with rfl | rfl | rfl | rfl | rfl | rfl | rfl | rfl | rfl | rfl | rfl | rfl | rfl |
      rfl | rfl | rfl
    · exact separator_not_mem_toDigits _
    · exact hr.username
    · exact hr.dbname
    · exact hr.host
    · exact separator_not_mem_toDigits _
    · exact separator_not_mem_intText _
    · exact htext _ _ _ (by decide) (by decide)
    · exact hr.sslVersion
    · exact hr.sslCipher
    · exact htext _ _ _ (by decide) (by decide)
    · exact separator_not_mem_toDigits _
    · exact separator_not_mem_toDigits _
    · exact separator_not_mem_toDigits _
    · exact separator_not_mem_toDigits _
    · exact separator_not_mem_toDigits _
    · exact separator_not_mem_toDigits _
  · unfold targetFields at htarget
    split at htarget
    · rcases List.mem_append.mp htarget with hpinned | hcount
      · simp only [List.mem_cons, List.not_mem_nil, or_false] at hpinned
        rcases hpinned with rfl | rfl | rfl
        · exact hr.address
        · exact separator_not_mem_toDigits _
        · exact separator_not_mem_toDigits _
      · split at hcount
        · obtain rfl := List.mem_singleton.mp hcount
          exact separator_not_mem_toDigits _
        · cases hcount
    · cases htarget

theorem splitWarmupKey_inj
    {r t : SplitWarmupRequest}
    (hr : r.Plain)
    (ht : t.Plain) :
    splitWarmupKey r = splitWarmupKey t ↔
      identityFields r = identityFields t ∧ targetFields r = targetFields t := by
  have hne : ∀ u : SplitWarmupRequest, identityFields u ++ targetFields u ≠ [] := by
    intro u h
    exact absurd (List.append_eq_nil_iff.mp h).1 (by simp [identityFields])
  constructor
  · intro h
    unfold splitWarmupKey at h
    have hsplit := congrArg (List.splitOn keySeparator) h
    rw [List.splitOn_intercalate _ (fun _ => separator_not_mem_field hr) (hne r),
      List.splitOn_intercalate _ (fun _ => separator_not_mem_field ht) (hne t)] at hsplit
    exact List.append_inj hsplit rfl
  · rintro ⟨hid, htarget⟩
    unfold splitWarmupKey
    rw [hid, htarget]

theorem ite_toList_inj
    {a b : Bool} {s t : String}
    (hne : s ≠ t) :
    (if a then s else t).toList = (if b then s else t).toList ↔ a = b := by
  rw [String.toList_inj]
  cases a with
  | false =>
      cases b with
      | false => simp
      | true => simpa using hne.symm
  | true =>
      cases b with
      | false => simpa using hne
      | true => simp

theorem IdentitySource.toNat_inj
    {a b : IdentitySource} :
    a.toNat = b.toNat ↔ a = b := by
  cases a <;> cases b <;> decide

theorem IdentityMode.toNat_inj
    {a b : IdentityMode} :
    a.toNat = b.toNat ↔ a = b := by
  cases a <;> cases b <;> decide

/-- The same startup identity, whatever the passwords: what a connection can be reused for -/
structure SameIdentity (r t : SplitWarmupRequest) : Prop where
  hostgroupId : r.hostgroupId = t.hostgroupId
  username : r.rest.username = t.rest.username
  dbname : r.rest.dbname = t.rest.dbname
  startupClient : r.rest.startupClient.compatibleForReuse t.rest.startupClient = true
  identityMode : r.rest.startupIdentityMode = t.rest.startupIdentityMode
  configGeneration : r.rest.startupConfigGeneration = t.rest.startupConfigGeneration
  hasStartupParameters : r.rest.hasStartupParameters = t.rest.hasStartupParameters
  startupOptionsHash : r.rest.startupOptionsHash = t.rest.startupOptionsHash

/-- The same target: none, or one server of one server list, and for the steps of an expansion one
required free count. -/
structure SameTarget (r t : SplitWarmupRequest) : Prop where
  hasTargetServer : r.hasTargetServer = t.hasTargetServer
  address : r.targetAddress = t.targetAddress
  port : r.targetPort = t.targetPort
  serverList : r.hasTargetServer = true →
    r.rest.targetServerListGeneration = t.rest.targetServerListGeneration
  requiredFreeCount : r.hasTargetServer = true → r.rest.targetServerListGeneration = 0 →
    r.targetRequiredFreeCount = t.targetRequiredFreeCount

theorem identityFields_eq_iff
    {r t : SplitWarmupRequest} :
    identityFields r = identityFields t ↔ SameIdentity r t := by
  have hflag : ∀ a b : Bool, (if a then 1 else 0) = (if b then 1 else 0 : Nat) ↔ a = b := by
    decide
  unfold identityFields
  simp only [List.cons.injEq, and_true, toDigits_inj, String.toList_inj, intText_inj,
    ite_toList_inj (show "ssl" ≠ "nossl" by decide),
    ite_toList_inj (show "sid" ≠ "nosid" by decide), hflag, IdentitySource.toNat_inj,
    IdentityMode.toNat_inj]
  constructor
  · rintro ⟨hhost, huser, hdb, hip, hsource, hport, hssl, hversion, hcipher, hsession, hid, hkey,
      hmode, hgeneration, hparams, hoptions⟩
    refine ⟨hhost, huser, hdb, ?_, hmode, hgeneration, hparams, hoptions⟩
    simp only [StartupClientContext.compatibleForReuse, Bool.and_eq_true, beq_iff_eq]
    exact ⟨⟨⟨⟨⟨⟨⟨⟨hsource, hip⟩, hport⟩, hssl⟩, hversion⟩, hcipher⟩, hsession⟩, hid⟩, hkey⟩
  · rintro ⟨hhost, huser, hdb, hclient, hmode, hgeneration, hparams, hoptions⟩
    rw [StartupClientContext.compatibleForReuse_iff] at hclient
    rw [hclient]
    exact ⟨hhost, huser, hdb, rfl, rfl, rfl, rfl, rfl, rfl, rfl, rfl, rfl, hmode, hgeneration,
      hparams, hoptions⟩

theorem hasTargetServer_eq_false
    {r : SplitWarmupRequest} :
    r.hasTargetServer = false ↔ r.targetAddress = "" ∧ r.targetPort = 0 := by
  simp [Request.hasTargetServer]

theorem targetFields_eq_iff
    {r t : SplitWarmupRequest} :
    targetFields r = targetFields t ↔ SameTarget r t := by
  unfold targetFields
  cases hr : r.hasTargetServer with
  | false =>
      obtain ⟨haddress, hport⟩ := hasTargetServer_eq_false.mp hr
      cases ht : t.hasTargetServer with
      | false =>
          obtain ⟨haddress', hport'⟩ := hasTargetServer_eq_false.mp ht
          refine ⟨fun _ => ⟨hr.trans ht.symm, haddress.trans haddress'.symm,
            hport.trans hport'.symm, ?_, ?_⟩, fun _ => rfl⟩
          · intro h
            rw [hr] at h
            cases h
          · intro h
            rw [hr] at h
            cases h
      | true =>
          constructor
          · intro h
            cases h
          · intro h
            have hsame := h.hasTargetServer
            rw [hr, ht] at hsame
            cases hsame
  | true =>
      cases ht : t.hasTargetServer with
      | false =>
          constructor
          · intro h
            cases h
          · intro h
            have hsame := h.hasTargetServer
            rw [hr, ht] at hsame
            cases hsame
      | true =>
          rw [if_pos rfl, if_pos rfl]
          constructor
          · intro h
            obtain ⟨hpinned, hcount⟩ := List.append_inj h rfl
            simp only [List.cons.injEq, and_true, String.toList_inj, toDigits_inj] at hpinned
            obtain ⟨haddress, hport, hgeneration⟩ := hpinned
            refine ⟨hr.trans ht.symm, haddress, hport, fun _ => hgeneration, fun _ hzero => ?_⟩
            rw [if_pos hzero, if_pos (hgeneration ▸ hzero)] at hcount
            simpa [toDigits_inj] using hcount
          · intro h
            rw [h.address, h.port, h.serverList hr]
            split
            · rename_i hzero
              rw [h.requiredFreeCount hr ((h.serverList hr).trans hzero)]
            · rfl

/-- Two requests have one key exactly if they ask for connections of one identity to one target. -/
theorem splitWarmupKey_eq_iff
    {r t : SplitWarmupRequest}
    (hr : r.Plain)
    (ht : t.Plain) :
    splitWarmupKey r = splitWarmupKey t ↔ SameIdentity r t ∧ SameTarget r t := by
  rw [splitWarmupKey_inj hr ht, identityFields_eq_iff, targetFields_eq_iff]

/-- The step of an expansion that requires a number of free connections -/
def sampleStep (password : String) (requiredFreeCount : Nat) : SplitWarmupRequest where
  hostgroupId := 1
  rest :=
    { username := "u"
      password
      dbname := "d"
      startupClient := { identity := ⟨"c", -4000, .client⟩, sslVersion := "TLSv1.3" }
      startupOptionsHash := 9
      hasStartupParameters := true
      startupIdentityMode := .client
      startupConfigGeneration := 3
      requestedAtUs := 7
      targetServerListGeneration := 0 }
  maxConnectionsPerRequest := 1
  targetAddress := "a"
  targetPort := 5432
  targetRequiredFreeCount := requiredFreeCount

theorem splitWarmupKey_eq_iff_steps :
    splitWarmupKey (sampleStep "p" 1) = splitWarmupKey (sampleStep "q" 2) ↔
      SameIdentity (sampleStep "p" 1) (sampleStep "q" 2) ∧
        SameTarget (sampleStep "p" 1) (sampleStep "q" 2) :=
  splitWarmupKey_eq_iff (by decide) (by decide)

end Warmup

end PolarProxy
