import Mathlib.Algebra.GroupWithZero.Nat
import Mathlib.Algebra.Ring.Int.Defs
import Mathlib.Data.List.AList
import Mathlib.Data.List.FinRange
import Mathlib.Logic.Function.Basic
import PolarProxy.Library.SwapRemove

/-!
# The query cache

An entry of the query cache stands in the vector of one of 32 arrays, which owns it, and in
the index of this array under its key, which does not.  A set makes a new entry, marks the
one that was in the index as superseded and takes its place there; the superseded entry
stays in the vector until a purge.

Every operation is cut where its lock is released.  A get looks the key up, then tries to
own the entry, then checks its times; a purge looks at the vector of an array first and drops
entries later, with the marks it found; a flush clears one array after the other.  The steps
of any number of threads and purges may come in any order.

Times are values of type `uint64_t`, and sums of them wrap around.  The floating point
expressions and the size of an entry are fields of `Arith`.  The counters
`Glo_num_entries` and `Glo_size_values` are integers, so that a difference that would wrap
is a negative number; they change in the step that changes the arrays.
-/

namespace PolarProxy

namespace QueryCache

/-- `SHARED_QUERY_CACHE_HASH_TABLES` -/
def sharedQueryCacheHashTables : Nat := 32

/-- `EXPIRE_DROPIT` -/
def expireDropit : Nat := 0

/-- Sums of type `uint64_t` -/
def wrap64 (n : Nat) : Nat :=
  n % 2 ^ 64

/-- What the compiler decides. -/
structure Arith where
  /-- `sizeof(TypeQCEntry)` -/
  qcEntrySize : Nat
  /-- `total > size * 0.01` -/
  overHundredth : Int → Int → Bool
  /-- `min + (max - min) * 0.1` -/
  lowerMark : Nat → Nat → Nat
  /-- `size * 100 / max`, cut to an integer -/
  pct : Int → Nat → Nat

/-- Exact arithmetic, with the size of an entry for PostgreSQL. -/
def exactArith : Arith where
  qcEntrySize := 64
  overHundredth := fun total size => total * 100 > size
  lowerMark := fun low high => low + (high - low) / 10
  pct := fun size max => (size * 100 / max).toNat

/-- `QC_entry_t` -/
structure QcEntry where
  key : Nat
  value : List UInt8
  length : Nat
  createMs : Nat
  expireMs : Nat
  accessMs : Nat
  refreshing : Bool
  deriving Inhabited, DecidableEq

/-- `KV_BtreeArray` -/
structure KvArray where
  entries : List Nat := []
  btMap : AList (fun _ : Nat => Nat) := ∅

/-- Where a thread is in `get`. -/
inductive Stage (K : Type) where
  | idle
  | looked (k : K) (entryPtr : Option Nat)
  | locked (k : K) (entryShared : Nat)
  deriving DecidableEq

/-- A call of `purge_some` between its two passes, with `access_ms_lower_mark` when it is
aggressive. -/
structure Purge where
  array : Fin sharedQueryCacheHashTables
  now : Nat
  lowerMark : Option Nat
  deriving DecidableEq

/-- The cache, the entries that were made, what `threads` threads do, the entries that clients
own, and the purges between their passes. -/
structure State (K : Type) (threads : Nat) where
  kvs : Fin sharedQueryCacheHashTables → KvArray
  objects : Nat → QcEntry
  made : Nat
  stages : Fin threads → Stage K
  held : List Nat
  purges : List Purge
  gloNumEntries : Int
  gloSizeValues : Int

/-- The arguments of `set`. -/
structure SetCall (K : Type) where
  key : K
  value : List UInt8
  createMs : Nat
  curtimeMs : Nat
  expireMs : Nat
  deriving DecidableEq

inductive Event (K : Type) (threads : Nat) where
  | set (call : SetCall K)
  | lookup (th : Fin threads) (k : K)
  | lock (th : Fin threads)
  | check (th : Fin threads) (curtimeMs cacheTtl softTtlPct : Nat)
  | release (j : Nat)
  | scan (i : Fin sharedQueryCacheHashTables) (now : Nat) (aggressive : Bool)
  | drop (j : Nat)
  | clear (i : Fin sharedQueryCacheHashTables)
  deriving DecidableEq

def arrayOf (key : Nat) : Fin sharedQueryCacheHashTables :=
  ⟨key % sharedQueryCacheHashTables, Nat.mod_lt _ (by decide)⟩

/-! ## Entries -/

namespace QcEntry

/-- The test of `purge_some` on `expire_ms`. -/
def expired (e : QcEntry) (now : Nat) : Bool :=
  e.expireMs == expireDropit || e.expireMs < now

/-- The test of `get` on the times of an entry. -/
def usable (e : QcEntry) (t cacheTtl : Nat) : Bool :=
  e.expireMs > t && wrap64 (e.createMs + cacheTtl) > t

/-- The test of `get` that starts a refresh. -/
def startsRefresh (e : QcEntry) (t cacheTtl softTtlPct : Nat) : Bool :=
  softTtlPct != 0 && !e.refreshing &&
    wrap64 (e.createMs + wrap64 (cacheTtl * softTtlPct) / 100) ≤ t

/-- The rest of `get` on an entry: the entry afterwards, and whether `get` returns it. -/
def check (e : QcEntry) (t cacheTtl softTtlPct : Nat) : QcEntry × Bool :=
  if e.usable t cacheTtl then
    if e.startsRefresh t cacheTtl softTtlPct then ({ e with refreshing := true }, false)
    else (if t > e.accessMs then { e with accessMs := t } else e, true)
  else (e, false)

/-- `entry->expire_ms = EXPIRE_DROPIT` -/
def dropIt (e : QcEntry) : QcEntry :=
  { e with expireMs := expireDropit }

end QcEntry

/-! ## Operations -/

namespace Stage

variable {K : Type}

/-- Whether the thread owns an entry. -/
def owns (st : Stage K) (id : Nat) : Bool :=
  match st with
  | .locked _ id' => id' == id
  | _ => false

end Stage

namespace State

variable {K : Type} {threads : Nat}

/-- No entries. -/
def init : State K threads where
  kvs := fun _ => {}
  objects := fun _ => default
  made := 0
  stages := fun _ => .idle
  held := []
  purges := []
  gloNumEntries := 0
  gloSizeValues := 0

section Operations

variable (s : State K threads)

/-- The array of an entry. -/
def home (id : Nat) : Fin sharedQueryCacheHashTables :=
  arrayOf (s.objects id).key

def indexed (key : Nat) : Option Nat :=
  (s.kvs (arrayOf key)).btMap.lookup key

/-- `use_count` of an entry: its vector, the threads and the clients that own it. -/
def useCount (id : Nat) : Nat :=
  (s.kvs (s.home id)).entries.count id + (List.finRange threads).countP (fun th => (s.stages th).owns id) +
    s.held.count id

/-- `add_to_entries`, with the index of the array as `replace` leaves it -/
def addEntry (key id : Nat) : Fin sharedQueryCacheHashTables → KvArray :=
  let kv := s.kvs (arrayOf key)
  Function.update s.kvs (arrayOf key)
    { entries := kv.entries ++ [id], btMap := (kv.btMap.erase key).insert key id }

/-- The entry of a key is marked when it can be owned. -/
def supersede (key : Nat) : Nat → QcEntry :=
  match s.indexed key with
  | none => s.objects
  | some found =>
      if 0 < s.useCount found then
        Function.update s.objects found (s.objects found).dropIt
      else s.objects

/-- `replace` -/
def replace (key : Nat) (entry : QcEntry) : State K threads :=
  { s with
    kvs := s.addEntry key s.made
    objects := Function.update (s.supersede key) s.made entry
    made := s.made + 1
    gloNumEntries := s.gloNumEntries + 1
    gloSizeValues := s.gloSizeValues + entry.length }

/-- `set` -/
def set (hash : K → Nat) (call : SetCall K) : State K threads :=
  s.replace (hash call.key)
    { key := hash call.key
      value := call.value
      length := call.value.length
      createMs := call.createMs
      expireMs := call.expireMs
      accessMs := call.curtimeMs
      refreshing := false }

/-- `KVs[i]->lookup(hk)` of `get` -/
def lookup (hash : K → Nat) (th : Fin threads) (k : K) : Option (State K threads) :=
  match s.stages th with
  | .idle => some { s with stages := Function.update s.stages th (.looked k (s.indexed (hash k))) }
  | _ => none

/-- `lock()` of `get`: the entry is owned if it still exists. -/
def lock (th : Fin threads) : Option (State K threads) :=
  match s.stages th with
  | .looked k (some id) =>
      if 0 < s.useCount id then
        some { s with stages := Function.update s.stages th (.locked k id) }
      else some { s with stages := Function.update s.stages th .idle }
  | .looked _ none => some { s with stages := Function.update s.stages th .idle }
  | _ => none

/-- The entry that `get` returns. -/
def answer (th : Fin threads) (t cacheTtl softTtlPct : Nat) : Option Nat :=
  match s.stages th with
  | .locked _ id => if ((s.objects id).check t cacheTtl softTtlPct).2 then some id else none
  | _ => none

/-- The rest of `get`; the client owns the entry that is returned. -/
def check (th : Fin threads) (t cacheTtl softTtlPct : Nat) : Option (State K threads) :=
  match s.stages th with
  | .locked _ id =>
      some { s with
        objects := Function.update s.objects id ((s.objects id).check t cacheTtl softTtlPct).1
        stages := Function.update s.stages th .idle
        held := s.held ++ (s.answer th t cacheTtl softTtlPct).toList }
  | _ => none

/-- A client gives an entry back. -/
def release (j : Nat) : Option (State K threads) :=
  if j < s.held.length then some { s with held := s.held.eraseIdx j } else none

/-- The bytes that are counted for every entry. -/
def entryOverhead (A : Arith) : Nat :=
  A.qcEntrySize + 8 * 2 + 8 * 2

/-- `get_data_size` -/
def getDataSize (A : Arith) : Int :=
  s.gloNumEntries * entryOverhead A

/-- `get_data_size_total` -/
def getDataSizeTotal (A : Arith) : Int :=
  (List.replicate sharedQueryCacheHashTables (s.getDataSize A)).sum + s.gloSizeValues

/-- `current_used_memory_pct` -/
def currentUsedMemoryPct (A : Arith) (maxMemorySize : Nat) : Nat :=
  if maxMemorySize = 0 then 100 else min 100 (A.pct (s.getDataSizeTotal A) maxMemorySize)

/-- The lengths of some entries. -/
def lengthSum (ids : List Nat) : Nat :=
  (ids.map fun id => (s.objects id).length).sum

/-- The first pass of `purge_some`; `none` when there is nothing to free. -/
def scan (A : Arith) (i : Fin sharedQueryCacheHashTables) (now : Nat) (aggressive : Bool) :
    Option Purge :=
  let entries := (s.kvs i).entries
  if aggressive then
    let access := entries.map fun id => (s.objects id).accessMs
    some ⟨i, now, some (A.lowerMark (access.foldl min (2 ^ 64 - 1)) (access.foldl max 0))⟩
  else
    let freeable := entries.filter fun id => (s.objects id).expired now
    if A.overHundredth (s.lengthSum freeable + freeable.length * entryOverhead A) (s.getDataSize A) then
      some ⟨i, now, none⟩
    else none

/-- `drop_entry` of `purge_some` -/
def drops (p : Purge) (id : Nat) : Bool :=
  s.useCount id ≤ 1 &&
    ((s.objects id).expired p.now || p.lowerMark.any fun mark => (s.objects id).accessMs < mark)

/-- The entries that the second pass of a purge drops, in order, and the vector it leaves. -/
def purged (p : Purge) : List Nat × List Nat :=
  SwapRemove.removeWhere (s.drops p) (s.kvs p.array).entries

/-- An index without the keys of some entries. -/
def eraseKeys (btMap : AList (fun _ : Nat => Nat)) (ids : List Nat) : AList (fun _ : Nat => Nat) :=
  ids.foldl (fun btMap id => btMap.erase (s.objects id).key) btMap

/-- The second pass of `purge_some`. -/
def purge (p : Purge) : State K threads :=
  { s with
    kvs := Function.update s.kvs p.array
      { entries := (s.purged p).2, btMap := s.eraseKeys (s.kvs p.array).btMap (s.purged p).1 }
    gloNumEntries := s.gloNumEntries - (s.purged p).1.length
    gloSizeValues := s.gloSizeValues - s.lengthSum (s.purged p).1 }

def drop (j : Nat) : Option (State K threads) :=
  (s.purges[j]?).map fun p => { s.purge p with purges := s.purges.eraseIdx j }

/-- `clear(true)` of one array -/
def clear (i : Fin sharedQueryCacheHashTables) : State K threads :=
  { s with
    kvs := Function.update s.kvs i {}
    objects := fun id =>
      if (s.kvs i).btMap.entries.any (fun e => e.2 == id) && 0 < s.useCount id then
        (s.objects id).dropIt
      else s.objects id }

end Operations

/-- One step of a thread. -/
def step (A : Arith) (hash : K → Nat) (s : State K threads) : Event K threads → Option (State K threads)
  | .set call => some (s.set hash call)
  | .lookup th k => s.lookup hash th k
  | .lock th => s.lock th
  | .check th t cacheTtl softTtlPct => s.check th t cacheTtl softTtlPct
  | .release j => s.release j
  | .scan i now aggressive => some { s with purges := s.purges ++ (s.scan A i now aggressive).toList }
  | .drop j => s.drop j
  | .clear i => some (s.clear i)

/-- The state after a run from the empty cache. -/
def after (A : Arith) (hash : K → Nat) (ls : List (Event K threads)) : Option (State K threads) :=
  ls.foldlM (step A hash) init

end State

end QueryCache

end PolarProxy
