import PolarProxy.Library.Buckets
import PolarProxy.Library.SwapRemove
import Mathlib.Algebra.Group.Int.Defs
import Mathlib.Algebra.Group.Nat.Defs
import Mathlib.Logic.Function.Basic

/-!
# Connection lists of a server

A server keeps its connections in two lists, FREE and USED.  Next to the
connections a list keeps their match keys, and the FREE list also keeps an index
from keys to connections.  A connection carries a hint of its position in the
list it is in; both lists share the hint, so it is checked before it is trusted.

A connection is known by a number and stands in a list at most once.  What a list
operation needs of its server is passed to it: which connections are reserved,
and how many empty buckets the index may keep.

**Operations.**  `addUnlocked`, `removeUnlocked`, `removeUnindexed`,
`removeMatching`, `unindex`, `rebuildFreeMatchIndex`, `ensureMatchIndexConsistent`,
`pruneEmptyMatchBuckets`.
-/

namespace PolarProxy

open Buckets SwapRemove

/-- `PgSQL_PoolMatchKey` -/
structure PoolMatchKey where
  profileGeneration : Nat := 0
  authHash : Nat := 0
  startupIdentityHash : Nat := 0
  startupOptionsHash : Nat := 0
  deriving DecidableEq

/-- All words of the key are zero. -/
def PoolMatchKey.isEmpty (key : PoolMatchKey) : Bool :=
  key == {}

/-- `UINT32_MAX`, the position hint of a connection outside the lists -/
def unsetPoolPosition : Nat :=
  2 ^ 32 - 1

/-- What a connection carries for the lists it is in. -/
structure PoolMark where
  corePoolPosition : Nat := unsetPoolPosition
  idleTrimPending : Bool := false
  exactPoolConnection : Bool := false
  deriving DecidableEq

abbrev PoolMarks :=
  Nat → PoolMark

def PoolMarks.setPosition (marks : PoolMarks) (conn position : Nat) : PoolMarks :=
  Function.update marks conn { marks conn with corePoolPosition := position }

/-- `polardb_finish_idle_trim_unlocked` -/
def PoolMarks.finishIdleTrim (marks : PoolMarks) (conn : Nat) : PoolMarks :=
  Function.update marks conn { marks conn with idleTrimPending := false }

/-- `PgSQL_SrvConnList` -/
structure ConnList where
  usedList : Bool
  conns : List Nat := []
  matchKeysByPosition : List PoolMatchKey := []
  matchingByKey : Index PoolMatchKey Nat := ∅
  emptyMatchBucketCount : Nat := 0

/-- What a list operation reads of the server. -/
structure ListEnv where
  /-- `polardb_connection_reserved_unlocked` -/
  reserved : Nat → Bool
  maxConnections : Int

/-- How many empty buckets the index may keep. -/
def ListEnv.emptyBucketLimit (env : ListEnv) : Nat :=
  env.maxConnections.toNat

namespace ConnList

def keyed (l : ConnList) : List (Nat × PoolMatchKey) :=
  l.conns.zip l.matchKeysByPosition

/-- `find_idx`: the hint first, then a search, which renews the hint. -/
def findIdx (l : ConnList) (marks : PoolMarks) (conn : Nat) : Option Nat × PoolMarks :=
  let position := (marks conn).corePoolPosition
  if l.conns[position]? = some conn then (some position, marks)
  else
    match l.conns.idxOf? conn with
    | some index => (some index, marks.setPosition conn index)
    | none => (none, marks)

/-! ## The index -/

def renewPositions (l : ConnList) (marks : PoolMarks) : PoolMarks :=
  l.conns.zipIdx.foldl (fun marks entry => marks.setPosition entry.1 entry.2) marks

/-- The key of a bucket, as often as the bucket names a connection. -/
def bucketClaims (env : ListEnv) (conn : Nat) (bucket : Sigma fun _ : PoolMatchKey => List Nat) :
    List PoolMatchKey :=
  if bucket.1.isEmpty then []
  else (bucket.2.filter fun c => c = conn ∧ env.reserved c = false).map fun _ => bucket.1

/-- The keys whose buckets name a connection, with repetitions. -/
def claimedKeys (l : ConnList) (env : ListEnv) (conn : Nat) : List PoolMatchKey :=
  l.matchingByKey.entries.flatMap (bucketClaims env conn)

/-- A connection keeps a key only if exactly one bucket entry names it. -/
def repairedKey (l : ConnList) (env : ListEnv) (conn : Nat) : PoolMatchKey :=
  match l.claimedKeys env conn with
  | [key] => key
  | _ => {}

/-- `repaired_index[key].push_back(conn)` -/
def pushIndexed (index : Index PoolMatchKey Nat) (entry : Nat × PoolMatchKey) :
    Index PoolMatchKey Nat :=
  if entry.2.isEmpty then index else put index entry.2 (bucket index entry.2 ++ [entry.1])

/-- `rebuild_free_match_index_unlocked` -/
def rebuildFreeMatchIndex (l : ConnList) (marks : PoolMarks) (env : ListEnv) :
    ConnList × PoolMarks :=
  let keys := l.conns.map (l.repairedKey env)
  ({ l with
      matchKeysByPosition := keys
      matchingByKey := (l.conns.zip keys).foldl pushIndexed ∅
      emptyMatchBucketCount := 0 },
    l.renewPositions marks)

/-- `ensure_match_index_consistent_unlocked`.  The USED list has no index, only
keys by position. -/
def ensureMatchIndexConsistent (l : ConnList) (marks : PoolMarks) (env : ListEnv) :
    ConnList × PoolMarks :=
  if l.matchKeysByPosition.length = l.conns.length then (l, marks)
  else if l.usedList then
    ({ l with
        matchKeysByPosition :=
          (l.matchKeysByPosition ++ List.replicate l.conns.length ({} : PoolMatchKey)).take l.conns.length
        matchingByKey := ∅ },
      l.renewPositions marks)
  else l.rebuildFreeMatchIndex marks env

/-- `limit_empty_match_buckets_unlocked`, after a bucket became empty -/
def limitEmptyMatchBuckets (l : ConnList) (env : ListEnv) (key : PoolMatchKey) : ConnList :=
  if l.emptyMatchBucketCount < env.emptyBucketLimit then
    { l with emptyMatchBucketCount := l.emptyMatchBucketCount + 1 }
  else { l with matchingByKey := drop l.matchingByKey key }

/-- `prune_empty_match_buckets_unlocked` -/
def pruneEmptyMatchBuckets (l : ConnList) : ConnList :=
  if l.usedList || l.emptyMatchBucketCount == 0 then l
  else { l with matchingByKey := prune l.matchingByKey, emptyMatchBucketCount := 0 }

/-- Store the rest of a bucket after an entry left it. -/
def shrinkBucket (l : ConnList) (env : ListEnv) (key : PoolMatchKey) (rest : List Nat) :
    ConnList :=
  let l := { l with matchingByKey := put l.matchingByKey key rest }
  if rest.isEmpty then l.limitEmptyMatchBuckets env key else l

/-- `unindex_unlocked` -/
def unindex (l : ConnList) (marks : PoolMarks) (env : ListEnv) (conn : Nat) :
    ConnList × PoolMarks :=
  let (l, marks) := l.ensureMatchIndexConsistent marks env
  let (position, marks) := l.findIdx marks conn
  match position.bind fun i => l.matchKeysByPosition[i]? with
  | none => (l, marks)
  | some key =>
      if key.isEmpty then (l, marks)
      else
        let entries := bucket l.matchingByKey key
        match entries.idxOf? conn with
        | none => (l, marks)
        | some i => (l.shrinkBucket env key (swapRemove entries i), marks)

/-! ## Adding and removing -/

/-- `add_unlocked` -/
def addUnlocked (l : ConnList) (marks : PoolMarks) (env : ListEnv) (conn : Nat)
    (key : Option PoolMatchKey) : ConnList × PoolMarks :=
  let (l, marks) := l.ensureMatchIndexConsistent marks env
  let recorded := key.getD {}
  let mark : PoolMark :=
    { corePoolPosition := l.conns.length
      idleTrimPending := false
      exactPoolConnection := (marks conn).exactPoolConnection || !recorded.isEmpty }
  let added := { l with
    conns := l.conns ++ [conn]
    matchKeysByPosition := l.matchKeysByPosition ++ [recorded] }
  let indexed :=
    if recorded.isEmpty || l.usedList then added
    else
      { added with
        matchingByKey := put l.matchingByKey recorded (bucket l.matchingByKey recorded ++ [conn])
        emptyMatchBucketCount :=
          if l.matchingByKey.lookup recorded = some [] then l.emptyMatchBucketCount - 1
          else l.emptyMatchBucketCount }
  (indexed, Function.update marks conn mark)

/-- `remove_unindexed_unlocked`: the last connection takes the freed place, with
its key and its hint. -/
def removeUnindexed (l : ConnList) (marks : PoolMarks) (index : Nat) :
    Option Nat × ConnList × PoolMarks :=
  match l.conns[index]?, l.conns.getLast? with
  | some conn, some last =>
      let marks := if l.usedList then marks else marks.finishIdleTrim conn
      let marks := marks.setPosition conn unsetPoolPosition
      let marks := if index + 1 < l.conns.length then marks.setPosition last index else marks
      (some conn,
        { l with
          conns := swapRemove l.conns index
          matchKeysByPosition := swapRemove l.matchKeysByPosition index },
        marks)
  | _, _ => (none, l, marks)

/-- `remove_unlocked`, without the reservation of the connection, which the server
keeps -/
def removeUnlocked (l : ConnList) (marks : PoolMarks) (env : ListEnv) (index : Nat) :
    Option Nat × ConnList × PoolMarks :=
  match l.conns[index]? with
  | none => (none, l, marks)
  | some conn =>
      let (l, marks) :=
        if l.usedList then l.ensureMatchIndexConsistent marks env else l.unindex marks env conn
      l.removeUnindexed marks index

/-- One attempt of `remove_matching_unlocked`: the outer `none` asks for a
rebuild. -/
def tryRemoveMatching (l : ConnList) (marks : PoolMarks) (env : ListEnv) (key : PoolMatchKey) :
    Option (Option Nat × ConnList × PoolMarks) :=
  let (l, marks) := l.ensureMatchIndexConsistent marks env
  let entries := bucket l.matchingByKey key
  match entries.getLast? with
  | none => some (none, l, marks)
  | some conn =>
      let (position, marks) := l.findIdx marks conn
      match position with
      | some index =>
          if l.matchKeysByPosition[index]? = some key then
            some ((l.shrinkBucket env key entries.dropLast).removeUnindexed marks index)
          else none
      | none => none

/-- `remove_matching_unlocked` -/
def removeMatching (l : ConnList) (marks : PoolMarks) (env : ListEnv) (key : PoolMatchKey) :
    Option Nat × ConnList × PoolMarks :=
  match l.tryRemoveMatching marks env key with
  | some result => result
  | none =>
      let (l, marks) := l.ensureMatchIndexConsistent marks env
      let (l, marks) := l.rebuildFreeMatchIndex marks env
      match l.tryRemoveMatching marks env key with
      | some result => result
      | none =>
          let (l, marks) := l.rebuildFreeMatchIndex marks env
          (none, l, marks)

/-- `find_match_key_unlocked` -/
def findMatchKey (l : ConnList) (marks : PoolMarks) (conn : Nat) :
    Option PoolMatchKey × PoolMarks :=
  let (position, marks) := l.findIdx marks conn
  let key := (position.bind fun i => l.matchKeysByPosition[i]?).getD {}
  (if key.isEmpty then none else some key, marks)

end ConnList

end PolarProxy
