import Deoxys.Rocks

/-!
# Deoxys.BonsaiDb

The trie database adapter of `crates/client/db/src/bonsai_db.rs`: the two implementations of the
trie library's `BonsaiDatabase` contract, one over the live RocksDB database (`BonsaiDb`) and one
over an optimistic transaction (`BonsaiTransaction`), and the `BonsaiPersistentDatabase`
operations `snapshot`, `transaction` and `merge`.

Every operation first maps the `DatabaseKey` to its column family with `DatabaseKeyMapping.map`.
The two prefix operations read an iterator from the prefix; `prefixEntries` and `deleteLoop` are
their loops, item by item as the source writes them: `map_while` in `get_by_prefix`, the `for`
loop with its two `break`s in `remove_by_prefix`. The iterator failure position `fault` is the
environment's: `none` is a healthy scan.

The other RocksDB calls can fail too, and the `?` after them passes the error on. Each operation
takes the failure of its calls as the environment's argument `err`: `some e` is the error one of
them returns, and a failing `get_cf`, `put_cf`, `delete_cf` or `write` writes nothing, so the
operation returns `e` and changes nothing. A transaction's `rebuild_from_writebatch` replays a
batch one operation at a time, so its failure is a position, as an iterator's is: the operations
before it stay replayed, and the error carries the transaction as it was left.

A `BonsaiTransaction` holds a reference to the shared database; its operations take the live
`DB` as an argument. `transaction` checks that a snapshot exists at `id`, builds read options
pinned to it, and drops them: the transaction it returns keeps no trace of the snapshot.
-/

namespace Deoxys

open Rocks

/-- `bonsai_trie::DatabaseKey`: a key in one of the trie library's three namespaces. -/
inductive DatabaseKey where
  | trie (k : Bytes)
  | flat (k : Bytes)
  | trieLog (k : Bytes)
  deriving DecidableEq, Repr

/-- `DatabaseKey::as_slice`. -/
def DatabaseKey.asSlice : DatabaseKey → Bytes
  | .trie k => k
  | .flat k => k
  | .trieLog k => k

/-- `BasicId`, the trie library's `u64` identifier of a committed version. -/
abbrev BasicId := UInt64

/-- `BonsaiDbError`, the adapter's error: a wrapped RocksDB error. -/
inductive BonsaiDbError where
  | rocksDb (e : Rocks.Error)
  deriving DecidableEq, Repr

section Adapter

variable {Column : Type} [DecidableEq Column]

/-- `DatabaseKeyMapping`: the column family of each namespace. -/
structure DatabaseKeyMapping (Column : Type) where
  flat : Column
  trie : Column
  trieLog : Column

/-- `DatabaseKeyMapping::map`. -/
def DatabaseKeyMapping.map (m : DatabaseKeyMapping Column) : DatabaseKey → Column
  | .trie _ => m.trie
  | .flat _ => m.flat
  | .trieLog _ => m.trieLog

/-- The `map_while` of `get_by_prefix`: entries while they are `Ok` and start with `p`. -/
def prefixEntries (p : Bytes) : List (Except Rocks.Error (Bytes × Bytes)) → List (Bytes × Bytes)
  | [] => []
  | .ok (k, v) :: rest => if p.isPrefixOf k then (k, v) :: prefixEntries p rest else []
  | .error _ :: _ => []

/-- The `for` loop of `remove_by_prefix`: a `delete_cf` for each key while the items are `Ok`
and start with `p`; a non-matching key or an `Err` breaks out. -/
def deleteLoop (cf : Column) (p : Bytes) :
    List (Except Rocks.Error (Bytes × Bytes)) → WriteBatch Column → WriteBatch Column
  | [], b => b
  | .ok (k, _) :: rest, b =>
    if p.isPrefixOf k then deleteLoop cf p rest (b ++ [.delete cf k]) else b
  | .error _ :: _, b => b

/-- The `?` after the RocksDB calls of an operation: `some e` is the error one of them returns,
which the operation passes on, having written nothing. -/
def propagate {α : Type} : Option Rocks.Error → Except BonsaiDbError α → Except BonsaiDbError α
  | some e, _ => .error (.rocksDb e)
  | none, r => r

@[simp] theorem propagate_none {α : Type} (r : Except BonsaiDbError α) : propagate none r = r :=
  rfl

@[simp] theorem propagate_some {α : Type} (e : Rocks.Error) (r : Except BonsaiDbError α) :
    propagate (some e) r = .error (.rocksDb e) :=
  rfl

/-- `BonsaiDb`: the live database, the column mapping and the snapshot table. -/
structure BonsaiDb (Column : Type) where
  db : DB Column
  columnMapping : DatabaseKeyMapping Column
  snapshots : BasicId → Option (Snapshot Column)

/-- `BonsaiTransaction`: an optimistic transaction and the column mapping. -/
structure BonsaiTransaction (Column : Type) where
  txn : Txn Column
  columnMapping : DatabaseKeyMapping Column

namespace BonsaiDb

/-- `BonsaiDb::new`. -/
def new (db : DB Column) (columnMapping : DatabaseKeyMapping Column) : BonsaiDb Column :=
  ⟨db, columnMapping, fun _ => none⟩

def createBatch (_ : BonsaiDb Column) : WriteBatch Column := []

/-- `get`: `get_cf`, failing with `err`. -/
def get (err : Option Rocks.Error) (s : BonsaiDb Column) (key : DatabaseKey) :
    Except BonsaiDbError (Option Bytes) :=
  propagate err (.ok ((s.db.cols (s.columnMapping.map key)).get key.asSlice))

def getByPrefix (fault : Option Nat) (s : BonsaiDb Column) (pre : DatabaseKey) :
    Except BonsaiDbError (List (Bytes × Bytes)) :=
  let iter := s.db.iteratorCf (s.columnMapping.map pre) pre.asSlice fault
  .ok (prefixEntries pre.asSlice iter)

/-- `contains`: `get_cf`, failing with `err`. -/
def contains (err : Option Rocks.Error) (s : BonsaiDb Column) (key : DatabaseKey) :
    Except BonsaiDbError Bool :=
  propagate err (.ok ((s.db.cols (s.columnMapping.map key)).get key.asSlice).isSome)

/-- `insert`: the previous value, the database, and the caller's batch. `get_cf`, or the
`put_cf` made without a batch, fails with `err`. -/
def insert (err : Option Rocks.Error) (s : BonsaiDb Column) (key : DatabaseKey) (value : Bytes)
    (batch : Option (WriteBatch Column)) :
    Except BonsaiDbError (Option Bytes × BonsaiDb Column × Option (WriteBatch Column)) :=
  let handle := s.columnMapping.map key
  let oldValue := (s.db.cols handle).get key.asSlice
  propagate err <| match batch with
    | some b => .ok (oldValue, s, some (b ++ [.put handle key.asSlice value]))
    | none => .ok (oldValue, { s with db := s.db.putCf handle key.asSlice value }, none)

/-- `remove`: `get_cf`, or the `delete_cf` made without a batch, fails with `err`. -/
def remove (err : Option Rocks.Error) (s : BonsaiDb Column) (key : DatabaseKey)
    (batch : Option (WriteBatch Column)) :
    Except BonsaiDbError (Option Bytes × BonsaiDb Column × Option (WriteBatch Column)) :=
  let handle := s.columnMapping.map key
  let oldValue := (s.db.cols handle).get key.asSlice
  propagate err <| match batch with
    | some b => .ok (oldValue, s, some (b ++ [.delete handle key.asSlice]))
    | none => .ok (oldValue, { s with db := s.db.deleteCf handle key.asSlice }, none)

/-- `write_batch`: `write`, failing with `err`. -/
def writeBatch (err : Option Rocks.Error) (s : BonsaiDb Column) (batch : WriteBatch Column) :
    Except BonsaiDbError (BonsaiDb Column) :=
  propagate err (.ok { s with db := s.db.write batch })

/-- `remove_by_prefix`: the iterator fails at `fault`, the final `write_batch` with `err`. -/
def removeByPrefix (fault : Option Nat) (err : Option Rocks.Error) (s : BonsaiDb Column)
    (pre : DatabaseKey) : Except BonsaiDbError (BonsaiDb Column) :=
  let handle := s.columnMapping.map pre
  let iter := s.db.iteratorCf handle pre.asSlice fault
  s.writeBatch err (deleteLoop handle pre.asSlice iter s.createBatch)

/-- `snapshot`: take a snapshot of the live database under `id`, replacing an older one. -/
def snapshot (s : BonsaiDb Column) (id : BasicId) : BonsaiDb Column :=
  { s with snapshots := Function.update s.snapshots id (some s.db.snapshot) }

/-- `transaction`: `None` without a snapshot at `id`; otherwise a new optimistic transaction on
the live database. The read options pinned to the snapshot are built and then dropped. -/
def transaction (s : BonsaiDb Column) (id : BasicId) : Option (BonsaiTransaction Column) :=
  match s.snapshots id with
  | some _ => some ⟨s.db.transactionOpt, s.columnMapping⟩
  | none => none

/-- `merge`: commit the transaction into the live database; the commit's write fails with
`err`. -/
def merge (err : Option Rocks.Error) (s : BonsaiDb Column) (t : BonsaiTransaction Column) :
    Except BonsaiDbError (BonsaiDb Column) :=
  match t.txn.commit err s.db with
  | .ok db => .ok { s with db := db }
  | .error e => .error (.rocksDb e)

end BonsaiDb

namespace BonsaiTransaction

/-- `create_batch`: the transaction's whole pending write batch, copied. -/
def createBatch (t : BonsaiTransaction Column) : WriteBatch Column := t.txn.getWritebatch

/-- `get`: the transaction's `get_cf`, failing with `err`. -/
def get (err : Option Rocks.Error) (db : DB Column) (t : BonsaiTransaction Column)
    (key : DatabaseKey) : Except BonsaiDbError (Option Bytes) :=
  propagate err (.ok (t.txn.getCf db (t.columnMapping.map key) key.asSlice))

def getByPrefix (fault : Option Nat) (db : DB Column) (t : BonsaiTransaction Column)
    (pre : DatabaseKey) : Except BonsaiDbError (List (Bytes × Bytes)) :=
  let iter := t.txn.iteratorCf db (t.columnMapping.map pre) pre.asSlice fault
  .ok (prefixEntries pre.asSlice iter)

/-- `contains`: the transaction's `get_cf`, failing with `err`. -/
def contains (err : Option Rocks.Error) (db : DB Column) (t : BonsaiTransaction Column)
    (key : DatabaseKey) : Except BonsaiDbError Bool :=
  propagate err (.ok (t.txn.getCf db (t.columnMapping.map key) key.asSlice).isSome)

/-- `insert`: the transaction's `get_cf`, or its `put_cf` made without a batch, fails with
`err`. -/
def insert (err : Option Rocks.Error) (db : DB Column) (t : BonsaiTransaction Column)
    (key : DatabaseKey) (value : Bytes) (batch : Option (WriteBatch Column)) :
    Except BonsaiDbError
      (Option Bytes × BonsaiTransaction Column × Option (WriteBatch Column)) :=
  let handle := t.columnMapping.map key
  let oldValue := t.txn.getCf db handle key.asSlice
  propagate err <| match batch with
    | some b => .ok (oldValue, t, some (b ++ [.put handle key.asSlice value]))
    | none => .ok (oldValue, { t with txn := t.txn.putCf handle key.asSlice value }, none)

/-- `remove`: the transaction's `get_cf`, or its `delete_cf` made without a batch, fails with
`err`. -/
def remove (err : Option Rocks.Error) (db : DB Column) (t : BonsaiTransaction Column)
    (key : DatabaseKey) (batch : Option (WriteBatch Column)) :
    Except BonsaiDbError
      (Option Bytes × BonsaiTransaction Column × Option (WriteBatch Column)) :=
  let handle := t.columnMapping.map key
  let oldValue := t.txn.getCf db handle key.asSlice
  propagate err <| match batch with
    | some b => .ok (oldValue, t, some (b ++ [.delete handle key.asSlice]))
    | none => .ok (oldValue, { t with txn := t.txn.deleteCf handle key.asSlice }, none)

/-- `write_batch`: `rebuild_from_writebatch`, replaying the batch into the transaction one
operation at a time. A failure `err = some (j, e)` stops the replay after its first `j`
operations: the error comes with the transaction holding them. -/
def writeBatch (err : Option (Nat × Rocks.Error)) (t : BonsaiTransaction Column)
    (batch : WriteBatch Column) :
    Except (BonsaiDbError × BonsaiTransaction Column) (BonsaiTransaction Column) :=
  match err with
  | none => .ok { t with txn := t.txn.rebuildFromWritebatch batch }
  | some (j, e) => .error (.rocksDb e, { t with txn := t.txn.rebuildFromWritebatch (batch.take j) })

/-- `remove_by_prefix`: the iterator fails at `fault`, the final `write_batch` with `err`. -/
def removeByPrefix (fault : Option Nat) (err : Option (Nat × Rocks.Error)) (db : DB Column)
    (t : BonsaiTransaction Column) (pre : DatabaseKey) :
    Except (BonsaiDbError × BonsaiTransaction Column) (BonsaiTransaction Column) :=
  let handle := t.columnMapping.map pre
  let iter := t.txn.iteratorCf db handle pre.asSlice fault
  t.writeBatch err (deleteLoop handle pre.asSlice iter t.createBatch)

end BonsaiTransaction

end Adapter

end Deoxys
