import Deoxys.Bytes
import Mathlib.Logic.Function.Basic

/-!
# Deoxys.Rocks

The part of RocksDB that `bonsai_db.rs` calls through the `rocksdb` crate, with the semantics
that crate documents: column families of entries sorted by the bytewise comparator, write
batches applied in order, forward iterators from a key, snapshots, and optimistic transactions.

* `ColumnData`: the contents of one column family; the strict key order is a field, so every
  value of the type is a valid column.
* `iterItems`: what `iterator_cf(.., IteratorMode::From(k, Forward))` yields: the entries at or
  after `k` in ascending order. An I/O failure is a position `j` of the scan: the iterator yields
  the first `j` entries and then one `Err`, and stops.
* `Txn`: an optimistic transaction. Its reads see the live column families with its own pending
  write batch applied on top. `commit` checks each key it wrote against the memtables of the
  key's column family: `tryAgain` when they no longer reach back to the transaction's snapshot,
  `busy` when the key was written after it; otherwise it writes the batch. A transaction opened
  at the current sequence number commits (`commit_current`); once the memtables of a column
  family it wrote are switched after its snapshot, it cannot (`commit_switchMemtable`).
* The calls that can fail take their failure as an argument, chosen by the environment: a
  position for an iterator, `some e` for a write.
-/

namespace Deoxys
namespace Rocks

/-- The contents of one column family: entries in strictly ascending bytewise key order. -/
@[ext] structure ColumnData where
  entries : List (Bytes × Bytes)
  sorted : entries.Pairwise (fun a b => Bytes.lt a.1 b.1)

namespace ColumnData

def empty : ColumnData := ⟨[], .nil⟩

/-- `get_cf`: the value stored under `k`. -/
def get (c : ColumnData) (k : Bytes) : Option Bytes :=
  (c.entries.find? (fun e => e.1 = k)).map Prod.snd

/-- Insert `(k, v)` into an ascending entry list, replacing the entry of `k` if there is one. -/
def putEntries (k v : Bytes) : List (Bytes × Bytes) → List (Bytes × Bytes)
  | [] => [(k, v)]
  | e :: es =>
    if Bytes.lt k e.1 then (k, v) :: e :: es
    else if k = e.1 then (k, v) :: es
    else e :: putEntries k v es

theorem mem_putEntries {k v : Bytes} {e : Bytes × Bytes} :
    ∀ {es : List (Bytes × Bytes)}, e ∈ putEntries k v es → e = (k, v) ∨ e ∈ es
  | [], h => by simpa [putEntries] using h
  | e' :: es, h => by
    simp only [putEntries] at h
    split at h
    · simpa using h
    · split at h
      · simp only [List.mem_cons] at h
        rcases h with h | h
        · exact .inl h
        · exact .inr (List.mem_cons_of_mem _ h)
      · simp only [List.mem_cons] at h
        rcases h with h | h
        · exact .inr (h ▸ List.mem_cons_self _ _)
        · rcases mem_putEntries h with h | h
          · exact .inl h
          · exact .inr (List.mem_cons_of_mem _ h)

theorem putEntries_sorted (k v : Bytes) :
    ∀ {es : List (Bytes × Bytes)}, es.Pairwise (fun a b => Bytes.lt a.1 b.1) →
      (putEntries k v es).Pairwise (fun a b => Bytes.lt a.1 b.1)
  | [], _ => by simp [putEntries]
  | e :: es, h => by
    obtain ⟨hhead, htail⟩ := List.pairwise_cons.1 h
    simp only [putEntries]
    split
    · rename_i hlt
      exact List.Pairwise.cons (fun a ha => by
        rcases List.mem_cons.1 ha with rfl | ha
        · exact hlt
        · exact Bytes.lt_trans hlt (hhead a ha)) h
    · split
      · rename_i heq
        exact List.Pairwise.cons (fun a ha => heq ▸ hhead a ha) htail
      · rename_i hlt hne
        have hek : Bytes.lt e.1 k := by
          rcases Bytes.lt_trichotomy k e.1 with h | h | h
          · exact absurd h hlt
          · exact absurd h hne
          · exact h
        refine List.Pairwise.cons (fun a ha => ?_) (putEntries_sorted k v htail)
        rcases mem_putEntries ha with rfl | ha
        · exact hek
        · exact hhead a ha

/-- `put_cf`: store `v` under `k`. -/
def put (c : ColumnData) (k v : Bytes) : ColumnData :=
  ⟨putEntries k v c.entries, putEntries_sorted k v c.sorted⟩

/-- `delete_cf`: remove the entry of `k`. -/
def delete (c : ColumnData) (k : Bytes) : ColumnData :=
  ⟨c.entries.filter (fun e => e.1 ≠ k), c.sorted.sublist (List.filter_sublist _)⟩

@[simp] theorem delete_entries (c : ColumnData) (k : Bytes) :
    (c.delete k).entries = c.entries.filter (fun e => e.1 ≠ k) := rfl

theorem find_putEntries (k v k' : Bytes) :
    ∀ es : List (Bytes × Bytes), (putEntries k v es).find? (fun e => e.1 = k') =
      if k = k' then some (k, v) else es.find? (fun e => e.1 = k')
  | [] => by by_cases h : k = k' <;> simp [putEntries, h]
  | e :: es => by
    simp only [putEntries]
    split
    · by_cases h : k = k' <;> simp [h]
    · split
      · rename_i heq
        by_cases h : k = k' <;> simp [h, ← heq]
      · rename_i hne
        by_cases h : e.1 = k'
        · subst h; simp [Ne.symm hne, hne]
        · simp [h, find_putEntries k v k' es]

@[simp] theorem get_put (c : ColumnData) (k v k' : Bytes) :
    (c.put k v).get k' = if k' = k then some v else c.get k' := by
  by_cases h : k' = k
  · subst h; simp [get, put, find_putEntries]
  · simp [get, put, find_putEntries, Ne.symm h, h]

@[simp] theorem get_delete (c : ColumnData) (k k' : Bytes) :
    (c.delete k).get k' = if k' = k then none else c.get k' := by
  simp only [get, delete, List.find?_filter]
  by_cases h : k' = k
  · subst h
    simp only [if_true]
    rw [List.find?_eq_none.2]
    · rfl
    · intro e _; by_cases he : e.1 = k' <;> simp [he]
  · simp only [h, if_false]
    congr 2
    funext e
    by_cases he : e.1 = k'
    · subst he; simp [h]
    · simp [he]

/-- The entries whose key satisfies `f`. -/
def filter (c : ColumnData) (f : Bytes → Bool) : ColumnData :=
  ⟨c.entries.filter (fun e => f e.1), c.sorted.sublist (List.filter_sublist _)⟩

@[simp] theorem filter_entries (c : ColumnData) (f : Bytes → Bool) :
    (c.filter f).entries = c.entries.filter (fun e => f e.1) := rfl

theorem find_eq_none_of_lt {k : Bytes} :
    ∀ {es : List (Bytes × Bytes)}, (∀ e ∈ es, Bytes.lt k e.1) →
      es.find? (fun e => e.1 = k) = none
  | [], _ => rfl
  | e :: es, h => by
    have hne : e.1 ≠ k := fun he => by simpa [he] using h e (List.mem_cons_self _ _)
    simp [hne, find_eq_none_of_lt (fun e' he' => h e' (List.mem_cons_of_mem _ he'))]

theorem find_cons_of_ne {e : Bytes × Bytes} {es : List (Bytes × Bytes)} {k : Bytes}
    (h : e.1 ≠ k) : (e :: es).find? (fun e => e.1 = k) = es.find? (fun e => e.1 = k) := by
  simp [h]

/-- A sorted entry list is determined by its lookups. -/
theorem entries_ext_get :
    ∀ {l₁ l₂ : List (Bytes × Bytes)}, l₁.Pairwise (fun a b => Bytes.lt a.1 b.1) →
      l₂.Pairwise (fun a b => Bytes.lt a.1 b.1) →
      (∀ k, l₁.find? (fun e => e.1 = k) = l₂.find? (fun e => e.1 = k)) → l₁ = l₂
  | [], [], _, _, _ => rfl
  | [], b :: _, _, _, h => by simpa using h b.1
  | a :: _, [], _, _, h => by simpa using h a.1
  | a :: as, b :: bs, h₁, h₂, h => by
    obtain ⟨ha, has⟩ := List.pairwise_cons.1 h₁
    obtain ⟨hb, hbs⟩ := List.pairwise_cons.1 h₂
    rcases Bytes.lt_trichotomy a.1 b.1 with hab | hab | hab
    · have := h a.1
      rw [@find_eq_none_of_lt a.1 (b :: bs) (fun e he => by
        rcases List.mem_cons.1 he with rfl | he
        · exact hab
        · exact Bytes.lt_trans hab (hb e he))] at this
      simp at this
    · have hab' : a = b := by
        have := h a.1
        simp only [List.find?_cons, hab, decide_True] at this
        exact Prod.ext hab (by simpa using congrArg (Option.map Prod.snd) this)
      subst hab'
      refine congrArg _ (entries_ext_get has hbs fun k => ?_)
      by_cases hk : a.1 = k
      · subst hk; rw [find_eq_none_of_lt ha, find_eq_none_of_lt hb]
      · simpa [find_cons_of_ne hk] using h k
    · have := h b.1
      rw [@find_eq_none_of_lt b.1 (a :: as) (fun e he => by
        rcases List.mem_cons.1 he with rfl | he
        · exact hab
        · exact Bytes.lt_trans hab (ha e he))] at this
      simp at this

theorem find_key {es : List (Bytes × Bytes)} {k : Bytes} :
    es.find? (fun e => e.1 = k) = ((es.find? (fun e => e.1 = k)).map Prod.snd).map (Prod.mk k) := by
  cases h : es.find? (fun e => e.1 = k) with
  | none => rfl
  | some e =>
    have := List.find?_some h
    simp only [decide_eq_true_eq] at this
    simp [← this]

/-- A column is determined by its lookups. -/
theorem ext_get {c₁ c₂ : ColumnData} (h : ∀ k, c₁.get k = c₂.get k) : c₁ = c₂ := by
  ext1
  refine entries_ext_get c₁.sorted c₂.sorted fun k => ?_
  rw [find_key, @find_key c₂.entries]
  exact congrArg _ (h k)

end ColumnData

/-- `rocksdb::Error`, by the kind of failure the model distinguishes: an I/O error (or any other
failure of a read or a write), and the two results of a failed optimistic commit. -/
inductive Error where
  | ioError
  | busy
  | tryAgain
  deriving DecidableEq, Repr

section Batches

variable {Column : Type} [DecidableEq Column]

/-- One operation of a `WriteBatchWithTransaction`. -/
inductive BatchOp (Column : Type) where
  | put (cf : Column) (k v : Bytes)
  | delete (cf : Column) (k : Bytes)
  deriving DecidableEq

/-- `WriteBatchWithTransaction<true>`: its operations in the order they were recorded. -/
abbrev WriteBatch (Column : Type) := List (BatchOp Column)

/-- The column family an operation writes. -/
def BatchOp.cf : BatchOp Column → Column
  | .put cf _ _ => cf
  | .delete cf _ => cf

/-- The key an operation writes. -/
def BatchOp.key : BatchOp Column → Bytes
  | .put _ k _ => k
  | .delete _ k => k

/-- Apply one batch operation to the column families. -/
def BatchOp.apply (cols : Column → ColumnData) : BatchOp Column → Column → ColumnData
  | .put cf k v => Function.update cols cf ((cols cf).put k v)
  | .delete cf k => Function.update cols cf ((cols cf).delete k)

/-- Apply a batch's operations in order. -/
def applyBatch (cols : Column → ColumnData) (b : WriteBatch Column) : Column → ColumnData :=
  b.foldl BatchOp.apply cols

@[simp] theorem applyBatch_nil (cols : Column → ColumnData) : applyBatch cols [] = cols := rfl

@[simp] theorem applyBatch_append (cols : Column → ColumnData) (b b' : WriteBatch Column) :
    applyBatch cols (b ++ b') = applyBatch (applyBatch cols b) b' := by
  simp [applyBatch, List.foldl_append]

@[simp] theorem applyBatch_cons (cols : Column → ColumnData) (o : BatchOp Column)
    (b : WriteBatch Column) : applyBatch cols (o :: b) = applyBatch (o.apply cols) b := rfl

/-- A batch operation with its column family renamed. -/
def BatchOp.mapCf {α γ : Type} (f : α → γ) : BatchOp α → BatchOp γ
  | .put cf k v => .put (f cf) k v
  | .delete cf k => .delete (f cf) k

/-- Whether an operation writes key `k` of column family `cf`. -/
def BatchOp.touches (cf : Column) (k : Bytes) (o : BatchOp Column) : Bool := o.cf = cf ∧ o.key = k

/-- The value of `k` in `cf` after one operation, from its value before. -/
def BatchOp.step (cf : Column) (k : Bytes) (old : Option Bytes) : BatchOp Column → Option Bytes
  | .put cf' k' v => if cf' = cf ∧ k' = k then some v else old
  | .delete cf' k' => if cf' = cf ∧ k' = k then none else old

/-- The value of `k` in `cf` after a batch, from its value before. -/
def batchGet (b : WriteBatch Column) (cf : Column) (k : Bytes) (old : Option Bytes) :
    Option Bytes :=
  b.foldl (fun acc o => o.step cf k acc) old

theorem get_apply (cols : Column → ColumnData) (o : BatchOp Column) (cf : Column) (k : Bytes) :
    (o.apply cols cf).get k = o.step cf k ((cols cf).get k) := by
  rcases o with ⟨cf', k', v⟩ | ⟨cf', k'⟩ <;> by_cases hc : cf' = cf
  · subst hc; by_cases hk : k = k'
    · subst hk; simp [BatchOp.apply, BatchOp.step]
    · simp [BatchOp.apply, BatchOp.step, hk, Ne.symm hk]
  · simp [BatchOp.apply, BatchOp.step, hc, Function.update_noteq (Ne.symm hc)]
  · subst hc; by_cases hk : k = k'
    · subst hk; simp [BatchOp.apply, BatchOp.step]
    · simp [BatchOp.apply, BatchOp.step, hk, Ne.symm hk]
  · simp [BatchOp.apply, BatchOp.step, hc, Function.update_noteq (Ne.symm hc)]

/-- Reading after a batch. -/
theorem get_applyBatch (cols : Column → ColumnData) (b : WriteBatch Column) (cf : Column)
    (k : Bytes) : (applyBatch cols b cf).get k = batchGet b cf k ((cols cf).get k) := by
  induction b generalizing cols with
  | nil => rfl
  | cons o b ih => simp only [applyBatch_cons, ih, get_apply]; rfl

theorem step_eq (cf : Column) (k : Bytes) (old : Option Bytes) (o : BatchOp Column) :
    o.step cf k old = if o.touches cf k then o.step cf k none else old := by
  rcases o with ⟨cf', k', v⟩ | ⟨cf', k'⟩ <;> by_cases h : cf' = cf ∧ k' = k <;>
    simp [BatchOp.step, BatchOp.touches, BatchOp.cf, BatchOp.key, h]

/-- A batch sets the keys it writes and leaves the others as they were. -/
theorem batchGet_eq (b : WriteBatch Column) (cf : Column) (k : Bytes) (old : Option Bytes) :
    batchGet b cf k old = if b.any (BatchOp.touches cf k) then batchGet b cf k none else old := by
  induction b generalizing old with
  | nil => rfl
  | cons o b ih =>
    show batchGet b cf k (o.step cf k old) =
      if (o :: b).any (BatchOp.touches cf k) then batchGet b cf k (o.step cf k none) else old
    rw [ih (o.step cf k old), ih (o.step cf k none), List.any_cons]
    by_cases hb : b.any (BatchOp.touches cf k) <;> by_cases ho : o.touches cf k <;>
      simp [hb, ho, step_eq cf k old o]

theorem batchGet_idem (b : WriteBatch Column) (cf : Column) (k : Bytes) (old : Option Bytes) :
    batchGet b cf k (batchGet b cf k old) = batchGet b cf k old := by
  rw [batchGet_eq b cf k (batchGet b cf k old)]
  split <;> simp_all [batchGet_eq b cf k old]

/-- Replaying a batch over its own result changes nothing. -/
theorem applyBatch_idem (cols : Column → ColumnData) (b : WriteBatch Column) :
    applyBatch (applyBatch cols b) b = applyBatch cols b :=
  funext fun cf => ColumnData.ext_get fun k => by simp only [get_applyBatch, batchGet_idem]

/-- The live database: its column families, the last sequence number, for each key the sequence
number of its last write (`0`: never written), and for each column family the oldest sequence
number its memtables still cover (`history`). An optimistic commit checks its keys against the
memtables only. -/
structure DB (Column : Type) where
  cols : Column → ColumnData
  seq : Nat
  written : Column → Bytes → Nat
  written_le : ∀ cf k, written cf k ≤ seq
  history : Column → Nat
  history_le : ∀ cf, history cf ≤ seq

/-- A database with empty column families. -/
def DB.empty : DB Column :=
  ⟨fun _ => .empty, 0, fun _ _ => 0, fun _ _ => Nat.le_refl 0, fun _ => 0, fun _ => Nat.le_refl 0⟩

/-- `DB::write`: apply a batch atomically, under the next sequence number. -/
def DB.write (db : DB Column) (b : WriteBatch Column) : DB Column where
  cols := applyBatch db.cols b
  seq := db.seq + 1
  written cf k := if b.any (BatchOp.touches cf k) then db.seq + 1 else db.written cf k
  written_le cf k := by
    show (if b.any (BatchOp.touches cf k) then db.seq + 1 else db.written cf k) ≤ db.seq + 1
    split
    · exact Nat.le_refl _
    · exact Nat.le_succ_of_le (db.written_le cf k)
  history := db.history
  history_le cf := Nat.le_succ_of_le (db.history_le cf)

/-- A memtable switch of column family `cf`, which RocksDB makes on its own between any two
calls (a flush, or a full memtable): with no history kept, the memtables then cover the writes
after the current sequence number only. -/
def DB.switchMemtable (db : DB Column) (cf : Column) : DB Column :=
  { db with
    history := Function.update db.history cf db.seq
    history_le := fun cf' => by
      by_cases h : cf' = cf
      · subst h; rw [Function.update_same]
      · rw [Function.update_noteq h]; exact db.history_le cf' }

/-- `DB::put_cf`: a write of one `put`. -/
def DB.putCf (db : DB Column) (cf : Column) (k v : Bytes) : DB Column := db.write [.put cf k v]

/-- `DB::delete_cf`: a write of one `delete`. -/
def DB.deleteCf (db : DB Column) (cf : Column) (k : Bytes) : DB Column := db.write [.delete cf k]

/-- The items of a forward iterator from `start` over `entries`. With no failure they are the
entries at or after `start` in ascending order; a failure at position `j` yields the first `j`
of them and then one `Err`, after which the iterator is done. -/
def iterItems (entries : List (Bytes × Bytes)) (start : Bytes) :
    Option Nat → List (Except Error (Bytes × Bytes))
  | none => (entries.filter (fun e => !Bytes.lt e.1 start)).map .ok
  | some j => ((entries.filter (fun e => !Bytes.lt e.1 start)).take j).map .ok ++ [.error .ioError]

/-- `DB::iterator_cf(cf, IteratorMode::From(start, Direction::Forward))`, failing at `fault`. -/
def DB.iteratorCf (db : DB Column) (cf : Column) (start : Bytes) (fault : Option Nat) :
    List (Except Error (Bytes × Bytes)) :=
  iterItems (db.cols cf).entries start fault

/-- A RocksDB snapshot: the column families as they were when it was taken. -/
structure Snapshot (Column : Type) where
  cols : Column → ColumnData

/-- `DB::snapshot`. -/
def DB.snapshot (db : DB Column) : Snapshot Column := ⟨db.cols⟩

/-- An optimistic transaction: its pending write batch (a write batch with index) and the
sequence number of the snapshot it took at creation (`set_snapshot(true)`), against which
`commit` checks the keys it wrote. -/
structure Txn (Column : Type) where
  pending : WriteBatch Column
  snapSeq : Nat

/-- `OptimisticTransactionDB::transaction_opt` with `set_snapshot(true)`. -/
def DB.transactionOpt (db : DB Column) : Txn Column := ⟨[], db.seq⟩

namespace Txn

/-- What the transaction reads: the live column families with its pending batch applied. -/
def view (t : Txn Column) (db : DB Column) : Column → ColumnData := applyBatch db.cols t.pending

/-- `Transaction::get_cf` with default read options. -/
def getCf (t : Txn Column) (db : DB Column) (cf : Column) (k : Bytes) : Option Bytes :=
  (t.view db cf).get k

def putCf (t : Txn Column) (cf : Column) (k v : Bytes) : Txn Column :=
  { t with pending := t.pending ++ [.put cf k v] }

def deleteCf (t : Txn Column) (cf : Column) (k : Bytes) : Txn Column :=
  { t with pending := t.pending ++ [.delete cf k] }

/-- `Transaction::iterator_cf`: a forward iterator over the transaction's view. -/
def iteratorCf (t : Txn Column) (db : DB Column) (cf : Column) (start : Bytes)
    (fault : Option Nat) : List (Except Error (Bytes × Bytes)) :=
  iterItems (t.view db cf).entries start fault

/-- `Transaction::get_writebatch`: a copy of the pending batch. -/
def getWritebatch (t : Txn Column) : WriteBatch Column := t.pending

/-- `Transaction::rebuild_from_writebatch`: replay a batch's operations into the transaction. -/
def rebuildFromWritebatch (t : Txn Column) (b : WriteBatch Column) : Txn Column :=
  { t with pending := t.pending ++ b }

/-- The check `commit` makes of one key it wrote: `tryAgain` when the memtables of the key's
column family no longer reach back to the transaction's snapshot, `busy` when the key was
written after the snapshot. -/
def checkKey (t : Txn Column) (db : DB Column) (o : BatchOp Column) : Option Error :=
  if t.snapSeq < db.history o.cf then some .tryAgain
  else if t.snapSeq < db.written o.cf o.key then some .busy
  else none

/-- `Transaction::commit` of an optimistic transaction: the first key whose check fails gives the
error (RocksDB visits the keys in the order of its hash map of tracked keys; the model visits
them in the order they were written); otherwise the batch is written, unless the write fails
with `err`. -/
def commit (err : Option Error) (t : Txn Column) (db : DB Column) : Except Error (DB Column) :=
  match t.pending.findSome? (checkKey t db), err with
  | some e, _ => .error e
  | none, some e => .error e
  | none, none => .ok (db.write t.pending)

/-- A transaction opened at the database's current sequence number passes every key check, so
with no write error its commit writes its batch. -/
theorem commit_current {t : Txn Column} {db : DB Column} (h : t.snapSeq = db.seq) :
    t.commit none db = .ok (db.write t.pending) := by
  have hc : ∀ o ∈ t.pending, t.checkKey db o = none := fun o _ => by
    rw [checkKey, h, if_neg (Nat.not_lt.2 (db.history_le _)),
      if_neg (Nat.not_lt.2 (db.written_le _ _))]
  simp only [commit, List.findSome?_eq_none_iff.2 hc]

/-- Once the memtables of a column family are switched after a transaction's snapshot, its commit
fails, whatever the write would do, if it wrote a key of that column family. -/
theorem commit_switchMemtable {t : Txn Column} {db : DB Column} {o : BatchOp Column}
    (hs : t.snapSeq < db.seq) (ho : o ∈ t.pending) (err : Option Error) :
    ∃ e, t.commit err (db.switchMemtable o.cf) = .error e := by
  have hk : t.checkKey (db.switchMemtable o.cf) o = some .tryAgain := by
    simp only [checkKey, DB.switchMemtable, Function.update_same, if_pos hs]
  cases hf : t.pending.findSome? (checkKey t (db.switchMemtable o.cf)) with
  | none => exact absurd (List.findSome?_eq_none_iff.1 hf o ho) (by rw [hk]; exact nofun)
  | some e => exact ⟨e, by simp only [commit, hf]⟩

end Txn

end Batches

end Rocks
end Deoxys
