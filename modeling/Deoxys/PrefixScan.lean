import Deoxys.BonsaiDb

/-!
# Deoxys.PrefixScan

The prefix scans of `bonsai_db.rs`. Both `get_by_prefix` and `remove_by_prefix` seek to the
prefix and walk forward until the first key that does not start with it. That this sees every
key with the prefix is `Bytes.prefix_run`: in a sorted column the keys with prefix `p` are one
run starting at the first key `≥ p` (`takeWhile_prefixed`).

* `prefix_scan_exact`: with a healthy iterator, in `BonsaiDb` and in `BonsaiTransaction`,
  `get_by_prefix p` returns exactly the entries of the column whose key starts with `p`, in
  ascending order, and `remove_by_prefix p` deletes exactly those keys of that column and
  changes nothing else. For the transaction this rests on `applyBatch_idem`: its
  `remove_by_prefix` replays the whole pending batch before the deletions.
* `prefix_scan_truncated`: when the iterator fails at position `j`, both scans read the `Err`
  as the end of the run: `get_by_prefix` returns `Ok` with the first `j` matching entries, and
  `remove_by_prefix` returns `Ok` after deleting exactly those.
-/

namespace Deoxys

open Rocks

section Loops

variable {Column : Type}

theorem deleteLoop_ok (cf : Column) (p : Bytes) (es : List (Bytes × Bytes))
    (b : WriteBatch Column) :
    deleteLoop cf p (es.map .ok) b =
      b ++ (es.takeWhile (fun e => p.isPrefixOf e.1)).map (fun e => .delete cf e.1) := by
  induction es generalizing b with
  | nil => simp [deleteLoop]
  | cons e es ih =>
    by_cases h : p.isPrefixOf e.1 <;> simp [deleteLoop, List.takeWhile_cons, h, ih]

theorem deleteLoop_err (cf : Column) (p : Bytes) (es : List (Bytes × Bytes))
    (e : Rocks.Error) (b : WriteBatch Column) :
    deleteLoop cf p (es.map .ok ++ [.error e]) b =
      b ++ (es.takeWhile (fun e => p.isPrefixOf e.1)).map (fun e => .delete cf e.1) := by
  induction es generalizing b with
  | nil => simp [deleteLoop]
  | cons e es ih =>
    by_cases h : p.isPrefixOf e.1 <;> simp [deleteLoop, List.takeWhile_cons, h, ih]

/-- The keys of column `c` that start with `p`, in ascending order. -/
def prefixKeys (c : ColumnData) (p : Bytes) : List Bytes :=
  (c.entries.filter (fun e => p.isPrefixOf e.1)).map Prod.fst

theorem prefixEntries_ok (p : Bytes) (es : List (Bytes × Bytes)) :
    prefixEntries p (es.map .ok) = es.takeWhile (fun e => p.isPrefixOf e.1) := by
  induction es with
  | nil => rfl
  | cons e es ih =>
    by_cases h : p.isPrefixOf e.1 <;> simp [prefixEntries, List.takeWhile_cons, h, ih]

theorem prefixEntries_err (p : Bytes) (es : List (Bytes × Bytes)) (e : Rocks.Error) :
    prefixEntries p (es.map .ok ++ [.error e]) = es.takeWhile (fun e => p.isPrefixOf e.1) := by
  induction es with
  | nil => rfl
  | cons e es ih =>
    by_cases h : p.isPrefixOf e.1 <;> simp [prefixEntries, List.takeWhile_cons, h, ih]

/-- **The scan sees the whole run.** In a sorted entry list, walking the entries at or after
`p` while they start with `p` yields every entry that starts with `p`. -/
theorem takeWhile_prefixed {p : Bytes} :
    ∀ {es : List (Bytes × Bytes)}, es.Pairwise (fun a b => Bytes.lt a.1 b.1) →
      (es.filter (fun e => !Bytes.lt e.1 p)).takeWhile (fun e => p.isPrefixOf e.1) =
        es.filter (fun e => p.isPrefixOf e.1)
  | [], _ => rfl
  | e :: es, h => by
    obtain ⟨he, hes⟩ := List.pairwise_cons.1 h
    have ih := @takeWhile_prefixed p es hes
    by_cases hlt : Bytes.lt e.1 p
    · have hnp : ¬ p.isPrefixOf e.1 := fun hp =>
        by simp [Bytes.lt_of_prefixOf (List.isPrefixOf_iff_prefix.1 hp)] at hlt
      simp [List.filter_cons, hlt, hnp, ih]
    · by_cases hp : p.isPrefixOf e.1
      · simp [List.filter_cons, hlt, hp, List.takeWhile_cons, ih]
      · have hrest : es.filter (fun e => p.isPrefixOf e.1) = [] :=
          List.filter_eq_nil_iff.2 fun e' he' hp' => hp <| List.isPrefixOf_iff_prefix.2 <|
            Bytes.prefix_run (by simpa using hlt) (he e' he') (List.isPrefixOf_iff_prefix.1 hp')
        simp [List.filter_cons, hlt, hp, List.takeWhile_cons, hrest]

/-- A healthy `get_by_prefix` scan of column `c`. -/
theorem prefixEntries_scan (c : ColumnData) (p : Bytes) :
    prefixEntries p (iterItems c.entries p none) =
      c.entries.filter (fun e => p.isPrefixOf e.1) := by
  rw [iterItems, prefixEntries_ok, takeWhile_prefixed c.sorted]

/-- The batch a healthy `remove_by_prefix` scan of column `c` builds. -/
theorem deleteLoop_scan (cf : Column) (c : ColumnData) (p : Bytes) (b : WriteBatch Column) :
    deleteLoop cf p (iterItems c.entries p none) b = b ++ (prefixKeys c p).map (.delete cf) := by
  rw [iterItems, deleteLoop_ok, takeWhile_prefixed c.sorted, prefixKeys, List.map_map]
  rfl

/-- A `get_by_prefix` scan of column `c` that fails at position `j`. -/
theorem prefixEntries_scan_fault (c : ColumnData) (p : Bytes) (j : Nat) :
    prefixEntries p (iterItems c.entries p (some j)) =
      (c.entries.filter (fun e => p.isPrefixOf e.1)).take j := by
  rw [iterItems, prefixEntries_err, ← List.take_takeWhile, takeWhile_prefixed c.sorted]

/-- The batch a `remove_by_prefix` scan of column `c` that fails at position `j` builds. -/
theorem deleteLoop_scan_fault (cf : Column) (c : ColumnData) (p : Bytes) (j : Nat)
    (b : WriteBatch Column) :
    deleteLoop cf p (iterItems c.entries p (some j)) b =
      b ++ ((prefixKeys c p).take j).map (.delete cf) := by
  rw [iterItems, deleteLoop_err, ← List.take_takeWhile, takeWhile_prefixed c.sorted, prefixKeys,
    ← List.map_take, List.map_map]
  rfl

end Loops

section Scan

variable {Column : Type} [DecidableEq Column]

/-- Deleting a list of keys of one column family. -/
theorem applyBatch_deletes (cols : Column → ColumnData) (cf : Column) (ks : List Bytes) :
    applyBatch cols (ks.map (.delete cf)) =
      Function.update cols cf ((cols cf).filter (fun k => k ∉ ks)) := by
  induction ks generalizing cols with
  | nil =>
    have : (cols cf).filter (fun _ => true) = cols cf := by ext1; simp
    simp [this]
  | cons k ks ih =>
    rw [List.map_cons, applyBatch_cons, BatchOp.apply, ih, Function.update_idem,
      Function.update_same]
    refine congrArg (Function.update cols cf) ?_
    ext1
    simp only [ColumnData.filter_entries, ColumnData.delete_entries, List.filter_filter]
    exact List.filter_congr fun e _ => by simp [Bool.and_comm]

theorem filter_not_mem_prefixKeys (c : ColumnData) (p : Bytes) :
    c.filter (fun k => k ∉ prefixKeys c p) = c.filter (fun k => !p.isPrefixOf k) := by
  ext1
  simp only [ColumnData.filter_entries]
  refine List.filter_congr fun e he => ?_
  by_cases hp : p.isPrefixOf e.1
  · have : e.1 ∈ prefixKeys c p := List.mem_map.2 ⟨e, List.mem_filter.2 ⟨he, hp⟩, rfl⟩
    simp [this, hp]
  · have : e.1 ∉ prefixKeys c p := by
      simp only [prefixKeys, List.mem_map, List.mem_filter, not_exists, not_and]
      intro e' he' hk; exact hp (hk ▸ he'.2)
    simp [this, hp]

/-- Deleting the keys with prefix `p` from column family `cf`. -/
theorem applyBatch_prefixKeys (cols : Column → ColumnData) (cf : Column) (p : Bytes) :
    applyBatch cols ((prefixKeys (cols cf) p).map (.delete cf)) =
      Function.update cols cf ((cols cf).filter (fun k => !p.isPrefixOf k)) := by
  rw [applyBatch_deletes, filter_not_mem_prefixKeys]

theorem bonsaiDb_prefix_scan (s : BonsaiDb Column) (pre : DatabaseKey) :
    s.getByPrefix none pre = .ok ((s.db.cols (s.columnMapping.map pre)).entries.filter
      (fun e => pre.asSlice.isPrefixOf e.1)) ∧
    ∃ s', s.removeByPrefix none none pre = .ok s' ∧
      s'.db.cols = Function.update s.db.cols (s.columnMapping.map pre)
        ((s.db.cols (s.columnMapping.map pre)).filter (fun k => !pre.asSlice.isPrefixOf k)) := by
  refine ⟨by simp [BonsaiDb.getByPrefix, DB.iteratorCf, prefixEntries_scan], _, rfl, ?_⟩
  simp [BonsaiDb.writeBatch, BonsaiDb.createBatch, DB.iteratorCf, DB.write, deleteLoop_scan,
    applyBatch_prefixKeys]

theorem bonsaiTransaction_prefix_scan (db : DB Column) (t : BonsaiTransaction Column)
    (pre : DatabaseKey) :
    t.getByPrefix none db pre = .ok ((t.txn.view db (t.columnMapping.map pre)).entries.filter
      (fun e => pre.asSlice.isPrefixOf e.1)) ∧
    ∃ t', t.removeByPrefix none none db pre = .ok t' ∧
      t'.txn.view db = Function.update (t.txn.view db) (t.columnMapping.map pre)
        ((t.txn.view db (t.columnMapping.map pre)).filter
          (fun k => !pre.asSlice.isPrefixOf k)) := by
  refine ⟨by simp [BonsaiTransaction.getByPrefix, Txn.iteratorCf, prefixEntries_scan], _, rfl, ?_⟩
  simp only [BonsaiTransaction.writeBatch, BonsaiTransaction.createBatch, Txn.iteratorCf,
    Txn.rebuildFromWritebatch, Txn.getWritebatch, deleteLoop_scan, Txn.view, applyBatch_append,
    applyBatch_idem]
  exact applyBatch_prefixKeys _ _ _

/-- Prefix scans on a healthy iterator, in both implementations of `BonsaiDatabase`:
`get_by_prefix p` returns exactly the entries of column `map p` whose key starts with `p`, in
ascending key order; `remove_by_prefix p` deletes exactly those keys and leaves every other key
of that column and every other column as it was. -/
theorem prefix_scan_exact :
    (∀ (s : BonsaiDb Column) (pre : DatabaseKey),
      s.getByPrefix none pre = .ok ((s.db.cols (s.columnMapping.map pre)).entries.filter
        (fun e => pre.asSlice.isPrefixOf e.1)) ∧
      ∃ s', s.removeByPrefix none none pre = .ok s' ∧
        s'.db.cols = Function.update s.db.cols (s.columnMapping.map pre)
          ((s.db.cols (s.columnMapping.map pre)).filter (fun k => !pre.asSlice.isPrefixOf k))) ∧
    (∀ (db : DB Column) (t : BonsaiTransaction Column) (pre : DatabaseKey),
      t.getByPrefix none db pre = .ok ((t.txn.view db (t.columnMapping.map pre)).entries.filter
        (fun e => pre.asSlice.isPrefixOf e.1)) ∧
      ∃ t', t.removeByPrefix none none db pre = .ok t' ∧
        t'.txn.view db = Function.update (t.txn.view db) (t.columnMapping.map pre)
          ((t.txn.view db (t.columnMapping.map pre)).filter
            (fun k => !pre.asSlice.isPrefixOf k))) :=
  ⟨bonsaiDb_prefix_scan, bonsaiTransaction_prefix_scan⟩

end Scan

section Fault

variable {Column : Type} [DecidableEq Column]

/-- Prefix scans whose iterator fails at position `j`, in both implementations of
`BonsaiDatabase`: the `Err` ends the scan like a key without the prefix, so `get_by_prefix`
returns `Ok` with the first `j` matching entries and `remove_by_prefix` returns `Ok` after
deleting exactly the first `j` matching keys. -/
theorem prefix_scan_truncated :
    (∀ (s : BonsaiDb Column) (pre : DatabaseKey) (j : Nat),
      s.getByPrefix (some j) pre = .ok (((s.db.cols (s.columnMapping.map pre)).entries.filter
        (fun e => pre.asSlice.isPrefixOf e.1)).take j) ∧
      ∃ s', s.removeByPrefix (some j) none pre = .ok s' ∧
        s'.db.cols = Function.update s.db.cols (s.columnMapping.map pre)
          ((s.db.cols (s.columnMapping.map pre)).filter
            (fun k => k ∉ (prefixKeys (s.db.cols (s.columnMapping.map pre)) pre.asSlice).take j))) ∧
    (∀ (db : DB Column) (t : BonsaiTransaction Column) (pre : DatabaseKey) (j : Nat),
      t.getByPrefix (some j) db pre = .ok (((t.txn.view db (t.columnMapping.map pre)).entries.filter
        (fun e => pre.asSlice.isPrefixOf e.1)).take j) ∧
      ∃ t', t.removeByPrefix (some j) none db pre = .ok t' ∧
        t'.txn.view db = Function.update (t.txn.view db) (t.columnMapping.map pre)
          ((t.txn.view db (t.columnMapping.map pre)).filter
            (fun k =>
              k ∉ (prefixKeys (t.txn.view db (t.columnMapping.map pre)) pre.asSlice).take j))) := by
  refine ⟨fun s pre j => ⟨?_, _, rfl, ?_⟩, fun db t pre j => ⟨?_, _, rfl, ?_⟩⟩
  · simp [BonsaiDb.getByPrefix, DB.iteratorCf, prefixEntries_scan_fault]
  · simp only [BonsaiDb.writeBatch, BonsaiDb.createBatch, DB.iteratorCf, DB.write,
      deleteLoop_scan_fault, List.nil_append]
    exact applyBatch_deletes _ _ _
  · simp [BonsaiTransaction.getByPrefix, Txn.iteratorCf, prefixEntries_scan_fault]
  · simp only [BonsaiTransaction.writeBatch, BonsaiTransaction.createBatch, Txn.iteratorCf,
      Txn.rebuildFromWritebatch, Txn.getWritebatch, deleteLoop_scan_fault, Txn.view,
      applyBatch_append, applyBatch_idem]
    exact applyBatch_deletes _ _ _

/-- A trie column holding the keys `[1]` and `[1, 2]`, both under the prefix `[1]`. -/
def scanStore : DB Nat where
  cols c := if c = 0 then ⟨[([1], [10]), ([1, 2], [11])], by decide⟩ else .empty
  seq := 0
  written _ _ := 0
  written_le _ _ := Nat.le_refl 0
  history _ := 0
  history_le _ := Nat.le_refl 0

/-- The trie namespace in column `0`. -/
def scanMapping : DatabaseKeyMapping Nat := ⟨1, 0, 2⟩

/-- The iterator fails after the first entry: `get_by_prefix` returns `Ok [([1], [10])]`, and
`remove_by_prefix` returns `Ok` having deleted `[1]` only, in `BonsaiDb` and in a fresh
`BonsaiTransaction` alike. -/
theorem prefix_scan_error_swallowed :
    (BonsaiDb.new scanStore scanMapping).getByPrefix (some 1) (.trie [1]) = .ok [([1], [10])] ∧
    (∃ s', (BonsaiDb.new scanStore scanMapping).removeByPrefix (some 1) none (.trie [1]) = .ok s' ∧
      (s'.db.cols 0).entries = [([1, 2], [11])]) ∧
    (⟨scanStore.transactionOpt, scanMapping⟩ : BonsaiTransaction Nat).getByPrefix (some 1)
      scanStore (.trie [1]) = .ok [([1], [10])] ∧
    (∃ t', (⟨scanStore.transactionOpt, scanMapping⟩ : BonsaiTransaction Nat).removeByPrefix
      (some 1) none scanStore (.trie [1]) = .ok t' ∧
        (t'.txn.view scanStore 0).entries = [([1, 2], [11])]) :=
  ⟨rfl, ⟨_, rfl, rfl⟩, rfl, ⟨_, rfl, rfl⟩⟩

end Fault

end Deoxys
