import Deoxys.Refinement
import Mathlib.Algebra.Order.Group.Nat

/-!
# Deoxys.Snapshots

Snapshots and transactions of `BonsaiPersistentDatabase for BonsaiDb`.

`snapshot(id)` stores a RocksDB snapshot under `id`. `transaction(id)` only checks that one is
there: it opens an optimistic transaction on the live database and builds read options pinned to
the snapshot, but neither keeps nor passes them, so the transaction reads the live database.

* `transaction_merge_refines` — a run of calls without `create_batch` through a transaction
  opened at a stored snapshot gives the same replies as the run on the database, and merging the
  transaction, over a healthy store with nothing else written meanwhile, leaves the database's
  columns as that run does.
* `transaction_pending_doubles` — each `remove_by_prefix` on a transaction appends its pending
  batch to itself again, so `n` calls multiply the pending writes by at least `2 ^ n`.
-/

namespace Deoxys

open Rocks

section TransactionPath

variable {Column : Type} [DecidableEq Column]

/-- The transaction `t` over the live database `db` stands for the handle `d`: it maps keys to
the same column families, its view is `d`'s column families, and nothing has been written to
`db` since its snapshot. -/
structure TxnSim (d : BonsaiDb Column) (db : DB Column) (t : BonsaiTransaction Column) : Prop where
  mapping : t.columnMapping = d.columnMapping
  view : t.txn.view db = d.db.cols
  fresh : t.txn.snapSeq = db.seq

/-- **One call, both paths.** A call other than `create_batch`, with no batch made, returns the
same reply through the transaction as directly on the handle, and the two stay related. -/
theorem runCall_transaction {d : BonsaiDb Column} {db : DB Column} {t : BonsaiTransaction Column}
    (h : TxnSim d db t) {c : Call} (hc : c ≠ .createBatch) :
    ∃ r d' t', runCall bonsaiDbImpl d [] c = .ok (r, d', []) ∧
      runCall bonsaiTransactionImpl (db, t) [] c = .ok (r, (db, t'), []) ∧ TxnSim d' db t' := by
  have hget : ∀ key : DatabaseKey, t.txn.getCf db (t.columnMapping.map key) key.asSlice =
      (d.db.cols (d.columnMapping.map key)).get key.asSlice := fun key => by
    rw [Txn.getCf, h.view, h.mapping]
  cases c with
  | createBatch => exact absurd rfl hc
  | get key =>
    exact ⟨_, d, t, rfl, by simp [runCall, bonsaiTransactionImpl, BonsaiTransaction.get, hget,
      Except.map], h⟩
  | contains key =>
    exact ⟨_, d, t, rfl, by simp [runCall, bonsaiTransactionImpl, BonsaiTransaction.contains, hget,
      Except.map], h⟩
  | getByPrefix key =>
    refine ⟨_, d, t, rfl, ?_, h⟩
    simp only [runCall, bonsaiTransactionImpl, (bonsaiTransaction_prefix_scan db t key).1, h.view,
      h.mapping, DB.iteratorCf, prefixEntries_scan]
    rfl
  | insert key v batch =>
    cases batch with
    | none =>
      refine ⟨_, _, { t with txn := t.txn.putCf (t.columnMapping.map key) key.asSlice v }, rfl,
        by simp [runCall, bonsaiTransactionImpl, BonsaiTransaction.insert, hget, Except.map],
        ⟨h.mapping, ?_, h.fresh⟩⟩
      show applyBatch db.cols (t.txn.pending ++ [.put (t.columnMapping.map key) key.asSlice v]) =
        applyBatch d.db.cols [.put (d.columnMapping.map key) key.asSlice v]
      rw [applyBatch_append, ← h.view, h.mapping]
      rfl
    | some i => exact ⟨.done, d, t, rfl, rfl, h⟩
  | remove key batch =>
    cases batch with
    | none =>
      refine ⟨_, _, { t with txn := t.txn.deleteCf (t.columnMapping.map key) key.asSlice }, rfl,
        by simp [runCall, bonsaiTransactionImpl, BonsaiTransaction.remove, hget, Except.map],
        ⟨h.mapping, ?_, h.fresh⟩⟩
      show applyBatch db.cols (t.txn.pending ++ [.delete (t.columnMapping.map key) key.asSlice]) =
        applyBatch d.db.cols [.delete (d.columnMapping.map key) key.asSlice]
      rw [applyBatch_append, ← h.view, h.mapping]
      rfl
    | some i => exact ⟨.done, d, t, rfl, rfl, h⟩
  | removeByPrefix key =>
    obtain ⟨d', hd', hcols⟩ := (bonsaiDb_prefix_scan d key).2
    obtain ⟨t', ht', hview⟩ := (bonsaiTransaction_prefix_scan db t key).2
    refine ⟨.done, d', t', by simp [runCall, bonsaiDbImpl, hd', Except.map],
      by simp [runCall, bonsaiTransactionImpl, ht', Except.map, Except.mapError], ⟨?_, ?_, ?_⟩⟩
    · simp only [BonsaiDb.removeByPrefix, BonsaiDb.writeBatch] at hd'
      simp only [BonsaiTransaction.removeByPrefix, BonsaiTransaction.writeBatch] at ht'
      cases hd'; cases ht'
      exact h.mapping
    · rw [hview, hcols, h.view, h.mapping]
    · simp only [BonsaiTransaction.removeByPrefix, BonsaiTransaction.writeBatch] at ht'
      cases ht'
      exact h.fresh
  | writeBatch i => exact ⟨.done, d, t, rfl, rfl, h⟩

theorem run_transaction {d : BonsaiDb Column} {db : DB Column} {t : BonsaiTransaction Column}
    (h : TxnSim d db t) {calls : List Call} (hcalls : Call.createBatch ∉ calls) :
    ∃ replies d' t', run bonsaiDbImpl calls d [] = .ok (replies, d', []) ∧
      run bonsaiTransactionImpl calls (db, t) [] = .ok (replies, (db, t'), []) ∧
        TxnSim d' db t' := by
  induction calls generalizing d t with
  | nil => exact ⟨[], d, t, rfl, rfl, h⟩
  | cons c cs ih =>
    simp only [List.mem_cons, not_or] at hcalls
    obtain ⟨r, d₁, t₁, hd, ht, h₁⟩ := runCall_transaction h (Ne.symm hcalls.1)
    obtain ⟨rs, d₂, t₂, hd', ht', h₂⟩ := ih h₁ hcalls.2
    exact ⟨r :: rs, d₂, t₂, by simp [run, hd, hd', Except.map],
      by simp [run, ht, ht', Except.map], h₂⟩

/-- A transaction that stands for `d` over the live database of `s` merges into it, over a healthy
store, without a conflict, and the live database then holds `d`'s column families. -/
theorem merge_transaction {d s : BonsaiDb Column} {t : BonsaiTransaction Column}
    (h : TxnSim d s.db t) : ∃ s', s.merge none t = .ok s' ∧ s'.db.cols = d.db.cols :=
  ⟨_, by rw [BonsaiDb.merge, Txn.commit_current h.fresh], h.view⟩

/-- **The transaction path is the direct path.** Over a `BonsaiDb` with a snapshot at `id`, every
run of calls that makes no batch, sent through the transaction `transaction(id)` opens, gets the
replies the same calls get on the handle directly; merged with nothing else writing meanwhile, the
transaction commits, and the live database holds the column families the direct run leaves. -/
theorem transaction_merge_refines (s : BonsaiDb Column) (id : BasicId)
    (hs : s.snapshots id ≠ none) (calls : List Call) (hcalls : Call.createBatch ∉ calls) :
    ∃ t replies s' t', s.transaction id = some t ∧
      run bonsaiDbImpl calls s [] = .ok (replies, s', []) ∧
      run bonsaiTransactionImpl calls (s.db, t) [] = .ok (replies, (s.db, t'), []) ∧
      ∃ s'', s.merge none t' = .ok s'' ∧ s''.db.cols = s'.db.cols := by
  obtain ⟨sn, hsn⟩ := Option.ne_none_iff_exists'.1 hs
  have h : TxnSim s s.db ⟨s.db.transactionOpt, s.columnMapping⟩ := ⟨rfl, rfl, rfl⟩
  obtain ⟨replies, s', t', hd, ht, h'⟩ := run_transaction h hcalls
  exact ⟨_, replies, s', t', by simp [BonsaiDb.transaction, hsn], hd, ht, merge_transaction h'⟩

/-- `remove_by_prefix` on a transaction: its `create_batch` copies the whole pending batch, the
deletes go after the copy, and `write_batch` replays all of it into the transaction. -/
theorem removeByPrefix_pending (db : DB Column) (t : BonsaiTransaction Column)
    (pre : DatabaseKey) :
    t.removeByPrefix none none db pre = .ok { t with txn := { t.txn with pending :=
      t.txn.pending ++ (t.txn.pending ++ (prefixKeys (t.txn.view db (t.columnMapping.map pre))
        pre.asSlice).map (.delete (t.columnMapping.map pre))) } } := by
  simp only [BonsaiTransaction.removeByPrefix, BonsaiTransaction.writeBatch,
    BonsaiTransaction.createBatch, Txn.iteratorCf, Txn.getWritebatch, deleteLoop_scan]
  rfl

/-- **Prefix removals double a transaction's pending batch.** A run of `k` `remove_by_prefix`
calls through a transaction, with healthy iterators, leaves a pending batch at least `2 ^ k` times
as long as the one it started with, all of which `merge` writes; the transaction's view is only
that of the deletes. -/
theorem transaction_pending_doubles (db : DB Column) (t : BonsaiTransaction Column)
    (pres : List DatabaseKey) :
    ∃ t', run bonsaiTransactionImpl (pres.map .removeByPrefix) (db, t) [] =
        .ok (pres.map fun _ => .done, (db, t'), []) ∧
      2 ^ pres.length * t.txn.pending.length ≤ t'.txn.pending.length := by
  induction pres generalizing t with
  | nil => exact ⟨t, rfl, by simp⟩
  | cons pre pres ih =>
    obtain ⟨t₁, h₁, hlen₁⟩ : ∃ t₁, t.removeByPrefix none none db pre = .ok t₁ ∧
        2 * t.txn.pending.length ≤ t₁.txn.pending.length :=
      ⟨_, removeByPrefix_pending db t pre, by simp only [List.length_append]; omega⟩
    obtain ⟨t', ht', hlen⟩ := ih t₁
    have hc : runCall bonsaiTransactionImpl (db, t) [] (.removeByPrefix pre) =
        .ok (.done, (db, t₁), []) := by
      simp only [runCall, bonsaiTransactionImpl, h₁]; rfl
    refine ⟨t', by simp only [List.map_cons, run, hc, ht']; rfl, ?_⟩
    calc 2 ^ (pres.length + 1) * t.txn.pending.length
        = 2 ^ pres.length * (2 * t.txn.pending.length) := by rw [Nat.pow_succ, Nat.mul_assoc]
      _ ≤ 2 ^ pres.length * t₁.txn.pending.length := Nat.mul_le_mul_left _ hlen₁
      _ ≤ t'.txn.pending.length := hlen

end TransactionPath

/-- A write, a prefix removal, another write and a read, from snapshot `5` of an empty store. -/
def mergedCalls : List Call :=
  [.insert (.trie [1]) [7] none, .removeByPrefix (.trie [1]), .insert (.flat [2]) [8] none,
    .get (.flat [2])]

theorem mergedCalls_refine :
    ((BonsaiDb.new (DB.empty : DB Nat) replayMapping).snapshot 5).snapshots 5 ≠ none ∧
      Call.createBatch ∉ mergedCalls ∧
      ∃ t replies s' t', ((BonsaiDb.new (DB.empty : DB Nat) replayMapping).snapshot 5).transaction
          5 = some t ∧
        run bonsaiDbImpl mergedCalls ((BonsaiDb.new DB.empty replayMapping).snapshot 5) [] =
          .ok (replies, s', []) ∧
        run bonsaiTransactionImpl mergedCalls
          (((BonsaiDb.new DB.empty replayMapping).snapshot 5).db, t) [] =
          .ok (replies, (((BonsaiDb.new DB.empty replayMapping).snapshot 5).db, t'), []) ∧
        ∃ s'', ((BonsaiDb.new DB.empty replayMapping).snapshot 5).merge none t' = .ok s'' ∧
          s''.db.cols = s'.db.cols :=
  have hs : ((BonsaiDb.new (DB.empty : DB Nat) replayMapping).snapshot 5).snapshots 5 ≠ none := by
    simp [BonsaiDb.snapshot]
  have hc : Call.createBatch ∉ mergedCalls := by simp [mergedCalls]
  ⟨hs, hc, transaction_merge_refines _ 5 hs mergedCalls hc⟩

/-- Snapshot `5` of an empty store, then a live write of `[7]` under the trie key `[1]`: a
transaction opened at `5` reads `[7]`, where the snapshot has nothing. -/
theorem transaction_ignores_snapshot :
    ∃ s₂ t, ((BonsaiDb.new (DB.empty : DB Nat) replayMapping).snapshot 5).insert none (.trie [1])
        [7] none = .ok (none, s₂, none) ∧
      s₂.transaction 5 = some t ∧ t.get none s₂.db (.trie [1]) = .ok (some [7]) ∧
      (s₂.snapshots 5).map (fun sn => (sn.cols 0).get [1]) = some none :=
  ⟨_, _, rfl, rfl, rfl, rfl⟩

end Deoxys
