import Deoxys.PrefixScan

/-!
# Deoxys.Refinement

The storage contract the trie library asks of a `BonsaiDatabase`, as an abstract store, and the
two implementations of `bonsai_db.rs` run against it call after call.

The abstract store `Store` is three independent sorted maps, one per `DatabaseKey` namespace.
`insert` and `remove` without a batch take effect at once and return the previous value; with a
batch they record a `put` or a `delete` in it and return the current value; `write_batch`
applies exactly the batch's operations, in order. A client's `Call`s name batches by the order in
which `create_batch` made them, so several batches can be open at once, with direct writes and
prefix removals between a batch's creation and its `write_batch`.

* `bonsaiDb_refines`: when the three mapped column families are pairwise distinct, every run of
  calls on a `BonsaiDb` gets the replies the abstract store gives, and ends with the column
  families holding the abstract store's maps.
* `transaction_batch_replays`: `BonsaiTransaction` does not refine the store. Its `create_batch`
  copies the transaction's whole pending write batch, so a batch made before a later write puts
  the older value back when it is written.
-/

namespace Deoxys

open Rocks

/-- The namespace of a `DatabaseKey`. -/
inductive Namespace where
  | trie
  | flat
  | trieLog
  deriving DecidableEq, Repr

def DatabaseKey.ns : DatabaseKey → Namespace
  | .trie _ => .trie
  | .flat _ => .flat
  | .trieLog _ => .trieLog

/-- The abstract store: one sorted map per namespace. -/
abbrev Store := Namespace → ColumnData

/-- The `BonsaiDatabase` contract, over a state `σ` and batches `β`; a call that takes a batch
returns it updated. -/
structure BonsaiDatabase (σ β : Type) where
  createBatch : σ → β
  get : σ → DatabaseKey → Except BonsaiDbError (Option Bytes)
  getByPrefix : σ → DatabaseKey → Except BonsaiDbError (List (Bytes × Bytes))
  contains : σ → DatabaseKey → Except BonsaiDbError Bool
  insert : σ → DatabaseKey → Bytes → Option β → Except BonsaiDbError (Option Bytes × σ × Option β)
  remove : σ → DatabaseKey → Option β → Except BonsaiDbError (Option Bytes × σ × Option β)
  removeByPrefix : σ → DatabaseKey → Except BonsaiDbError σ
  writeBatch : σ → β → Except BonsaiDbError σ

/-- A client's call; a batch is named by the position in which `create_batch` made it. -/
inductive Call where
  | createBatch
  | get (key : DatabaseKey)
  | contains (key : DatabaseKey)
  | getByPrefix (key : DatabaseKey)
  | insert (key : DatabaseKey) (value : Bytes) (batch : Option Nat)
  | remove (key : DatabaseKey) (batch : Option Nat)
  | removeByPrefix (key : DatabaseKey)
  | writeBatch (batch : Nat)

/-- What a call returns to the client. -/
inductive Reply where
  | value (v : Option Bytes)
  | flag (b : Bool)
  | entries (es : List (Bytes × Bytes))
  | done
  deriving DecidableEq, Repr

section Run

variable {σ β : Type}

/-- One call on the state and the client's batches (`none` once written). A call naming a batch
that does not exist, or was written already, does nothing. -/
def runCall (D : BonsaiDatabase σ β) (s : σ) (slots : List (Option β)) :
    Call → Except BonsaiDbError (Reply × σ × List (Option β))
  | .createBatch => .ok (.done, s, slots ++ [some (D.createBatch s)])
  | .get key => (D.get s key).map fun v => (.value v, s, slots)
  | .contains key => (D.contains s key).map fun b => (.flag b, s, slots)
  | .getByPrefix key => (D.getByPrefix s key).map fun es => (.entries es, s, slots)
  | .insert key v none => (D.insert s key v none).map fun r => (.value r.1, r.2.1, slots)
  | .insert key v (some i) =>
    match slots[i]? with
    | some (some b) =>
      (D.insert s key v (some b)).map fun r => (.value r.1, r.2.1, slots.set i r.2.2)
    | _ => .ok (.done, s, slots)
  | .remove key none => (D.remove s key none).map fun r => (.value r.1, r.2.1, slots)
  | .remove key (some i) =>
    match slots[i]? with
    | some (some b) => (D.remove s key (some b)).map fun r => (.value r.1, r.2.1, slots.set i r.2.2)
    | _ => .ok (.done, s, slots)
  | .removeByPrefix key => (D.removeByPrefix s key).map fun s' => (.done, s', slots)
  | .writeBatch i =>
    match slots[i]? with
    | some (some b) => (D.writeBatch s b).map fun s' => (.done, s', slots.set i none)
    | _ => .ok (.done, s, slots)

/-- A run of calls: the replies, the final state and the batches. -/
def run (D : BonsaiDatabase σ β) :
    List Call → σ → List (Option β) → Except BonsaiDbError (List Reply × σ × List (Option β))
  | [], s, slots => .ok ([], s, slots)
  | c :: cs, s, slots =>
    match runCall D s slots c with
    | .ok (r, s', slots') => (run D cs s' slots').map fun x => (r :: x.1, x.2)
    | .error e => .error e

end Run

namespace Store

def get (s : Store) (key : DatabaseKey) : Option Bytes := (s key.ns).get key.asSlice

def insert (s : Store) (key : DatabaseKey) (value : Bytes) :
    Option (WriteBatch Namespace) → Option Bytes × Store × Option (WriteBatch Namespace)
  | some b => (get s key, s, some (b ++ [.put key.ns key.asSlice value]))
  | none => (get s key, Function.update s key.ns ((s key.ns).put key.asSlice value), none)

def remove (s : Store) (key : DatabaseKey) :
    Option (WriteBatch Namespace) → Option Bytes × Store × Option (WriteBatch Namespace)
  | some b => (get s key, s, some (b ++ [.delete key.ns key.asSlice]))
  | none => (get s key, Function.update s key.ns ((s key.ns).delete key.asSlice), none)

end Store

/-- The abstract store as an implementation of the contract. -/
def abstractStore : BonsaiDatabase Store (WriteBatch Namespace) where
  createBatch _ := []
  get s key := .ok (Store.get s key)
  getByPrefix s key := .ok ((s key.ns).entries.filter (fun e => key.asSlice.isPrefixOf e.1))
  contains s key := .ok (Store.get s key).isSome
  insert s key v b := .ok (Store.insert s key v b)
  remove s key b := .ok (Store.remove s key b)
  removeByPrefix s key :=
    .ok (Function.update s key.ns ((s key.ns).filter (fun k => !key.asSlice.isPrefixOf k)))
  writeBatch s b := .ok (applyBatch s b)

section Impls

variable {Column : Type} [DecidableEq Column]

/-- `impl BonsaiDatabase for BonsaiDb` over a healthy store: no iterator and no RocksDB call
fails. -/
def bonsaiDbImpl : BonsaiDatabase (BonsaiDb Column) (WriteBatch Column) where
  createBatch := BonsaiDb.createBatch
  get := BonsaiDb.get none
  getByPrefix := BonsaiDb.getByPrefix none
  contains := BonsaiDb.contains none
  insert := BonsaiDb.insert none
  remove := BonsaiDb.remove none
  removeByPrefix := BonsaiDb.removeByPrefix none none
  writeBatch := BonsaiDb.writeBatch none

/-- `impl BonsaiDatabase for BonsaiTransaction` over a healthy store, and a live database that
nothing else writes while the calls run. -/
def bonsaiTransactionImpl :
    BonsaiDatabase (DB Column × BonsaiTransaction Column) (WriteBatch Column) where
  createBatch s := s.2.createBatch
  get s := s.2.get none s.1
  getByPrefix s := s.2.getByPrefix none s.1
  contains s := s.2.contains none s.1
  insert s key v b := (s.2.insert none s.1 key v b).map fun r => (r.1, (s.1, r.2.1), r.2.2)
  remove s key b := (s.2.remove none s.1 key b).map fun r => (r.1, (s.1, r.2.1), r.2.2)
  removeByPrefix s key :=
    ((s.2.removeByPrefix none none s.1 key).mapError Prod.fst).map fun t => (s.1, t)
  writeBatch s b := ((s.2.writeBatch none b).mapError Prod.fst).map fun t => (s.1, t)

end Impls

section Mapping

variable {Column : Type}

/-- The column family of each namespace. -/
def DatabaseKeyMapping.col (m : DatabaseKeyMapping Column) : Namespace → Column
  | .trie => m.trie
  | .flat => m.flat
  | .trieLog => m.trieLog

theorem DatabaseKeyMapping.map_eq_col (m : DatabaseKeyMapping Column) (key : DatabaseKey) :
    m.map key = m.col key.ns := by
  cases key <;> rfl

/-- The three mapped column families are pairwise distinct. -/
def DatabaseKeyMapping.Distinct (m : DatabaseKeyMapping Column) : Prop :=
  m.flat ≠ m.trie ∧ m.flat ≠ m.trieLog ∧ m.trie ≠ m.trieLog

theorem DatabaseKeyMapping.col_injective {m : DatabaseKeyMapping Column} (h : m.Distinct) :
    Function.Injective m.col := by
  obtain ⟨h1, h2, h3⟩ := h
  intro a b hab
  cases a <;> cases b <;> simp only [DatabaseKeyMapping.col] at hab
  all_goals first
    | rfl
    | exact (h1 hab).elim | exact (h1 hab.symm).elim | exact (h2 hab).elim
    | exact (h2 hab.symm).elim | exact (h3 hab).elim | exact (h3 hab.symm).elim

/-- The abstract store a `BonsaiDb` holds: its mapped column families, by namespace. -/
def BonsaiDb.abs (s : BonsaiDb Column) : Store := s.db.cols ∘ s.columnMapping.col

/-- The client's batches of a `BonsaiDb` run, from those of the abstract run. -/
def mapSlots (m : DatabaseKeyMapping Column) (slots : List (Option (WriteBatch Namespace))) :
    List (Option (WriteBatch Column)) :=
  slots.map (Option.map (List.map (BatchOp.mapCf m.col)))

theorem get_abs (s : BonsaiDb Column) (key : DatabaseKey) :
    (s.db.cols (s.columnMapping.map key)).get key.asSlice = Store.get s.abs key := by
  rw [DatabaseKeyMapping.map_eq_col]; rfl

theorem mapSlots_set (m : DatabaseKeyMapping Column) (slots : List (Option (WriteBatch Namespace)))
    (i : Nat) (b : Option (WriteBatch Namespace)) :
    mapSlots m (slots.set i b) =
      (mapSlots m slots).set i (b.map (List.map (BatchOp.mapCf m.col))) :=
  List.map_set

end Mapping

section Simulation

variable {Column : Type} [DecidableEq Column]

theorem applyBatch_mapCf {f : Namespace → Column} (hf : Function.Injective f)
    (cols : Column → ColumnData) (b : WriteBatch Namespace) :
    applyBatch cols (b.map (BatchOp.mapCf f)) ∘ f = applyBatch (cols ∘ f) b := by
  induction b generalizing cols with
  | nil => rfl
  | cons o b ih =>
    rw [List.map_cons, applyBatch_cons, applyBatch_cons, ih]
    refine congrArg (fun c => applyBatch c b) ?_
    cases o with
    | put cf k v => exact Function.update_comp_eq_of_injective cols hf cf _
    | delete cf k => exact Function.update_comp_eq_of_injective cols hf cf _

theorem abs_write {s : BonsaiDb Column} (h : s.columnMapping.Distinct) (b : WriteBatch Namespace) :
    BonsaiDb.abs { s with db := s.db.write (b.map (BatchOp.mapCf s.columnMapping.col)) } =
      applyBatch s.abs b :=
  applyBatch_mapCf (DatabaseKeyMapping.col_injective h) _ _

theorem abs_putCf {s : BonsaiDb Column} (h : s.columnMapping.Distinct) (key : DatabaseKey)
    (v : Bytes) :
    BonsaiDb.abs { s with db := s.db.putCf (s.columnMapping.map key) key.asSlice v } =
      Function.update s.abs key.ns ((s.abs key.ns).put key.asSlice v) := by
  rw [DatabaseKeyMapping.map_eq_col]; exact abs_write h [.put key.ns key.asSlice v]

theorem abs_deleteCf {s : BonsaiDb Column} (h : s.columnMapping.Distinct) (key : DatabaseKey) :
    BonsaiDb.abs { s with db := s.db.deleteCf (s.columnMapping.map key) key.asSlice } =
      Function.update s.abs key.ns ((s.abs key.ns).delete key.asSlice) := by
  rw [DatabaseKeyMapping.map_eq_col]; exact abs_write h [.delete key.ns key.asSlice]

/-- **One call.** A call on a `BonsaiDb` with distinct column families returns what the same
call returns on the abstract store it holds, keeps the mapping, and leaves the abstract store and
the batches the abstract call leaves. -/
theorem runCall_bonsaiDb {s : BonsaiDb Column} (h : s.columnMapping.Distinct) (c : Call)
    (slots : List (Option (WriteBatch Namespace))) :
    ∃ r s' slots', runCall abstractStore s.abs slots c = .ok (r, s'.abs, slots') ∧
      runCall bonsaiDbImpl s (mapSlots s.columnMapping slots) c =
        .ok (r, s', mapSlots s.columnMapping slots') ∧
      s'.columnMapping = s.columnMapping := by
  have hslot : ∀ i, (mapSlots s.columnMapping slots)[i]? =
      slots[i]?.map (Option.map (List.map (BatchOp.mapCf s.columnMapping.col))) := fun i =>
    List.getElem?_map _ _ _
  cases c with
  | createBatch =>
    exact ⟨.done, s, slots ++ [some []], rfl,
      by simp [runCall, bonsaiDbImpl, BonsaiDb.createBatch, mapSlots], rfl⟩
  | get key =>
    exact ⟨_, s, slots, rfl,
      by simp [runCall, bonsaiDbImpl, BonsaiDb.get, get_abs, Except.map], rfl⟩
  | contains key =>
    exact ⟨_, s, slots, rfl,
      by simp [runCall, bonsaiDbImpl, BonsaiDb.contains, get_abs, Except.map], rfl⟩
  | getByPrefix key =>
    refine ⟨_, s, slots, rfl, ?_, rfl⟩
    simp only [runCall, bonsaiDbImpl, (bonsaiDb_prefix_scan s key).1, Except.map,
      DatabaseKeyMapping.map_eq_col]
    rfl
  | insert key v batch =>
    cases batch with
    | none =>
      refine ⟨_, _, slots, ?_, rfl, rfl⟩
      simp [runCall, abstractStore, Store.insert, Except.map, abs_putCf h, get_abs]
    | some i =>
      rcases hi : slots[i]? with _ | _ | b
      · exact ⟨.done, s, slots, by simp [runCall, hi], by simp [runCall, hslot, hi], rfl⟩
      · exact ⟨.done, s, slots, by simp [runCall, hi], by simp [runCall, hslot, hi], rfl⟩
      · refine ⟨.value (Store.get s.abs key), s,
          slots.set i (some (b ++ [.put key.ns key.asSlice v])),
          by simp [runCall, hi, abstractStore, Store.insert, Except.map], ?_, rfl⟩
        simp [runCall, hslot, hi, bonsaiDbImpl, BonsaiDb.insert, Except.map, Store.get,
          BonsaiDb.abs, mapSlots_set, DatabaseKeyMapping.map_eq_col, BatchOp.mapCf]
  | remove key batch =>
    cases batch with
    | none =>
      refine ⟨_, _, slots, ?_, rfl, rfl⟩
      simp [runCall, abstractStore, Store.remove, Except.map, abs_deleteCf h, get_abs]
    | some i =>
      rcases hi : slots[i]? with _ | _ | b
      · exact ⟨.done, s, slots, by simp [runCall, hi], by simp [runCall, hslot, hi], rfl⟩
      · exact ⟨.done, s, slots, by simp [runCall, hi], by simp [runCall, hslot, hi], rfl⟩
      · refine ⟨.value (Store.get s.abs key), s,
          slots.set i (some (b ++ [.delete key.ns key.asSlice])),
          by simp [runCall, hi, abstractStore, Store.remove, Except.map], ?_, rfl⟩
        simp [runCall, hslot, hi, bonsaiDbImpl, BonsaiDb.remove, Except.map, Store.get,
          BonsaiDb.abs, mapSlots_set, DatabaseKeyMapping.map_eq_col, BatchOp.mapCf]
  | removeByPrefix key =>
    obtain ⟨s', hs', hcols⟩ := (bonsaiDb_prefix_scan s key).2
    have hmap : s'.columnMapping = s.columnMapping := by
      simp only [BonsaiDb.removeByPrefix, BonsaiDb.writeBatch] at hs'; cases hs'; rfl
    refine ⟨.done, s', slots, ?_, by simp [runCall, bonsaiDbImpl, hs', Except.map], hmap⟩
    show _ = Except.ok (Reply.done, s'.db.cols ∘ s'.columnMapping.col, slots)
    rw [hcols, hmap, DatabaseKeyMapping.map_eq_col,
      Function.update_comp_eq_of_injective _ (DatabaseKeyMapping.col_injective h)]
    rfl
  | writeBatch i =>
    rcases hi : slots[i]? with _ | _ | b
    · exact ⟨.done, s, slots, by simp [runCall, hi], by simp [runCall, hslot, hi], rfl⟩
    · exact ⟨.done, s, slots, by simp [runCall, hi], by simp [runCall, hslot, hi], rfl⟩
    · refine ⟨.done, { s with db := s.db.write (b.map (BatchOp.mapCf s.columnMapping.col)) },
        slots.set i none, ?_, ?_, rfl⟩
      · simp [runCall, hi, abstractStore, Except.map, abs_write h]
      · simp [runCall, hslot, hi, bonsaiDbImpl, BonsaiDb.writeBatch, Except.map, mapSlots_set]

theorem run_bonsaiDb : ∀ (calls : List Call) (s : BonsaiDb Column),
    s.columnMapping.Distinct → ∀ slots : List (Option (WriteBatch Namespace)),
    ∃ replies s' slots', run abstractStore calls s.abs slots = .ok (replies, s'.abs, slots') ∧
      run bonsaiDbImpl calls s (mapSlots s.columnMapping slots) =
        .ok (replies, s', mapSlots s.columnMapping slots') ∧
      s'.columnMapping = s.columnMapping
  | [], s, _, slots => ⟨[], s, slots, rfl, rfl, rfl⟩
  | c :: cs, s, h, slots => by
    obtain ⟨r, s₁, sl₁, ha, hc, hm⟩ := runCall_bonsaiDb h c slots
    obtain ⟨rs, s₂, sl₂, ha', hc', hm'⟩ := run_bonsaiDb cs s₁ (hm ▸ h) sl₁
    rw [hm] at hc'
    exact ⟨r :: rs, s₂, sl₂, by simp [run, ha, ha', Except.map], by simp [run, hc, hc', Except.map],
      hm'.trans hm⟩

/-- **`BonsaiDb` refines the abstract store.** With its three column families pairwise
distinct, a `BonsaiDb` with any contents answers every run of calls as the abstract store it
holds does, and ends holding the abstract store's final maps. -/
theorem bonsaiDb_refines (s : BonsaiDb Column) (h : s.columnMapping.Distinct)
    (calls : List Call) :
    ∃ replies s' slots, run abstractStore calls s.abs [] = .ok (replies, s'.abs, slots) ∧
      run bonsaiDbImpl calls s [] = .ok (replies, s', mapSlots s.columnMapping slots) := by
  obtain ⟨replies, s', slots, ha, hc, -⟩ := run_bonsaiDb calls s h []
  exact ⟨replies, s', slots, ha, hc⟩

theorem bonsaiDb_refines_trie :
    (BonsaiDb.new (DB.empty : DB Nat) ⟨1, 0, 2⟩).columnMapping.Distinct ∧
    ∃ replies s' slots,
      run abstractStore [.insert (.trie [1]) [1] none, .removeByPrefix (.trie [])]
        (BonsaiDb.new DB.empty ⟨1, 0, 2⟩).abs [] = .ok (replies, s'.abs, slots) ∧
      run bonsaiDbImpl [.insert (.trie [1]) [1] none, .removeByPrefix (.trie [])]
        (BonsaiDb.new DB.empty ⟨1, 0, 2⟩) [] = .ok (replies, s', mapSlots ⟨1, 0, 2⟩ slots) :=
  have h : (BonsaiDb.new (DB.empty : DB Nat) ⟨1, 0, 2⟩).columnMapping.Distinct :=
    ⟨by decide, by decide, by decide⟩
  ⟨h, bonsaiDb_refines _ h _⟩

end Simulation

/-- Write `[1]` under the trie key `[1]`, create a batch, overwrite the key with `[2]`, write the
batch, and read the key back. -/
def replayCalls : List Call :=
  [.insert (.trie [1]) [1] none, .createBatch, .insert (.trie [1]) [2] none, .writeBatch 0,
    .get (.trie [1])]

/-- Trie keys in column `0`. -/
def replayMapping : DatabaseKeyMapping Nat := ⟨1, 0, 2⟩

/-- The batch `BonsaiTransaction::create_batch` made holds the earlier `put`, so writing it sets
the key back to `[1]`; the abstract store and `BonsaiDb` read `[2]`. -/
theorem transaction_batch_replays :
    (run bonsaiTransactionImpl replayCalls
        ((DB.empty : DB Nat), ⟨DB.empty.transactionOpt, replayMapping⟩) []).map (·.1) =
      .ok [.value none, .done, .value (some [1]), .done, .value (some [1])] ∧
    (run abstractStore replayCalls (fun _ => .empty) []).map (·.1) =
      .ok [.value none, .done, .value (some [1]), .done, .value (some [2])] ∧
    (run bonsaiDbImpl replayCalls (BonsaiDb.new DB.empty replayMapping) []).map (·.1) =
      .ok [.value none, .done, .value (some [1]), .done, .value (some [2])] :=
  ⟨rfl, rfl, rfl⟩

end Deoxys
