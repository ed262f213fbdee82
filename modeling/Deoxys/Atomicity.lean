import Deoxys.CommitmentSpec

/-!
# Deoxys.Atomicity

Failures of `update_state_root` part-way through a block. Each trie is persisted by its own
`apply_changes`, whole or not at all: the storage tries first, then the contracts trie, and the
classes trie in the other branch of the join. A later failure does not undo an earlier
`apply_changes`: even a block whose leaf hash panics leaves its storage writes behind, and over a
run of blocks each storage slot holds the value of the last block that wrote it.

* `updateStateRoot_settled` — for every set of failing handler calls, each trie is left as it was
  or as the block makes it, and the contracts trie is updated only after the storage tries.
* `storage_persists_after_late_failure` — when a call of the contract branch fails after the
  storage `apply_changes`, the run returns no root and leaves the block's storage writes
  persisted; `root_failure_keeps_storage` is a failing `root(contract_address)`.
* `rerun_after_failure` — every write of a block is an overwrite with a value computed from the
  diff and the new storage, so a healthy run from what any run left gives the root and the tries a
  healthy run from the start gives.
* `storage_latest_write` — over a run of blocks without failing calls, each from the tries the
  block before left, a storage slot holds the last value a block of the run wrote to it, or the
  value it held before the run.
-/

namespace Deoxys

section Idem

variable (R : TrieRoots) (H : Hashers) (csd : CommitmentStateDiff) (ov : Overrides) (n : UInt64)
  (bh : Option H256)

theorem newStorage_idem (t : Trie (ContractAddress × StorageKey) StarkFelt) :
    newStorage csd n (newStorage csd n t) = newStorage csd n t := by
  ext1
  · exact writeAll_idem _ csd.nodup_storageWrites
  · rfl

theorem newContracts_idem (old : Trie ContractAddress Felt)
    (stor : Trie (ContractAddress × StorageKey) StarkFelt) :
    newContracts R H csd ov n bh (newContracts R H csd ov n bh old stor) stor =
      newContracts R H csd ov n bh old stor := by
  ext1
  · funext a; simp only [newContracts]; split_ifs <;> rfl
  · rfl

theorem newClasses_idem (old : Trie ClassHash FieldElement) :
    newClasses H csd n (newClasses H csd n old) = newClasses H csd n old := by
  ext1
  · funext c
    simp only [newClasses]
    cases (csd.classHashToCompiledClassHash.get c).bind (classLeafHash H) <;> rfl
  · rfl

/-- The tries a run of `update_state_root` from `s` can leave: each trie as it was or as the block
makes it, and the contracts trie only after the storage tries and when no leaf panics. -/
structure Settled (s t : Tries) : Prop where
  storage : t.storage = s.storage ∨ t.storage = newStorage csd n s.storage
  contracts : t.contracts = s.contracts ∨
    t.storage = newStorage csd n s.storage ∧ leafPanics R H csd ov bh t.storage = false ∧
      t.contracts = newContracts R H csd ov n bh s.contracts t.storage
  classes : t.classes = s.classes ∨
    classLeafPanics H csd = false ∧ t.classes = newClasses H csd n s.classes

/-- **Each trie is updated whole or not at all.** For every set of failing handler calls, a run of
`update_state_root` leaves each trie as it was or as the block makes it, and the contracts trie is
updated only after the storage tries. -/
theorem updateStateRoot_settled (fails : HandlerCall → Bool) (sch : Schedule) (s : Tries) :
    Settled R H csd ov n bh s (updateStateRoot fails R H sch csd ov n bh s).2 := by
  rw [updateStateRoot_eq, joinRoots_snd]
  have hc := contractSpec_state fails R H csd ov n bh ⟨s.storage, s.contracts⟩
  refine ⟨?_, ?_, ?_⟩ <;> dsimp only
  · rcases hc with h | h | ⟨-, h⟩ <;> rw [h]
    exacts [.inl rfl, .inr rfl, .inr rfl]
  · rcases hc with h | h | ⟨hp, h⟩ <;> rw [h]
    exacts [.inl rfl, .inl rfl, .inr ⟨rfl, hp, rfl⟩]
  · rcases classSpec_state fails R H csd n s.classes with h | ⟨hp, h⟩ <;> rw [h]
    exacts [.inl rfl, .inr ⟨hp, rfl⟩]

/-- A healthy run from tries a run from `s` left gives what a healthy run from `s` gives. -/
theorem contractSpec_healthy_settled {s t : Tries} (h : Settled R H csd ov n bh s t) :
    contractSpec (fun _ => false) R H csd ov n bh ⟨t.storage, t.contracts⟩ =
      contractSpec (fun _ => false) R H csd ov n bh ⟨s.storage, s.contracts⟩ := by
  have hs : newStorage csd n t.storage = newStorage csd n s.storage := by
    rcases h.storage with e | e <;> rw [e]; exact newStorage_idem csd n s.storage
  rw [contractSpec_healthy, contractSpec_healthy]
  dsimp only
  rw [hs]
  rcases h.contracts with e | ⟨es, hp, e⟩
  · rw [e]
  · rw [es] at hp e
    rw [hp, e, newContracts_idem]
    rfl

theorem classSpec_healthy_settled {s t : Tries} (h : Settled R H csd ov n bh s t) :
    classSpec (fun _ => false) R H csd n t.classes =
      classSpec (fun _ => false) R H csd n s.classes := by
  rw [classSpec_healthy, classSpec_healthy]
  rcases h.classes with e | ⟨hp, e⟩
  · rw [e]
  · rw [hp, e, newClasses_idem]
    rfl

theorem updateStateRoot_healthy_settled {s t : Tries} (h : Settled R H csd ov n bh s t)
    (sch sch' : Schedule) :
    updateStateRoot (fun _ => false) R H sch csd ov n bh t =
      updateStateRoot (fun _ => false) R H sch' csd ov n bh s := by
  rw [updateStateRoot_eq, updateStateRoot_eq, contractSpec_healthy_settled R H csd ov n bh h,
    classSpec_healthy_settled R H csd ov n bh h]

/-- **Re-running a block.** Whatever calls failed in a run of `update_state_root(d, n)`, a run
without failures from the tries it left returns the same root and leaves the same tries as a run
without failures from where the first one started. -/
theorem rerun_after_failure (fails : HandlerCall → Bool) (sch sch' sch'' : Schedule) (s : Tries) :
    updateStateRoot (fun _ => false) R H sch' csd ov n bh
        (updateStateRoot fails R H sch csd ov n bh s).2 =
      updateStateRoot (fun _ => false) R H sch'' csd ov n bh s :=
  updateStateRoot_healthy_settled R H csd ov n bh
    (updateStateRoot_settled R H csd ov n bh fails sch s) sch' sch''

end Idem

section LateFailure

variable (fails : HandlerCall → Bool) (R : TrieRoots) (H : Hashers) (csd : CommitmentStateDiff)
  (ov : Overrides) (n : UInt64) (bh : Option H256)

/-- A call of the contract branch after the storage `apply_changes` fails: a storage read, a
`root(contract_address)`, a leaf hash, or a call of the contracts trie. -/
def lateFailure (stor : Trie (ContractAddress × StorageKey) StarkFelt) : Bool :=
  fails (.read .storage) || (csd.storageUpdates.keys.any fun a => fails (.rootOf a)) ||
    leafPanics R H csd ov bh stor || contractPhaseFails fails n || fails (.read .contracts) ||
    fails (.root .contracts)

/-- The contract branch fails after the storage phase with the block's storage persisted. -/
theorem contractSpec_late_failure (s : ContractTries) (hs : storagePhaseFails fails csd n = false)
    (hl : lateFailure fails R H csd ov n bh (newStorage csd n s.storage) = true) :
    ∃ e c, contractSpec fails R H csd ov n bh s = .error e ⟨newStorage csd n s.storage, c⟩ := by
  simp only [lateFailure, Bool.or_eq_true] at hl
  simp only [contractSpec, hs, Bool.false_eq_true, if_false, Bool.or_eq_true]
  -- each failing branch leaves the new storage; the branch that returns contradicts `hl`
  split_ifs
  any_goals exact ⟨_, _, rfl⟩
  exact absurd hl (by simp_all)

theorem joinRoots_error_fst (e : Failure) (c : ContractTries)
    (classes : EStateM.Result Failure (Trie ClassHash FieldElement) FieldElement) :
    (joinRoots H (.error e c) classes).1 = none := by
  cases classes <;> rfl

/-- **A late failure keeps the storage.** For every diff, block and starting tries, when every
call up to the storage `apply_changes` succeeds and a later call of the contract branch fails,
the run returns no root and the storage tries hold the block's writes, whatever the class branch
does. -/
theorem storage_persists_after_late_failure (sch : Schedule) (s : Tries)
    (hs : storagePhaseFails fails csd n = false)
    (hl : lateFailure fails R H csd ov n bh (newStorage csd n s.storage) = true) :
    (updateStateRoot fails R H sch csd ov n bh s).1 = none ∧
      (updateStateRoot fails R H sch csd ov n bh s).2.storage = newStorage csd n s.storage := by
  obtain ⟨e, c, hc⟩ :=
    contractSpec_late_failure fails R H csd ov n bh ⟨s.storage, s.contracts⟩ hs hl
  rw [updateStateRoot_eq, hc, joinRoots_snd]
  exact ⟨joinRoots_error_fst H e _ _, rfl⟩

end LateFailure

/-- Contract `0` with one storage update, key `0` to value `0`. -/
def storageOnly : CommitmentStateDiff :=
  { CommitmentStateDiff.empty with
    storageUpdates := IndexMap.empty.insert StarkFelt.zero
      (IndexMap.empty.insert StarkFelt.zero StarkFelt.zero) }

theorem root_failure_keeps_storage :
    (updateStateRoot (· == .rootOf StarkFelt.zero) zeroRoots sumHashers .sequential storageOnly
        (fun _ _ => none) 0 none Tries.empty).1 = none ∧
      (updateStateRoot (· == .rootOf StarkFelt.zero) zeroRoots sumHashers .sequential storageOnly
          (fun _ _ => none) 0 none Tries.empty).2.storage.contents
          (StarkFelt.zero, StarkFelt.zero) ≠
        Tries.empty.storage.contents (StarkFelt.zero, StarkFelt.zero) :=
  have h := storage_persists_after_late_failure (· == .rootOf StarkFelt.zero) zeroRoots sumHashers
    storageOnly (fun _ _ => none) 0 none .sequential Tries.empty (by decide) (by decide)
  ⟨h.1, by rw [h.2]; decide⟩

section Blocks

variable (R : TrieRoots) (H : Hashers) (sch : Schedule) (ov : Overrides)

/-- Runs of `update_state_root` without failing handler calls over blocks given by their diff,
number and Substrate block hash, each from the tries the block before left. -/
def updateStateRoots : List (CommitmentStateDiff × UInt64 × Option H256) → Tries → Tries
  | [], s => s
  | (csd, n, bh) :: blocks, s =>
    updateStateRoots blocks (updateStateRoot (fun _ => false) R H sch csd ov n bh s).2

/-- Without failing calls, a block always persists its storage writes. -/
theorem updateStateRoot_healthy_storage (csd : CommitmentStateDiff) (n : UInt64)
    (bh : Option H256) (s : Tries) :
    (updateStateRoot (fun _ => false) R H sch csd ov n bh s).2.storage =
      newStorage csd n s.storage := by
  rw [updateStateRoot_eq, joinRoots_snd, contractSpec_healthy]
  split <;> rfl

/-- **Storage holds the latest write.** After every run of blocks, storage key `k` of contract `a`
holds the value the last block writing it wrote, or, when no block wrote it, what it held before
the run. -/
theorem storage_latest_write (blocks : List (CommitmentStateDiff × UInt64 × Option H256))
    (s : Tries) (a : ContractAddress) (k : StorageKey) :
    (updateStateRoots R H sch ov blocks s).storage.contents (a, k) =
      (blocks.reverse.findSome? fun b => (b.1.storageUpdates.get a).bind (·.get k)).or
        (s.storage.contents (a, k)) := by
  induction blocks generalizing s with
  | nil => rfl
  | cons b blocks ih =>
    obtain ⟨csd, n, bh⟩ := b
    rw [updateStateRoots, ih, updateStateRoot_healthy_storage, newStorage, Trie.commit_contents,
      Trie.update_contents, writeAll_apply _ csd.nodup_storageWrites,
      CommitmentStateDiff.lookupKey_storageWrites, List.reverse_cons, List.findSome?_append,
      Option.or_assoc, List.findSome?_cons, List.findSome?_nil]
    cases (csd.storageUpdates.get a).bind (·.get k) <;> rfl

end Blocks

end Deoxys
