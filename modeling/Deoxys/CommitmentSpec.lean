import Deoxys.Commitment

/-!
# Deoxys.CommitmentSpec

What the two branches of `update_state_root` do, phase by phase, over the tries' contents; and the
theorems that the `EStateM` programs of `Deoxys.Commitment` do exactly that, for every set of
failing handler calls and in every order the parallel maps deliver.

The block's effect on each trie is declarative: `newStorage` writes every storage update,
`newContracts` gives each contract with storage updates its leaf over the new storage, and
`newClasses` each declared class its leaf, each committed at `n + 1`. Keys are unique in a diff's
maps, so none of them depends on an order.

* `contractSpec` — the contract branch persists nothing while a call before the storage
  `apply_changes` fails, then the storage tries, then, unless a `root` call fails, a leaf panics or
  a contracts trie call fails, the contracts trie.
* `classSpec` — the class branch persists the classes trie unless a leaf panics or one of its
  calls fails before `apply_changes` returns.
* `run_contractTrieRoot`, `run_classTrieRoot` — the programs refine the specifications;
  `updateStateRoot_eq` joins them.
-/

namespace Deoxys

section Phases

variable (fails : HandlerCall → Bool)

/-- A call of `contract_trie_root` before the storage tries are persisted fails. -/
def storagePhaseFails (csd : CommitmentStateDiff) (n : UInt64) : Bool :=
  fails (.write .contracts n) || fails (.write .storage n) || fails (.init .contracts) ||
    (storageCalls csd).any fails || fails (.commit .storage (n + 1)) ||
    fails (.applyChanges .storage)

/-- `update`, `commit` or `apply_changes` of the contracts trie fails. -/
def contractPhaseFails (n : UInt64) : Bool :=
  fails (.update .contracts) || fails (.commit .contracts (n + 1)) ||
    fails (.applyChanges .contracts)

/-- A call of the classes trie between its parallel map and its `apply_changes` fails. -/
def classPhaseFails (n : UInt64) : Bool :=
  fails (.init .classes) || fails (.update .classes) || fails (.commit .classes (n + 1)) ||
    fails (.applyChanges .classes)

end Phases

/-- The storage tries with the block's storage updates written, committed at `n + 1`. -/
def newStorage (csd : CommitmentStateDiff) (n : UInt64)
    (t : Trie (ContractAddress × StorageKey) StarkFelt) :
    Trie (ContractAddress × StorageKey) StarkFelt :=
  (t.update csd.storageWrites).commit (n + 1)

section Leaves

variable (R : TrieRoots) (H : Hashers)

/-- The leaf of contract `a` over the storage tries `stor`: `contract_state_leaf_hash` with the
root of `a`'s storage. `none` is a panic. -/
def contractLeaf (csd : CommitmentStateDiff) (ov : Overrides) (bh : Option H256)
    (stor : Trie (ContractAddress × StorageKey) StarkFelt) (a : ContractAddress) : Option Felt :=
  contractStateLeafHash H csd ov a (R.storage fun k => stor.contents (a, k)) bh

/-- The leaf of some contract with storage updates panics. -/
def leafPanics (csd : CommitmentStateDiff) (ov : Overrides) (bh : Option H256)
    (stor : Trie (ContractAddress × StorageKey) StarkFelt) : Bool :=
  csd.storageUpdates.keys.any fun a => (contractLeaf R H csd ov bh stor a).isNone

/-- The contracts trie with the block's leaves written, committed at `n + 1`: each contract with
storage updates gets its leaf over `stor`, every other contract keeps its own. -/
def newContracts (csd : CommitmentStateDiff) (ov : Overrides) (n : UInt64) (bh : Option H256)
    (old : Trie ContractAddress Felt) (stor : Trie (ContractAddress × StorageKey) StarkFelt) :
    Trie ContractAddress Felt :=
  ⟨fun a => if a ∈ csd.storageUpdates.keys then contractLeaf R H csd ov bh stor a
    else old.contents a, n + 1⟩

/-- The leaf of some declared class panics. -/
def classLeafPanics (csd : CommitmentStateDiff) : Bool :=
  csd.classHashToCompiledClassHash.entries.any fun e => (classLeafHash H e.2).isNone

/-- The classes trie with the block's class leaves written, committed at `n + 1`. -/
def newClasses (csd : CommitmentStateDiff) (n : UInt64) (old : Trie ClassHash FieldElement) :
    Trie ClassHash FieldElement :=
  ⟨fun c => ((csd.classHashToCompiledClassHash.get c).bind (classLeafHash H)).or (old.contents c),
    n + 1⟩

end Leaves

section Spec

variable (fails : HandlerCall → Bool) (R : TrieRoots) (H : Hashers)

/-- What `contract_trie_root` does, phase by phase: it persists nothing while a call before the
storage `apply_changes` fails; then the storage tries; then, unless a leaf panics or a contracts
trie call fails, the contracts trie; and it returns the contracts root. -/
def contractSpec (csd : CommitmentStateDiff) (ov : Overrides) (n : UInt64) (bh : Option H256)
    (s : ContractTries) : EStateM.Result Failure ContractTries FieldElement :=
  if storagePhaseFails fails csd n then .error .storage s else
  let s₁ : ContractTries := { s with storage := newStorage csd n s.storage }
  if fails (.read .storage) then .error .storage s₁ else
  if (csd.storageUpdates.keys.any fun a => fails (.rootOf a)) ||
      leafPanics R H csd ov bh s₁.storage then .error .panic s₁ else
  if contractPhaseFails fails n then .error .storage s₁ else
  let s₂ : ContractTries :=
    { s₁ with contracts := newContracts R H csd ov n bh s.contracts s₁.storage }
  if fails (.read .contracts) || fails (.root .contracts) then .error .storage s₂
  else .ok (R.contracts s₂.contracts.contents).into s₂

/-- What `class_trie_root` does, phase by phase. -/
def classSpec (csd : CommitmentStateDiff) (n : UInt64) (s : Trie ClassHash FieldElement) :
    EStateM.Result Failure (Trie ClassHash FieldElement) FieldElement :=
  if fails (.write .classes n) then .error .storage s else
  if classLeafPanics H csd then .error .panic s else
  if classPhaseFails fails n then .error .storage s else
  let s' := newClasses H csd n s
  if fails (.read .classes) || fails (.root .classes) then .error .storage s'
  else .ok (R.classes s'.contents).into s'

theorem leafUpdate_eq (csd : CommitmentStateDiff) (ov : Overrides) (bh : Option H256)
    (stor : Trie (ContractAddress × StorageKey) StarkFelt) (a : ContractAddress) :
    leafUpdate fails R H csd ov bh ⟨.storage, stor⟩ a =
      ((if fails (.rootOf a) then none else contractLeaf R H csd ov bh stor a).map (a, ·)) := by
  unfold leafUpdate TrieRead.rootAt contractLeaf
  split
  · rfl
  · show (contractStateLeafHash H csd ov a _ bh >>= fun lh => pure (a, lh)) = _
    cases contractStateLeafHash H csd ov a (R.storage fun k => stor.contents (a, k)) bh <;> rfl

theorem classLeaf_eq : classLeaf H = fun e => (classLeafHash H e.2).map (e.1, ·) := by
  funext e; unfold classLeaf; cases classLeafHash H e.2 <;> rfl

/-- The leaves of the parallel map exist exactly when no `root` call fails and no leaf panics. -/
theorem all_leafUpdate (csd : CommitmentStateDiff) (ov : Overrides) (bh : Option H256)
    (stor : Trie (ContractAddress × StorageKey) StarkFelt) :
    (csd.storageUpdates.entries.all fun e =>
        (if fails (.rootOf e.1) then none else contractLeaf R H csd ov bh stor e.1).isSome) =
      !((csd.storageUpdates.keys.any fun a => fails (.rootOf a)) ||
        leafPanics R H csd ov bh stor) := by
  rw [Bool.eq_iff_iff]
  simp [leafPanics, IndexMap.keys, List.all_eq_true, List.any_eq_true, apply_ite, forall_and,
    Option.isSome_iff_ne_none]

/-- Writing the leaves of the parallel map into the contracts trie, in any order, and committing
gives `newContracts`. -/
theorem commit_update_leaves (o : Order (ContractAddress × Felt)) (csd : CommitmentStateDiff)
    (ov : Overrides) (n : UInt64) (bh : Option H256) (old : Trie ContractAddress Felt)
    (stor : Trie (ContractAddress × StorageKey) StarkFelt)
    (h : ((csd.storageUpdates.keys.any fun a => fails (.rootOf a)) ||
      leafPanics R H csd ov bh stor) = false) :
    (old.update (o.run (csd.storageUpdates.entries.filterMap fun e =>
      (if fails (.rootOf e.1) then none else contractLeaf R H csd ov bh stor e.1).map
        (e.1, ·)))).commit (n + 1) = newContracts R H csd ov n bh old stor := by
  have hall := all_leafUpdate fails R H csd ov bh stor
  rw [h] at hall
  ext1
  · funext a
    simp only [Trie.commit_contents, Trie.update_contents, newContracts]
    rw [writeAll_run_keyed _ o _ csd.storageUpdates.nodup hall]
    simp only [Bool.or_eq_false_iff, leafPanics, List.any_eq_false, Option.isNone_iff_eq_none] at h
    by_cases ha : a ∈ csd.storageUpdates.keys
    · obtain ⟨m, hm⟩ := Option.isSome_iff_exists.1 ((csd.storageUpdates.mem_keys).1 ha)
      obtain ⟨v, hv⟩ := Option.ne_none_iff_exists'.1 (h.2 a ha)
      simp only [ha, if_true, IndexMap.get] at hm ⊢
      simp [hm, h.1 a ha, hv]
    · have hn : lookupKey csd.storageUpdates.entries a = none := lookupKey_eq_none ha
      simp [ha, hn]
  · rfl

theorem run_contractTrieRoot (o : Order (ContractAddress × Felt)) (csd : CommitmentStateDiff)
    (ov : Overrides) (n : UInt64) (bh : Option H256) (s : ContractTries) :
    (contractTrieRoot fails R H o csd ov n bh).run s = contractSpec fails R H csd ov n bh s := by
  have hs : (s.storage.update (csd.storageUpdates.entries.flatMap
      CommitmentStateDiff.contractWrites)).commit (n + 1) = newStorage csd n s.storage := rfl
  simp only [contractTrieRoot, StorageHandler.contractMut,
    StorageHandler.contractStorageMut, StorageHandler.contract, StorageHandler.contractStorage,
    bind_assoc, run_writeHandler_bind, TrieWrite.run_init_bind, run_insertStorage_bind,
    TrieWrite.run_commit_bind, TrieWrite.run_applyChanges_bind, run_readHandler_bind,
    run_orPanic_bind, TrieWrite.run_update_bind, TrieRead.run_root_bind, leafUpdate_eq,
    parBridgeMap_keyed, all_leafUpdate, hs]
  unfold contractSpec
  by_cases hp : ((csd.storageUpdates.keys.any fun a => fails (.rootOf a)) ||
      leafPanics R H csd ov bh (newStorage csd n s.storage)) = true
  · simp only [hp, Bool.not_true, Bool.false_eq_true, if_false, if_true, Option.elim]
    simp only [storagePhaseFails, storageCalls, Bool.or_eq_true, ite_or]
  · simp only [hp, Bool.not_false, if_false, if_true, Option.elim,
      commit_update_leaves fails R H o csd ov n bh s.contracts _ (eq_false_of_ne_true hp)]
    simp only [storagePhaseFails, storageCalls, contractPhaseFails, Bool.or_eq_true, ite_or,
      Bool.false_eq_true, if_false]
    rfl

theorem all_classLeaf (csd : CommitmentStateDiff) :
    (csd.classHashToCompiledClassHash.entries.all fun e => (classLeafHash H e.2).isSome) =
      !classLeafPanics H csd := by
  rw [Bool.eq_iff_iff]
  simp [classLeafPanics, List.all_eq_true, Option.isSome_iff_ne_none]

theorem commit_update_classLeaves (o : Order (ClassHash × FieldElement))
    (csd : CommitmentStateDiff)
    (n : UInt64) (old : Trie ClassHash FieldElement) (h : classLeafPanics H csd = false) :
    (old.update (o.run (csd.classHashToCompiledClassHash.entries.filterMap fun e =>
      (classLeafHash H e.2).map (e.1, ·)))).commit (n + 1) = newClasses H csd n old := by
  have hall := all_classLeaf H csd
  rw [h] at hall
  ext1
  · funext c
    exact writeAll_run_keyed _ o _ csd.classHashToCompiledClassHash.nodup hall c
  · rfl

theorem run_classTrieRoot (o : Order (ClassHash × FieldElement)) (csd : CommitmentStateDiff)
    (n : UInt64) (s : Trie ClassHash FieldElement) :
    (classTrieRoot fails R H o csd n).run s = classSpec fails R H csd n s := by
  simp only [classTrieRoot, StorageHandler.classMut, StorageHandler.class, bind_assoc,
    run_writeHandler_bind, run_orPanic_bind, classLeaf_eq, parBridgeMap_keyed, all_classLeaf,
    TrieWrite.run_init_bind, TrieWrite.run_update_bind, TrieWrite.run_commit_bind,
    TrieWrite.run_applyChanges_bind, run_readHandler_bind, TrieRead.run_root_bind]
  unfold classSpec
  by_cases hp : classLeafPanics H csd = true
  · simp only [hp, Bool.not_true, Bool.false_eq_true, if_false, if_true, Option.elim]
  · simp only [hp, Bool.not_false, if_false, if_true, Option.elim, id,
      commit_update_classLeaves H o csd n s (eq_false_of_ne_true hp)]
    simp only [classPhaseFails, Bool.or_eq_true, ite_or, Bool.false_eq_true, if_false]
    rfl

theorem contractSpec_state (csd : CommitmentStateDiff) (ov : Overrides) (n : UInt64)
    (bh : Option H256) (s : ContractTries) :
    (outcome (contractSpec fails R H csd ov n bh s)).2 = s ∨
      (outcome (contractSpec fails R H csd ov n bh s)).2 =
        { s with storage := newStorage csd n s.storage } ∨
      (leafPanics R H csd ov bh (newStorage csd n s.storage) = false ∧
        (outcome (contractSpec fails R H csd ov n bh s)).2 =
          ⟨newStorage csd n s.storage,
            newContracts R H csd ov n bh s.contracts (newStorage csd n s.storage)⟩) := by
  simp only [contractSpec]
  split_ifs <;> simp_all [outcome]

theorem classSpec_state (csd : CommitmentStateDiff) (n : UInt64) (s : Trie ClassHash FieldElement) :
    (outcome (classSpec fails R H csd n s)).2 = s ∨
      (classLeafPanics H csd = false ∧
        (outcome (classSpec fails R H csd n s)).2 = newClasses H csd n s) := by
  simp only [classSpec]
  split_ifs <;> simp_all [outcome]

theorem contractSpec_healthy (csd : CommitmentStateDiff) (ov : Overrides) (n : UInt64)
    (bh : Option H256) (s : ContractTries) :
    contractSpec (fun _ => false) R H csd ov n bh s =
      if leafPanics R H csd ov bh (newStorage csd n s.storage) then
        .error .panic { s with storage := newStorage csd n s.storage }
      else
        .ok
          (R.contracts
            (newContracts R H csd ov n bh s.contracts (newStorage csd n s.storage)).contents).into
          ⟨newStorage csd n s.storage,
            newContracts R H csd ov n bh s.contracts (newStorage csd n s.storage)⟩ := by
  simp [contractSpec, storagePhaseFails, contractPhaseFails]

theorem classSpec_healthy (csd : CommitmentStateDiff) (n : UInt64)
    (s : Trie ClassHash FieldElement) :
    classSpec (fun _ => false) R H csd n s =
      if classLeafPanics H csd then .error .panic s
      else .ok (R.classes (newClasses H csd n s).contents).into (newClasses H csd n s) := by
  simp [classSpec, classPhaseFails]

theorem updateStateRoot_eq (sch : Schedule) (csd : CommitmentStateDiff) (ov : Overrides)
    (n : UInt64) (bh : Option H256) (s : Tries) :
    updateStateRoot fails R H sch csd ov n bh s =
      joinRoots H (contractSpec fails R H csd ov n bh ⟨s.storage, s.contracts⟩)
        (classSpec fails R H csd n s.classes) := by
  rw [updateStateRoot, run_contractTrieRoot, run_classTrieRoot]

end Spec

end Deoxys
