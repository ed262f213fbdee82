import Deoxys.Atomicity
import Deoxys.CanonicalFelts

/-!
# Deoxys.ContractLeaves

Which contracts-trie leaves a block writes, and from what. `contract_trie_root` computes a leaf
only for the contracts of `storage_updates`, and `contract_state_leaf_hash` reads the nonce from
the diff alone, `Nonce::default()` when the diff has none; only the class hash falls back to the
override store.

* `updateStateRoot_ok` — a run that returns a root leaves the three tries the block makes.
* `contracts_unchanged_off_storage` — in every run, a contract without storage updates keeps its
  leaf.
* `nonce_update_leaf_unchanged` — a state update that only changes a nonce commits, and the
  contract's leaf stays what it was.
* `leaf_nonce_default` — a leaf written for a contract whose diff has no nonce hashes nonce `0`,
  whatever nonce earlier blocks committed.
* `deployAndWrite_end_to_end` — a block that deploys a contract and writes one value commits,
  returns the contracts root as the state root while no class was declared, and leaves the value
  in the storage trie.
-/

namespace Deoxys

section Leaves

variable (fails : HandlerCall → Bool) (R : TrieRoots) (H : Hashers) (csd : CommitmentStateDiff)
  (ov : Overrides) (n : UInt64) (bh : Option H256)

theorem contractSpec_ok (s : ContractTries) :
    (∃ e t, contractSpec fails R H csd ov n bh s = .error e t) ∨
      contractSpec fails R H csd ov n bh s =
        .ok
          (R.contracts
            (newContracts R H csd ov n bh s.contracts (newStorage csd n s.storage)).contents).into
          ⟨newStorage csd n s.storage,
            newContracts R H csd ov n bh s.contracts (newStorage csd n s.storage)⟩ := by
  simp only [contractSpec]
  split_ifs <;> simp

theorem classSpec_ok (s : Trie ClassHash FieldElement) :
    (∃ e t, classSpec fails R H csd n s = .error e t) ∨
      classSpec fails R H csd n s =
        .ok (R.classes (newClasses H csd n s).contents).into (newClasses H csd n s) := by
  simp only [classSpec]
  split_ifs <;> simp

/-- The root and the tries of a run that applies the whole block. -/
def blockCommitted (s : Tries) : Option FieldElement × Tries :=
  let storage := newStorage csd n s.storage
  let contracts := newContracts R H csd ov n bh s.contracts storage
  let classes := newClasses H csd n s.classes
  (calculateStateRoot H (R.contracts contracts.contents).into (R.classes classes.contents).into,
    ⟨storage, contracts, classes⟩)

/-- A run that returns a root has applied the whole block. -/
theorem updateStateRoot_ok (sch : Schedule) (s : Tries) :
    (updateStateRoot fails R H sch csd ov n bh s).1 = none ∨
      updateStateRoot fails R H sch csd ov n bh s = blockCommitted R H csd ov n bh s := by
  rw [updateStateRoot_eq]
  rcases contractSpec_ok fails R H csd ov n bh ⟨s.storage, s.contracts⟩ with ⟨e, t, hc⟩ | hc
  · left; rw [hc]; cases classSpec fails R H csd n s.classes <;> rfl
  · rcases classSpec_ok fails R H csd n s.classes with ⟨e, t, hk⟩ | hk
    · left; rw [hc, hk]; rfl
    · right; rw [hc, hk]; rfl

/-- A run without failures in which no leaf panics applies the whole block. -/
theorem updateStateRoot_healthy (sch : Schedule) (s : Tries)
    (hl : leafPanics R H csd ov bh (newStorage csd n s.storage) = false)
    (hk : classLeafPanics H csd = false) :
    updateStateRoot (fun _ => false) R H sch csd ov n bh s = blockCommitted R H csd ov n bh s := by
  rw [updateStateRoot_eq, contractSpec_healthy, classSpec_healthy, hl, hk]
  rfl

/-- **Only contracts with storage updates get a new leaf.** In every run, whatever calls fail, a
contract without storage updates keeps its contracts-trie leaf. -/
theorem contracts_unchanged_off_storage (sch : Schedule) (s : Tries) (a : ContractAddress) :
    a ∈ csd.storageUpdates.keys ∨
      (updateStateRoot fails R H sch csd ov n bh s).2.contracts.contents a =
        s.contracts.contents a := by
  by_cases ha : a ∈ csd.storageUpdates.keys
  · exact .inl ha
  · right
    rcases (updateStateRoot_settled R H csd ov n bh fails sch s).contracts with
      h | ⟨-, -, h⟩ <;> rw [h]
    simp [newContracts, ha]

/-- **The nonce of a leaf is the diff's, or zero.** When a run returns a root, the leaf it wrote for
a contract with storage updates and no nonce in the diff hashes nonce `0`, whatever the tries it
started from. -/
theorem leaf_nonce_default (sch : Schedule) (s : Tries) {a : ContractAddress}
    (ha : a ∈ csd.storageUpdates.keys) (hn : csd.addressToNonce.get a = none)
    (hok : (updateStateRoot fails R H sch csd ov n bh s).1.isSome) :
    (updateStateRoot fails R H sch csd ov n bh s).2.contracts.contents a =
      (classHash csd ov a bh).map fun c => Felt.fromBytesBe (H.pedersen (H.pedersen (H.pedersen c
        (R.storage fun k =>
          (updateStateRoot fails R H sch csd ov n bh s).2.storage.contents (a, k)).into)
          FieldElement.zero) FieldElement.zero).toBytesBe := by
  rcases updateStateRoot_ok fails R H csd ov n bh sch s with h | h
  · simp [h] at hok
  · rw [h]
    simp only [blockCommitted, newContracts, ha, if_true, contractLeaf, contractStateLeafHash, hn,
      FieldElement.fromBytesBe_felt, Option.getD_none, FieldElement.fromBytesBe_zero]
    cases classHash csd ov a bh <;> rfl

end Leaves

/-- A state update that only changes the nonce of contract `0`, to `1`. -/
def nonceUpdate : StateDiffWrapper := ⟨[], [(StarkFelt.zero, StarkFelt.ofNat 1)], [], [], []⟩

/-- A block that only changes a contract's nonce commits, and leaves that contract's leaf as it was,
from every state. -/
theorem nonce_update_leaf_unchanged (R : TrieRoots) (H : Hashers) (sch : Schedule) (ov : Overrides)
    (n : UInt64) (bh : Option H256) (s : Tries) :
    (buildCommitmentStateDiff nonceUpdate).addressToNonce.get StarkFelt.zero =
        some (StarkFelt.ofNat 1) ∧
      (updateStateRoot (fun _ => false) R H sch (buildCommitmentStateDiff nonceUpdate) ov n bh
        s).1.isSome ∧
      (updateStateRoot (fun _ => false) R H sch (buildCommitmentStateDiff nonceUpdate) ov n bh
          s).2.contracts.contents StarkFelt.zero = s.contracts.contents StarkFelt.zero := by
  rw [updateStateRoot_healthy R H (buildCommitmentStateDiff nonceUpdate) ov n bh sch s rfl rfl]
  exact ⟨by decide, calculateStateRoot_isSome H _ _, rfl⟩

/-- Block `1` deploys contract `0` with class hash `0` and nonce `5`, and writes `1` at its
key `0`. -/
def deployBlock : StateDiffWrapper :=
  ⟨[(StarkFelt.zero, StarkFelt.zero)], [(StarkFelt.zero, StarkFelt.ofNat 5)],
    [(StarkFelt.zero, [(StarkFelt.zero, StarkFelt.ofNat 1)])], [], []⟩

/-- Block `2` writes `2` at key `0` of contract `0`, and has no nonce for it. -/
def storageBlock : StateDiffWrapper :=
  ⟨[], [], [(StarkFelt.zero, [(StarkFelt.zero, StarkFelt.ofNat 2)])], [], []⟩

/-- The override store: empty at block `1`'s hash `1`; at block `2`'s hash `0`, after
`deployBlock`, contract `0` has class hash `0`. -/
def deployedClass : Overrides := fun h a =>
  if h = 0 ∧ a = StarkFelt.zero then some StarkFelt.zero else none

/-- `deployBlock` at block `1`, hash `1`, then `storageBlock` at block `2`, hash `0`, from empty
tries. -/
def twoBlocks : Option FieldElement × Tries :=
  updateStateRoot (fun _ => false) zeroRoots sumHashers .sequential
    (buildCommitmentStateDiff storageBlock) deployedClass 2 (some 0)
    (updateStateRoot (fun _ => false) zeroRoots sumHashers .sequential
      (buildCommitmentStateDiff deployBlock) deployedClass 1 (some 1) Tries.empty).2

/-- Block `2` commits, and contract `0`'s leaf is `0 + 0 + 0 + 0`, nonce `0`: the nonce `5` of block
`1` would make it `5`. -/
theorem twoBlocks_leaf_nonce_zero :
    (∀ a, deployedClass 1 a = none) ∧
      (buildCommitmentStateDiff deployBlock).addressToNonce.get StarkFelt.zero =
        some (StarkFelt.ofNat 5) ∧
      twoBlocks.1.isSome ∧
      twoBlocks.2.contracts.contents StarkFelt.zero = some ⟨0, starkPrime_pos⟩ :=
  ⟨fun _ => if_neg fun h => absurd h.1 (by decide), by decide, by decide,
    (leaf_nonce_default (fun _ => false) zeroRoots sumHashers
      (buildCommitmentStateDiff storageBlock) deployedClass 2 (some 0) .sequential _ (by decide)
      (by decide) (by decide)).trans (by decide)⟩

/-- A state update that deploys contract `a` with class hash `c` and writes `v` at its key `k`. -/
def deployAndWrite (a c k v : StarkFelt) : StateDiffWrapper :=
  ⟨[(a, c)], [], [(a, [(k, v)])], [], []⟩

/-- **A deploy and a write, end to end.** From empty tries whose classes root is zero, the block
built from a state update that deploys a contract with a class hash below the prime and writes one
storage value commits at block `10`, its state root is the contracts root, and the storage trie
holds the value. -/
theorem deployAndWrite_end_to_end (R : TrieRoots) (H : Hashers) (sch : Schedule) (ov : Overrides)
    (a c k v : StarkFelt) (hc : beValue c.bytes < starkPrime)
    (hR : (R.classes fun _ => none).into = FieldElement.zero) :
    (updateStateRoot (fun _ => false) R H sch (buildCommitmentStateDiff (deployAndWrite a c k v))
        ov 10 none Tries.empty).1 =
      some (R.contracts (updateStateRoot (fun _ => false) R H sch
        (buildCommitmentStateDiff (deployAndWrite a c k v)) ov 10 none
          Tries.empty).2.contracts.contents).into ∧
    (updateStateRoot (fun _ => false) R H sch (buildCommitmentStateDiff (deployAndWrite a c k v))
        ov 10 none Tries.empty).2.storage.contents (a, k) = some v := by
  -- the deployed class hash, `0` for the system contract, reads as a field element
  have hcls : (buildCommitmentStateDiff (deployAndWrite a c k v)).addressToClassHash.get a =
      some (if a = StarkFelt.ofNat 1 then StarkFelt.zero else c) := by
    show (IndexMap.empty.insert a _).get a = _
    rw [IndexMap.get_insert, if_pos rfl]
  have hx := classHash_of_diff _ ov a none hcls
    (by split_ifs; exacts [StarkFelt.canonical_zero, hc])
  -- so the contract's leaf does not panic
  have hl : leafPanics R H (buildCommitmentStateDiff (deployAndWrite a c k v)) ov none
      (newStorage (buildCommitmentStateDiff (deployAndWrite a c k v)) 10 Tries.empty.storage) =
        false := by
    have hkeys : (buildCommitmentStateDiff (deployAndWrite a c k v)).storageUpdates.keys = [a] :=
      rfl
    have hn : (buildCommitmentStateDiff (deployAndWrite a c k v)).addressToNonce.get a = none := rfl
    rw [leafPanics, hkeys, List.any_cons, List.any_nil, Bool.or_false, contractLeaf,
      contractStateLeafHash, hx]
    simp only [hn, FieldElement.fromBytesBe_felt, Option.getD_none, FieldElement.fromBytesBe_zero]
    rfl
  have hclasses : (newClasses H (buildCommitmentStateDiff (deployAndWrite a c k v)) 10
      Tries.empty.classes).contents = fun _ => none := rfl
  rw [updateStateRoot_healthy R H _ ov 10 none sch Tries.empty hl rfl]
  refine ⟨?_, ?_⟩
  · -- no class was ever declared: the state root is the contracts root
    show calculateStateRoot H _
      (R.classes (newClasses H _ 10 Tries.empty.classes).contents).into = _
    rw [hclasses, hR, calculateStateRoot_zero]
    rfl
  · -- the storage trie holds the written value
    show (newStorage (buildCommitmentStateDiff (deployAndWrite a c k v)) 10 Trie.empty).contents
      (a, k) = _
    rw [newStorage, Trie.commit_contents, Trie.update_contents,
      writeAll_apply _ (buildCommitmentStateDiff (deployAndWrite a c k v)).nodup_storageWrites,
      CommitmentStateDiff.lookupKey_storageWrites]
    show (((IndexMap.empty.insert a (IndexMap.empty.insert k v)).get a).bind (·.get k)).or none = _
    simp [IndexMap.get_insert]

theorem deployAndWrite_end_to_end_block :
    beValue (StarkFelt.ofNat 7).bytes < starkPrime ∧
      (zeroRoots.classes fun _ => none).into = FieldElement.zero ∧
      (updateStateRoot (fun _ => false) zeroRoots sumHashers .sequential
          (buildCommitmentStateDiff (deployAndWrite (StarkFelt.ofNat 2) (StarkFelt.ofNat 7)
            (StarkFelt.ofNat 3) (StarkFelt.ofNat 9))) (fun _ _ => none) 10 none
          Tries.empty).2.storage.contents (StarkFelt.ofNat 2, StarkFelt.ofNat 3) =
        some (StarkFelt.ofNat 9) :=
  have hc : beValue (StarkFelt.ofNat 7).bytes < starkPrime := by decide
  ⟨hc, rfl, (deployAndWrite_end_to_end zeroRoots sumHashers .sequential (fun _ _ => none) _ _ _ _
    hc rfl).2⟩

end Deoxys
