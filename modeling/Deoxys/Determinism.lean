import Deoxys.CommitmentSpec

/-!
# Deoxys.Determinism

`update_state_root` depends on a diff only through its contents: not on the order its entries were
inserted in, nor on the order the parallel maps deliver leaves in. The specifications of
`Deoxys.CommitmentSpec` already take no order; here every piece of them is shown to read a diff only
through its maps' lookups and key sets.

* `updateStateRoot_sameContents` — diffs with the same contents, under any schedules, give the
  same root and the same tries, for every set of failing handler calls.
-/

namespace Deoxys

/-- The storage loop calls `init` for each contract with updates and `insert` for each write. -/
theorem mem_storageCalls (csd : CommitmentStateDiff) (c : HandlerCall) :
    c ∈ storageCalls csd ↔ (∃ a ∈ csd.storageUpdates.keys, c = .initContract a) ∨
      ∃ w ∈ csd.storageWrites, c = .insert w.1.1 w.1.2 w.2 := by
  simp only [storageCalls, contractCalls, CommitmentStateDiff.storageWrites,
    CommitmentStateDiff.contractWrites, IndexMap.keys, List.mem_flatMap, List.mem_cons,
    List.mem_map]
  constructor
  · rintro ⟨e, he, rfl | ⟨kv, hkv, rfl⟩⟩
    · exact .inl ⟨e.1, ⟨e, he, rfl⟩, rfl⟩
    · exact .inr ⟨((e.1, kv.1), kv.2), ⟨e, he, kv, hkv, rfl⟩, rfl⟩
  · rintro (⟨a, ⟨e, he, rfl⟩, rfl⟩ | ⟨w, ⟨e, he, kv, hkv, rfl⟩, rfl⟩)
    · exact ⟨e, he, .inl rfl⟩
    · exact ⟨e, he, .inr ⟨kv, hkv, rfl⟩⟩

theorem any_eq_of_mem_iff {α : Type} {l l' : List α} (h : ∀ x, x ∈ l ↔ x ∈ l')
    (p : α → Bool) :
    l.any p = l'.any p := by
  rw [Bool.eq_iff_iff]; simp only [List.any_eq_true, h]

namespace CommitmentStateDiff.SameContents

variable {csd csd' : CommitmentStateDiff} (h : csd.SameContents csd')
include h

theorem mem_keys (a : ContractAddress) :
    a ∈ csd.storageUpdates.keys ↔ a ∈ csd'.storageUpdates.keys :=
  h.storageKeys_perm.mem_iff

theorem storageCalls_any (f : HandlerCall → Bool) :
    (storageCalls csd).any f = (storageCalls csd').any f :=
  any_eq_of_mem_iff (fun c => by
    rw [mem_storageCalls, mem_storageCalls]
    simp only [h.mem_keys, h.storageWrites_perm.mem_iff]) f

theorem newStorage_eq (n : UInt64) (t : Trie (ContractAddress × StorageKey) StarkFelt) :
    newStorage csd n t = newStorage csd' n t := by
  ext1
  · funext ak
    simp only [newStorage, Trie.commit_contents, Trie.update_contents]
    rw [writeAll_apply _ csd.nodup_storageWrites, writeAll_apply _ csd'.nodup_storageWrites,
      h.storageWrites_lookup]
  · rfl

theorem contractLeaf_eq (R : TrieRoots) (H : Hashers) (ov : Overrides) (bh : Option H256) :
    contractLeaf R H csd ov bh = contractLeaf R H csd' ov bh := by
  funext stor a
  simp only [contractLeaf, contractStateLeafHash, classHash, h.addressToClassHash a,
    h.addressToNonce a]

theorem leafPanics_eq (R : TrieRoots) (H : Hashers) (ov : Overrides) (bh : Option H256) :
    leafPanics R H csd ov bh = leafPanics R H csd' ov bh := by
  funext stor
  rw [leafPanics, leafPanics, h.contractLeaf_eq]
  exact any_eq_of_mem_iff h.mem_keys _

theorem newContracts_eq (R : TrieRoots) (H : Hashers) (ov : Overrides) (n : UInt64)
    (bh : Option H256) : newContracts R H csd ov n bh = newContracts R H csd' ov n bh := by
  funext old stor
  simp only [newContracts, h.contractLeaf_eq, h.mem_keys]

theorem classLeafPanics_eq (H : Hashers) : classLeafPanics H csd = classLeafPanics H csd' :=
  any_eq_of_mem_iff (fun _ => h.classHashToCompiledClassHash.perm.mem_iff) _

theorem newClasses_eq (H : Hashers) (n : UInt64) : newClasses H csd n = newClasses H csd' n := by
  funext old
  simp only [newClasses, h.classHashToCompiledClassHash _]

variable (fails : HandlerCall → Bool) (R : TrieRoots) (H : Hashers) (ov : Overrides) (n : UInt64)
  (bh : Option H256)

theorem contractSpec_eq (s : ContractTries) :
    contractSpec fails R H csd ov n bh s = contractSpec fails R H csd' ov n bh s := by
  simp only [contractSpec, storagePhaseFails, h.storageCalls_any, h.newStorage_eq,
    h.leafPanics_eq, h.newContracts_eq, any_eq_of_mem_iff h.mem_keys]

theorem classSpec_eq (s : Trie ClassHash FieldElement) :
    classSpec fails R H csd n s = classSpec fails R H csd' n s := by
  simp only [classSpec, h.classLeafPanics_eq, h.newClasses_eq]

end CommitmentStateDiff.SameContents

/-- **Determinism.** Two diffs with the same contents, whatever order their entries were inserted
in, and whatever order the parallel maps deliver in, give the same root and leave the same tries,
for every set of failing handler calls. -/
theorem updateStateRoot_sameContents (fails : HandlerCall → Bool) (R : TrieRoots) (H : Hashers)
    (sch sch' : Schedule) {csd csd' : CommitmentStateDiff} (h : csd.SameContents csd')
    (ov : Overrides) (n : UInt64) (bh : Option H256) (s : Tries) :
    updateStateRoot fails R H sch csd ov n bh s =
      updateStateRoot fails R H sch' csd' ov n bh s := by
  rw [updateStateRoot_eq, updateStateRoot_eq, h.contractSpec_eq, h.classSpec_eq]

/-- Storage updates of contracts `0` and `1`, inserted in that order. -/
def twoContracts : CommitmentStateDiff :=
  { CommitmentStateDiff.empty with
    storageUpdates := (IndexMap.empty.insert StarkFelt.zero (IndexMap.empty.insert StarkFelt.zero
      (StarkFelt.ofNat 1))).insert (StarkFelt.ofNat 1) (IndexMap.empty.insert StarkFelt.zero
        (StarkFelt.ofNat 2)) }

/-- The same storage updates, contract `1` inserted first. -/
def twoContractsSwapped : CommitmentStateDiff :=
  { CommitmentStateDiff.empty with
    storageUpdates := (IndexMap.empty.insert (StarkFelt.ofNat 1)
      (IndexMap.empty.insert StarkFelt.zero (StarkFelt.ofNat 2))).insert StarkFelt.zero
        (IndexMap.empty.insert StarkFelt.zero (StarkFelt.ofNat 1)) }

theorem twoContracts_sameContents : twoContracts.SameContents twoContractsSwapped := by
  have hne : StarkFelt.zero ≠ StarkFelt.ofNat 1 := by decide
  refine ⟨fun _ => rfl, fun _ => rfl, fun a => ?_, fun _ => rfl⟩
  simp only [twoContracts, twoContractsSwapped, IndexMap.get_insert]
  by_cases h0 : StarkFelt.zero = a
  · subst h0; simp [hne, hne.symm]
  · by_cases h1 : StarkFelt.ofNat 1 = a <;> simp [h0, h1]

theorem updateStateRoot_twoContracts :
    twoContracts.SameContents twoContractsSwapped ∧
      updateStateRoot (fun _ => false) zeroRoots sumHashers .sequential twoContracts
          (fun _ _ => none) 0 none Tries.empty =
        updateStateRoot (fun _ => false) zeroRoots sumHashers .sequential twoContractsSwapped
          (fun _ _ => none) 0 none Tries.empty :=
  ⟨twoContracts_sameContents,
    updateStateRoot_sameContents _ _ _ _ _ twoContracts_sameContents _ _ _ _⟩

end Deoxys
