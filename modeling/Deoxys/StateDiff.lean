import Deoxys.Felt
import Deoxys.IndexMap

/-!
# Deoxys.StateDiff

The commitment engine's input for one block, blockifier's `CommitmentStateDiff`: four
`IndexMap`s, from contract address to class hash (deployed contracts), from contract address to
nonce, from contract address to its storage updates (storage key to value), and from class hash to
compiled class hash (declared classes).

* `buildCommitmentStateDiff` — the diff built from a fetched state update.
* `buildCommitmentStateDiff_last_entries` — each of its maps gives a key its last entry's value.
* `buildCommitmentStateDiff_loses_changes` — a replaced class leaves no trace in it, and of a
  contract listed twice in the storage diffs only the last entry counts.
* `storageWrites` — the storage updates as the `(address, key) ↦ value` writes of
  `contract_trie_root`'s nested loop; `lookupKey_storageWrites` reads them back from the maps.
* `SameContents` — two diffs with the same key-value pairs in each map, in any insertion order
  (for the storage map, the same contents of each inner map). `SameContents.storageWrites_perm` and
  `SameContents.storageKeys_perm`: such diffs make the same writes, for the same contracts, in
  another order.
-/

namespace Deoxys

/-- blockifier's `CommitmentStateDiff`. -/
structure CommitmentStateDiff where
  addressToClassHash : IndexMap ContractAddress ClassHash
  addressToNonce : IndexMap ContractAddress Nonce
  storageUpdates : IndexMap ContractAddress (IndexMap StorageKey StarkFelt)
  classHashToCompiledClassHash : IndexMap ClassHash CompiledClassHash

namespace CommitmentStateDiff

/-- Four empty maps, the diff `build_commitment_state_diff` starts from. -/
def empty : CommitmentStateDiff := ⟨.empty, .empty, .empty, .empty⟩

/-- The storage writes of one contract's updates. -/
def contractWrites (e : ContractAddress × IndexMap StorageKey StarkFelt) :
    List ((ContractAddress × StorageKey) × StarkFelt) :=
  e.2.entries.map fun kv => ((e.1, kv.1), kv.2)

/-- The storage writes of `contract_trie_root`'s nested loop, contract by contract. -/
def storageWrites (d : CommitmentStateDiff) : List ((ContractAddress × StorageKey) × StarkFelt) :=
  d.storageUpdates.entries.flatMap contractWrites

theorem mem_storageWrites (d : CommitmentStateDiff) {a : ContractAddress} {k : StorageKey}
    {v : StarkFelt} :
    ((a, k), v) ∈ d.storageWrites ↔ (d.storageUpdates.get a).bind (·.get k) = some v := by
  simp only [storageWrites, contractWrites, List.mem_flatMap, List.mem_map, Prod.mk.injEq,
    Option.bind_eq_some, IndexMap.get_eq_some_iff]
  constructor
  · rintro ⟨⟨a', m⟩, he, ⟨k', v'⟩, hkv, ⟨rfl, rfl⟩, rfl⟩
    exact ⟨m, he, hkv⟩
  · rintro ⟨m, he, hkv⟩
    exact ⟨(a, m), he, (k, v), hkv, ⟨rfl, rfl⟩, rfl⟩

/-- No `(address, key)` is written twice: the outer keys are unique, and so are each inner map's. -/
theorem nodup_storageWrites (d : CommitmentStateDiff) : (d.storageWrites.map Prod.fst).Nodup := by
  have houter : d.storageUpdates.entries.Pairwise (fun e e' => e.1 ≠ e'.1) :=
    List.pairwise_map.1 d.storageUpdates.nodup
  rw [storageWrites, List.map_flatMap, List.nodup_flatMap]
  unfold contractWrites
  refine ⟨fun e _ => ?_, houter.imp fun hne => ?_⟩
  · simpa [List.map_map, Function.comp] using e.2.nodup.map (Prod.mk.inj_left e.1)
  · simp only [List.map_map, List.disjoint_left, List.mem_map, Function.comp]
    rintro _ ⟨_, _, rfl⟩ ⟨_, _, h⟩
    exact hne (congrArg Prod.fst h).symm

theorem lookupKey_storageWrites (d : CommitmentStateDiff) (a : ContractAddress) (k : StorageKey) :
    lookupKey d.storageWrites (a, k) = (d.storageUpdates.get a).bind (·.get k) :=
  Option.ext fun v => by
    rw [Option.mem_def, Option.mem_def, lookupKey_eq_some_iff d.nodup_storageWrites,
      mem_storageWrites]

/-- Two diffs with the same contents: the same key-value pairs in each map, inserted in any order.
A storage map is compared by the contents of its inner maps. -/
structure SameContents (d d' : CommitmentStateDiff) : Prop where
  addressToClassHash : d.addressToClassHash.Equiv d'.addressToClassHash
  addressToNonce : d.addressToNonce.Equiv d'.addressToNonce
  storageUpdates : ∀ a, (d.storageUpdates.get a).map IndexMap.get =
    (d'.storageUpdates.get a).map IndexMap.get
  classHashToCompiledClassHash :
    d.classHashToCompiledClassHash.Equiv d'.classHashToCompiledClassHash

namespace SameContents

variable {d d' : CommitmentStateDiff}

theorem storageWrites_lookup (h : SameContents d d') :
    lookupKey d.storageWrites = lookupKey d'.storageWrites := by
  funext ⟨a, k⟩
  have ha := congrArg (Option.bind · (· k)) (h.storageUpdates a)
  simpa only [lookupKey_storageWrites, Option.bind_map] using ha

theorem storageWrites_perm (h : SameContents d d') : d.storageWrites.Perm d'.storageWrites := by
  refine (List.perm_ext_iff_of_nodup (d.nodup_storageWrites.of_map _)
    (d'.nodup_storageWrites.of_map _)).2 fun ⟨ak, v⟩ => ?_
  rw [← lookupKey_eq_some_iff d.nodup_storageWrites,
    ← lookupKey_eq_some_iff d'.nodup_storageWrites, h.storageWrites_lookup]

theorem storageKeys_perm (h : SameContents d d') :
    d.storageUpdates.keys.Perm d'.storageUpdates.keys := by
  refine (List.perm_ext_iff_of_nodup d.storageUpdates.nodup d'.storageUpdates.nodup).2 fun a => ?_
  show a ∈ d.storageUpdates.keys ↔ a ∈ d'.storageUpdates.keys
  rw [IndexMap.mem_keys, IndexMap.mem_keys]
  simpa using congrArg Option.isSome (h.storageUpdates a)

end SameContents

end CommitmentStateDiff

/-- The `state_diff` of a fetched `StateUpdateWrapper`, as lists: deployed contracts (address,
class hash), nonces, storage diffs (address, key-value pairs), declared classes (class hash,
compiled class hash), and the contracts whose class was replaced (address, new class hash), which
the node's state diff carries (`convert.rs`, `replaced_classes`). The wrapper type is not under
src/: that it is made of lists, in which a contract may be listed twice, is an assumption of the
model; `build_commitment_state_diff` only iterates them. -/
structure StateDiffWrapper where
  deployedContracts : List (ContractAddress × ClassHash)
  nonces : List (ContractAddress × Nonce)
  storageDiffs : List (ContractAddress × List (StorageKey × StarkFelt))
  declaredClasses : List (ClassHash × CompiledClassHash)
  replacedClasses : List (ContractAddress × ClassHash)

/-- `build_commitment_state_diff`: one `IndexMap` per list, in order; the system contract at
address `1` is deployed with class hash `0`. The replaced classes are not read. -/
def buildCommitmentStateDiff (stateDiff : StateDiffWrapper) : CommitmentStateDiff where
  addressToClassHash := IndexMap.empty.insertAll <| stateDiff.deployedContracts.map fun e =>
    (e.1, if e.1 = StarkFelt.ofNat 1 then StarkFelt.zero else e.2)
  addressToNonce := IndexMap.empty.insertAll stateDiff.nonces
  storageUpdates := IndexMap.empty.insertAll <| stateDiff.storageDiffs.map fun e =>
    (e.1, IndexMap.empty.insertAll e.2)
  classHashToCompiledClassHash := IndexMap.empty.insertAll stateDiff.declaredClasses

section Build

variable (sd : StateDiffWrapper)

@[simp] theorem buildCommitmentStateDiff_classHash (a : ContractAddress) :
    (buildCommitmentStateDiff sd).addressToClassHash.get a =
      (lookupKey sd.deployedContracts.reverse a).map fun c =>
        if a = StarkFelt.ofNat 1 then StarkFelt.zero else c := by
  rw [buildCommitmentStateDiff, IndexMap.get_empty_insertAll, ← List.map_reverse]
  exact lookupKey_map_val (fun a c => if a = StarkFelt.ofNat 1 then StarkFelt.zero else c) _ a

@[simp] theorem buildCommitmentStateDiff_nonce (a : ContractAddress) :
    (buildCommitmentStateDiff sd).addressToNonce.get a = lookupKey sd.nonces.reverse a :=
  IndexMap.get_empty_insertAll _ a

@[simp] theorem buildCommitmentStateDiff_storage (a : ContractAddress) (k : StorageKey) :
    ((buildCommitmentStateDiff sd).storageUpdates.get a).bind (·.get k) =
      (lookupKey sd.storageDiffs.reverse a).bind fun es => lookupKey es.reverse k := by
  rw [buildCommitmentStateDiff, IndexMap.get_empty_insertAll, ← List.map_reverse,
    lookupKey_map_val fun _ es => IndexMap.empty.insertAll es, Option.bind_map]
  simp only [Function.comp_def, IndexMap.get_empty_insertAll]

@[simp] theorem buildCommitmentStateDiff_compiledClassHash (c : ClassHash) :
    (buildCommitmentStateDiff sd).classHashToCompiledClassHash.get c =
      lookupKey sd.declaredClasses.reverse c :=
  IndexMap.get_empty_insertAll _ c

/-- **What the diff keeps.** Each of the four maps gives a key the value of the key's last entry
in its list: the deployed class hash (`0` for the system contract at address `1`), the nonce, the
storage value of the contract's last storage-diff entry, and the compiled class hash. -/
theorem buildCommitmentStateDiff_last_entries :
    (∀ a, (buildCommitmentStateDiff sd).addressToClassHash.get a =
      (lookupKey sd.deployedContracts.reverse a).map fun c =>
        if a = StarkFelt.ofNat 1 then StarkFelt.zero else c) ∧
    (∀ a, (buildCommitmentStateDiff sd).addressToNonce.get a = lookupKey sd.nonces.reverse a) ∧
    (∀ a k, ((buildCommitmentStateDiff sd).storageUpdates.get a).bind (·.get k) =
      (lookupKey sd.storageDiffs.reverse a).bind fun es => lookupKey es.reverse k) ∧
    (∀ c, (buildCommitmentStateDiff sd).classHashToCompiledClassHash.get c =
      lookupKey sd.declaredClasses.reverse c) :=
  ⟨buildCommitmentStateDiff_classHash sd, buildCommitmentStateDiff_nonce sd,
    buildCommitmentStateDiff_storage sd, buildCommitmentStateDiff_compiledClassHash sd⟩

/-- **Replaced classes and earlier storage diffs are lost.** A contract the state update does not
deploy has no class hash in the diff, whatever class the update replaced it with; and a contract's
storage is that of its last storage-diff entry alone, whatever an earlier entry for it wrote. -/
theorem buildCommitmentStateDiff_loses_changes (a c : ContractAddress)
    (pre post : List (ContractAddress × List (StorageKey × StarkFelt)))
    (es : List (StorageKey × StarkFelt)) (hdeployed : a ∉ sd.deployedContracts.map Prod.fst)
    (hdiffs : sd.storageDiffs = pre ++ (c, es) :: post) (hlast : c ∉ post.map Prod.fst) :
    (buildCommitmentStateDiff sd).addressToClassHash.get a = none ∧
      ∀ k, ((buildCommitmentStateDiff sd).storageUpdates.get c).bind (·.get k) =
        lookupKey es.reverse k := by
  have hpost : lookupKey post.reverse c = none :=
    lookupKey_eq_none (by rwa [List.map_reverse, List.mem_reverse])
  refine ⟨?_, fun k => ?_⟩
  · rw [buildCommitmentStateDiff_classHash,
      lookupKey_eq_none (by rwa [List.map_reverse, List.mem_reverse]), Option.map_none']
  · rw [buildCommitmentStateDiff_storage, hdiffs, List.reverse_append, List.reverse_cons,
      List.append_assoc, lookupKey_append, hpost, lookupKey_append, lookupKey_cons, if_pos rfl]
    rfl

end Build

/-- A state update that replaces the class of contract `2` by class `7`, and writes `1` at key `1`
of contract `3`. -/
def replacedClass : StateDiffWrapper where
  deployedContracts := []
  nonces := []
  storageDiffs := [(StarkFelt.ofNat 3, [(StarkFelt.ofNat 1, StarkFelt.ofNat 1)])]
  declaredClasses := []
  replacedClasses := [(StarkFelt.ofNat 2, StarkFelt.ofNat 7)]

/-- Contract `2`, whose class the update replaced by `7`, gets no class hash; contract `3`, listed
once, keeps its write. -/
theorem replacedClass_loses :
    StarkFelt.ofNat 2 ∉ replacedClass.deployedContracts.map Prod.fst ∧
      replacedClass.storageDiffs =
        [] ++ (StarkFelt.ofNat 3, [(StarkFelt.ofNat 1, StarkFelt.ofNat 1)]) :: [] ∧
      StarkFelt.ofNat 3 ∉ ([] : List (ContractAddress × List (StorageKey × StarkFelt))).map
        Prod.fst ∧
      (StarkFelt.ofNat 2, StarkFelt.ofNat 7) ∈ replacedClass.replacedClasses ∧
      (buildCommitmentStateDiff replacedClass).addressToClassHash.get (StarkFelt.ofNat 2) = none ∧
      ((buildCommitmentStateDiff replacedClass).storageUpdates.get
        (StarkFelt.ofNat 3)).bind (·.get (StarkFelt.ofNat 1)) = some (StarkFelt.ofNat 1) :=
  have h := buildCommitmentStateDiff_loses_changes replacedClass (StarkFelt.ofNat 2)
    (StarkFelt.ofNat 3) [] [] [(StarkFelt.ofNat 1, StarkFelt.ofNat 1)] (by decide) rfl (by decide)
  ⟨by decide, rfl, by decide, List.mem_singleton_self _, h.1, (h.2 _).trans (by decide)⟩

end Deoxys
