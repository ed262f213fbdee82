import Deoxys.StateDiff
import Deoxys.StorageHandler

/-!
# Deoxys.Commitment

The state commitment of `crates/client/sync/src/commitments/lib.rs`. `update_state_root` runs two
branches in a `rayon::join`: `contract_trie_root` writes the diff's storage updates into the
contracts' storage tries, then a leaf hash for each contract with storage updates into the
contracts trie; `class_trie_root` writes a leaf for each declared class into the classes trie.
`calculate_state_root` combines the two roots.

`rayon::join` runs both closures to the end even when one panics, and the two branches touch
disjoint tries, so each runs on its own part of the persisted `Tries` and the join puts the parts
back together. A `par_bridge` delivers its items in an order the scheduler picks (`Order`); an
`unwrap`, `expect` or `unreachable!()` that fires is a panic (`none`, or `Failure.panic`).

The hashers are parameters (`Hashers`), as are the trie roots (`TrieRoots`), the override store
(`Overrides`) and the failing handler calls (`fails`).
-/

namespace Deoxys

/-- `sp_core::H256`, a Substrate block hash. -/
abbrev H256 := BitVec 256

/-- The override store's `contract_class_hash_by_address(block_hash, contract_address)`. -/
abbrev Overrides := H256 → ContractAddress → Option ClassHash

/-- `PedersenHasher::hash_elements`, `PoseidonHasher::hash_elements` and
`PoseidonHasher::compute_hash_on_elements`. -/
structure Hashers where
  pedersen : FieldElement → FieldElement → FieldElement
  poseidon : FieldElement → FieldElement → FieldElement
  poseidonMany : List FieldElement → FieldElement

/-- The order a `par_bridge` delivers its items in: a permutation the scheduler picks. -/
structure Order (α : Type) where
  run : List α → List α
  perm : ∀ l, (run l).Perm l

/-- The order of a sequential iterator: the items as they come. -/
def Order.identity {α : Type} : Order α := ⟨id, fun _ => List.Perm.refl _⟩

/-- The scheduler's choices: the order of each `par_bridge` of the two branches. -/
structure Schedule where
  leaves : Order (ContractAddress × Felt)
  classLeaves : Order (ClassHash × FieldElement)

/-- Both parallel maps deliver in iteration order. -/
def Schedule.sequential : Schedule := ⟨.identity, .identity⟩

/-- `iter().par_bridge().map(f).collect::<Vec<_>>()`: a panic in one item panics the whole
collect; the results arrive in the scheduler's order. -/
def parBridgeMap {α β : Type} (o : Order β) (f : α → Option β) (l : List α) :
    Option (List β) :=
  (l.mapM f).map o.run

section Keyed

variable {K V W : Type} (g : K × W → Option V)

/-- A keyed parallel map in `Option`: it fails if one item does, else keeps every item's key. -/
theorem mapM_keyed (l : List (K × W)) :
    l.mapM (fun e => (g e).map (e.1, ·)) =
      if l.all (fun e => (g e).isSome) then some (l.filterMap fun e => (g e).map (e.1, ·))
      else none := by
  induction l with
  | nil => rfl
  | cons e l ih =>
    rw [List.mapM_cons, ih]
    cases h : g e <;> by_cases hl : l.all (fun e => (g e).isSome) <;> simp [h, hl]

theorem map_fst_filterMap_keyed {l : List (K × W)} (hall : l.all (fun e => (g e).isSome)) :
    (l.filterMap fun e => (g e).map (e.1, ·)).map Prod.fst = l.map Prod.fst := by
  induction l with
  | nil => rfl
  | cons e l ih =>
    simp only [List.all_cons, Bool.and_eq_true] at hall
    obtain ⟨v, hv⟩ := Option.isSome_iff_exists.1 hall.1
    simp [hv, ih hall.2]

theorem lookupKey_filterMap_keyed [DecidableEq K] {l : List (K × W)} (hl : (l.map Prod.fst).Nodup)
    (k : K) :
    lookupKey (l.filterMap fun e => (g e).map (e.1, ·)) k =
      (lookupKey l k).bind fun w => g (k, w) := by
  induction l with
  | nil => rfl
  | cons e l ih =>
    obtain ⟨hne, hnd⟩ := List.nodup_cons.1 hl
    rw [List.filterMap_cons, lookupKey_cons]
    by_cases hk : e.1 = k
    · subst hk
      cases h : g e with
      | none => simp [ih hnd, lookupKey_eq_none hne, h]
      | some v => simp [lookupKey_cons, h]
    · cases h : g e <;> simp [lookupKey_cons, hk, ih hnd, h]

/-- Writing what a keyed parallel map returned, in the scheduler's order: each key of `l` gets its
item's value, every other key keeps its value. -/
theorem writeAll_run_keyed [DecidableEq K] (o : Order (K × V)) (f : K → Option V)
    {l : List (K × W)}
    (hl : (l.map Prod.fst).Nodup) (hall : l.all (fun e => (g e).isSome)) (k : K) :
    writeAll f (o.run (l.filterMap fun e => (g e).map (e.1, ·))) k =
      ((lookupKey l k).bind fun w => g (k, w)).or (f k) := by
  have hnd : ((l.filterMap fun e => (g e).map (e.1, ·)).map Prod.fst).Nodup := by
    rwa [map_fst_filterMap_keyed g hall]
  have hp := o.perm (l.filterMap fun e => (g e).map (e.1, ·))
  rw [writeAll_apply f ((hp.map Prod.fst).nodup_iff.2 hnd), ← lookupKey_perm hp.symm hnd,
    lookupKey_filterMap_keyed g hl]

/-- `parBridgeMap` of a keyed closure: a panic if some item panics, else every item's key with its
value, in the scheduler's order. -/
theorem parBridgeMap_keyed (o : Order (K × V)) (l : List (K × W)) :
    parBridgeMap o (fun e => (g e).map (e.1, ·)) l =
      if l.all (fun e => (g e).isSome) then some (o.run (l.filterMap fun e => (g e).map (e.1, ·)))
      else none := by
  rw [parBridgeMap, mapM_keyed]; split <;> rfl

end Keyed

/-- `str::as_bytes` of an ASCII string. -/
def asBytes (s : String) : List UInt8 := s.toList.map fun c => c.toNat.toUInt8

/-- `Felt252Wrapper::try_from("STARKNET_STATE_V0".as_bytes())`, a `from_byte_slice_be`. -/
def starknetStatePrefix : Option FieldElement :=
  FieldElement.fromByteSliceBe (asBytes "STARKNET_STATE_V0")

/-- The lazy static `CONTRACT_CLASS_HASH_VERSION`, `"CONTRACT_CLASS_LEAF_V0"` as a field element. -/
def contractClassHashVersion : Option FieldElement :=
  FieldElement.fromByteSliceBe (asBytes "CONTRACT_CLASS_LEAF_V0")

theorem starknetStatePrefix_isSome : starknetStatePrefix.isSome :=
  FieldElement.fromByteSliceBe_isSome (by decide)

/-- A value, or for `none` a panic. -/
def orPanic {σ α : Type} : Option α → EStateM Failure σ α
  | some a => pure a
  | none => throw .panic

theorem run_orPanic_bind {σ α β : Type} (x : Option α) (k : α → EStateM Failure σ β)
    (s : σ) :
    (orPanic x >>= k).run s = x.elim (.error .panic s) fun a => (k a).run s := by
  cases x <;> rfl

/-- The persisted tries of the commitment engine. -/
structure Tries where
  storage : Trie (ContractAddress × StorageKey) StarkFelt
  contracts : Trie ContractAddress Felt
  classes : Trie ClassHash FieldElement

def Tries.empty : Tries := ⟨.empty, .empty, .empty⟩

/-- The contract storage write handler. -/
abbrev StorageWrite := TrieWrite ContractTries (ContractAddress × StorageKey) StarkFelt

section Engine

variable (fails : HandlerCall → Bool) (R : TrieRoots) (H : Hashers)

/-- `class_hash`: the diff's class hash of the contract, else the override store's at the block
hash, as a field element. `none` is a panic: the override store has no class hash (`unwrap`), there
is no block hash (`unreachable!()`), or the class hash is not below the prime (`unwrap`). -/
def classHash (csd : CommitmentStateDiff) (overrides : Overrides)
    (contractAddress : ContractAddress) (maybeBlockHash : Option H256) : Option FieldElement := do
  let classHash ← match csd.addressToClassHash.get contractAddress with
    | some classHash => some classHash
    | none => match maybeBlockHash with
      | some blockHash => overrides blockHash contractAddress
      | none => none
  FieldElement.fromByteSliceBe classHash.bytes

/-- `contract_state_leaf_hash`: `pedersen(pedersen(pedersen(class_hash, storage_root), nonce), 0)`,
with the diff's nonce or `Nonce::default()`. -/
def contractStateLeafHash (csd : CommitmentStateDiff) (overrides : Overrides)
    (contractAddress : ContractAddress) (storageRoot : Felt) (maybeBlockHash : Option H256) :
    Option Felt := do
  let classHash ← classHash csd overrides contractAddress maybeBlockHash
  let storageRoot ← FieldElement.fromBytesBe storageRoot.toBytesBe
  let nonceBytes := ((csd.addressToNonce.get contractAddress).getD StarkFelt.zero).bytes
  let nonce ← FieldElement.fromBytesBe nonceBytes
  let contractStateHash := H.pedersen classHash storageRoot
  let contractStateHash := H.pedersen contractStateHash nonce
  let contractStateHash := H.pedersen contractStateHash FieldElement.zero
  return Felt.fromBytesBe contractStateHash.toBytesBe

/-- The inner loop of `contract_trie_root`: `storage_write.insert(contract_address, key, *value)?`
for each update of one contract. -/
def insertUpdates (contractAddress : ContractAddress) :
    StorageWrite → List (StorageKey × StarkFelt) → EStateM Failure ContractTries StorageWrite
  | storageWrite, [] => pure storageWrite
  | storageWrite, (key, value) :: updates => do
    let storageWrite ← storageWrite.insert fails contractAddress key value
    insertUpdates contractAddress storageWrite updates

/-- The outer loop of `contract_trie_root`, over `csd.storage_updates`. -/
def insertStorage :
    StorageWrite → List (ContractAddress × IndexMap StorageKey StarkFelt) →
      EStateM Failure ContractTries StorageWrite
  | storageWrite, [] => pure storageWrite
  | storageWrite, (contractAddress, updates) :: storageUpdates => do
    storageWrite.initContract fails contractAddress
    let storageWrite ← insertUpdates fails contractAddress storageWrite updates.entries
    insertStorage storageWrite storageUpdates

/-- The handler calls the storage loop makes for one contract's updates. -/
def contractCalls (e : ContractAddress × IndexMap StorageKey StarkFelt) : List HandlerCall :=
  .initContract e.1 :: e.2.entries.map fun kv => .insert e.1 kv.1 kv.2

/-- The handler calls of the whole storage loop, in order. -/
def storageCalls (csd : CommitmentStateDiff) : List HandlerCall :=
  csd.storageUpdates.entries.flatMap contractCalls

variable {α : Type}

theorem run_insertUpdates_bind (a : ContractAddress) (w : StorageWrite)
    (l : List (StorageKey × StarkFelt)) (k : StorageWrite → EStateM Failure ContractTries α)
    (s : ContractTries) :
    (insertUpdates fails a w l >>= k).run s =
      if (l.map fun kv => HandlerCall.insert a kv.1 kv.2).any fails then .error .storage s
      else (k { w with view := w.view.update (l.map fun kv => ((a, kv.1), kv.2)) }).run s := by
  induction l generalizing w with
  | nil => rfl
  | cons kv l ih =>
    simp only [insertUpdates, bind_assoc, TrieWrite.run_insert_bind, ih, List.map_cons,
      List.any_cons, Bool.or_eq_true, ite_or, Trie.update_append]
    rfl

/-- The storage loop fails if one of its calls does; otherwise it stages every write, in order. -/
theorem run_insertStorage_bind (w : StorageWrite)
    (l : List (ContractAddress × IndexMap StorageKey StarkFelt))
    (k : StorageWrite → EStateM Failure ContractTries α) (s : ContractTries) :
    (insertStorage fails w l >>= k).run s =
      if (l.flatMap contractCalls).any fails then .error .storage s
      else (k { w with
        view := w.view.update (l.flatMap CommitmentStateDiff.contractWrites) }).run s := by
  induction l generalizing w with
  | nil => rfl
  | cons e l ih =>
    simp only [insertStorage, bind_assoc, TrieWrite.run_initContract_bind, run_insertUpdates_bind,
      ih, List.flatMap_cons, contractCalls, CommitmentStateDiff.contractWrites, List.cons_append,
      List.any_cons, List.any_append, Bool.or_eq_true, ite_or, Trie.update_append]

/-- The leaf of one contract with storage updates, in `contract_trie_root`'s parallel map. -/
def leafUpdate (csd : CommitmentStateDiff) (overrides : Overrides) (maybeBlockHash : Option H256)
    (storageRead : TrieRead (ContractAddress × StorageKey) StarkFelt)
    (contractAddress : ContractAddress) : Option (ContractAddress × Felt) := do
  let storageRoot ← (storageRead.rootAt fails R.storage contractAddress).toOption
  let leafHash ← contractStateLeafHash H csd overrides contractAddress storageRoot maybeBlockHash
  return (contractAddress, leafHash)

/-- `contract_trie_root`. -/
def contractTrieRoot (o : Order (ContractAddress × Felt)) (csd : CommitmentStateDiff)
    (overrides : Overrides) (blockNumber : UInt64) (maybeBlockHash : Option H256) :
    EStateM Failure ContractTries FieldElement := do
  let contractWrite ← StorageHandler.contractMut fails blockNumber
  let storageWrite ← StorageHandler.contractStorageMut fails blockNumber
  contractWrite.init fails
  let storageWrite ← insertStorage fails storageWrite csd.storageUpdates.entries
  let storageWrite ← storageWrite.commit fails (blockNumber + 1)
  storageWrite.applyChanges fails
  let storageRead ← StorageHandler.contractStorage fails
  let updates ← orPanic (parBridgeMap o
    (fun e => leafUpdate fails R H csd overrides maybeBlockHash storageRead e.1)
    csd.storageUpdates.entries)
  let contractWrite ← contractWrite.update fails updates
  let contractWrite ← contractWrite.commit fails (blockNumber + 1)
  contractWrite.applyChanges fails
  let contractRead ← StorageHandler.contract fails
  let root ← contractRead.root fails R.contracts
  return root.into

/-- The leaf hash of a declared class:
`poseidon(CONTRACT_CLASS_HASH_VERSION, compiled_class_hash)`. -/
def classLeafHash (compiledClassHash : CompiledClassHash) : Option FieldElement := do
  let compiledClassHash ← FieldElement.fromBytesBe compiledClassHash.bytes
  let version ← contractClassHashVersion
  return H.poseidon version compiledClassHash

/-- The closure of `class_trie_root`'s parallel map. -/
def classLeaf (e : ClassHash × CompiledClassHash) : Option (ClassHash × FieldElement) := do
  let hash ← classLeafHash H e.2
  return (e.1, hash)

/-- `class_trie_root`. -/
def classTrieRoot (o : Order (ClassHash × FieldElement)) (csd : CommitmentStateDiff)
    (blockNumber : UInt64) : EStateM Failure (Trie ClassHash FieldElement) FieldElement := do
  let classWrite ← StorageHandler.classMut fails blockNumber
  let updates ← orPanic (parBridgeMap o (classLeaf H) csd.classHashToCompiledClassHash.entries)
  classWrite.init fails
  let classWrite ← classWrite.update fails updates
  let classWrite ← classWrite.commit fails (blockNumber + 1)
  classWrite.applyChanges fails
  let classRead ← StorageHandler.class fails
  let root ← classRead.root fails R.classes
  return root.into

/-- `calculate_state_root::<PoseidonHasher>`: the contracts root alone while the classes root is
zero. `none` is the `unwrap` of the prefix panicking. -/
def calculateStateRoot (contractsTrieRoot classesTrieRoot : FieldElement) :
    Option FieldElement := do
  let starknetStatePrefix ← starknetStatePrefix
  if classesTrieRoot = FieldElement.zero then return contractsTrieRoot
  else return H.poseidonMany [starknetStatePrefix, contractsTrieRoot, classesTrieRoot]

/-- The `unwrap` of the prefix never panics. -/
theorem calculateStateRoot_isSome (c k : FieldElement) : (calculateStateRoot H c k).isSome := by
  obtain ⟨p, hp⟩ := Option.isSome_iff_exists.1 starknetStatePrefix_isSome
  unfold calculateStateRoot
  rw [hp]
  split <;> rfl

/-- While the classes root is zero, the state root is the contracts root. -/
theorem calculateStateRoot_zero (c : FieldElement) :
    calculateStateRoot H c FieldElement.zero = some c := by
  obtain ⟨p, hp⟩ := Option.isSome_iff_exists.1 starknetStatePrefix_isSome
  simp [calculateStateRoot, hp]

/-- The `rayon::join` of `update_state_root` and `calculate_state_root`: the tries each branch
left, and the state root when both branches returned; a failure of either is a panic (`expect`),
`none`. -/
def joinRoots (contract : EStateM.Result Failure ContractTries FieldElement)
    (classes : EStateM.Result Failure (Trie ClassHash FieldElement) FieldElement) :
    Option FieldElement × Tries :=
  let (contractTrieRoot, contractTries) := outcome contract
  let (classTrieRoot, classTrie) := outcome classes
  let s' : Tries := ⟨contractTries.storage, contractTries.contracts, classTrie⟩
  match contractTrieRoot, classTrieRoot with
  | .ok contractTrieRoot, .ok classTrieRoot =>
    (calculateStateRoot H contractTrieRoot classTrieRoot, s')
  | _, _ => (none, s')

theorem joinRoots_snd (contract : EStateM.Result Failure ContractTries FieldElement)
    (classes : EStateM.Result Failure (Trie ClassHash FieldElement) FieldElement) :
    (joinRoots H contract classes).2 =
      ⟨(outcome contract).2.storage, (outcome contract).2.contracts, (outcome classes).2⟩ := by
  cases contract <;> cases classes <;> rfl

/-- `update_state_root`: both branches run, each on its own tries, and are joined. -/
def updateStateRoot (sch : Schedule) (csd : CommitmentStateDiff) (overrides : Overrides)
    (blockNumber : UInt64) (substrateBlockHash : Option H256) (s : Tries) :
    Option FieldElement × Tries :=
  joinRoots H
    ((contractTrieRoot fails R H sch.leaves csd overrides blockNumber substrateBlockHash).run
      ⟨s.storage, s.contracts⟩)
    ((classTrieRoot fails R H sch.classLeaves csd blockNumber).run s.classes)

end Engine

/-- Roots that are all `0`, to run blocks on. -/
def zeroRoots : TrieRoots :=
  ⟨fun _ => ⟨0, starkPrime_pos⟩, fun _ => ⟨0, starkPrime_pos⟩,
    fun _ => ⟨0, starkPrime_pos⟩⟩

/-- A Pedersen hash that adds, to run blocks on. -/
def sumHashers : Hashers :=
  ⟨fun a b => ⟨(a.val + b.val) % starkPrime, Nat.mod_lt _ starkPrime_pos⟩, fun a _ => a,
    fun _ => .zero⟩

end Deoxys
