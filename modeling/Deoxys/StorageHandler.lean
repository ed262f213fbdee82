import Deoxys.Felt
import Deoxys.IndexMap

/-!
# Deoxys.StorageHandler

The `StorageHandler` of `mc_db::storage`, which the commitment engine drives and whose code is not
in this source tree. It is modelled from its contract, spec §4.3, as each definition's docstring
says: a write handler (`contract_mut`, `contract_storage_mut`, `class_mut`) copies the persisted
trie into a working view; `init`, `insert` and `update` stage changes in the view;
`commit(version)` finalises it; `apply_changes` merges it into the persisted trie, all at once or
not at all; a read handler (`contract()`, `contract_storage()`, `class()`) reads the persisted
trie, and `root` its root.

Every call can fail with a storage error. Which calls fail is the environment's: a predicate
`fails` on `HandlerCall`, the call with the arguments a failure may depend on. A trie's root is a
function of its contents (`TrieRoots`), computed by the trie library.

The handlers run in `EStateM Failure σ`, over the persisted tries `σ` they serve: a failure keeps
what `apply_changes` calls before it persisted. Each operation has its run lemma
(`run_call_bind`, `TrieWrite.run_update_bind`, ...), which the commitment proofs use instead of
unfolding it.
-/

namespace Deoxys

/-- Modelled from the spec: the three tries a `StorageHandler` serves (§4.3: the contracts trie, the
per-contract storage tries, the classes trie). -/
inductive Entity where
  | contracts
  | storage
  | classes
  deriving DecidableEq, Repr

/-- Modelled from the spec: a call of the `StorageHandler` API (§4.3), with the arguments its
failure may depend on. -/
inductive HandlerCall where
  /-- `StorageHandler::contract_mut(BlockId::Number(n))` and its siblings. -/
  | write (e : Entity) (blockNumber : UInt64)
  /-- `StorageHandler::contract()` and its siblings. -/
  | read (e : Entity)
  | init (e : Entity)
  /-- `init(contract_address)` of the contract storage handler. -/
  | initContract (contractAddress : ContractAddress)
  | insert (contractAddress : ContractAddress) (key : StorageKey) (value : StarkFelt)
  | update (e : Entity)
  | commit (e : Entity) (version : UInt64)
  | applyChanges (e : Entity)
  | root (e : Entity)
  /-- `root(contract_address)` of the contract storage read handler. -/
  | rootOf (contractAddress : ContractAddress)
  deriving DecidableEq

/-- How a run stops early: a `DeoxysStorageError` from a handler, or a panic. -/
inductive Failure where
  | storage
  | panic
  deriving DecidableEq, Repr

/-- Modelled from the spec: a trie's persisted state (§4.3): its contents and the version of its
last `commit`. -/
@[ext] structure Trie (K V : Type) where
  contents : K → Option V
  version : UInt64

namespace Trie

variable {K V : Type}

/-- Modelled from the spec: a trie before any block (§4.3, `init` on an absent root). -/
def empty : Trie K V := ⟨fun _ => none, 0⟩

/-- Modelled from the spec: `insert`/`update` stage the pairs of `l` into the working view, in order
(§4.3). -/
def update [DecidableEq K] (t : Trie K V) (l : List (K × V)) : Trie K V :=
  { t with contents := writeAll t.contents l }

/-- Modelled from the spec: `commit(version)` finalises the staged changes as of `version` (§4.3).
-/
def commit (t : Trie K V) (version : UInt64) : Trie K V := { t with version := version }

@[simp] theorem update_contents [DecidableEq K] (t : Trie K V) (l : List (K × V)) :
    (t.update l).contents = writeAll t.contents l := rfl

@[simp] theorem update_version [DecidableEq K] (t : Trie K V) (l : List (K × V)) :
    (t.update l).version = t.version := rfl

@[simp] theorem update_nil [DecidableEq K] (t : Trie K V) : t.update [] = t := rfl

theorem update_append [DecidableEq K] (t : Trie K V) (l l' : List (K × V)) :
    (t.update l).update l' = t.update (l ++ l') := by
  simp only [update, writeAll_append]

@[simp] theorem commit_contents (t : Trie K V) (v : UInt64) : (t.commit v).contents = t.contents :=
  rfl

@[simp] theorem commit_version (t : Trie K V) (v : UInt64) : (t.commit v).version = v := rfl

end Trie

/-- The tries of the contract branch: all contracts' storage, keyed by address and storage key,
and the contracts trie. -/
structure ContractTries where
  storage : Trie (ContractAddress × StorageKey) StarkFelt
  contracts : Trie ContractAddress Felt

/-- Modelled from the spec: the roots `root()` reads (§4.3), each a function of the trie's contents:
a contract's storage trie, the contracts trie and the classes trie. -/
structure TrieRoots where
  storage : (StorageKey → Option StarkFelt) → Felt
  contracts : (ContractAddress → Option Felt) → Felt
  classes : (ClassHash → Option FieldElement) → Felt

/-- A run's outcome: what it returned or how it failed, and the persisted tries it left. -/
def outcome {ε σ α : Type} : EStateM.Result ε σ α → Except ε α × σ
  | .ok a s => (.ok a, s)
  | .error e s => (.error e, s)

section Handlers

variable (fails : HandlerCall → Bool) {σ α : Type}

/-- Modelled from the spec: a handler call fails with a `StorageError` when the environment fails it
(§4.3), and changes no persisted trie. -/
def call (c : HandlerCall) : EStateM Failure σ Unit :=
  if fails c then throw .storage else pure ()

theorem run_call_bind (c : HandlerCall) (k : Unit → EStateM Failure σ α) (s : σ) :
    (call fails c >>= k).run s = if fails c then .error .storage s else (k ()).run s := by
  unfold call; split <;> rfl

/-- Modelled from the spec: a write handler (§4.3): the trie it serves, its working view, and where
`apply_changes` merges the view into the persisted tries. -/
structure TrieWrite (σ K V : Type) where
  entity : Entity
  view : Trie K V
  persist : Trie K V → σ → σ

/-- Modelled from the spec: a read handler (§4.3): the trie it serves, as persisted when it was
opened. -/
structure TrieRead (K V : Type) where
  entity : Entity
  trie : Trie K V

variable {K V : Type}

/-- Modelled from the spec: `StorageHandler::*_mut(BlockId::Number(n))` (§4.3): a write handler over
the trie `view` picks out, its working view a copy of the persisted trie. -/
def writeHandler (e : Entity) (blockNumber : UInt64) (view : σ → Trie K V)
    (persist : Trie K V → σ → σ) : EStateM Failure σ (TrieWrite σ K V) := do
  call fails (.write e blockNumber)
  return ⟨e, view (← get), persist⟩

/-- Modelled from the spec: `StorageHandler::contract()` and its siblings (§4.3): a read handler
over the persisted trie. -/
def readHandler (e : Entity) (view : σ → Trie K V) : EStateM Failure σ (TrieRead K V) := do
  call fails (.read e)
  return ⟨e, view (← get)⟩

theorem run_writeHandler_bind (e : Entity) (n : UInt64) (view : σ → Trie K V)
    (persist : Trie K V → σ → σ) (k : TrieWrite σ K V → EStateM Failure σ α) (s : σ) :
    (writeHandler fails e n view persist >>= k).run s =
      if fails (.write e n) then .error .storage s else (k ⟨e, view s, persist⟩).run s := by
  unfold writeHandler call; split <;> rfl

theorem run_readHandler_bind (e : Entity) (view : σ → Trie K V)
    (k : TrieRead K V → EStateM Failure σ α) (s : σ) :
    (readHandler fails e view >>= k).run s =
      if fails (.read e) then .error .storage s else (k ⟨e, view s⟩).run s := by
  unfold readHandler call; split <;> rfl

namespace TrieWrite

/-- Modelled from the spec: `init()` (§4.3): attaches the root, staging nothing. -/
def init (w : TrieWrite σ K V) : EStateM Failure σ Unit := call fails (.init w.entity)

/-- Modelled from the spec: `update(batch)` (§4.3): stages the batch into the working view. -/
def update [DecidableEq K] (w : TrieWrite σ K V) (l : List (K × V)) :
    EStateM Failure σ (TrieWrite σ K V) := do
  call fails (.update w.entity)
  return { w with view := w.view.update l }

/-- Modelled from the spec: `commit(version)` (§4.3): finalises the working view. -/
def commit (w : TrieWrite σ K V) (version : UInt64) : EStateM Failure σ (TrieWrite σ K V) := do
  call fails (.commit w.entity version)
  return { w with view := w.view.commit version }

/-- Modelled from the spec: `apply_changes()` (§4.3): merges the working view into the persisted
tries, whole or not at all. -/
def applyChanges (w : TrieWrite σ K V) : EStateM Failure σ Unit := do
  call fails (.applyChanges w.entity)
  modify (w.persist w.view)

/-- Modelled from the spec: `init(contract_address)` of the contract storage handler (§4.3). -/
def initContract (_ : TrieWrite σ (ContractAddress × StorageKey) StarkFelt)
    (contractAddress : ContractAddress) : EStateM Failure σ Unit :=
  call fails (.initContract contractAddress)

/-- Modelled from the spec: `insert(contract_address, key, value)` of the contract storage handler
(§4.3). -/
def insert (w : TrieWrite σ (ContractAddress × StorageKey) StarkFelt)
    (contractAddress : ContractAddress) (key : StorageKey) (value : StarkFelt) :
    EStateM Failure σ (TrieWrite σ (ContractAddress × StorageKey) StarkFelt) := do
  call fails (.insert contractAddress key value)
  return { w with view := w.view.update [((contractAddress, key), value)] }

variable (w : TrieWrite σ K V) (s : σ)

theorem run_init_bind (k : Unit → EStateM Failure σ α) :
    (w.init fails >>= k).run s =
      if fails (.init w.entity) then .error .storage s else (k ()).run s :=
  run_call_bind fails _ k s

theorem run_initContract_bind (w : TrieWrite σ (ContractAddress × StorageKey) StarkFelt)
    (a : ContractAddress) (k : Unit → EStateM Failure σ α) :
    (w.initContract fails a >>= k).run s =
      if fails (.initContract a) then .error .storage s else (k ()).run s :=
  run_call_bind fails _ k s

theorem run_insert_bind (w : TrieWrite σ (ContractAddress × StorageKey) StarkFelt)
    (a : ContractAddress) (key : StorageKey) (value : StarkFelt)
    (k : TrieWrite σ (ContractAddress × StorageKey) StarkFelt → EStateM Failure σ α) :
    (w.insert fails a key value >>= k).run s =
      if fails (.insert a key value) then .error .storage s
      else (k { w with view := w.view.update [((a, key), value)] }).run s := by
  unfold insert call; split <;> rfl

theorem run_update_bind [DecidableEq K] (l : List (K × V))
    (k : TrieWrite σ K V → EStateM Failure σ α) :
    (w.update fails l >>= k).run s =
      if fails (.update w.entity) then .error .storage s
      else (k { w with view := w.view.update l }).run s := by
  unfold update call; split <;> rfl

theorem run_commit_bind (v : UInt64) (k : TrieWrite σ K V → EStateM Failure σ α) :
    (w.commit fails v >>= k).run s =
      if fails (.commit w.entity v) then .error .storage s
      else (k { w with view := w.view.commit v }).run s := by
  unfold commit call; split <;> rfl

theorem run_applyChanges_bind (k : Unit → EStateM Failure σ α) :
    (w.applyChanges fails >>= k).run s =
      if fails (.applyChanges w.entity) then .error .storage s
      else (k ()).run (w.persist w.view s) := by
  unfold applyChanges call; split <;> rfl

end TrieWrite

/-- Modelled from the spec: `root()` of a read handler (§4.3): the committed root, no change. -/
def TrieRead.root (r : TrieRead K V) (rootOf : (K → Option V) → Felt) :
    EStateM Failure σ Felt := do
  call fails (.root r.entity)
  return rootOf r.trie.contents

/-- Modelled from the spec: `root(contract_address)` of the contract storage read handler (§4.3),
called from a parallel map. -/
def TrieRead.rootAt (r : TrieRead (ContractAddress × StorageKey) StarkFelt)
    (rootOf : (StorageKey → Option StarkFelt) → Felt) (contractAddress : ContractAddress) :
    Except Failure Felt :=
  if fails (.rootOf contractAddress) then .error .storage
  else .ok (rootOf fun key => r.trie.contents (contractAddress, key))

theorem TrieRead.run_root_bind (r : TrieRead K V) (rootOf : (K → Option V) → Felt)
    (k : Felt → EStateM Failure σ α) (s : σ) :
    (r.root fails rootOf >>= k).run s =
      if fails (.root r.entity) then .error .storage s else (k (rootOf r.trie.contents)).run s := by
  unfold root call; split <;> rfl

end Handlers

namespace StorageHandler

variable (fails : HandlerCall → Bool)

/-- Modelled from the spec: `contract_mut(BlockId::Number(n))` (§4.3), over the contracts trie. -/
def contractMut (blockNumber : UInt64) :
    EStateM Failure ContractTries (TrieWrite ContractTries ContractAddress Felt) :=
  writeHandler fails .contracts blockNumber ContractTries.contracts
    fun t s => { s with contracts := t }

/-- Modelled from the spec: `contract_storage_mut(BlockId::Number(n))` (§4.3), over the storage
tries. -/
def contractStorageMut (blockNumber : UInt64) :
    EStateM Failure ContractTries
      (TrieWrite ContractTries (ContractAddress × StorageKey) StarkFelt) :=
  writeHandler fails .storage blockNumber ContractTries.storage fun t s => { s with storage := t }

/-- Modelled from the spec: `class_mut(BlockId::Number(n))` (§4.3), over the classes trie. -/
def classMut (blockNumber : UInt64) :
    EStateM Failure (Trie ClassHash FieldElement)
      (TrieWrite (Trie ClassHash FieldElement) ClassHash FieldElement) :=
  writeHandler fails .classes blockNumber id fun t _ => t

/-- Modelled from the spec: `contract()` (§4.3), a read handler over the contracts trie. -/
def contract : EStateM Failure ContractTries (TrieRead ContractAddress Felt) :=
  readHandler fails .contracts ContractTries.contracts

/-- Modelled from the spec: `contract_storage()` (§4.3), a read handler over the storage tries. -/
def contractStorage :
    EStateM Failure ContractTries (TrieRead (ContractAddress × StorageKey) StarkFelt) :=
  readHandler fails .storage ContractTries.storage

/-- Modelled from the spec: `class()` (§4.3), a read handler over the classes trie. -/
def «class» : EStateM Failure (Trie ClassHash FieldElement) (TrieRead ClassHash FieldElement) :=
  readHandler fails .classes id

end StorageHandler

end Deoxys
