import Mathlib.Logic.Function.Basic

/-!
# Deoxys.MappingSync

The mapping-sync worker. Each call of `sync_one_block` walks the Substrate block tree from a stack
of tips persisted in the Madara backend: it pops tips until `fetch_header` returns a header that is
not marked synced and not below `sync_from`, operates on it (`sync_genesis_block` for block `0`,
`sync_block` otherwise), pushes its parent, and persists the stack. When the stack is empty it is
seeded from the tree's leaves.

`sync_genesis_block` marks its block synced, but `sync_block` writes nothing: its body is
commented out. So a walk that reaches genesis starts again from the leaves and operates on the same
headers again.

* `synced_only_genesis` — in every run of `sync_one_block` calls, synced marks are never removed,
  and the only blocks marked are headers of number `0`.
* `synced_never_operated` — in every run, no call operates on a header already marked synced.
* `walk_in_tree` — in every run, each operated header is a header of the tree, not below
  `sync_from` (and not above the client's best number under the parachain strategy), and every
  tip on the stack is a leaf of the tree or the parent of an operated header.
* `syncBlocks_operates_at_most_once` — `sync_blocks` stops calling `sync_one_block` after the
  first call that returns `true`, so it operates on at most one header, whatever its limit.
* `header_operated_twice` — over the tree genesis ← block 1, three calls operate on block 1
  twice.
-/

namespace Deoxys

/-- `Block::Hash`. -/
abbrev BlockHash := Nat

/-- A block header: its hash, number and parent hash. -/
structure Header where
  hash : BlockHash
  number : Nat
  parentHash : BlockHash
deriving DecidableEq, Repr

/-- The Substrate backend's `blockchain()`: `header(hash)` (`Ok(None)` and `Err` both `none`) and
`leaves()`. A header is stored under its own hash. -/
structure Blockchain where
  header : BlockHash → Option Header
  leaves : List BlockHash
  header_hash : ∀ h hd, header h = some hd → hd.hash = h

/-- The client: its runtime API at a block (`api_version::<dyn StarknetRuntimeApi>` and the hash
of `current_block`) and `info().best_number`. -/
structure Client where
  apiVersion : BlockHash → Except String (Option Nat)
  currentBlockHash : BlockHash → Except String Nat
  bestNumber : Nat

inductive SyncStrategy
  | normal
  | parachain
deriving DecidableEq, Repr

/-- `madara_db::MappingCommitment`, without the transaction hashes, which
`sync_genesis_block` leaves empty. -/
structure MappingCommitment where
  blockHash : BlockHash
  starknetBlockHash : Nat

/-- What the Madara backend persists for mapping sync: `meta()`'s current syncing tips in `Vec`
order (the top of the stack last), and `mapping()`'s synced marks and Starknet-to-Substrate block
hashes. `operated` is a history variable that nothing reads: the headers passed to `sync_block` or
`sync_genesis_block` so far. -/
structure Backend where
  currentSyncingTips : List BlockHash
  synced : BlockHash → Bool
  blockMapping : Nat → Option BlockHash
  operated : List Header

/-- A backend with no tips and nothing synced. -/
def Backend.empty : Backend := ⟨[], fun _ => false, fun _ => none, []⟩

/-- The worker's programs: a failure returns its message and keeps what was written before it. -/
abbrev SyncM := EStateM String Backend

/-- `?` on a `Result<_, String>`. -/
def fromExcept {α : Type} : Except String α → SyncM α
  | .ok a => pure a
  | .error e => throw e

/-- `mapping().write_hashes(commitment)`. -/
def writeHashes (commitment : MappingCommitment) : SyncM Unit :=
  modify fun b => { b with
    synced := Function.update b.synced commitment.blockHash true
    blockMapping :=
      Function.update b.blockMapping commitment.starknetBlockHash (some commitment.blockHash) }

/-- `mapping().write_none(block_hash)`. -/
def writeNone (blockHash : BlockHash) : SyncM Unit :=
  modify fun b => { b with synced := Function.update b.synced blockHash true }

/-- `meta().write_current_syncing_tips(tips)`. -/
def writeCurrentSyncingTips (tips : List BlockHash) : SyncM Unit :=
  modify fun b => { b with currentSyncingTips := tips }

/-- The history variable's update: a header is passed to `sync_block` or `sync_genesis_block`. -/
def recordOperated (header : Header) : SyncM Unit :=
  modify fun b => { b with operated := b.operated ++ [header] }

/-- `fetch_header`: `None` for a synced tip or a header below `sync_from`. -/
def fetchHeader (chain : Blockchain) (backend : Backend) (checkingTip : BlockHash)
    (syncFrom : Nat) : Except String (Option Header) :=
  if backend.synced checkingTip then .ok none
  else match chain.header checkingTip with
    | some checkingHeader =>
      .ok (if syncFrom ≤ checkingHeader.number then some checkingHeader else none)
    | none => .error "Header not found"

/-- The `while let Some(checking_tip) = current_syncing_tips.pop()` loop, over the stack from its
top: the first header `fetch_header` returns, and the stack left under it. -/
def popOperatingHeader (chain : Blockchain) (backend : Backend) (syncFrom : Nat) :
    List BlockHash → Except String (Option Header × List BlockHash)
  | [] => .ok (none, [])
  | checkingTip :: rest =>
    match fetchHeader chain backend checkingTip syncFrom with
    | .error e => .error e
    | .ok (some checkingHeader) => .ok (some checkingHeader, rest)
    | .ok none => popOperatingHeader chain backend syncFrom rest

/-- `sync_block`: its body is commented out, and it writes nothing. -/
def syncBlock (_header : Header) : SyncM Unit := pure ()

/-- `sync_genesis_block`: the block is marked synced, with its Starknet block hash when the
Starknet runtime API is there. -/
def syncGenesisBlock (client : Client) (header : Header) : SyncM Unit := do
  let substrateBlockHash := header.hash
  match ← fromExcept (client.apiVersion substrateBlockHash) with
  | some _ =>
    let blockHash ← fromExcept (client.currentBlockHash substrateBlockHash)
    writeHashes ⟨substrateBlockHash, blockHash⟩
  | none => writeNone substrateBlockHash

/-- The tips a call starts from: the persisted ones, or the leaves when none are persisted;
`none` (return `false`) when both are empty. -/
def seedTips (chain : Blockchain) (currentSyncingTips : List BlockHash) : Option (List BlockHash) :=
  if currentSyncingTips.isEmpty then
    if chain.leaves.isEmpty then none else some (currentSyncingTips ++ chain.leaves)
  else some currentSyncingTips

/-- The end of `sync_one_block`, once it has an operating header and the stack under it. -/
def syncOperatingHeader (client : Client) (strategy : SyncStrategy) (operatingHeader : Header)
    (rest : List BlockHash) : SyncM Bool :=
  if operatingHeader.number = 0 then do
    recordOperated operatingHeader
    syncGenesisBlock client operatingHeader
    writeCurrentSyncingTips rest.reverse
    pure true
  else if strategy = .parachain ∧ operatingHeader.number > client.bestNumber then pure false
  else do
    recordOperated operatingHeader
    syncBlock operatingHeader
    writeCurrentSyncingTips (rest.reverse ++ [operatingHeader.parentHash])
    pure true

/-- `sync_one_block`. -/
def syncOneBlock (client : Client) (chain : Blockchain) (syncFrom : Nat) (strategy : SyncStrategy) :
    SyncM Bool := do
  let backend ← get
  match seedTips chain backend.currentSyncingTips with
  | none => pure false
  | some currentSyncingTips =>
    match ← fromExcept (popOperatingHeader chain backend syncFrom currentSyncingTips.reverse) with
    | (none, rest) => do
      writeCurrentSyncingTips rest.reverse
      pure false
    | (some operatingHeader, rest) => syncOperatingHeader client strategy operatingHeader rest

/-- The loop of `sync_blocks`: `synced_any = synced_any || sync_one_block(..)?`, whose `||` calls
`sync_one_block` only while nothing was synced. -/
def syncBlocksLoop (client : Client) (chain : Blockchain) (syncFrom : Nat)
    (strategy : SyncStrategy) : Nat → Bool → SyncM Bool
  | 0, syncedAny => pure syncedAny
  | limit + 1, syncedAny => do
    let syncedAny ← if syncedAny then pure true else syncOneBlock client chain syncFrom strategy
    syncBlocksLoop client chain syncFrom strategy limit syncedAny

/-- `sync_blocks`. -/
def syncBlocks (client : Client) (chain : Blockchain) (limit syncFrom : Nat)
    (strategy : SyncStrategy) : SyncM Bool :=
  syncBlocksLoop client chain syncFrom strategy limit false

/-- The backend a call left, whatever it returned. -/
def afterCall {α : Type} : EStateM.Result String Backend α → Backend
  | .ok _ b => b
  | .error _ b => b

/-- `k` calls of `sync_one_block`, each from the backend the one before left. -/
def syncCalls (client : Client) (chain : Blockchain) (syncFrom : Nat) (strategy : SyncStrategy) :
    Nat → Backend → Backend
  | 0, b => b
  | k + 1, b => syncCalls client chain syncFrom strategy k
    (afterCall ((syncOneBlock client chain syncFrom strategy).run b))

section Run

variable {α : Type} (b : Backend)

theorem run_fromExcept_bind {β : Type} (x : Except String β) (k : β → SyncM α) :
    (fromExcept x >>= k).run b = match x with
      | .ok a => (k a).run b
      | .error e => .error e b := by
  cases x <;> rfl

@[simp] theorem run_recordOperated_bind (hd : Header) (k : Unit → SyncM α) :
    (recordOperated hd >>= k).run b = (k ()).run { b with operated := b.operated ++ [hd] } := rfl

theorem run_get_bind (k : Backend → SyncM α) : (get >>= k).run b = (k b).run b := rfl

theorem run_syncGenesisBlock_bind (client : Client) (header : Header) (k : Unit → SyncM α) :
    (syncGenesisBlock client header >>= k).run b =
      match client.apiVersion header.hash with
      | .error e => .error e b
      | .ok none => (k ()).run { b with synced := Function.update b.synced header.hash true }
      | .ok (some _) =>
        match client.currentBlockHash header.hash with
        | .error e => .error e b
        | .ok blockHash => (k ()).run { b with
            synced := Function.update b.synced header.hash true
            blockMapping := Function.update b.blockMapping blockHash (some header.hash) } := by
  unfold syncGenesisBlock
  dsimp only
  rcases client.apiVersion header.hash with _ | _ | _ <;> try rfl
  rcases client.currentBlockHash header.hash with _ | _ <;> rfl

end Run

section Effect

variable {chain : Blockchain} {b : Backend} {syncFrom : Nat}

theorem fetchHeader_some {tip : BlockHash} {hd : Header}
    (h : fetchHeader chain b tip syncFrom = .ok (some hd)) :
    hd.hash = tip ∧ chain.header tip = some hd ∧ b.synced tip = false ∧
      syncFrom ≤ hd.number := by
  unfold fetchHeader at h
  split at h
  · cases h
  · rename_i hs
    split at h
    · next hd' he =>
      split at h
      · cases h
        exact ⟨chain.header_hash _ _ he, he, by simpa using hs, ‹_›⟩
      · cases h
    · cases h

/-- The loop returns a header of the tree, not synced and not below `sync_from`. -/
theorem popOperatingHeader_some {l rest : List BlockHash} {hd : Header}
    (h : popOperatingHeader chain b syncFrom l = .ok (some hd, rest)) :
    chain.header hd.hash = some hd ∧ b.synced hd.hash = false ∧ syncFrom ≤ hd.number := by
  induction l with
  | nil => cases h
  | cons tip l ih =>
    unfold popOperatingHeader at h
    split at h
    · cases h
    · next hd' hf =>
      cases h
      obtain ⟨rfl, hh, hs, hn⟩ := fetchHeader_some hf
      exact ⟨hh, hs, hn⟩
    · exact ih h

/-- What one call of `sync_one_block` from `b` can do, `r` its result: operate on nothing and mark
nothing; or operate on one header of the tree that is not synced and not below `sync_from`, return
`true` or fail, and mark nothing but that header, and that only when it is block `0`. -/
inductive CallEffect (chain : Blockchain) (syncFrom : Nat) (b : Backend) :
    EStateM.Result String Backend Bool → Prop
  | idle {r} : (afterCall r).operated = b.operated → (afterCall r).synced = b.synced →
      CallEffect chain syncFrom b r
  | operate {r} (hd : Header) : chain.header hd.hash = some hd → b.synced hd.hash = false →
      syncFrom ≤ hd.number → (afterCall r).operated = b.operated ++ [hd] →
      (∀ b', r ≠ .ok false b') →
      ((afterCall r).synced = b.synced ∨
        hd.number = 0 ∧ (afterCall r).synced = Function.update b.synced hd.hash true) →
      CallEffect chain syncFrom b r

theorem run_syncOperatingHeader_genesis (client : Client) (strategy : SyncStrategy) (b : Backend)
    (hd : Header) (rest : List BlockHash) (h0 : hd.number = 0) :
    (∃ m, (syncOperatingHeader client strategy hd rest).run b =
      .ok true { b with
        currentSyncingTips := rest.reverse
        synced := Function.update b.synced hd.hash true
        blockMapping := m
        operated := b.operated ++ [hd] }) ∨
    ∃ e, (syncOperatingHeader client strategy hd rest).run b =
      .error e { b with operated := b.operated ++ [hd] } := by
  simp only [syncOperatingHeader, h0, if_true, run_recordOperated_bind, run_syncGenesisBlock_bind]
  rcases client.apiVersion hd.hash with e | _ | _
  · exact .inr ⟨e, rfl⟩
  · exact .inl ⟨b.blockMapping, rfl⟩
  · rcases client.currentBlockHash hd.hash with e | _
    · exact .inr ⟨e, rfl⟩
    · exact .inl ⟨_, rfl⟩

theorem run_syncOperatingHeader_block (client : Client) (strategy : SyncStrategy) (b : Backend)
    (hd : Header) (rest : List BlockHash) (h0 : hd.number ≠ 0)
    (hp : ¬(strategy = .parachain ∧ hd.number > client.bestNumber)) :
    (syncOperatingHeader client strategy hd rest).run b =
      .ok true { b with
        currentSyncingTips := rest.reverse ++ [hd.parentHash]
        operated := b.operated ++ [hd] } := by
  simp only [syncOperatingHeader, h0, hp, if_false]
  rfl

theorem syncOperatingHeader_effect (client : Client) (strategy : SyncStrategy) {hd : Header}
    {rest : List BlockHash} (hh : chain.header hd.hash = some hd) (hs : b.synced hd.hash = false)
    (hn : syncFrom ≤ hd.number) :
    CallEffect chain syncFrom b ((syncOperatingHeader client strategy hd rest).run b) := by
  by_cases h0 : hd.number = 0
  · rcases run_syncOperatingHeader_genesis client strategy b hd rest h0 with
      ⟨m, h⟩ | ⟨e, h⟩ <;> rw [h]
    · exact .operate hd hh hs hn rfl (fun _ h => nomatch h) (.inr ⟨h0, rfl⟩)
    · exact .operate hd hh hs hn rfl (fun _ h => nomatch h) (.inl rfl)
  by_cases hp : strategy = .parachain ∧ hd.number > client.bestNumber
  · simp only [syncOperatingHeader, h0, hp, if_false, if_true]
    exact .idle rfl rfl
  · rw [run_syncOperatingHeader_block client strategy b hd rest h0 hp]
    exact .operate hd hh hs hn rfl (fun _ h => nomatch h) (.inl rfl)

theorem operated_syncOperatingHeader_genesis (client : Client) (strategy : SyncStrategy)
    (b : Backend) (hd : Header) (rest : List BlockHash) (h0 : hd.number = 0) :
    (afterCall ((syncOperatingHeader client strategy hd rest).run b)).operated =
      b.operated ++ [hd] := by
  rcases run_syncOperatingHeader_genesis client strategy b hd rest h0 with
    ⟨m, h⟩ | ⟨e, h⟩ <;> rw [h] <;> rfl

/-- A call that finds an operating header goes on with it. -/
theorem run_syncOneBlock_operating (client : Client) (chain : Blockchain) (syncFrom : Nat)
    (strategy : SyncStrategy) (b : Backend) {tips rest : List BlockHash} {hd : Header}
    (ht : seedTips chain b.currentSyncingTips = some tips)
    (hp : popOperatingHeader chain b syncFrom tips.reverse = .ok (some hd, rest)) :
    (syncOneBlock client chain syncFrom strategy).run b =
      (syncOperatingHeader client strategy hd rest).run b := by
  rw [syncOneBlock, run_get_bind]
  simp only [ht]
  rw [run_fromExcept_bind, hp]

/-- A call whose tips are all skipped persists the empty stack and returns `false`. -/
theorem run_syncOneBlock_idle (client : Client) (chain : Blockchain) (syncFrom : Nat)
    (strategy : SyncStrategy) (b : Backend) {tips rest : List BlockHash}
    (ht : seedTips chain b.currentSyncingTips = some tips)
    (hp : popOperatingHeader chain b syncFrom tips.reverse = .ok (none, rest)) :
    (syncOneBlock client chain syncFrom strategy).run b =
      .ok false { b with currentSyncingTips := rest.reverse } := by
  rw [syncOneBlock, run_get_bind]
  simp only [ht]
  rw [run_fromExcept_bind, hp]
  rfl

/-- **What one call can do.** -/
theorem syncOneBlock_effect (client : Client) (chain : Blockchain) (syncFrom : Nat)
    (strategy : SyncStrategy) (b : Backend) :
    CallEffect chain syncFrom b ((syncOneBlock client chain syncFrom strategy).run b) := by
  rw [syncOneBlock, run_get_bind]
  cases seedTips chain b.currentSyncingTips with
  | none => exact .idle rfl rfl
  | some tips =>
    dsimp only
    rw [run_fromExcept_bind]
    cases hp : popOperatingHeader chain b syncFrom tips.reverse with
    | error e => exact .idle rfl rfl
    | ok p =>
      obtain ⟨_ | hd, rest⟩ := p
      · exact .idle rfl rfl
      · obtain ⟨hh, hs, hn⟩ := popOperatingHeader_some hp
        exact syncOperatingHeader_effect client strategy hh hs hn

namespace CallEffect

variable {r : EStateM.Result String Backend Bool}

theorem synced_mono (e : CallEffect chain syncFrom b r) {h : BlockHash} (hb : b.synced h = true) :
    (afterCall r).synced h = true := by
  cases e with
  | idle _ hs => rw [hs]; exact hb
  | operate hd _ _ _ _ _ hm =>
    rcases hm with hm | ⟨-, hm⟩ <;> rw [hm]
    · exact hb
    · simp [Function.update_apply, hb]

theorem synced_genesis (e : CallEffect chain syncFrom b r) {h : BlockHash}
    (hr : (afterCall r).synced h = true) :
    b.synced h = true ∨ ∃ hd, chain.header h = some hd ∧ hd.number = 0 := by
  cases e with
  | idle _ hs => rw [hs] at hr; exact .inl hr
  | operate hd hh _ _ _ _ hm =>
    rcases hm with hm | ⟨h0, hm⟩
    · rw [hm] at hr; exact .inl hr
    · rw [hm, Function.update_apply] at hr
      split_ifs at hr with he
      · subst he; exact .inr ⟨hd, hh, h0⟩
      · exact .inl hr

theorem operated_eq (e : CallEffect chain syncFrom b r) :
    ∃ l, (afterCall r).operated = b.operated ++ l ∧ l.length ≤ 1 ∧
      (∀ hd ∈ l, b.synced hd.hash = false) ∧ ∀ b', r = .ok false b' → l = [] := by
  cases e with
  | idle ho _ => exact ⟨[], by rw [ho, List.append_nil], by simp, by simp, fun _ _ => rfl⟩
  | operate hd _ hs _ ho hr _ =>
    exact ⟨[hd], ho, by simp, by simpa using hs, fun b' e => absurd e (hr b')⟩

end CallEffect

end Effect

section Tips

variable (client : Client) {chain : Blockchain} {syncFrom : Nat} (strategy : SyncStrategy)

theorem seedTips_mem {tips seeded : List BlockHash} (h : seedTips chain tips = some seeded)
    {t : BlockHash} (ht : t ∈ seeded) : t ∈ tips ∨ t ∈ chain.leaves := by
  unfold seedTips at h
  split_ifs at h <;> cases h
  · exact List.mem_append.1 ht
  · exact .inl ht

/-- The loop leaves a part of the stack it was given. -/
theorem popOperatingHeader_rest {b : Backend} {l rest : List BlockHash} {o : Option Header}
    (h : popOperatingHeader chain b syncFrom l = .ok (o, rest)) {t : BlockHash} (ht : t ∈ rest) :
    t ∈ l := by
  induction l with
  | nil => cases h; exact ht
  | cons tip l ih =>
    unfold popOperatingHeader at h
    split at h
    · cases h
    · cases h; exact List.mem_cons_of_mem _ ht
    · exact List.mem_cons_of_mem _ (ih h)

/-- What one call does to the tips: the headers it operates on are headers of the tree, not
below `sync_from` and, under `SyncStrategy::Parachain`, not above the best number; and every tip
it persists was a tip, is a leaf, or is the parent hash of the header it operated on. -/
theorem syncOneBlock_tips (chain : Blockchain) (syncFrom : Nat) (b : Backend) :
    ∃ l, (afterCall ((syncOneBlock client chain syncFrom strategy).run b)).operated =
        b.operated ++ l ∧
      (∀ hd ∈ l, chain.header hd.hash = some hd ∧ syncFrom ≤ hd.number ∧
        (strategy = .parachain → hd.number ≤ client.bestNumber)) ∧
      ∀ t ∈ (afterCall ((syncOneBlock client chain syncFrom strategy).run b)).currentSyncingTips,
        t ∈ b.currentSyncingTips ∨ t ∈ chain.leaves ∨ ∃ hd ∈ l, hd.parentHash = t := by
  cases hs : seedTips chain b.currentSyncingTips with
  | none =>
    have h : (syncOneBlock client chain syncFrom strategy).run b = .ok false b := by
      rw [syncOneBlock, run_get_bind]; simp only [hs]; rfl
    rw [h]
    exact ⟨[], (List.append_nil _).symm, by simp, fun t ht => .inl ht⟩
  | some tips =>
    have hrest : ∀ {o rest}, popOperatingHeader chain b syncFrom tips.reverse = .ok (o, rest) →
        ∀ t ∈ rest.reverse, t ∈ b.currentSyncingTips ∨ t ∈ chain.leaves := fun hp t ht =>
      seedTips_mem hs (List.mem_reverse.1 (popOperatingHeader_rest hp (List.mem_reverse.1 ht)))
    cases hp : popOperatingHeader chain b syncFrom tips.reverse with
    | error e =>
      have h : (syncOneBlock client chain syncFrom strategy).run b = .error e b := by
        rw [syncOneBlock, run_get_bind]; simp only [hs]; rw [run_fromExcept_bind, hp]
      rw [h]
      exact ⟨[], (List.append_nil _).symm, by simp, fun t ht => .inl ht⟩
    | ok p =>
      obtain ⟨_ | hd, rest⟩ := p
      · rw [run_syncOneBlock_idle client chain syncFrom strategy b hs hp]
        exact ⟨[], (List.append_nil _).symm, by simp, fun t ht => (hrest hp t ht).imp_right .inl⟩
      · rw [run_syncOneBlock_operating client chain syncFrom strategy b hs hp]
        obtain ⟨hh, -, hn⟩ := popOperatingHeader_some hp
        have hrest := hrest hp
        by_cases h0 : hd.number = 0
        · have hb : strategy = .parachain → hd.number ≤ client.bestNumber := fun _ => by omega
          rcases run_syncOperatingHeader_genesis client strategy b hd rest h0 with
            ⟨m, h⟩ | ⟨e, h⟩ <;> rw [h]
          · exact ⟨[hd], rfl, by simpa using ⟨hh, hn, hb⟩,
              fun t ht => (hrest t ht).imp_right .inl⟩
          · exact ⟨[hd], rfl, by simpa using ⟨hh, hn, hb⟩, fun t ht => .inl ht⟩
        by_cases hq : strategy = .parachain ∧ hd.number > client.bestNumber
        · simp only [syncOperatingHeader, h0, hq, if_false, if_true]
          exact ⟨[], (List.append_nil _).symm, by simp, fun t ht => .inl ht⟩
        · rw [run_syncOperatingHeader_block client strategy b hd rest h0 hq]
          refine ⟨[hd], rfl, by simpa using ⟨hh, hn, fun hs => by simp_all⟩, fun t ht => ?_⟩
          rcases List.mem_append.1 ht with ht | ht
          · exact (hrest t ht).imp_right .inl
          · exact .inr (.inr ⟨hd, by simp, (List.mem_singleton.1 ht).symm⟩)

/-- The walk is inside the block tree: every header operated on is a header of the tree, not
below `sync_from` and, under `SyncStrategy::Parachain`, not above the best number; and every
persisted tip is a leaf or the parent hash of a header operated on. -/
structure InTree (client : Client) (chain : Blockchain) (syncFrom : Nat)
    (strategy : SyncStrategy) (b : Backend) : Prop where
  operated : ∀ hd ∈ b.operated, chain.header hd.hash = some hd ∧ syncFrom ≤ hd.number ∧
    (strategy = .parachain → hd.number ≤ client.bestNumber)
  tips : ∀ t ∈ b.currentSyncingTips, t ∈ chain.leaves ∨ ∃ hd ∈ b.operated, hd.parentHash = t

theorem InTree.syncOneBlock {b : Backend} (h : InTree client chain syncFrom strategy b) :
    InTree client chain syncFrom strategy
      (afterCall ((syncOneBlock client chain syncFrom strategy).run b)) := by
  obtain ⟨l, hop, hl, ht⟩ := syncOneBlock_tips client strategy chain syncFrom b
  refine ⟨fun hd hm => ?_, fun t hm => ?_⟩
  · rw [hop, List.mem_append] at hm
    exact hm.elim (h.operated hd) (hl hd)
  · rw [hop]
    rcases ht t hm with ht | ht | ⟨hd, hm', rfl⟩
    · rcases h.tips t ht with ht | ⟨hd, hm', rfl⟩
      · exact .inl ht
      · exact .inr ⟨hd, List.mem_append_left _ hm', rfl⟩
    · exact .inl ht
    · exact .inr ⟨hd, List.mem_append_right _ hm', rfl⟩

end Tips

section Runs

variable (client : Client) (chain : Blockchain) (syncFrom : Nat) (strategy : SyncStrategy)

theorem run_syncBlocksLoop_false (limit : Nat) (b : Backend) :
    (syncBlocksLoop client chain syncFrom strategy (limit + 1) false).run b =
      match (syncOneBlock client chain syncFrom strategy).run b with
      | .ok syncedAny b' => (syncBlocksLoop client chain syncFrom strategy limit syncedAny).run b'
      | .error e b' => .error e b' := by
  delta EStateM.run
  simp only [syncBlocksLoop, Bool.false_eq_true, if_false, bind, EStateM.bind]
  cases syncOneBlock client chain syncFrom strategy b <;> rfl

theorem run_syncBlocksLoop_true (limit : Nat) (b : Backend) :
    (syncBlocksLoop client chain syncFrom strategy limit true).run b = .ok true b := by
  induction limit with
  | zero => rfl
  | succ limit ih => exact ih

/-- **Only genesis headers are ever marked synced.** In every run of `sync_one_block` calls, a
synced mark is never removed, and a block marked during the run is a header of number `0`. -/
theorem synced_only_genesis (k : Nat) (b : Backend) (h : BlockHash) :
    (b.synced h = true → (syncCalls client chain syncFrom strategy k b).synced h = true) ∧
      ((syncCalls client chain syncFrom strategy k b).synced h = true →
        b.synced h = true ∨ ∃ hd, chain.header h = some hd ∧ hd.number = 0) := by
  induction k generalizing b with
  | zero => exact ⟨id, .inl⟩
  | succ k ih =>
    have e := syncOneBlock_effect client chain syncFrom strategy b
    obtain ⟨ihm, ihg⟩ := ih (afterCall ((syncOneBlock client chain syncFrom strategy).run b))
    refine ⟨fun hb => ihm (e.synced_mono hb), fun hr => ?_⟩
    rcases ihg hr with hb | hg
    · exact e.synced_genesis hb
    · exact .inr hg

/-- **No call operates on a header already synced.** The headers a run of `sync_one_block` calls
operates on were not synced when the run started. -/
theorem synced_never_operated (k : Nat) (b : Backend) :
    ∃ l, (syncCalls client chain syncFrom strategy k b).operated = b.operated ++ l ∧
      ∀ hd ∈ l, b.synced hd.hash = false := by
  induction k generalizing b with
  | zero => exact ⟨[], (List.append_nil _).symm, by simp⟩
  | succ k ih =>
    have e := syncOneBlock_effect client chain syncFrom strategy b
    obtain ⟨l₁, h₁, -, hs₁, -⟩ := e.operated_eq
    obtain ⟨l₂, h₂, hs₂⟩ :=
      ih (afterCall ((syncOneBlock client chain syncFrom strategy).run b))
    refine ⟨l₁ ++ l₂, by rw [syncCalls, h₂, h₁, List.append_assoc], fun hd hm => ?_⟩
    rcases List.mem_append.1 hm with hm | hm
    · exact hs₁ hd hm
    · exact Bool.eq_false_iff.2 fun hb => by simpa [hs₂ hd hm] using e.synced_mono hb

/-- **`sync_blocks` operates on at most one header.** Its `||` stops calling `sync_one_block` after
the first call that returns `true`, whatever the limit. -/
theorem syncBlocks_operates_at_most_once (limit : Nat) (b : Backend) :
    ∃ l, (afterCall ((syncBlocks client chain limit syncFrom strategy).run b)).operated =
      b.operated ++ l ∧ l.length ≤ 1 := by
  unfold syncBlocks
  induction limit generalizing b with
  | zero => exact ⟨[], (List.append_nil _).symm, by simp⟩
  | succ limit ih =>
    rw [run_syncBlocksLoop_false]
    have e := syncOneBlock_effect client chain syncFrom strategy b
    generalize (syncOneBlock client chain syncFrom strategy).run b = r at e ⊢
    obtain ⟨l, hl, hlen, -, hfalse⟩ := e.operated_eq
    cases r with
    | ok syncedAny b' =>
      dsimp only
      cases syncedAny
      · obtain ⟨l', hl', hlen'⟩ := ih b'
        rw [hfalse b' rfl, List.append_nil] at hl
        exact ⟨l', by rw [hl', ← hl]; rfl, hlen'⟩
      · rw [run_syncBlocksLoop_true]
        exact ⟨l, hl, hlen⟩
    | error e b' => exact ⟨l, hl, hlen⟩

/-- **The walk stays in the tree.** From a backend inside the block tree, every run of
`sync_one_block` calls operates only on headers of the tree, none below `sync_from` and, under
`SyncStrategy::Parachain`, none above the client's best number; and every tip it persists is a
leaf of the tree or the parent hash of a header it operated on. -/
theorem walk_in_tree (k : Nat) (b : Backend) (h : InTree client chain syncFrom strategy b) :
    InTree client chain syncFrom strategy (syncCalls client chain syncFrom strategy k b) := by
  induction k generalizing b with
  | zero => exact h
  | succ k ih => exact ih _ h.syncOneBlock

end Runs

/-- Genesis, hash `1`. -/
def genesisHeader : Header := ⟨1, 0, 0⟩

/-- Block `1`, hash `2`, the child of genesis. -/
def childHeader : Header := ⟨2, 1, 1⟩

/-- The tree genesis ← block `1`; block `1` is the only leaf. -/
def genesisAndChild : Blockchain where
  header h := if h = 1 then some genesisHeader else if h = 2 then some childHeader else none
  leaves := [2]
  header_hash h hd e := by
    dsimp only at e
    split_ifs at e with h1 h2 <;> cases e
    · exact h1.symm
    · exact h2.symm

/-- Three calls from an empty backend operate on a header twice, whatever the client: block `1`,
then genesis, then block `1` again, which `sync_block` did not mark (or genesis again, when the
runtime API fails). -/
theorem header_operated_twice (client : Client) :
    ¬ (syncCalls client genesisAndChild 0 .normal 3 Backend.empty).operated.Nodup := by
  -- the first call operates on block `1` and pushes genesis
  have h₁ : afterCall ((syncOneBlock client genesisAndChild 0 .normal).run Backend.empty) =
      ⟨[1], fun _ => false, fun _ => none, [childHeader]⟩ := rfl
  -- the second operates on genesis
  have h₂ : (syncOneBlock client genesisAndChild 0 .normal).run
        ⟨[1], fun _ => false, fun _ => none, [childHeader]⟩ =
      (syncOperatingHeader client .normal genesisHeader []).run
        ⟨[1], fun _ => false, fun _ => none, [childHeader]⟩ := rfl
  simp only [syncCalls, h₁, h₂]
  rcases run_syncOperatingHeader_genesis client .normal
    ⟨[1], fun _ => false, fun _ => none, [childHeader]⟩ genesisHeader [] rfl with
    ⟨m, h⟩ | ⟨e, h⟩ <;> rw [h]
  · -- genesis is marked, the stack is empty, and the third call takes block `1` from the leaves
    exact of_decide_eq_true rfl
  · -- the runtime API failed: genesis is still on the stack, and the third call operates on it
    -- again
    show ¬ (afterCall ((syncOneBlock client genesisAndChild 0 .normal).run
      ⟨[1], fun _ => false, fun _ => none, [childHeader, genesisHeader]⟩)).operated.Nodup
    have h₃ : (syncOneBlock client genesisAndChild 0 .normal).run
        ⟨[1], fun _ => false, fun _ => none, [childHeader, genesisHeader]⟩ =
      (syncOperatingHeader client .normal genesisHeader []).run
        ⟨[1], fun _ => false, fun _ => none, [childHeader, genesisHeader]⟩ := rfl
    rw [h₃, operated_syncOperatingHeader_genesis client .normal _ genesisHeader [] rfl]
    decide

/-- From the empty backend, three parachain calls over genesis ← block `1`, with best number `1`,
stay inside the tree. -/
theorem genesisAndChild_in_tree :
    InTree ⟨fun _ => .ok none, fun _ => .ok 0, 1⟩ genesisAndChild 0 .parachain Backend.empty ∧
      InTree ⟨fun _ => .ok none, fun _ => .ok 0, 1⟩ genesisAndChild 0 .parachain
        (syncCalls ⟨fun _ => .ok none, fun _ => .ok 0, 1⟩ genesisAndChild 0 .parachain 3
          Backend.empty) :=
  have h : InTree ⟨fun _ => .ok none, fun _ => .ok 0, 1⟩ genesisAndChild 0 .parachain
      Backend.empty := ⟨by simp [Backend.empty], by simp [Backend.empty]⟩
  ⟨h, walk_in_tree _ _ _ _ 3 _ h⟩

end Deoxys
