import Mathlib.Data.List.Basic
import Mathlib.Algebra.Order.Group.Nat

/-!
# Deoxys.Felt

The three representations of a Stark field element the commitment engine converts between, and
their big-endian byte encodings.

* `StarkFelt` (`starknet_api::hash::StarkFelt`): 32 bytes, big-endian. The diff's addresses, class
  hashes, nonces, storage keys and values are `StarkFelt`s.
* `FieldElement` (`starknet_ff::FieldElement`), which the hashers take: `from_bytes_be` and
  `from_byte_slice_be` fail on a value that is not below the prime.
* `Felt` (`starknet_types_core::felt::Felt`), which the trie library stores: `from_bytes_be`
  reduces modulo the prime.

`beValue_beBytes` is the round trip the engine's `to_bytes_be`/`from_bytes_be` pairs rely
on: writing a number as `n` big-endian bytes and reading them back gives it modulo `256 ^ n`.
-/

namespace Deoxys

/-- The Stark field prime, `2 ^ 251 + 17 * 2 ^ 192 + 1`. -/
def starkPrime : Nat := 2 ^ 251 + 17 * 2 ^ 192 + 1

/-- The value of a big-endian byte string. -/
def beValue (bs : List UInt8) : Nat := bs.foldl (fun acc b => acc * 256 + b.toNat) 0

/-- The `n` big-endian bytes of `x`, modulo `256 ^ n`. -/
def beBytes : Nat → Nat → List UInt8
  | 0, _ => []
  | n + 1, x => beBytes n (x / 256) ++ [UInt8.ofNat (x % 256)]

@[simp] theorem length_beBytes (n x : Nat) : (beBytes n x).length = n := by
  induction n generalizing x with
  | zero => rfl
  | succ n ih => simp [beBytes, ih]

theorem beValue_append_byte (bs : List UInt8) (b : UInt8) :
    beValue (bs ++ [b]) = beValue bs * 256 + b.toNat := by
  simp [beValue, List.foldl_append]

theorem beValue_beBytes (n x : Nat) : beValue (beBytes n x) = x % 256 ^ n := by
  induction n generalizing x with
  | zero => simp [beBytes, beValue, Nat.mod_one]
  | succ n ih =>
    rw [beBytes, beValue_append_byte, ih, Nat.pow_succ, Nat.mul_comm (256 ^ n), Nat.mod_mul]
    simp [UInt8.toNat, UInt8.ofNat]
    omega

/-- The first of `n + 1` big-endian bytes is the digit of `256 ^ n`. -/
theorem headD_beBytes (n x : Nat) :
    (beBytes (n + 1) x).headD 0 = UInt8.ofNat (x / 256 ^ n % 256) := by
  induction n generalizing x with
  | zero => simp [beBytes]
  | succ n ih =>
    obtain ⟨b, bs, hb⟩ : ∃ b bs, beBytes (n + 1) (x / 256) = b :: bs :=
      List.exists_cons_of_length_pos (by rw [length_beBytes]; omega)
    have hd := ih (x / 256)
    rw [hb, List.headD_cons, Nat.div_div_eq_div_mul, ← Nat.pow_succ'] at hd
    rw [beBytes, hb, List.cons_append, List.headD_cons, hd]

theorem beValue_lt (bs : List UInt8) : beValue bs < 256 ^ bs.length := by
  induction bs using List.reverseRecOn with
  | nil => simp [beValue]
  | append_singleton bs b ih =>
    rw [beValue_append_byte, List.length_append, List.length_singleton, Nat.pow_succ]
    have : b.toNat < 256 := b.val.isLt
    omega

/-- `starknet_api::hash::StarkFelt`: 32 big-endian bytes. -/
structure StarkFelt where
  bytes : List UInt8
  len : bytes.length = 32
  deriving DecidableEq

/-- `starknet_ff::FieldElement`: an element of the Stark field. -/
structure FieldElement where
  val : Nat
  lt : val < starkPrime
  deriving DecidableEq

/-- `starknet_types_core::felt::Felt`: an element of the Stark field. -/
structure Felt where
  val : Nat
  lt : val < starkPrime
  deriving DecidableEq

theorem starkPrime_pos : 0 < starkPrime := by decide

/-- `StarkFelt::ZERO`, also `Nonce::default()`. -/
def StarkFelt.zero : StarkFelt := ⟨List.replicate 32 0, rfl⟩

/-- `StarkFelt::from` of an integer: its 32 big-endian bytes. -/
def StarkFelt.ofNat (n : Nat) : StarkFelt := ⟨beBytes 32 n, length_beBytes 32 n⟩

/-- `StarknetApiError::OutOfRange`, the error of `StarkFelt::new`. -/
inductive StarknetApiError
  | outOfRange
  deriving DecidableEq, Repr

/-- `StarkFelt::new` of 32 bytes: `OutOfRange` unless the high nibble of the first byte is clear,
a bound on the value looser than the prime. -/
def StarkFelt.new (bytes : List UInt8) (len : bytes.length = 32) :
    Except StarknetApiError StarkFelt :=
  if bytes.headD 0 < 0x10 then .ok ⟨bytes, len⟩ else .error .outOfRange

/-- The contract addresses, class hashes, nonces and storage keys of `starknet_api` are newtypes
over `StarkFelt`. -/
abbrev ContractAddress := StarkFelt
abbrev ClassHash := StarkFelt
abbrev CompiledClassHash := StarkFelt
abbrev Nonce := StarkFelt
abbrev StorageKey := StarkFelt

namespace FieldElement

def zero : FieldElement := ⟨0, starkPrime_pos⟩

/-- `FieldElement::from_bytes_be`: `None` when the value is not below the prime. -/
def fromBytesBe (bs : List UInt8) : Option FieldElement :=
  if h : beValue bs < starkPrime then some ⟨beValue bs, h⟩ else none

/-- `FieldElement::from_byte_slice_be`: `None` for more than 32 bytes or a value not below the
prime. -/
def fromByteSliceBe (bs : List UInt8) : Option FieldElement :=
  if bs.length ≤ 32 then fromBytesBe bs else none

def toBytesBe (x : FieldElement) : List UInt8 := beBytes 32 x.val

end FieldElement

namespace Felt

/-- `Felt::from_bytes_be`: the value modulo the prime. -/
def fromBytesBe (bs : List UInt8) : Felt :=
  ⟨beValue bs % starkPrime, Nat.mod_lt _ starkPrime_pos⟩

def toBytesBe (x : Felt) : List UInt8 := beBytes 32 x.val

/-- The conversion into `Felt252Wrapper`, a `FieldElement`. -/
def into (x : Felt) : FieldElement := ⟨x.val, x.lt⟩

end Felt

theorem starkPrime_lt : starkPrime < 256 ^ 32 := by decide

/-- The range check of `StarkFelt::new` passes on the 32 bytes of every field element: their first
byte is the digit of `256 ^ 31`, below `16` since the value is below the prime. -/
theorem StarkFelt.new_toBytesBe (x : FieldElement) :
    StarkFelt.new x.toBytesBe (length_beBytes 32 x.val) =
      .ok ⟨x.toBytesBe, length_beBytes 32 x.val⟩ := by
  have hx : x.val / 256 ^ 31 < 16 := Nat.div_lt_of_lt_mul (x.lt.trans (by decide))
  rw [StarkFelt.new, if_pos]
  rw [FieldElement.toBytesBe, headD_beBytes 31]
  show x.val / 256 ^ 31 % 256 % 256 < 16
  omega

/-- At most 31 bytes are always below the prime: `from_byte_slice_be` of them succeeds. -/
theorem FieldElement.fromByteSliceBe_isSome {bs : List UInt8} (h : bs.length ≤ 31) :
    (FieldElement.fromByteSliceBe bs).isSome := by
  have hlt : beValue bs < starkPrime :=
    calc beValue bs < 256 ^ bs.length := beValue_lt bs
      _ ≤ 256 ^ 31 := Nat.pow_le_pow_right (by decide) h
      _ < starkPrime := by decide
  simp [FieldElement.fromByteSliceBe, FieldElement.fromBytesBe, hlt, show bs.length ≤ 32 by omega]

/-- A felt below the prime, whose bytes are a field element's; 32 bytes can hold more. -/
def StarkFelt.Canonical (x : StarkFelt) : Prop := beValue x.bytes < starkPrime

instance (x : StarkFelt) : Decidable x.Canonical :=
  inferInstanceAs (Decidable (beValue x.bytes < starkPrime))

theorem StarkFelt.canonical_zero : StarkFelt.zero.Canonical := by decide

/-- `from_bytes_be` reads the 32 bytes of a felt below the prime as its value. -/
theorem FieldElement.fromBytesBe_canonical {x : StarkFelt} (h : x.Canonical) :
    FieldElement.fromBytesBe x.bytes = some ⟨beValue x.bytes, h⟩ :=
  dif_pos h

/-- `from_byte_slice_be` reads the 32 bytes of a felt below the prime as its value. -/
theorem FieldElement.fromByteSliceBe_canonical {x : StarkFelt} (h : beValue x.bytes < starkPrime) :
    FieldElement.fromByteSliceBe x.bytes = some ⟨beValue x.bytes, h⟩ := by
  simp [FieldElement.fromByteSliceBe, FieldElement.fromBytesBe, h, x.len]

@[simp] theorem FieldElement.fromBytesBe_zero :
    FieldElement.fromBytesBe StarkFelt.zero.bytes = some FieldElement.zero := by decide

@[simp] theorem FieldElement.fromByteSliceBe_zero :
    FieldElement.fromByteSliceBe StarkFelt.zero.bytes = some FieldElement.zero := by decide

/-- A `Felt` written as 32 bytes reads back as the same `FieldElement`. -/
theorem FieldElement.fromBytesBe_felt (x : Felt) :
    FieldElement.fromBytesBe x.toBytesBe = some x.into := by
  have h : beValue x.toBytesBe = x.val := by
    rw [Felt.toBytesBe, beValue_beBytes, Nat.mod_eq_of_lt (x.lt.trans starkPrime_lt)]
  simp [FieldElement.fromBytesBe, h, x.lt, Felt.into]

end Deoxys
