import Deoxys.Felt

/-!
# Deoxys.Convert

The conversion of a block fetched from the feeder gateway into Deoxys' block
(`crates/client/sync/src/utils/convert.rs`), as far as field elements and events go.

`felt` writes a gateway field element as the 32 big-endian bytes of a `StarkFelt`, through
`StarkFelt::new`, whose range check it unwraps; the check never fails on a field element. `block`
converts each receipt's events with `event` and uses them twice: flattened (`events`), they give
the header's event count and the event commitment; grouped by the index of the receipt that
emitted them, receipts without events left out (`orderedEvents`), they are the events the block
stores.

* `felt_roundtrip` — the bytes of `felt x` are below the prime and read back as `x`.
* `block_ordered_events` — the stored groups are exactly the flattened events, in receipt order,
  each under the index of its receipt.
-/

namespace Deoxys

/-- `Result::unwrap` at a call shown to return `Ok`, so the panic branch is never taken. -/
def unwrap {ε α : Type} : (r : Except ε α) → r.isOk = true → α
  | .ok a, _ => a
  | .error _, h => nomatch h

theorem unwrap_of_eq_ok {ε α : Type} {r : Except ε α} {a : α} (hr : r = .ok a)
    (h : r.isOk = true) : unwrap r h = a := by
  subst hr; rfl

/-- `felt`: `StarkFelt::new(field_element.to_bytes_be()).unwrap()`. The unwrap never panics: the
range check passes on every field element (`StarkFelt.new_toBytesBe`). -/
def felt (fieldElement : FieldElement) : StarkFelt :=
  unwrap (StarkFelt.new fieldElement.toBytesBe (length_beBytes 32 fieldElement.val))
    (by rw [StarkFelt.new_toBytesBe]; rfl)

theorem felt_eq (x : FieldElement) : felt x = ⟨x.toBytesBe, length_beBytes 32 x.val⟩ :=
  unwrap_of_eq_ok (StarkFelt.new_toBytesBe x) _

/-- `contract_address`: the felt as a `ContractAddress`. -/
def contractAddress (fieldElement : FieldElement) : ContractAddress := felt fieldElement

theorem beValue_felt (x : FieldElement) : beValue (felt x).bytes = x.val := by
  rw [felt_eq]
  show beValue (beBytes 32 x.val) = x.val
  rw [beValue_beBytes, Nat.mod_eq_of_lt (x.lt.trans starkPrime_lt)]

theorem felt_canonical (x : FieldElement) : (felt x).Canonical := by
  rw [StarkFelt.Canonical, beValue_felt]; exact x.lt

theorem felt_fromBytesBe (x : FieldElement) : FieldElement.fromBytesBe (felt x).bytes = some x := by
  rw [FieldElement.fromBytesBe_canonical (felt_canonical x), Option.some_inj]
  cases x
  simp only [FieldElement.mk.injEq]
  exact beValue_felt _

/-- **`felt` round trip.** For every field element `x`, the bytes of `felt x` are below the prime
and `FieldElement::from_bytes_be` reads them back as `x`: `felt` loses nothing, and every felt
the conversion makes is one the commitment engine reads without a panic. -/
theorem felt_roundtrip (x : FieldElement) :
    (felt x).Canonical ∧ FieldElement.fromBytesBe (felt x).bytes = some x :=
  ⟨felt_canonical x, felt_fromBytesBe x⟩

/-- `starknet_providers::sequencer::models::Event`. -/
structure GatewayEvent where
  fromAddress : FieldElement
  keys : List FieldElement
  data : List FieldElement

/-- A gateway `ConfirmedTransactionReceipt`; `block` reads its events only. -/
structure ConfirmedTransactionReceipt where
  events : List GatewayEvent

/-- `starknet_api::transaction::Event`: the emitting contract, and the content's keys and data. -/
structure Event where
  fromAddress : ContractAddress
  keys : List StarkFelt
  data : List StarkFelt

/-- `mp_block::OrderedEvents`: the index of a receipt and the events it emitted. -/
structure OrderedEvents where
  index : Nat
  events : List Event

/-- `event`. -/
def event (e : GatewayEvent) : Event :=
  ⟨contractAddress e.fromAddress, e.keys.map felt, e.data.map felt⟩

/-- `events`: the events of all receipts, in order. -/
def events (receipts : List ConfirmedTransactionReceipt) : List Event :=
  (receipts.flatMap (·.events)).map event

/-- The `ordered_events` of `block`: for each receipt with events, in order, its index
(`i as u128`) and its converted events. -/
def orderedEvents (receipts : List ConfirmedTransactionReceipt) : List OrderedEvents :=
  (receipts.enum.filter fun e => !e.2.events.isEmpty).map fun e => ⟨e.1, e.2.events.map event⟩

theorem flatMap_filter_of_nil {α β : Type} (l : List α) (p : α → Bool) (g : α → List β)
    (h : ∀ x, p x = false → g x = []) : (l.filter p).flatMap g = l.flatMap g := by
  induction l with
  | nil => rfl
  | cons a l ih => by_cases hp : p a <;> simp [List.filter_cons, hp, ih, h]

/-- **The stored events are the counted events.** For every list of receipts, the groups `block`
stores, concatenated, are the events it counts in the header and commits to; their indices
strictly increase; and each group is the nonempty list of converted events of the receipt at its
index. -/
theorem block_ordered_events (receipts : List ConfirmedTransactionReceipt) :
    (orderedEvents receipts).flatMap OrderedEvents.events = events receipts ∧
      ((orderedEvents receipts).map OrderedEvents.index).Pairwise (· < ·) ∧
      ∀ oe ∈ orderedEvents receipts, ∃ r, receipts[oe.index]? = some r ∧ r.events ≠ [] ∧
        oe.events = r.events.map event := by
  refine ⟨?_, ?_, ?_⟩
  · have hsnd : (receipts.enum.flatMap fun e => e.2.events.map event) =
        receipts.flatMap fun r => r.events.map event := by
      have := List.flatMap_map Prod.snd (fun r => r.events.map event) receipts.enum
      rwa [List.enum_map_snd, eq_comm] at this
    rw [orderedEvents, List.flatMap_map,
      flatMap_filter_of_nil _ _ _ fun e he => by simpa using he, events, List.map_flatMap]
    exact hsnd
  · rw [orderedEvents, List.map_map]
    exact List.Pairwise.sublist ((List.filter_sublist _).map Prod.fst)
      (by rw [List.enum_map_fst]; exact List.pairwise_lt_range _)
  · intro oe hoe
    obtain ⟨e, he, rfl⟩ := List.mem_map.1 hoe
    obtain ⟨hmem, hne⟩ := List.mem_filter.1 he
    exact ⟨e.2, List.mem_enum_iff_getElem?.1 hmem, by simpa using hne, rfl⟩

end Deoxys
