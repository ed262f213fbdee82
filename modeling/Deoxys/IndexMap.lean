import Mathlib.Data.List.Nodup
import Mathlib.Logic.Function.Basic

/-!
# Deoxys.IndexMap

`indexmap::IndexMap`, the map type of a `CommitmentStateDiff`: entries in insertion order, each
key once. The key uniqueness is a field, so no value of the type repeats a key.

Writing the entries of such a list into a map one after the other (`writeAll`) gives, at each
key, the key's entry if it has one and the old value otherwise (`writeAll_apply`): the result
does not depend on the order of the entries, only on which key-value pairs there are
(`lookupKey_perm`). The trie updates of the commitment engine are such writes.
-/

namespace Deoxys

section Keyed

variable {K V : Type} [DecidableEq K]

/-- The value a list of pairs gives key `k`: that of its first entry with key `k`. -/
def lookupKey (l : List (K × V)) (k : K) : Option V := (l.find? (fun e => e.1 = k)).map Prod.snd

@[simp] theorem lookupKey_nil (k : K) : lookupKey ([] : List (K × V)) k = none := rfl

theorem lookupKey_cons (e : K × V) (l : List (K × V)) (k : K) :
    lookupKey (e :: l) k = if e.1 = k then some e.2 else lookupKey l k := by
  by_cases h : e.1 = k <;> simp [lookupKey, h]

theorem lookupKey_eq_none {l : List (K × V)} {k : K} (h : k ∉ l.map Prod.fst) :
    lookupKey l k = none := by
  simp only [lookupKey, Option.map_eq_none', List.find?_eq_none, decide_eq_true_eq]
  exact fun e he hk => h (List.mem_map.2 ⟨e, he, hk⟩)

theorem lookupKey_eq_some_iff {l : List (K × V)} (h : (l.map Prod.fst).Nodup) {k : K} {v : V} :
    lookupKey l k = some v ↔ (k, v) ∈ l := by
  induction l with
  | nil => simp
  | cons e l ih =>
    obtain ⟨hne, hnd⟩ := List.nodup_cons.1 h
    rw [lookupKey_cons, List.mem_cons]
    by_cases hk : e.1 = k
    · subst hk
      have : (e.1, v) ∉ l := fun hm => hne (List.mem_map.2 ⟨_, hm, rfl⟩)
      simp only [if_true, Option.some.injEq, this, or_false]
      exact ⟨fun h => by rw [← h], fun h => (congrArg Prod.snd h).symm⟩
    · simp only [hk, if_false, ih hnd]
      exact ⟨.inr, fun h => h.resolve_left fun he => hk (he ▸ rfl)⟩

/-- Two key-unique lists with the same pairs give every key the same value. -/
theorem lookupKey_perm {l l' : List (K × V)} (hp : l.Perm l') (h : (l.map Prod.fst).Nodup) :
    lookupKey l = lookupKey l' := by
  have h' : (l'.map Prod.fst).Nodup := (hp.map Prod.fst).nodup_iff.1 h
  funext k
  apply Option.ext
  intro v
  rw [Option.mem_def, Option.mem_def, lookupKey_eq_some_iff h, lookupKey_eq_some_iff h']
  exact hp.mem_iff

theorem lookupKey_append (l l' : List (K × V)) (k : K) :
    lookupKey (l ++ l') k = (lookupKey l k).or (lookupKey l' k) := by
  induction l with
  | nil => rfl
  | cons e l ih => by_cases h : e.1 = k <;> simp [lookupKey_cons, h, ih]

/-- Replacing the value of key `k` in place, as `IndexMap::insert` does for a key it has. -/
theorem lookupKey_map_replace (l : List (K × V)) (k : K) (v : V) (k' : K) :
    lookupKey (l.map fun e => if e.1 = k then (k, v) else e) k' =
      if k = k' ∧ k ∈ l.map Prod.fst then some v else lookupKey l k' := by
  induction l with
  | nil => simp
  | cons e l ih =>
    by_cases he : e.1 = k
    · subst he
      by_cases hk : e.1 = k' <;> simp [lookupKey_cons, hk, ih]
    · by_cases hk : e.1 = k'
      · subst hk; simp [lookupKey_cons, he, Ne.symm he, ih]
      · rw [List.map_cons, lookupKey_cons, if_neg he, if_neg hk, ih]
        simp only [List.map_cons, List.mem_cons, lookupKey_cons, if_neg hk, Ne.symm he, false_or]

/-- Changing each value by a function of its key and value: the key's value changes so. -/
theorem lookupKey_map_val {W : Type} (g : K → V → W) (l : List (K × V)) (k : K) :
    lookupKey (l.map fun e => (e.1, g e.1 e.2)) k = (lookupKey l k).map (g k) := by
  induction l with
  | nil => rfl
  | cons e l ih => by_cases h : e.1 = k <;> simp [lookupKey_cons, h, ih]

/-- Write the pairs of `l` into `f`, in order. -/
def writeAll (f : K → Option V) (l : List (K × V)) : K → Option V :=
  l.foldl (fun f e => Function.update f e.1 (some e.2)) f

@[simp] theorem writeAll_nil (f : K → Option V) : writeAll f [] = f := rfl

theorem writeAll_append (f : K → Option V) (l l' : List (K × V)) :
    writeAll f (l ++ l') = writeAll (writeAll f l) l' := List.foldl_append _ _ _ _

/-- **Writing a key-unique list.** Each key gets its entry's value, the others keep theirs. -/
theorem writeAll_apply (f : K → Option V) {l : List (K × V)} (h : (l.map Prod.fst).Nodup)
    (k : K) : writeAll f l k = (lookupKey l k).or (f k) := by
  induction l generalizing f with
  | nil => rfl
  | cons e l ih =>
    obtain ⟨hne, hnd⟩ := List.nodup_cons.1 h
    show writeAll (Function.update f e.1 (some e.2)) l k = _
    rw [ih _ hnd, lookupKey_cons]
    by_cases hk : e.1 = k
    · subst hk; simp [lookupKey_eq_none hne]
    · simp [hk, Function.update_noteq (Ne.symm hk)]

/-- Writing a key-unique list twice is writing it once. -/
theorem writeAll_idem (f : K → Option V) {l : List (K × V)} (h : (l.map Prod.fst).Nodup) :
    writeAll (writeAll f l) l = writeAll f l := by
  funext k
  rw [writeAll_apply _ h, writeAll_apply _ h]
  cases lookupKey l k <;> rfl

end Keyed

/-- `indexmap::IndexMap`: entries in insertion order, each key once. -/
structure IndexMap (K V : Type) where
  entries : List (K × V)
  nodup : (entries.map Prod.fst).Nodup

namespace IndexMap

variable {K V : Type}

theorem nodup_entries (m : IndexMap K V) : m.entries.Nodup := m.nodup.of_map Prod.fst

variable [DecidableEq K]

def empty : IndexMap K V := ⟨[], List.nodup_nil⟩

def keys (m : IndexMap K V) : List K := m.entries.map Prod.fst

/-- `IndexMap::get`. -/
def get (m : IndexMap K V) (k : K) : Option V := lookupKey m.entries k

theorem get_eq_some_iff (m : IndexMap K V) {k : K} {v : V} :
    m.get k = some v ↔ (k, v) ∈ m.entries :=
  lookupKey_eq_some_iff m.nodup

theorem mem_keys (m : IndexMap K V) {k : K} : k ∈ m.keys ↔ (m.get k).isSome := by
  constructor
  · intro hk
    obtain ⟨e, he, rfl⟩ := List.mem_map.1 hk
    rw [(m.get_eq_some_iff).2 he]; rfl
  · intro hk
    obtain ⟨v, hv⟩ := Option.isSome_iff_exists.1 hk
    exact List.mem_map.2 ⟨_, (m.get_eq_some_iff).1 hv, rfl⟩

/-- `IndexMap::insert`: a key already there keeps its place and takes the new value; a new key
goes last. -/
def insert (m : IndexMap K V) (k : K) (v : V) : IndexMap K V :=
  if h : k ∈ m.keys then
    ⟨m.entries.map (fun e => if e.1 = k then (k, v) else e), by
      have hf : (Prod.fst ∘ fun e : K × V => if e.1 = k then (k, v) else e) = Prod.fst := by
        funext e; by_cases he : e.1 = k <;> simp [he]
      rw [List.map_map, hf]; exact m.nodup⟩
  else ⟨m.entries ++ [(k, v)], by
    rw [List.map_append]
    exact m.nodup.append (List.nodup_singleton k) (List.disjoint_singleton.2 h)⟩

theorem get_insert (m : IndexMap K V) (k : K) (v : V) (k' : K) :
    (m.insert k v).get k' = if k = k' then some v else m.get k' := by
  unfold insert get
  split
  · next h =>
    have h' : k ∈ m.entries.map Prod.fst := h
    rw [lookupKey_map_replace]
    by_cases hk : k = k'
    · rw [if_pos ⟨hk, h'⟩, if_pos hk]
    · rw [if_neg (fun h => hk h.1), if_neg hk]
  · next h =>
    rw [lookupKey_append]
    by_cases hk : k = k'
    · subst hk; simp [lookupKey_eq_none h, lookupKey_cons]
    · simp [lookupKey_cons, hk, Option.or_none]

/-- A loop of `IndexMap::insert` calls, one per pair, in order. -/
def insertAll (m : IndexMap K V) (l : List (K × V)) : IndexMap K V :=
  l.foldl (fun m e => m.insert e.1 e.2) m

@[simp] theorem get_empty (k : K) : (empty : IndexMap K V).get k = none := rfl

/-- **A loop of inserts.** Each key of `l` gets the value of its last entry there, every other key
keeps its value. -/
theorem get_insertAll (m : IndexMap K V) (l : List (K × V)) (k : K) :
    (m.insertAll l).get k = (lookupKey l.reverse k).or (m.get k) := by
  induction l generalizing m with
  | nil => rfl
  | cons e l ih =>
    show ((m.insert e.1 e.2).insertAll l).get k = _
    rw [ih, get_insert, List.reverse_cons, lookupKey_append, lookupKey_cons, Option.or_assoc]
    by_cases h : e.1 = k <;> simp [h]

@[simp] theorem get_empty_insertAll (l : List (K × V)) (k : K) :
    (empty.insertAll l).get k = lookupKey l.reverse k := by
  rw [get_insertAll, get_empty, Option.or_none]

/-- The same contents: every key has the same value. `IndexMap`'s `PartialEq` compares so. -/
def Equiv (m m' : IndexMap K V) : Prop := ∀ k, m.get k = m'.get k

/-- Maps with the same contents hold the same entries, in some order. -/
theorem Equiv.perm {m m' : IndexMap K V} (h : m.Equiv m') : m.entries.Perm m'.entries := by
  refine (List.perm_ext_iff_of_nodup m.nodup_entries m'.nodup_entries).2 fun e => ?_
  rw [← m.get_eq_some_iff, ← m'.get_eq_some_iff, h]

end IndexMap

end Deoxys
