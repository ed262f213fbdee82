import Mathlib.Data.List.Basic

/-!
# Deoxys.Bytes

Byte strings and the order RocksDB keeps its keys in. RocksDB's default comparator compares two
keys byte by byte as unsigned values and puts a proper prefix first; `Bytes.lt` is that order.

The fact the prefix scans of `bonsai_db.rs` rest on is `prefix_run`: among the keys at or after
`p`, every key that starts with `p` comes before every key that does not, so a scan from `p` that
stops at the first key without the prefix has seen all of them.
-/

namespace Deoxys

/-- A RocksDB key or value: a byte string. -/
abbrev Bytes := List UInt8

namespace Bytes

/-- RocksDB's bytewise comparator as a strict order. -/
def lt : Bytes → Bytes → Bool
  | [], [] => false
  | [], _ :: _ => true
  | _ :: _, [] => false
  | a :: as, b :: bs => if a = b then lt as bs else decide (a < b)

theorem byte_lt_or_gt {a b : UInt8} (h : a ≠ b) (h2 : ¬ a < b) : b < a := by
  rw [UInt8.not_lt] at h2
  have : a.toNat ≠ b.toNat := fun e => h (UInt8.toNat.inj e)
  simp only [UInt8.le_def, UInt8.lt_def, BitVec.le_def, BitVec.lt_def] at *
  exact Nat.lt_of_le_of_ne h2 (fun e => this (by simp [UInt8.toNat, e]))

@[simp] theorem lt_nil (a : Bytes) : lt a [] = false := by cases a <;> rfl

@[simp] theorem nil_lt_cons (b : UInt8) (bs : Bytes) : lt [] (b :: bs) = true := rfl

theorem cons_lt_cons (a b : UInt8) (as bs : Bytes) :
    lt (a :: as) (b :: bs) = if a = b then lt as bs else decide (a < b) := rfl

@[simp] theorem lt_irrefl (a : Bytes) : lt a a = false := by
  induction a with
  | nil => rfl
  | cons x xs ih => simp [cons_lt_cons, ih]

theorem lt_trans {a b c : Bytes} (hab : lt a b) (hbc : lt b c) : lt a c := by
  induction a generalizing b c with
  | nil => cases c <;> simp_all
  | cons x xs ih =>
    match b, c with
    | [], _ => simp at hab
    | _, [] => simp at hbc
    | y :: ys, z :: zs =>
      simp only [cons_lt_cons] at *
      by_cases hxy : x = y <;> by_cases hyz : y = z <;> simp_all
      · exact ih hab hbc
      · have hxz := UInt8.lt_trans hab hbc
        simp [UInt8.ne_of_lt hxz, hxz]

/-- The comparator is total: two keys are equal or one sorts before the other. -/
theorem lt_trichotomy (a b : Bytes) : lt a b ∨ a = b ∨ lt b a := by
  induction a generalizing b with
  | nil => cases b <;> simp
  | cons x xs ih =>
    cases b with
    | nil => simp
    | cons y ys =>
      simp only [cons_lt_cons, List.cons.injEq]
      by_cases hxy : x = y
      · subst hxy; simpa using ih ys
      · by_cases hlt : x < y
        · simp [hxy, hlt]
        · simp [hxy, Ne.symm hxy, byte_lt_or_gt hxy hlt]

/-- A key never sorts before its own prefix. -/
theorem lt_of_prefixOf {p k : Bytes} (h : p <+: k) : lt k p = false := by
  induction p generalizing k with
  | nil => simp
  | cons x xs ih =>
    obtain ⟨t, rfl⟩ := h
    simpa [cons_lt_cons] using ih (List.prefix_append xs t)

/-- **The prefix run.** If `k` is not before `p`, `k` sorts before `k'`, and `k'` starts with
`p`, then `k` starts with `p`: the keys with prefix `p` are contiguous from `p` on. -/
theorem prefix_run {p k k' : Bytes} (hk : lt k p = false) (hkk : lt k k') (h : p <+: k') :
    p <+: k := by
  induction p generalizing k k' with
  | nil => exact List.nil_prefix
  | cons x xs ih =>
    obtain ⟨t, rfl⟩ := h
    match k with
    | [] => simp at hk
    | y :: ys =>
      simp only [List.cons_append, cons_lt_cons] at hk hkk
      by_cases hyx : y = x
      · subst hyx
        simp only [if_true] at hk hkk
        exact (List.prefix_cons_inj y).2 (ih hk hkk (List.prefix_append xs t))
      · simp only [hyx, if_false, decide_eq_false_iff_not, decide_eq_true_eq] at hk hkk
        exact absurd (UInt8.lt_trans hkk (byte_lt_or_gt hyx hk)) (UInt8.lt_irrefl y)

end Bytes

end Deoxys
