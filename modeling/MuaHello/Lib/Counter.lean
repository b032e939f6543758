import Mathlib

/-!
# Counters that wrap

An unsigned counter of `w` bits holds a total modulo `2 ^ w`, and the program cannot tell whether it
has wrapped.  The counter here remembers it.  `Counts.add` keeps the relation to the true total
through every addition, so a fact about the counter is a fact about a natural number.
-/

/-- An unsigned counter of `w` bits, and whether an addition has ever carried out of it. -/
structure Counter (w : ℕ) where
  val : BitVec w
  wrapped : Bool

namespace Counter

variable {w t n : ℕ} {c : Counter w}

def zero : Counter w := ⟨0, false⟩

/-- `c += n` -/
def add (c : Counter w) (n : ℕ) : Counter w :=
  ⟨c.val + BitVec.ofNat w n, c.wrapped || decide (2 ^ w ≤ c.val.toNat + n)⟩

/-- The counter has been moved on by `t` in all. -/
structure Counts (c : Counter w) (t : ℕ) : Prop where
  val : c.val.toNat = t % 2 ^ w
  wrapped : c.wrapped = true ↔ 2 ^ w ≤ t

lemma counts_zero : Counts (zero : Counter w) 0 where
  val := by simp [zero]
  wrapped := by simp [zero]

lemma Counts.val_of_lt (h : Counts c t) (ht : t < 2 ^ w) : c.val.toNat = t := by
  rw [h.val, Nat.mod_eq_of_lt ht]

lemma Counts.add (h : Counts c t) (n : ℕ) : Counts (c.add n) (t + n) where
  val := by rw [Counter.add, BitVec.toNat_add, BitVec.toNat_ofNat, h.val, ← Nat.add_mod]
  wrapped := by
    simp only [Counter.add, Bool.or_eq_true, decide_eq_true_eq, h.wrapped]
    rcases Nat.lt_or_ge t (2 ^ w) with hlt | hge
    · rw [h.val_of_lt hlt]
      omega
    · constructor
      · intro _
        omega
      · intro _
        exact .inl hge

end Counter
