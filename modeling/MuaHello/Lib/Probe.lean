import MuaHello.Lib.Slice

/-!
# Computations that read a memory

`Probe β α` is a computation that inspects a memory one cell at a time and returns an `α`.  It is
syntax, not a function of the memory, so what it may look at is part of the object: besides its
result (`Probe.run`) a computation has the list of addresses it dereferences (`Probe.reads`), and
nothing outside that list can influence it (`Probe.run_congr`).

The combinators are the ones C code is made of: `get` dereferences, `and` is the short-circuit
`&&`, and `scan` is a `for` loop that leaves by `break` when its test holds.
-/

/-- A computation over a memory with cells in `β`, reading one address at a time. -/
inductive Probe (β α : Type) where
  | ret : α → Probe β α
  | read : ℕ → (β → Probe β α) → Probe β α

namespace Probe

variable {β α γ : Type} {m m' : ℕ → β}

protected def bind : Probe β α → (α → Probe β γ) → Probe β γ
  | .ret a, f => f a
  | .read i k, f => .read i fun b => (k b).bind f

instance : Monad (Probe β) where
  pure := .ret
  bind := Probe.bind

/-- The result of a computation over the memory `m`. -/
def run (m : ℕ → β) : Probe β α → α
  | .ret a => a
  | .read i k => run m (k (m i))

/-- The addresses a computation dereferences over `m`, in order. -/
def reads (m : ℕ → β) : Probe β α → List ℕ
  | .ret _ => []
  | .read i k => i :: reads m (k (m i))

/-- `p[i]`. -/
def get (i : ℕ) : Probe β β := .read i .ret

/-- `x && y`: the second operand is evaluated only when the first is true. -/
def and (x y : Probe β Bool) : Probe β Bool := do
  if ← x then y else return false

/-- `for (; n > 0; i++, n--) if (test(i)) break;`, returning the final `i`. -/
def scan (test : ℕ → Probe β Bool) : ℕ → ℕ → Probe β ℕ
  | i, 0 => return i
  | i, n + 1 => do
      if ← test i then return i else scan test (i + 1) n

/-! ## Results and reads of the combinators -/

@[simp] lemma run_pure (a : α) : run m (pure a : Probe β α) = a := rfl

@[simp] lemma reads_pure (a : α) : reads m (pure a : Probe β α) = [] := rfl

@[simp] lemma run_get (i : ℕ) : run m (get i) = m i := rfl

@[simp] lemma reads_get (i : ℕ) : reads m (get i) = [i] := rfl

@[simp] lemma run_bind (p : Probe β α) (f : α → Probe β γ) :
    run m (p >>= f) = run m (f (run m p)) := by
  induction p with
  | ret a => rfl
  | read i k ih => exact ih (m i)

@[simp] lemma reads_bind (p : Probe β α) (f : α → Probe β γ) :
    reads m (p >>= f) = reads m p ++ reads m (f (run m p)) := by
  induction p with
  | ret a => rfl
  | read i k ih => exact congrArg (i :: ·) (ih (m i))

@[simp] lemma run_ite (c : Prop) [Decidable c] (p q : Probe β α) :
    run m (if c then p else q) = if c then run m p else run m q := apply_ite _ _ _ _

@[simp] lemma reads_ite (c : Prop) [Decidable c] (p q : Probe β α) :
    reads m (if c then p else q) = if c then reads m p else reads m q := apply_ite _ _ _ _

@[simp] lemma run_and (x y : Probe β Bool) : run m (x.and y) = (run m x && run m y) := by
  cases h : run m x <;> simp [Probe.and, h]

@[simp] lemma reads_and (x y : Probe β Bool) :
    reads m (x.and y) = reads m x ++ if run m x then reads m y else [] := by
  cases h : run m x <;> simp [Probe.and, h]

/-! ## What a computation can depend on -/

/-- **A computation depends on the cells it reads and on nothing else**: over a memory that
agrees on them it returns the same result after the same reads. -/
theorem run_congr {p : Probe β α} (h : ∀ a ∈ reads m p, m a = m' a) :
    run m' p = run m p ∧ reads m' p = reads m p := by
  induction p with
  | ret a => exact ⟨rfl, rfl⟩
  | read i k ih =>
      simp only [reads, List.mem_cons, forall_eq_or_imp] at h
      obtain ⟨hrun, hreads⟩ := ih (m i) h.2
      simp only [run, reads, ← h.1, hrun, hreads, and_self]

/-! ## Scanning -/

/-- The scan stops at the first index that passes the test. -/
lemma run_scan_hit {test : ℕ → Probe β Bool} {i n k : ℕ} (hik : i ≤ k) (hkn : k < i + n)
    (hk : run m (test k) = true) (hfirst : ∀ j, i ≤ j → j < k → run m (test j) = false) :
    run m (scan test i n) = k := by
  induction n generalizing i with
  | zero => omega
  | succ n ih =>
      rw [scan]
      rcases Nat.eq_or_lt_of_le hik with rfl | hlt
      · simp [hk]
      · have hrest := ih hlt (by omega) fun j hj hjk => hfirst j (by omega) hjk
        simp [hfirst i (le_refl i) hlt, hrest]

/-- The scan runs to its limit when no index passes. -/
lemma run_scan_miss {test : ℕ → Probe β Bool} {i n : ℕ}
    (hnone : ∀ j, i ≤ j → j < i + n → run m (test j) = false) :
    run m (scan test i n) = i + n := by
  induction n generalizing i with
  | zero => rfl
  | succ n ih =>
      have hrest : run m (scan test (i + 1) n) = i + 1 + n := by
        apply ih
        intro j hj hjn
        exact hnone j (by omega) (by omega)
      simp only [scan, run_bind, hnone i (le_refl i) (by omega), Bool.false_eq_true, if_false,
        hrest]
      omega

/-- Whatever the scan reads, one of its tests reads. -/
lemma mem_reads_scan {test : ℕ → Probe β Bool} {a i n : ℕ} (h : a ∈ reads m (scan test i n)) :
    ∃ j, i ≤ j ∧ j < i + n ∧ a ∈ reads m (test j) := by
  induction n generalizing i with
  | zero => simp [scan] at h
  | succ n ih =>
      simp only [scan, reads_bind, List.mem_append] at h
      rcases h with h | h
      · exact ⟨i, le_refl i, by omega, h⟩
      · rw [reads_ite] at h
        split_ifs at h
        · simp at h
        · obtain ⟨j, hij, hjn, hj⟩ := ih h
          exact ⟨j, by omega, by omega, hj⟩

end Probe
