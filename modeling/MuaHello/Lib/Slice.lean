import Mathlib

/-!
# Memories, slices and first occurrences

A C buffer is seen through a pointer: the program reads `p[i]` and nothing in the language says
where the object ends.  So a memory here is a total function `ℕ → β` from offsets to cells, and
every statement about "the bytes at an offset" is a statement about a `slice` of it.

* `slice` — `n` consecutive cells from an offset, with the arithmetic of cutting it
  (`slice_append`, `take_slice`, `drop_slice`).
* `Holds` — the memory holds a given list at an offset; `blit` puts one there.
* `FirstOccurrence` — where a pattern is met first by a left-to-right search.
* `firstOccurrence_append` — a pattern that does not overlap itself (`Unbordered`), written after
  a prefix free of it, is met first exactly where it was written.
-/

/-- `n` consecutive cells of a memory, from offset `a`. -/
def slice {β : Type*} (m : ℕ → β) : ℕ → ℕ → List β
  | _, 0 => []
  | a, n + 1 => m a :: slice m (a + 1) n

/-- The memory holds the list `l` from offset `a` on. -/
def Holds {β : Type*} (m : ℕ → β) (a : ℕ) (l : List β) : Prop := slice m a l.length = l

/-- The least index at which `P` holds is `k`. -/
def FirstAt (P : ℕ → Prop) (k : ℕ) : Prop := P k ∧ ∀ j < k, ¬ P j

/-- A left-to-right search of `m` for `pat` meets it first at offset `k`. -/
def FirstOccurrence {β : Type*} (pat : List β) (m : ℕ → β) (k : ℕ) : Prop :=
  FirstAt (fun j => Holds m j pat) k

/-- No proper nonempty suffix of `pat` is also a prefix of it: two occurrences cannot overlap. -/
def Unbordered {β : Type*} (pat : List β) : Prop :=
  ∀ d < pat.length, 0 < d → pat.drop d ≠ pat.take (pat.length - d)

/-- The memory with the cells from `n` on taken from `after`. -/
def overlay {β : Type*} (n : ℕ) (m after : ℕ → β) (i : ℕ) : β := if i < n then m i else after i

/-- A list as a memory, continued by `after`. -/
def listMem {β : Type*} (l : List β) (after : ℕ → β) (i : ℕ) : β := l.getD i (after i)

/-- The memory after the list `l` has been stored from offset `a` on. -/
def blit {β : Type*} (m : ℕ → β) (a : ℕ) (l : List β) (i : ℕ) : β :=
  if a ≤ i then l.getD (i - a) (m i) else m i

section Slice

variable {β : Type*} {m m' : ℕ → β} {a k n : ℕ} {l l' pat : List β}

@[simp] lemma slice_zero : slice m a 0 = [] := rfl

lemma slice_succ : slice m a (n + 1) = m a :: slice m (a + 1) n := rfl

@[simp] lemma length_slice (a n : ℕ) : (slice m a n).length = n := by
  induction n generalizing a with
  | zero => rfl
  | succ n ih => simp [slice_succ, ih]

lemma slice_append (a k n : ℕ) : slice m a (k + n) = slice m a k ++ slice m (a + k) n := by
  induction k generalizing a with
  | zero => simp
  | succ k ih =>
      have hshift : a + (k + 1) = a + 1 + k := by omega
      simp only [Nat.add_right_comm k 1 n, slice_succ, ih, hshift, List.cons_append]

lemma slice_succ_last : slice m a (n + 1) = slice m a n ++ [m (a + n)] := by
  simp [slice_append a n 1, slice_succ]

lemma getElem_slice (a n i : ℕ) (h : i < (slice m a n).length) : (slice m a n)[i] = m (a + i) := by
  induction n generalizing a i with
  | zero => simp at h
  | succ n ih =>
      cases i with
      | zero => rfl
      | succ i =>
          have hshift : a + (i + 1) = a + 1 + i := by omega
          simp only [slice_succ, List.getElem_cons_succ, ih, hshift]

lemma slice_congr (h : ∀ i < n, m (a + i) = m' (a + i)) : slice m a n = slice m' a n := by
  apply List.ext_getElem (by simp)
  intro i h₁ _
  rw [getElem_slice, getElem_slice]
  exact h i (by simpa using h₁)

lemma slice_inj (h : slice m a n = slice m' a n) {i : ℕ} (hi : i < n) :
    m (a + i) = m' (a + i) := by
  have hcell := @getElem_slice _ m a n i (by simpa using hi)
  simp only [h, getElem_slice] at hcell
  exact hcell.symm

lemma slice_shift (a b n : ℕ) : slice (fun i => m (a + i)) b n = slice m (a + b) n :=
  List.ext_getElem (by simp) fun i _ _ => by rw [getElem_slice, getElem_slice, Nat.add_assoc]

lemma take_slice (h : k ≤ n) : (slice m a n).take k = slice m a k := by
  obtain ⟨r, rfl⟩ := Nat.exists_eq_add_of_le h
  rw [slice_append, List.take_append_of_le_length (by simp), List.take_of_length_le (by simp)]

lemma drop_slice (h : k ≤ n) : (slice m a n).drop k = slice m (a + k) (n - k) := by
  obtain ⟨r, rfl⟩ := Nat.exists_eq_add_of_le h
  rw [slice_append, List.drop_append_of_le_length (by simp), List.drop_of_length_le (by simp),
    List.nil_append, Nat.add_sub_cancel_left]

lemma infix_slice (h : k + n ≤ l.length) (hl : Holds m a l) : slice m (a + k) n <:+: l := by
  have hcut : (l.drop k).take n = slice m (a + k) n := by
    rw [← hl, drop_slice (by omega), take_slice (by omega)]
  rw [← hcut]
  exact (List.take_prefix n _).isInfix.trans (List.drop_suffix k l).isInfix

lemma Holds.infix_of (hl : Holds m a l) (hl' : Holds m (a + k) l')
    (h : k + l'.length ≤ l.length) : l' <:+: l := by
  have hcut := infix_slice h hl
  rwa [hl'] at hcut

lemma holds_slice (a n : ℕ) : Holds m a (slice m a n) := by rw [Holds, length_slice]

lemma holds_append : Holds m a (l ++ l') ↔ Holds m a l ∧ Holds m (a + l.length) l' := by
  rw [Holds, List.length_append, slice_append]
  constructor
  · intro h
    exact List.append_inj h (by simp)
  · rintro ⟨h, h'⟩
    rw [h, h']

lemma Holds.exists_holds_of (hl : Holds m a l) (h : l' <:+: l) :
    ∃ k, k + l'.length ≤ l.length ∧ Holds m (a + k) l' := by
  obtain ⟨r, t, rfl⟩ := h
  refine ⟨r.length, by simp, ?_⟩
  exact (holds_append.mp (holds_append.mp hl).1).2

lemma holds_cons {b : β} : Holds m a (b :: l) ↔ m a = b ∧ Holds m (a + 1) l := by
  simp [Holds, slice_succ]

@[simp] lemma holds_nil : Holds m a [] := rfl

lemma Holds.congr (hl : Holds m a l) (h : ∀ i < l.length, m (a + i) = m' (a + i)) :
    Holds m' a l := by rw [Holds, ← slice_congr h]; exact hl

lemma Holds.update_of_le {i : ℕ} {b : β} (hl : Holds m a l) (hi : a + l.length ≤ i) :
    Holds (Function.update m i b) a l := by
  apply hl.congr
  intro j hj
  rw [Function.update_of_ne (by omega)]

lemma Holds.getElem {i : ℕ} (hl : Holds m a l) (hi : i < l.length) : m (a + i) = l[i] := by
  have hcell := List.getElem_of_eq hl (i := i) (by simpa using hi)
  rwa [getElem_slice] at hcell

lemma Holds.unique (h : Holds m a l) (h' : Holds m a l') (hlen : l.length = l'.length) :
    l = l' := by rw [← h, ← h', hlen]

/-- What stands at one offset is a start of the other. -/
lemma Holds.prefix_of (h : Holds m a l) (h' : Holds m a l') (hlen : l.length ≤ l'.length) :
    l <+: l' := by
  have hcut := @take_slice _ m a l.length l'.length hlen
  rw [h, h'] at hcut
  rw [← hcut]
  exact List.take_prefix _ _

instance decidableHolds [DecidableEq β] : Decidable (Holds m a l) :=
  inferInstanceAs (Decidable (_ = _))

lemma holds_blit (m : ℕ → β) (a : ℕ) (l : List β) : Holds (blit m a l) a l := by
  apply List.ext_getElem (by simp)
  intro i h₁ h₂
  rw [getElem_slice, blit, if_pos (Nat.le_add_right a i), Nat.add_sub_cancel_left,
    List.getD_eq_getElem l _ h₂]

lemma blit_of_lt {i : ℕ} (h : i < a) : blit m a l i = m i := if_neg (Nat.not_le.mpr h)

lemma Holds.blit (h : Holds m 0 l) (ha : l.length ≤ a) (l' : List β) :
    Holds (blit m a l') 0 l := by
  apply h.congr
  intro i hi
  rw [blit_of_lt (by omega)]

lemma holds_listMem (l : List β) (after : ℕ → β) : Holds (listMem l after) 0 l := by
  apply List.ext_getElem (by simp)
  intro i h₁ h₂
  rw [getElem_slice, Nat.zero_add, listMem, List.getD_eq_getElem l _ h₂]

end Slice

/-- What stands behind a list in memory: another one, and zeros. -/
lemma slice_listMem (l₁ l₂ : List β) (z : β) (n : ℕ) :
    slice (listMem (l₁ ++ l₂) fun _ => z) l₁.length n
      = l₂.take n ++ List.replicate (n - l₂.length) z := by
  apply List.ext_getElem
  · simp only [length_slice, List.length_append, List.length_take, List.length_replicate]
    omega
  intro i h₁ h₂
  rw [getElem_slice, listMem, List.getD_append_right _ _ _ _ (by omega), Nat.add_sub_cancel_left]
  by_cases hi : i < l₂.length
  · have hin : i < (l₂.take n).length := by
      rw [length_slice] at h₁
      simp [h₁, hi]
    rw [List.getD_eq_getElem l₂ _ hi, List.getElem_append_left hin, List.getElem_take]
  · rw [List.getD_eq_default _ _ (by omega), List.getElem_append_right (by simp; omega),
      List.getElem_replicate]

section FirstOccurrence

variable {β : Type*} {m : ℕ → β} {k k' : ℕ} {pat J : List β}

lemma FirstAt.unique {P : ℕ → Prop} (h : FirstAt P k) (h' : FirstAt P k') : k = k' := by
  rcases Nat.lt_trichotomy k k' with hlt | heq | hgt
  · exact absurd h.1 (h'.2 k hlt)
  · exact heq
  · exact absurd h'.1 (h.2 k' hgt)

/-- Whatever holds somewhere holds somewhere first. -/
lemma exists_firstAt_le {P : ℕ → Prop} (h : P k) : ∃ j ≤ k, FirstAt P j := by
  classical
  exact ⟨Nat.find ⟨k, h⟩, Nat.find_min' _ h, Nat.find_spec ⟨k, h⟩, fun _ hj => Nat.find_min _ hj⟩

/-- **A pattern that cannot overlap itself is met first where it was written**, whatever prefix
free of it comes before, also one that ends in the pattern's own first symbols. -/
theorem firstOccurrence_append (hpat : Unbordered pat) (hfree : ¬ pat <:+: J)
    (hJ : Holds m 0 J) (hm : Holds m J.length pat) : FirstOccurrence pat m J.length := by
  refine ⟨hm, ?_⟩
  intro j hj hocc
  by_cases hin : j + pat.length ≤ J.length
  · have hpart := infix_slice hin hJ
    rw [Nat.zero_add, hocc] at hpart
    exact hfree hpart
  · -- the occurrence sticks out of the prefix: its tail is the head of the written one
    obtain ⟨d, hd⟩ := Nat.exists_eq_add_of_lt hj
    have htail : pat.drop (d + 1) = slice m J.length (pat.length - (d + 1)) := by
      rw [hd, Nat.add_assoc, ← drop_slice (by omega), hocc]
    have hhead : pat.take (pat.length - (d + 1)) = slice m J.length (pat.length - (d + 1)) := by
      rw [← take_slice (n := pat.length) (by omega), hm]
    exact hpat (d + 1) (by omega) (by omega) (htail.trans hhead.symm)

end FirstOccurrence
