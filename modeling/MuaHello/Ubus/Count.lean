import MuaHello.Lib.Counter
import MuaHello.Lib.Text

/-!
# `count_to_number`

`count.c` prints the numbers below `num` into a string, 30 to a line.  A first loop adds up the
lengths with `snprintf(NULL, 0, …)`, `calloc` gets one more byte than that, and a second loop
prints.  Both totals are `uint32_t`.

* `sizingPass`, `fillingPass`, `countToNumber` — the two loops and the function, with the offset of
  every byte that is stored.
* `countText` — what the string should be.
* `Filled` — what the second loop has done when a text has been written, also after its index has
  wrapped.
* `covered_iff` — the first loop covers the second exactly up to the number whose text is the last
  to fit 32 bits, and from there on the second loop stores behind the block (`overrun_iff`).

The loop counter itself runs over the numbers below `num` and cannot wrap, so it is a natural number
here.
-/

namespace Count

/-- `"%u "` -/
def numberText (i : ℕ) : List Char := decimal i ++ [' ']

def newLineEveryNNumbers : ℕ := 30

/-- `i > 0 && i % new_line_every_n_numbers == 0` -/
def newLineAfter (i : ℕ) : Bool := 0 < i && i % newLineEveryNNumbers == 0

/-! ## The first loop -/

def sizeTurn (size : Counter 32) (i : ℕ) : Counter 32 :=
  let size := size.add (numberText i).length
  if newLineAfter i then size.add 1 else size

/-- The first loop and the byte for the terminator. -/
def sizingPass (num : ℕ) : Counter 32 := ((List.range num).foldl sizeTurn .zero).add 1

/-! ## The second loop -/

/-- The block, the index into it and the offsets stored to so far. -/
structure Filling where
  mem : ℕ → Char
  ptr : Counter 32
  stores : List ℕ

/-- `sprintf(&s[ptr], …)`, which also stores the terminator. -/
def Filling.sprintf (s : Filling) (text : List Char) : Filling :=
  { s with
    mem := blit s.mem s.ptr.val.toNat (text ++ [nul])
    stores := s.stores ++ List.range' s.ptr.val.toNat (text ++ [nul]).length }

/-- `ptr += n` -/
def Filling.advance (s : Filling) (n : ℕ) : Filling := { s with ptr := s.ptr.add n }

def fillTurn (s : Filling) (i : ℕ) : Filling :=
  let s := (s.sprintf (numberText i)).advance (numberText i).length
  if newLineAfter i then (s.sprintf ['\n']).advance 1 else s

def fillingPass (num : ℕ) (s : Filling) : Filling := (List.range num).foldl fillTurn s

/-! ## The function -/

/-- What a call leaves behind: the string, the totals of both loops and the offsets stored to. -/
structure CountResult where
  s : Option (ℕ → Char)
  size : Counter 32
  ptr : Counter 32
  stores : List ℕ

/-- `calloc(size, sizeof(char))`, by the memory behind the block when there is one. -/
def calloc (size : ℕ) (heap : Option (ℕ → Char)) : Option (ℕ → Char) :=
  heap.map fun behind => overlay size (fun _ => nul) behind

/-- `count_to_number` -/
def countToNumber (num : UInt32) (heap : Option (ℕ → Char)) : CountResult :=
  let size := sizingPass num.toNat
  match calloc size.val.toNat heap with
  | none => ⟨none, size, .zero, []⟩
  | some s =>
      let r := fillingPass num.toNat ⟨s, .zero, []⟩
      ⟨some r.mem, size, r.ptr, r.stores⟩

/-! ## The text -/

/-- The digits of `i`, one space, and a newline after a positive multiple of 30. -/
def entry (i : ℕ) : List Char := numberText i ++ if 0 < i ∧ 30 ∣ i then ['\n'] else []

/-- The text for the numbers below `n`. -/
def countText (n : ℕ) : List Char := (List.range n).flatMap entry

variable {n n' k : ℕ} {mem₀ : ℕ → Char} {text : List Char} {s : Filling}

lemma countText_succ (n : ℕ) : countText (n + 1) = countText n ++ entry n := by
  simp [countText, List.range_succ]

lemma newLineAfter_iff (i : ℕ) : newLineAfter i = true ↔ 0 < i ∧ 30 ∣ i := by
  simp [newLineAfter, newLineEveryNNumbers, Nat.dvd_iff_mod_eq_zero]

lemma countText_mono (h : n ≤ n') : countText n <+: countText n' := by
  induction n', h using Nat.le_induction with
  | base => exact List.prefix_refl _
  | succ n' _ ih =>
      rw [countText_succ]
      exact ih.trans (List.prefix_append _ _)

lemma length_countText_lt (h : n < n') : (countText n).length < (countText n').length := by
  have hfirst : (countText n).length < (countText (n + 1)).length := by
    simp only [countText_succ, entry, numberText, List.length_append, List.length_singleton]
    omega
  exact Nat.lt_of_lt_of_le hfirst (countText_mono h).length_le

lemma nul_not_mem_countText : nul ∉ countText n := by
  intro h
  obtain ⟨i, -, hi⟩ := List.mem_flatMap.mp h
  simp only [entry, numberText, List.mem_append, nul_not_mem_decimal, false_or] at hi
  rcases hi with hi | hi
  · exact absurd hi (by decide)
  · split_ifs at hi
    · exact absurd hi (by decide)
    · simp at hi

/-- **The length of the text**: digits, spaces and newlines. -/
lemma length_countText (h : n ≤ 10 ^ (k + 1)) :
    (countText n).length = 2 * n + ∑ j ∈ Finset.range k, (n - 10 ^ (j + 1)) + (n - 1) / 30 := by
  induction n with
  | zero => simp [countText]
  | succ n ih =>
      have hdigits := length_decimal (n := n) (k := k) h
      have hsum : ∑ j ∈ Finset.range k, (n + 1 - 10 ^ (j + 1))
          = ∑ j ∈ Finset.range k, (n - 10 ^ (j + 1))
            + ∑ j ∈ Finset.range k, if 10 ^ (j + 1) ≤ n then 1 else 0 := by
        rw [← Finset.sum_add_distrib]
        apply Finset.sum_congr rfl
        intro j _
        split_ifs <;> omega
      have hline : (n + 1 - 1) / 30 = (n - 1) / 30 + if 0 < n ∧ 30 ∣ n then 1 else 0 := by
        split_ifs <;> omega
      have hentry : (entry n).length
          = (decimal n).length + 1 + if 0 < n ∧ 30 ∣ n then 1 else 0 := by
        rw [entry, numberText]
        split_ifs <;> simp
      rw [countText_succ, List.length_append, ih (by omega), hentry, hdigits, hsum, hline]
      omega

/-! ## What the loops do -/

open Counter

lemma sizeTurn_counts {t : ℕ} {size : Counter 32} (h : Counts size t) (i : ℕ) :
    Counts (sizeTurn size i) (t + (entry i).length) := by
  have hnumber := h.add (numberText i).length
  simp only [sizeTurn, entry, newLineAfter_iff, List.length_append, ← Nat.add_assoc]
  split_ifs
  · exact hnumber.add 1
  · exact hnumber

lemma sizingPass_counts (n : ℕ) : Counts (sizingPass n) ((countText n).length + 1) := by
  apply Counts.add
  induction n with
  | zero => exact counts_zero
  | succ n ih =>
      rw [List.range_succ, List.foldl_append, countText_succ, List.length_append]
      exact sizeTurn_counts ih n

/-- A text has been written from the start of `mem₀` on. -/
structure Filled (mem₀ : ℕ → Char) (text : List Char) (s : Filling) : Prop where
  ptr : Counts s.ptr text.length
  inside : text.length < 2 ^ 32 → ∀ a ∈ s.stores, a ≤ text.length
  covers : ∀ a < text.length, a < 2 ^ 32 → a ∈ s.stores
  holds : mem₀ 0 = nul → text.length < 2 ^ 32 → Holds s.mem 0 (text ++ [nul])

/-- One `sprintf` and the step of the index behind it.  The text starts where the last terminator
was. -/
lemma Filled.write (h : Filled mem₀ text s) (t : List Char) :
    Filled mem₀ (text ++ t) ((s.sprintf t).advance t.length) where
  ptr := by
    rw [List.length_append]
    exact h.ptr.add t.length
  inside := by
    intro hlen a ha
    rw [List.length_append] at hlen ⊢
    have hptr := h.ptr.val_of_lt (by omega)
    simp only [Filling.advance, Filling.sprintf, List.mem_append, List.mem_range'_1, hptr,
      List.length_append, List.length_singleton] at ha
    rcases ha with ha | ha
    · have hle := h.inside (by omega) a ha
      omega
    · omega
  covers := by
    intro a ha hword
    simp only [Filling.advance, Filling.sprintf, List.mem_append, List.mem_range'_1,
      List.length_append, List.length_singleton] at ha ⊢
    rcases Nat.lt_or_ge a text.length with hlt | hge
    · exact .inl (h.covers a hlt hword)
    · -- the index has not wrapped before it came here
      have hptr := h.ptr.val_of_lt (by omega)
      right
      omega
  holds := by
    intro hfirst hlen
    rw [List.length_append] at hlen
    have hptr := h.ptr.val_of_lt (by omega)
    have hbefore := (holds_append.mp (h.holds hfirst (by omega))).1
    rw [List.append_assoc, holds_append, Nat.zero_add]
    simp only [Filling.advance, Filling.sprintf, hptr]
    exact ⟨hbefore.blit (Nat.le_refl _) _, holds_blit _ _ _⟩

lemma fillTurn_filled (h : Filled mem₀ text s) (i : ℕ) :
    Filled mem₀ (text ++ entry i) (fillTurn s i) := by
  have hnumber := h.write (numberText i)
  simp only [fillTurn, entry, newLineAfter_iff, ← List.append_assoc]
  split_ifs
  · exact hnumber.write ['\n']
  · rw [List.append_nil]
    exact hnumber

lemma fillingPass_filled (mem₀ : ℕ → Char) (n : ℕ) :
    Filled mem₀ (countText n) (fillingPass n ⟨mem₀, .zero, []⟩) := by
  induction n with
  | zero =>
      refine ⟨counts_zero, by simp [fillingPass], by simp [countText], ?_⟩
      intro hfirst _
      simpa [countText, fillingPass, holds_cons] using hfirst
  | succ n ih =>
      rw [fillingPass, List.range_succ, List.foldl_append, countText_succ]
      exact fillTurn_filled ih n

lemma countToNumber_filled (num : UInt32) (behind : ℕ → Char) :
    ∃ s, Filled (overlay (sizingPass num.toNat).val.toNat (fun _ => nul) behind)
        (countText num.toNat) s ∧
      countToNumber num (some behind) = ⟨some s.mem, sizingPass num.toNat, s.ptr, s.stores⟩ :=
  ⟨_, fillingPass_filled _ _, rfl⟩

/-! ## Sizes and stores -/

/-- The last number whose text and terminator have a length of 32 bits. -/
lemma fits_iff : (countText n).length + 1 < 2 ^ 32 ↔ n ≤ 439144027 := by
  have hlast : (countText 439144027).length = 4294967294 := by
    rw [@length_countText _ 9 (by norm_num)]
    norm_num [Finset.sum_range_succ]
  have hnext : (countText 439144028).length = 4294967304 := by
    rw [@length_countText _ 9 (by norm_num)]
    norm_num [Finset.sum_range_succ]
  constructor
  · intro h
    by_contra hlt
    have hle := (@countText_mono 439144028 n (by omega)).length_le
    omega
  · intro h
    have hle := (countText_mono h).length_le
    omega

/-- All stores of the second loop are within the size of the first, and no total has wrapped. -/
structure Covered (r : CountResult) : Prop where
  inside : ∀ a ∈ r.stores, a < r.size.val.toNat
  size : r.size.wrapped = false
  ptr : r.ptr.wrapped = false

/-- **Exactly when the first loop covers the second.**  For every `num`, whenever `calloc`
succeeds. -/
theorem covered_iff (num : UInt32) (behind : ℕ → Char) :
    Covered (countToNumber num (some behind)) ↔ num.toNat ≤ 439144027 := by
  obtain ⟨s, hfilled, hresult⟩ := countToNumber_filled num behind
  have hsize := sizingPass_counts num.toNat
  rw [hresult, ← fits_iff]
  constructor
  · rintro ⟨-, hwrap, -⟩
    by_contra hlong
    rw [hsize.wrapped.mpr (Nat.not_lt.mp hlong)] at hwrap
    exact absurd hwrap (by simp)
  · intro h
    refine ⟨?_, ?_, ?_⟩
    · intro a ha
      have hle := hfilled.inside (by omega) a ha
      simp only [hsize.val_of_lt h]
      omega
    · rw [Bool.eq_false_iff]
      intro hwrap
      exact absurd (hsize.wrapped.mp hwrap) (by omega)
    · rw [Bool.eq_false_iff]
      intro hwrap
      exact absurd (hfilled.ptr.wrapped.mp hwrap) (by omega)

/-- The first number that is too large. -/
theorem covered_fails : ¬ ∀ (num : UInt32) (behind : ℕ → Char),
    Covered (countToNumber num (some behind)) := by
  intro h
  have hwrap := (h 439144028 fun _ => nul).size
  have hlong : ¬ (countText 439144028).length + 1 < 2 ^ 32 := by
    rw [fits_iff]
    omega
  have hcount := (sizingPass_counts 439144028).wrapped.mpr (Nat.not_lt.mp hlong)
  exact absurd (hwrap.symm.trans hcount) (by simp)

/-- **The overrun.**  A total that wraps makes the second loop store behind the block. -/
theorem overrun_iff (num : UInt32) (behind : ℕ → Char) :
    (∃ a ∈ (countToNumber num (some behind)).stores,
      (countToNumber num (some behind)).size.val.toNat ≤ a) ↔ 439144027 < num.toNat := by
  obtain ⟨s, hfilled, hresult⟩ := countToNumber_filled num behind
  have hsize := sizingPass_counts num.toNat
  rw [hresult, ← Nat.not_le, ← fits_iff]
  constructor
  · rintro ⟨a, ha, hbehind⟩ h
    have hle := hfilled.inside (by omega) a ha
    rw [hsize.val_of_lt h] at hbehind
    omega
  · intro hlong
    -- the index passes every offset of 32 bits, also the one at which the block ends
    have hword := (sizingPass num.toNat).val.isLt
    have hval := hsize.val
    exact ⟨_, hfilled.covers _ (by omega) hword, Nat.le_refl _⟩

end Count
