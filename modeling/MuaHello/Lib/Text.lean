import MuaHello.Lib.Probe

/-!
# C strings and printed numbers

Text in memory is a memory of characters, and a C string is a list of characters with the
terminator behind it.  `IsCString` says where one stands; `readString`, `strcmp` and `strchr` are
the ways the programs look at one.  Of `strchr` it is also kept how far it looks, since nothing but
the text stops it.

The second half is what the `printf` family writes for a number: `decimal` for `%u`, `signedDecimal`
for `%d` and `zeroPadded w` for `%0wd`.  Their lengths are compared with powers of ten
(`length_decimal_le_iff`, `length_signedDecimal_le_iff`), and the length of a natural number is also
counted, one for each power of ten it reaches (`length_decimal`), which is the form that can be
summed.
-/

/-- The terminator of a C string. -/
def nul : Char := Char.ofNat 0

/-- The C string `s` stands at the start of the memory. -/
structure IsCString (m : ℕ → Char) (s : List Char) : Prop where
  nonzero : nul ∉ s
  holds : Holds m 0 (s ++ [nul])

/-- The text in front of the first terminator among the first `n` characters. -/
def readString (m : ℕ → Char) (n : ℕ) : List Char := (slice m 0 n).takeWhile (· ≠ nul)

/-- `strcmp(s, p + k)`: the difference of the first characters that differ, up to a terminator. -/
def strcmp (m : ℕ → Char) : ℕ → List Char → ℤ
  | k, [] => nul.toNat - (m k).toNat
  | k, c :: s =>
      if c ≠ m k then c.toNat - (m k).toNat else if c = nul then 0 else strcmp m (k + 1) s

/-- `strchr(p + k, c)`, within the next `n` characters of the memory: the index of the first `c`,
unless a terminator comes before it. -/
def strchr (c : Char) : ℕ → ℕ → Probe Char (Option ℕ)
  | _, 0 => return none
  | k, n + 1 => do
      let d ← Probe.get k
      if d = c then return some k
      else if d = nul then return none
      else strchr c (k + 1) n

/-- `%u` -/
def decimal (n : ℕ) : List Char := Nat.toDigits 10 n

/-- `%d` -/
def signedDecimal (i : ℤ) : List Char :=
  if i < 0 then '-' :: decimal i.natAbs else decimal i.natAbs

/-- `%0wd`: zeros between the sign and the digits, up to `w` characters in all. -/
def zeroPadded (w : ℕ) (i : ℤ) : List Char :=
  if i < 0 then '-' :: (decimal i.natAbs).leftpad (w - 1) '0' else (decimal i.natAbs).leftpad w '0'

section CString

variable {m : ℕ → Char} {s t : List Char}

lemma IsCString.unique (h : IsCString m s) (h' : IsCString m t) : s = t := by
  -- the terminator of a shorter one would be a character of the longer
  have hle : ∀ {s t : List Char}, IsCString m s → IsCString m t → t.length ≤ s.length := by
    intro s t h h'
    by_contra hlt
    have hend := (holds_append.mp h.holds).2
    rw [holds_cons] at hend
    have hchar := (holds_append.mp h'.holds).1.getElem (i := s.length) (by omega)
    exact h'.nonzero (by rw [← hend.1, hchar]; exact List.getElem_mem _)
  exact (holds_append.mp h.holds).1.unique (holds_append.mp h'.holds).1
    (Nat.le_antisymm (hle h' h) (hle h h'))

lemma IsCString.readString_eq {n : ℕ} (h : IsCString m s) (hn : s.length < n) :
    readString m n = s := by
  obtain ⟨r, rfl⟩ := Nat.exists_eq_add_of_lt hn
  have hcut := slice_append (m := m) 0 (s ++ [nul]).length r
  rw [h.holds] at hcut
  have hcount : s.length + r + 1 = (s ++ [nul]).length + r := by
    simp only [List.length_append, List.length_singleton]
    omega
  rw [readString, hcount, hcut, List.append_assoc, List.takeWhile_append_of_pos]
  · simp
  · intro c hc
    have hne : c ≠ nul := by
      rintro rfl
      exact h.nonzero hc
    simpa using hne

lemma toNat_sub_ne_zero {c d : Char} (h : c ≠ d) : (c.toNat : ℤ) - d.toNat ≠ 0 := by
  intro hzero
  exact h (Char.toNat_inj.mp (by omega))

lemma strcmp_eq_zero_iff_holds {k : ℕ} (hs : nul ∉ s) :
    strcmp m k s = 0 ↔ Holds m k (s ++ [nul]) := by
  induction s generalizing k with
  | nil =>
      rw [strcmp, List.nil_append, holds_cons]
      constructor
      · intro h
        by_contra hne
        exact toNat_sub_ne_zero (fun heq => hne ⟨heq.symm, holds_nil⟩) h
      · rintro ⟨h, -⟩
        rw [h, sub_self]
  | cons c s ih =>
      rw [List.mem_cons, not_or] at hs
      rw [strcmp, List.cons_append, holds_cons]
      split_ifs with hc hend
      · simp only [toNat_sub_ne_zero hc, Ne.symm hc, false_and]
      · exact absurd hend.symm hs.1
      · rw [ih hs.2, eq_true (not_not.mp hc).symm, true_and]

/-- `strcmp` returns zero exactly on equal strings. -/
lemma IsCString.strcmp_eq_zero (h : IsCString m t) (hs : nul ∉ s) : strcmp m 0 s = 0 ↔ s = t := by
  rw [strcmp_eq_zero_iff_holds hs]
  constructor
  · intro hholds
    exact IsCString.unique ⟨hs, hholds⟩ h
  · rintro rfl
    exact h.holds

/-- The result of `strcmp` is the difference of two character codes. -/
lemma abs_strcmp_lt {k : ℕ} : |strcmp m k s| < 2 ^ 21 := by
  have hcode : ∀ c : Char, c.toNat < 2 ^ 21 := by
    intro c
    have hvalid : Nat.isValidChar c.toNat := c.valid
    simp only [Nat.isValidChar] at hvalid
    omega
  induction s generalizing k with
  | nil =>
      have h₁ := hcode nul
      have h₂ := hcode (m k)
      rw [strcmp, abs_lt]
      omega
  | cons c s ih =>
      rw [strcmp]
      split_ifs
      · have h₁ := hcode c
        have h₂ := hcode (m k)
        rw [abs_lt]
        omega
      · simp
      · exact ih

/-- `strchr` passes everything but the two characters it looks for. -/
lemma strchr_skip {c : Char} {k n : ℕ} (h : Holds m k t) (hc : c ∉ t) (hnul : nul ∉ t) :
    (strchr c k (t.length + n)).run m = (strchr c (k + t.length) n).run m ∧
      (strchr c k (t.length + n)).reads m
        = List.range' k t.length ++ (strchr c (k + t.length) n).reads m := by
  induction t generalizing k with
  | nil => simp
  | cons d t ih =>
      rw [holds_cons] at h
      rw [List.mem_cons, not_or] at hc hnul
      obtain ⟨hrun, hreads⟩ := ih h.2 hc.2 hnul.2
      have hcount : (d :: t).length + n = t.length + n + 1 := by rw [List.length_cons]; omega
      have hindex : k + (d :: t).length = k + 1 + t.length := by rw [List.length_cons]; omega
      rw [hcount, hindex, List.length_cons, List.range'_succ, strchr]
      simp [h.1, Ne.symm hc.1, Ne.symm hnul.1, hrun, hreads]

/-- **`strchr` finds the first `c`** and looks no further. -/
lemma strchr_found {c : Char} {k n : ℕ} (h : Holds m k (t ++ [c])) (hc : c ∉ t) (hnul : nul ∉ t)
    (hn : t.length < n) : (strchr c k n).run m = some (k + t.length) ∧
      (strchr c k n).reads m = List.range' k (t.length + 1) := by
  obtain ⟨r, rfl⟩ := Nat.exists_eq_add_of_lt hn
  rw [holds_append, holds_cons] at h
  obtain ⟨hrun, hreads⟩ := strchr_skip (n := r + 1) h.1 hc hnul
  rw [Nat.add_assoc, hrun, hreads, strchr, List.range'_concat]
  simp [h.2.1]

/-- **`strchr` stops at a terminator.** -/
lemma strchr_missing {c : Char} {k n : ℕ} (h : Holds m k (t ++ [nul])) (hc : c ∉ t)
    (hnul : nul ∉ t) (hne : nul ≠ c) (hn : t.length < n) : (strchr c k n).run m = none := by
  obtain ⟨r, rfl⟩ := Nat.exists_eq_add_of_lt hn
  rw [holds_append, holds_cons] at h
  rw [Nat.add_assoc, (strchr_skip (n := r + 1) h.1 hc hnul).1, strchr]
  simp [h.2.1, hne]

/-- A text without either is left behind. -/
lemma mem_reads_strchr {c : Char} {k n : ℕ} (h : Holds m k t) (hc : c ∉ t) (hnul : nul ∉ t)
    (hn : t.length < n) : k + t.length ∈ (strchr c k n).reads m := by
  obtain ⟨r, rfl⟩ := Nat.exists_eq_add_of_lt hn
  rw [Nat.add_assoc, (strchr_skip (n := r + 1) h hc hnul).2, strchr]
  simp

end CString

section Decimal

variable {n k w : ℕ} {i : ℤ}

lemma length_decimal_pos (n : ℕ) : 0 < (decimal n).length := Nat.length_toDigits_pos

lemma length_decimal_le_iff (hk : 0 < k) : (decimal n).length ≤ k ↔ n < 10 ^ k :=
  Nat.length_toDigits_le_iff (by omega) hk

/-- **The length of a number**: one character, and one more for every power of ten it reaches. -/
theorem length_decimal (h : n < 10 ^ (k + 1)) :
    (decimal n).length = 1 + ∑ j ∈ Finset.range k, if 10 ^ (j + 1) ≤ n then 1 else 0 := by
  have hpos := length_decimal_pos n
  have hle := (length_decimal_le_iff (Nat.succ_pos k)).mpr h
  have hreach : ∀ j, 10 ^ (j + 1) ≤ n ↔ j < (decimal n).length - 1 := by
    intro j
    have hiff := @length_decimal_le_iff n (j + 1) (Nat.succ_pos j)
    omega
  have hfilter : (Finset.range k).filter (fun j => 10 ^ (j + 1) ≤ n)
      = Finset.range ((decimal n).length - 1) := by
    ext j
    simp only [Finset.mem_filter, Finset.mem_range, hreach]
    omega
  rw [Finset.sum_boole, hfilter, Finset.card_range, Nat.cast_id]
  omega

lemma nul_not_mem_decimal : nul ∉ decimal n := by
  intro h
  exact absurd (Nat.isDigit_of_mem_toDigits (by omega) (by omega) h) (by decide)

/-- A printed number consists of digits and a sign. -/
lemma not_mem_signedDecimal {c : Char} (hdigit : c.isDigit = false) (hsign : c ≠ '-') :
    c ∉ signedDecimal i := by
  have hdecimal : c ∉ decimal i.natAbs := by
    intro h
    have hd := Nat.isDigit_of_mem_toDigits (by omega) (by omega) h
    simp [hdigit] at hd
  rw [signedDecimal]
  split_ifs <;> simp [hsign, hdecimal]

lemma length_signedDecimal_pos (i : ℤ) : 0 < (signedDecimal i).length := by
  rw [signedDecimal]
  split_ifs
  · simp
  · exact length_decimal_pos _

lemma length_signedDecimal_le_iff :
    (signedDecimal i).length ≤ k + 1 ↔ -10 ^ k < i ∧ i < 10 ^ (k + 1) := by
  have hpos : (0 : ℤ) < 10 ^ k := by positivity
  rw [signedDecimal]
  split_ifs with hneg
  · rcases Nat.eq_zero_or_pos k with rfl | hk
    · have hlen := length_decimal_pos i.natAbs
      simp only [List.length_cons, pow_zero]
      omega
    · rw [List.length_cons, Nat.add_le_add_iff_right, length_decimal_le_iff hk,
        ← @Nat.cast_lt ℤ, Int.natCast_natAbs, abs_of_neg hneg, Nat.cast_pow, Nat.cast_ofNat]
      omega
  · rw [length_decimal_le_iff (Nat.succ_pos k), ← @Nat.cast_lt ℤ, Int.natCast_natAbs,
      abs_of_nonneg (not_lt.mp hneg), Nat.cast_pow, Nat.cast_ofNat]
    omega

/-- An `int` takes eleven characters only when it has ten digits and a sign. -/
lemma length_signedDecimal_int32 (i : Int32) :
    (signedDecimal i.toInt).length ≤ 11 ∧
      ((signedDecimal i.toInt).length ≤ 10 ↔ -10 ^ 9 < i.toInt) := by
  have hlo := i.le_toInt
  have hhi := i.toInt_lt
  constructor
  · rw [@length_signedDecimal_le_iff 10]
    omega
  · rw [@length_signedDecimal_le_iff 9]
    omega

lemma length_zeroPadded : (zeroPadded w i).length = max w (signedDecimal i).length := by
  rw [zeroPadded, signedDecimal]
  split_ifs
  · simp only [List.length_cons, List.length_leftpad]
    omega
  · rw [List.length_leftpad]

end Decimal
