import MuaHello.Lib.Text

/-!
# Lines and tokens

The two functions of libc a line of a file is taken apart with: `fgets`, which stops at a newline
or when its buffer is full, and `strtok`, which passes over the delimiters before a token and ends
it with the next one.
-/

/-- `fgets` into a buffer with room for `n` characters and a terminator: what it stores, and what
remains of the file. -/
def fgets : ℕ → List Char → List Char × List Char
  | 0, file => ([], file)
  | _, [] => ([], [])
  | n + 1, c :: file =>
      if c = '\n' then ([c], file) else let r := fgets n file; (c :: r.1, r.2)

/-- `strtok`: the token, and where the next call goes on. -/
def strtok (delims s : List Char) : Option (List Char × List Char) :=
  let t := s.dropWhile (· ∈ delims)
  if t = [] then none
  else some (t.takeWhile (· ∉ delims), (t.dropWhile (· ∉ delims)).drop 1)

variable {n : ℕ} {c : Char} {t file delims s : List Char}

lemma length_fgets_le : (fgets n file).2.length ≤ file.length := by
  induction file generalizing n with
  | nil => cases n <;> simp [fgets]
  | cons c file ih =>
      cases n with
      | zero => simp [fgets]
      | succ n =>
          have hrest := @ih n
          simp only [fgets]
          split_ifs <;> simp only [List.length_cons] <;> omega

/-- Something is read while there is something to read. -/
lemma length_fgets_lt (h : file ≠ []) : (fgets (n + 1) file).2.length < file.length := by
  cases file with
  | nil => exact absurd rfl h
  | cons c file =>
      have hrest := @length_fgets_le n file
      simp only [fgets]
      split_ifs <;> simp only [List.length_cons] <;> omega

/-- A line that fits is read with its newline. -/
lemma fgets_line (h : '\n' ∉ t) (hlen : t.length < n) :
    fgets n (t ++ '\n' :: file) = (t ++ ['\n'], file) := by
  induction t generalizing n with
  | nil =>
      cases n with
      | zero => simp at hlen
      | succ n => simp [fgets]
  | cons c t ih =>
      cases n with
      | zero => simp at hlen
      | succ n =>
          simp only [List.mem_cons, not_or, List.length_cons, Nat.add_lt_add_iff_right] at h hlen
          simp [fgets, ih h.2 hlen, Ne.symm h.1]

/-- Of a line that does not fit, as much as fits is read. -/
lemma fgets_long (h : '\n' ∉ t) (hlen : n ≤ t.length) :
    fgets n (t ++ file) = (t.take n, t.drop n ++ file) := by
  induction t generalizing n with
  | nil =>
      rw [List.length_nil, Nat.le_zero] at hlen
      simp [hlen, fgets]
  | cons c t ih =>
      cases n with
      | zero => simp [fgets]
      | succ n =>
          simp only [List.mem_cons, not_or, List.length_cons, Nat.add_le_add_iff_right] at h hlen
          simp [fgets, ih h.2 hlen, Ne.symm h.1]

/-- As much of a line as fits, and perhaps its newline. -/
lemma fgets_take (h : '\n' ∉ t) :
    ∃ s, (s = [] ∨ s = ['\n']) ∧ (fgets n (t ++ '\n' :: file)).1 = t.take n ++ s := by
  rcases Nat.lt_or_ge t.length n with hlen | hlen
  · exact ⟨['\n'], .inr rfl, by rw [fgets_line h hlen, List.take_of_length_le hlen.le]⟩
  · exact ⟨[], .inl rfl, by rw [fgets_long h hlen, List.append_nil]⟩

/-- A token goes on to the next delimiter, or to the end of the string. -/
lemma strtok_append (hne : t ≠ []) (ht : ∀ a ∈ t, a ∉ delims) (hs : ∀ c ∈ s.head?, c ∈ delims) :
    strtok delims (t ++ s) = some (t, s.drop 1) := by
  have hskip : (t ++ s).dropWhile (· ∈ delims) = t ++ s := by
    cases t with
    | nil => exact absurd rfl hne
    | cons a t => simp [ht a List.mem_cons_self]
  have hstop : s.takeWhile (· ∉ delims) = [] ∧ s.dropWhile (· ∉ delims) = s := by
    cases s with
    | nil => simp
    | cons c s => simp [hs c rfl]
  have htoken : ∀ a ∈ t, decide (a ∉ delims) = true := by simpa using ht
  rw [strtok, hskip, List.takeWhile_append_of_pos htoken, List.dropWhile_append_of_pos htoken,
    hstop.1, hstop.2]
  simp [hne]
