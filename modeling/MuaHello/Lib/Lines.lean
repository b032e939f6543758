import Mathlib

/-!
# Lines in a stream

A stream of lines is the concatenation of texts, each with a separator behind it (`unlines`).  A
reader that gets it in pieces of any size has to find the separators again.  `unlines_cons_of_mem`
says what it finds: a prefix of the stream that contains a separator at all begins with the first
line, and goes on with a prefix of the rest.
-/

variable {α : Type*} {sep : α} {t : List α} {ts us : List (List α)} {p : List α}

/-- Every text with the separator behind it. -/
def unlines (sep : α) (ts : List (List α)) : List α := ts.flatMap (· ++ [sep])

@[simp] lemma unlines_nil : unlines sep [] = [] := rfl

@[simp] lemma unlines_cons : unlines sep (t :: ts) = t ++ sep :: unlines sep ts := by
  simp [unlines]

@[simp] lemma unlines_append : unlines sep (ts ++ us) = unlines sep ts ++ unlines sep us := by
  simp [unlines]

/-- **The first line of a prefix.** -/
lemma unlines_cons_of_mem (hp : p <+: unlines sep ts) (hsep : sep ∈ p)
    (hclean : ∀ t ∈ ts, sep ∉ t) :
    ∃ t us q, ts = t :: us ∧ p = t ++ sep :: q ∧ q <+: unlines sep us := by
  cases ts with
  | nil => simp [List.prefix_nil.mp hp] at hsep
  | cons t us =>
      have hline : t ++ [sep] <+: t ++ sep :: unlines sep us := by simp
      rw [unlines_cons] at hp
      rcases List.prefix_or_prefix_of_prefix hp hline with hshort | hlong
      · -- a shorter one would have its separator inside the text
        obtain ⟨r, hr⟩ := hshort
        cases hr' : r.getLast? with
        | none =>
            rw [List.getLast?_eq_none_iff.mp hr', List.append_nil] at hr
            exact ⟨t, us, [], rfl, hr, List.nil_prefix⟩
        | some a =>
            obtain ⟨r', rfl⟩ := List.getLast?_eq_some_iff.mp hr'
            rw [← List.append_assoc] at hr
            have hmem : sep ∈ t := by
              rw [← (List.append_inj' hr rfl).1]
              exact List.mem_append_left _ hsep
            exact absurd hmem (hclean t List.mem_cons_self)
      · obtain ⟨q, rfl⟩ := hlong
        refine ⟨t, us, q, rfl, by simp, ?_⟩
        simpa [List.prefix_append_right_inj] using hp

/-- No other element but those of the texts. -/
lemma not_mem_unlines {a : α} (ha : a ≠ sep) (hclean : ∀ t ∈ ts, a ∉ t) : a ∉ unlines sep ts := by
  induction ts with
  | nil => simp
  | cons t ts ih =>
      have hrest := ih fun u hu => hclean u (List.mem_cons_of_mem t hu)
      simp [ha, hclean t List.mem_cons_self, hrest]
