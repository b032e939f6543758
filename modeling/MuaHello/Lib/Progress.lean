import MuaHello.Lib.Loop

/-!
# Loops that end

The rules of `Lib/Loop.lean` speak of runs that return.  These say when a run does.

* `transfer_returns` — a transfer returns if its answers do not end the program and as many of them
  as there are units to go move it on.
* `repeatLoop_returns` — a loop returns if each round returns and goes on with a smaller rank.
-/

universe u

section Transfer

variable {σ ε : Type u} {turn : ε → σ → ℕ → Turn σ} {s : σ} {n : ℕ} {es : List ε}

/-- A round that meets `n` units to go keeps the invariant, moving on if it `pays`, or leaves the
loop as `Post` says. -/
def Turn.Advances (Inv : σ → ℕ → Prop) (Post : σ → Prop) (n : ℕ) (pays : Bool) : Turn σ → Prop
  | .moved s k => Inv s (n - k) ∧ (pays = true → 0 < k)
  | .stopped s => Post s
  | .exited => False

/-- **The progress rule for transfers.**  What is left of the answers has lost at most one that pays
for each unit. -/
theorem transfer_returns (Inv : σ → ℕ → Prop) (Post : σ → Prop) (Ok : ε → Prop) (pays : ε → Bool)
    (hturn : ∀ e s n, Ok e → 0 < n → Inv s n → (turn e s n).Advances Inv Post n (pays e))
    (hdone : ∀ s, Inv s 0 → Post s) (h : Inv s n) (hok : ∀ e ∈ es, Ok e)
    (hcount : n ≤ es.countP pays) :
    ∃ s' es', transfer turn es s n = .returned (s', es') ∧ Post s' ∧ es' <:+ es ∧
      es.countP pays ≤ es'.countP pays + n := by
  induction es generalizing s n with
  | nil =>
      have hzero : n = 0 := Nat.le_zero.mp hcount
      subst hzero
      exact ⟨s, [], rfl, hdone s h, List.suffix_refl _, le_rfl⟩
  | cons e es ih =>
      cases n with
      | zero => exact ⟨s, e :: es, rfl, hdone s h, List.suffix_refl _, le_rfl⟩
      | succ n =>
          have hadv := hturn e s (n + 1) (hok e List.mem_cons_self) (Nat.succ_pos n) h
          have hrest : ∀ e' ∈ es, Ok e' := fun e' he => hok e' (List.mem_cons_of_mem _ he)
          rw [List.countP_cons] at hcount ⊢
          rw [transfer]
          cases ht : turn e s (n + 1) with
          | moved t k =>
              rw [ht] at hadv
              obtain ⟨hinv, hpays⟩ := hadv
              by_cases he : pays e = true
              · have hk := hpays he
                rw [if_pos he] at hcount ⊢
                obtain ⟨s', es', hrun, hpost, hsuffix, hleft⟩ := ih hinv hrest (by omega)
                exact ⟨s', es', hrun, hpost, hsuffix.trans (List.suffix_cons e es), by omega⟩
              · rw [if_neg he] at hcount ⊢
                obtain ⟨s', es', hrun, hpost, hsuffix, hleft⟩ := ih hinv hrest (by omega)
                exact ⟨s', es', hrun, hpost, hsuffix.trans (List.suffix_cons e es), by omega⟩
          | stopped t =>
              rw [ht] at hadv
              refine ⟨t, es, rfl, hadv, List.suffix_cons e es, ?_⟩
              split_ifs <;> omega
          | exited =>
              rw [ht] at hadv
              exact hadv.elim

end Transfer

section Repeat

variable {σ : Type u} {body : σ → Outcome (σ × Bool)} {s : σ} {fuel : ℕ}

/-- **The progress rule for loops.** -/
theorem repeatLoop_returns (Inv Post : σ → Prop) (rank : σ → ℕ)
    (hbody : ∀ s, Inv s → ∃ t more, body s = .returned (t, more) ∧
      if more then Inv t ∧ rank t < rank s else Post t)
    (h : Inv s) (hfuel : rank s < fuel) :
    ∃ s', repeatLoop body fuel s = .returned s' ∧ Post s' := by
  induction fuel generalizing s with
  | zero => exact absurd hfuel (Nat.not_lt_zero _)
  | succ fuel ih =>
      obtain ⟨t, more, hround, hnext⟩ := hbody s h
      rw [repeatLoop, hround, Outcome.returned_bind]
      cases more with
      | true => exact ih hnext.1 (by have hlt := hnext.2; omega)
      | false => exact ⟨t, rfl, hnext⟩

end Repeat
