import Mathlib

/-!
# Loops over an environment

Code that talks to a device loops until the device has taken or given enough, and the device
decides how far each round gets.  Here the device is a script, the list of its answers, and a
computation has an `Outcome`: it returns, it exits, or it waits for an answer that is not in the
script.  A statement about every run that returns is then a statement about every script.

* `transfer` — the loop `while (count > 0)` around one call: each answer moves the transfer on by
  some of the `count` units, leaves the loop, or ends the program.  `transfer_rule` is its
  invariant rule.
* `repeatLoop` — a loop around a computation of its own, cut off after `fuel` rounds, with
  `repeatLoop_rule`.
-/

universe u

/-- How a run of a computation ends. -/
inductive Outcome (α : Type u) where
  | returned (a : α)
  | exited
  | waiting

namespace Outcome

variable {α β : Type u}

instance : Monad Outcome where
  pure := returned
  bind
    | returned a, f => f a
    | exited, _ => exited
    | waiting, _ => waiting

lemma returned_bind (a : α) (f : α → Outcome β) : returned a >>= f = f a := rfl

lemma bind_returned {x : Outcome α} {f : α → Outcome β} {b : β} :
    x >>= f = returned b ↔ ∃ a, x = returned a ∧ f a = returned b := by
  cases x with
  | returned a =>
      constructor
      · intro h
        exact ⟨a, rfl, h⟩
      · rintro ⟨a', ha, h⟩
        cases ha
        exact h
  | exited => exact iff_of_false nofun (by rintro ⟨a, ha, -⟩; exact nomatch ha)
  | waiting => exact iff_of_false nofun (by rintro ⟨a, ha, -⟩; exact nomatch ha)

lemma bind_exited {x : Outcome α} {f : α → Outcome β} :
    x >>= f = exited ↔ x = exited ∨ ∃ a, x = returned a ∧ f a = exited := by
  cases x with
  | returned a =>
      constructor
      · intro h
        exact .inr ⟨a, rfl, h⟩
      · rintro (h | ⟨a', ha, h⟩)
        · exact nomatch h
        · cases ha
          exact h
  | exited => exact iff_of_true rfl (.inl rfl)
  | waiting =>
      refine iff_of_false nofun ?_
      rintro (h | ⟨a, ha, -⟩)
      · exact nomatch h
      · exact nomatch ha

end Outcome

/-! ## Transfers with partial progress -/

/-- What one round of a transfer does: move on by `k` units, leave the loop, or end the program. -/
inductive Turn (σ : Type*) where
  | moved (s : σ) (k : ℕ)
  | stopped (s : σ)
  | exited

section Transfer

variable {σ ε : Type u} {turn : ε → σ → ℕ → Turn σ} {s s' : σ} {n : ℕ} {es es' : List ε}

/-- `while (count > 0) { ... }`, one answer a round.  It returns the answers it did not need. -/
def transfer (turn : ε → σ → ℕ → Turn σ) : List ε → σ → ℕ → Outcome (σ × List ε)
  | es, s, 0 => .returned (s, es)
  | [], _, _ + 1 => .waiting
  | e :: es, s, n + 1 =>
      match turn e s (n + 1) with
      | .moved s' k => transfer turn es s' (n + 1 - k)
      | .stopped s' => .returned (s', es)
      | .exited => .exited

/-- A round that meets `n` units to go keeps the invariant, or leaves the loop as `Post` says. -/
def Turn.Keeps (Inv : σ → ℕ → Prop) (Post : σ → Prop) (n : ℕ) : Turn σ → Prop
  | .moved s k => Inv s (n - k)
  | .stopped s => Post s
  | .exited => True

/-- **The invariant rule.**  The invariant speaks of the state and of the units to go. -/
theorem transfer_rule (Inv : σ → ℕ → Prop) (Post : σ → Prop)
    (hturn : ∀ e s n, 0 < n → Inv s n → (turn e s n).Keeps Inv Post n)
    (hdone : ∀ s, Inv s 0 → Post s) (h : Inv s n)
    (hrun : transfer turn es s n = .returned (s', es')) : Post s' ∧ es' <:+ es := by
  induction es generalizing s n with
  | nil =>
      cases n with
      | zero =>
          cases hrun
          exact ⟨hdone _ h, List.suffix_refl _⟩
      | succ n => exact nomatch hrun
  | cons e es ih =>
      cases n with
      | zero =>
          cases hrun
          exact ⟨hdone _ h, List.suffix_refl _⟩
      | succ n =>
          have hkeeps := hturn e s (n + 1) (Nat.succ_pos n) h
          rw [transfer] at hrun
          cases ht : turn e s (n + 1) with
          | moved t k =>
              rw [ht] at hrun hkeeps
              obtain ⟨hpost, hsuffix⟩ := ih hkeeps hrun
              exact ⟨hpost, hsuffix.trans (List.suffix_cons e es)⟩
          | stopped t =>
              rw [ht] at hrun hkeeps
              cases hrun
              exact ⟨hkeeps, List.suffix_cons e _⟩
          | exited =>
              rw [ht] at hrun
              exact nomatch hrun

/-- A transfer does not end the program if none of its answers makes it. -/
theorem transfer_ne_exited (h : ∀ e ∈ es, ∀ s n, turn e s n ≠ .exited) :
    transfer turn es s n ≠ .exited := by
  induction es generalizing s n with
  | nil => cases n <;> exact nofun
  | cons e es ih =>
      cases n with
      | zero => exact nofun
      | succ n =>
          rw [transfer]
          cases hturn : turn e s (n + 1) with
          | moved t k => exact ih fun e' he => h e' (List.mem_cons_of_mem _ he)
          | stopped t => exact nofun
          | exited => exact absurd hturn (h e List.mem_cons_self s _)

end Transfer

/-! ## Loops around a computation -/

section Repeat

variable {σ : Type u} {body : σ → Outcome (σ × Bool)} {s s' : σ} {fuel : ℕ}

/-- Repeat `body` as long as it says so, for at most `fuel` rounds. -/
def repeatLoop (body : σ → Outcome (σ × Bool)) : ℕ → σ → Outcome σ
  | 0, _ => .waiting
  | fuel + 1, s => do
      let (s, more) ← body s
      if more then repeatLoop body fuel s else return s

/-- **The invariant rule.** -/
theorem repeatLoop_rule (Inv Post : σ → Prop)
    (hbody : ∀ s t more, Inv s → body s = .returned (t, more) → if more then Inv t else Post t)
    (h : Inv s) (hrun : repeatLoop body fuel s = .returned s') : Post s' := by
  induction fuel generalizing s with
  | zero => exact nomatch hrun
  | succ fuel ih =>
      rw [repeatLoop, Outcome.bind_returned] at hrun
      obtain ⟨⟨t, more⟩, hround, hrest⟩ := hrun
      have hkeeps := hbody s t more h hround
      cases more with
      | true => exact ih hkeeps hrest
      | false =>
          cases hrest
          exact hkeeps

/-- A loop does not end the program if no round does. -/
theorem repeatLoop_ne_exited (Inv : σ → Prop)
    (hbody : ∀ s t, Inv s → body s = .returned (t, true) → Inv t)
    (hexit : ∀ s, Inv s → body s ≠ .exited) (h : Inv s) :
    repeatLoop body fuel s ≠ .exited := by
  induction fuel generalizing s with
  | zero => exact nofun
  | succ fuel ih =>
      rw [repeatLoop, ne_eq, Outcome.bind_exited]
      rintro (hround | ⟨⟨t, more⟩, hround, hrest⟩)
      · exact hexit s h hround
      · cases more with
        | true => exact ih (hbody s t h hround) hrest
        | false => exact nomatch hrest

end Repeat
