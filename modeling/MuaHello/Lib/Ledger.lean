import Mathlib

/-!
# Ledgers of resources

A program's acquisitions and releases in order.  `settle` goes through them with the resources
held so far and stops at an acquisition of one that is held or a release of one that is not, so a
ledger that settles from nothing to nothing has neither a leak nor a double release.
-/

namespace Ledger

variable {ρ : Type*} [DecidableEq ρ]

inductive Entry (ρ : Type*) where
  | acquire (r : ρ)
  | release (r : ρ)

/-- The resources held after the entries, if every entry is legal. -/
def settle (held : Finset ρ) : List (Entry ρ) → Option (Finset ρ)
  | [] => some held
  | .acquire r :: es => if r ∈ held then none else settle (insert r held) es
  | .release r :: es => if r ∈ held then settle (held.erase r) es else none

/-- Everything acquired is released, once and not before. -/
def Balanced (es : List (Entry ρ)) : Prop := settle ∅ es = some ∅

instance (es : List (Entry ρ)) : Decidable (Balanced es) :=
  inferInstanceAs (Decidable (settle ∅ es = some ∅))

end Ledger
