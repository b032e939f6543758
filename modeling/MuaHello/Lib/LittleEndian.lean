import Mathlib

/-!
# Little-endian numbers

A number as `w` bytes, the low one first, and the number that bytes make.  Each is the other's
inverse, on the numbers below `256 ^ w` (`ofLE_toLE`) and on the lists of `w` bytes (`toLE_ofLE`).
-/

/-- The `w` low bytes of `n`. -/
def toLE : ℕ → ℕ → List UInt8
  | 0, _ => []
  | w + 1, n => UInt8.ofNat n :: toLE w (n / 256)

def ofLE : List UInt8 → ℕ
  | [] => 0
  | b :: bs => b.toNat + 256 * ofLE bs

section LittleEndian

variable {w n : ℕ} {bs : List UInt8}

lemma ofLE_toLE : ofLE (toLE w n) = n % 256 ^ w := by
  induction w generalizing n with
  | zero => simp [toLE, ofLE, Nat.mod_one]
  | succ w ih =>
      rw [toLE, ofLE, ih, UInt8.toNat_ofNat', pow_succ' 256 w, Nat.mod_mul]

lemma toLE_ofLE (h : bs.length = w) : toLE w (ofLE bs) = bs := by
  induction bs generalizing w with
  | nil =>
      subst h
      rfl
  | cons b bs ih =>
      subst h
      have hb : b.toNat < 256 := b.toNat_lt
      have hlow : UInt8.ofNat (b.toNat + 256 * ofLE bs) = b := by
        rw [← UInt8.toNat_inj, UInt8.toNat_ofNat']
        omega
      have hhigh : (b.toNat + 256 * ofLE bs) / 256 = ofLE bs := by omega
      rw [List.length_cons, ofLE, toLE, hlow, hhigh, ih rfl]

lemma ofLE_lt : ofLE bs < 256 ^ bs.length := by
  induction bs with
  | nil => simp [ofLE]
  | cons b bs ih =>
      have hb : b.toNat < 256 := b.toNat_lt
      rw [ofLE, List.length_cons, Nat.pow_succ']
      omega

end LittleEndian
