import Mathlib.Algebra.Group.Nat.Defs
import Mathlib.Data.List.Induction

/-!
# Decimal text of a fixed width

A library for numbers written with a fixed number of decimal digits: the value
of a digit string, the zero-padded text of a number, and the two ways round.
-/

namespace SystemSettings

/-- The bytes of a C string literal. -/
def bytes (text : String) : List UInt8 := text.toUTF8.data.toList

/-- The bytes `'0'` to `'9'`. -/
def isDigit (b : UInt8) : Bool := decide (48 ≤ b.toNat) && decide (b.toNat ≤ 57)

/-- The value of a digit string, most significant digit first. -/
def decimalValue (digits : List UInt8) : ℕ :=
  digits.foldl (fun value b => 10 * value + (b.toNat - 48)) 0

/-- The digit of a number below ten. -/
def decimalDigit (n : ℕ) : UInt8 := UInt8.ofNat (48 + n)

/-- The last `width` decimal digits of a number. -/
def paddedDecimal : ℕ → ℕ → List UInt8
  | 0, _ => []
  | width + 1, n => paddedDecimal width (n / 10) ++ [decimalDigit (n % 10)]

theorem decimalDigit_toNat {n : ℕ} (h : n < 10) : (decimalDigit n).toNat = 48 + n := by
  simp only [decimalDigit, UInt8.toNat_ofNat']
  omega

theorem decimalDigit_isDigit {n : ℕ} (h : n < 10) : isDigit (decimalDigit n) = true := by
  simp only [isDigit, decimalDigit_toNat h, Bool.and_eq_true, decide_eq_true_eq]
  omega

theorem decimalValue_append_singleton (digits : List UInt8) (b : UInt8) :
    decimalValue (digits ++ [b]) = 10 * decimalValue digits + (b.toNat - 48) := by
  simp [decimalValue]

@[simp] theorem length_paddedDecimal (width n : ℕ) : (paddedDecimal width n).length = width := by
  induction width generalizing n with
  | zero => rfl
  | succ width ih => simp [paddedDecimal, ih]

theorem paddedDecimal_isDigit {width n : ℕ} {b : UInt8} (h : b ∈ paddedDecimal width n) :
    isDigit b = true := by
  induction width generalizing n with
  | zero => exact absurd h List.not_mem_nil
  | succ width ih =>
    rcases List.mem_append.mp h with h | h
    · exact ih h
    · rw [List.mem_singleton.mp h]
      exact decimalDigit_isDigit (Nat.mod_lt n (by decide))

/-- The text of a number that fits says that number. -/
theorem decimalValue_paddedDecimal {width n : ℕ} (h : n < 10 ^ width) :
    decimalValue (paddedDecimal width n) = n := by
  induction width generalizing n with
  | zero =>
    rw [Nat.pow_zero, Nat.lt_one_iff] at h
    subst h
    rfl
  | succ width ih =>
    have hhead : n / 10 < 10 ^ width := by
      rw [Nat.pow_succ] at h
      exact Nat.div_lt_of_lt_mul (by omega)
    rw [paddedDecimal, decimalValue_append_singleton, ih hhead,
      decimalDigit_toNat (Nat.mod_lt n (by decide))]
    omega

theorem decimalValue_lt {digits : List UInt8} (h : ∀ b ∈ digits, isDigit b = true) :
    decimalValue digits < 10 ^ digits.length := by
  induction digits using List.reverseRecOn with
  | nil => exact Nat.one_pos
  | append_singleton digits b ih =>
    have hb := h b (by simp)
    have hrest := ih fun b hb => h b (by simp [hb])
    simp only [isDigit, Bool.and_eq_true, decide_eq_true_eq] at hb
    rw [decimalValue_append_singleton, List.length_append, List.length_singleton, Nat.pow_succ]
    omega

/-- A digit string is the text of its value. -/
theorem paddedDecimal_decimalValue {digits : List UInt8} (h : ∀ b ∈ digits, isDigit b = true) :
    paddedDecimal digits.length (decimalValue digits) = digits := by
  induction digits using List.reverseRecOn with
  | nil => rfl
  | append_singleton digits b ih =>
    have hb := h b (by simp)
    simp only [isDigit, Bool.and_eq_true, decide_eq_true_eq] at hb
    have hrest := ih fun b hb => h b (by simp [hb])
    have hdiv : (10 * decimalValue digits + (b.toNat - 48)) / 10 = decimalValue digits := by omega
    have hmod : (10 * decimalValue digits + (b.toNat - 48)) % 10 = b.toNat - 48 := by omega
    have hlast : decimalDigit (b.toNat - 48) = b :=
      UInt8.toNat_inj.mp (by rw [decimalDigit_toNat (by omega)]; omega)
    rw [decimalValue_append_singleton, List.length_append, List.length_singleton, paddedDecimal,
      hdiv, hmod, hrest, hlast]

end SystemSettings
