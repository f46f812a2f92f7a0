import Mathlib.Algebra.Order.Group.Int
import SystemSettings.Decimal

/-!
# The payload of an installer

`native-installer.c` finds its payload by a footer of 32 bytes at the end of its
own file, which `source-asset-builder.c` writes there: a prefix, the size of the
payload in twenty decimal digits, and a newline.

The size is a 64-bit number on both sides; a file offset is a signed one.
-/

namespace SystemSettings

/-- `FOOTER_PREFIX` -/
def footerPrefix : List UInt8 := bytes "\nSSPAYLOAD="

/-- `FOOTER_SIZE` -/
def footerSize : ℕ := 32

/-- `FOOTER_PREFIX_SIZE` -/
def footerPrefixSize : ℕ := 11

/-- `PAYLOAD_DIGITS` -/
def payloadDigits : ℕ := 20

/-- The footer that the builder prints with `"\nSSPAYLOAD=%020llu\n"`. -/
def payloadFooter (size : ℕ) : List UInt8 :=
  footerPrefix ++ paddedDecimal payloadDigits size ++ [10]

/-- The file ends in a well-formed footer for this size. -/
def EndsInFooter (file : List UInt8) (size : ℕ) : Prop :=
  size < 10 ^ payloadDigits ∧ ∃ front, file = front ++ payloadFooter size

/-- `strtoull` on a string of decimal digits; `none` when it sets `errno`. -/
def strtoull (digits : List UInt8) : Option ℕ :=
  if decimalValue digits < 2 ^ 64 then some (decimalValue digits) else none

/-- A 64-bit number converted to `off_t`. -/
def toOffT (n : ℕ) : ℤ := if n < 2 ^ 63 then n else n - 2 ^ 64

/-- `payload_bounds` on a file that can be read: the start of the payload and its
size. -/
def payloadBounds (file : List UInt8) : Option (ℤ × ℕ) :=
  let stSize := file.length
  if stSize < footerSize then none
  else
    let footer := file.drop (stSize - footerSize)
    if footer.take footerPrefixSize ≠ footerPrefix ∨ footer[footerSize - 1]? ≠ some 10 then none
    else
      let digits := (footer.drop footerPrefixSize).take payloadDigits
      if digits.all isDigit then
        match strtoull digits with
        | none => none
        | some size =>
          if size = 0 then none
          -- the sum is taken in 64 bits
          else if stSize < (size + footerSize) % 2 ^ 64 then none
          else
            let payloadStart := stSize - footerSize - toOffT size
            if 0 < payloadStart then some (payloadStart, size) else none
      else none

@[simp] theorem length_footerPrefix : footerPrefix.length = 11 := by decide

@[simp] theorem length_payloadFooter (size : ℕ) : (payloadFooter size).length = 32 := by
  simp [payloadFooter, payloadDigits]

/-! ## What the scan reads -/

/-- A footer is made of its three parts. -/
theorem payloadFooter_parts (size : ℕ) :
    (payloadFooter size).take footerPrefixSize = footerPrefix ∧
      (payloadFooter size)[footerSize - 1]? = some 10 ∧
      ((payloadFooter size).drop footerPrefixSize).take payloadDigits =
        paddedDecimal payloadDigits size := by
  refine ⟨?_, ?_, ?_⟩ <;> simp [payloadFooter, footerPrefixSize, footerSize, payloadDigits]

/-- The scan of a file with a well-formed footer. -/
theorem payloadBounds_footer {front : List UInt8} {size : ℕ} (hsize : size < 10 ^ payloadDigits) :
    payloadBounds (front ++ payloadFooter size) =
      if size < 2 ^ 64 then
        if size = 0 then none
        else if front.length + 32 < (size + 32) % 2 ^ 64 then none
        else if 0 < front.length - toOffT size then some (front.length - toOffT size, size)
        else none
      else none := by
  obtain ⟨hfront, hlast, hdigits⟩ := payloadFooter_parts size
  have hdrop : (front ++ payloadFooter size).drop
      ((front ++ payloadFooter size).length - footerSize) = payloadFooter size := by
    rw [List.length_append, length_payloadFooter, footerSize, Nat.add_sub_cancel,
      List.drop_left]
  have hall : (paddedDecimal payloadDigits size).all isDigit = true :=
    List.all_eq_true.mpr fun b hb => paddedDecimal_isDigit hb
  have hlong : ¬ (front ++ payloadFooter size).length < footerSize := by
    simp [footerSize]
  simp only [payloadBounds, hlong, hdrop, hfront, hlast, hdigits, hall, strtoull,
    decimalValue_paddedDecimal hsize, if_false, if_true, ne_eq, not_true_eq_false, or_self]
  by_cases hfit : size < 2 ^ 64
  · have hlength : ((front ++ payloadFooter size).length : ℤ) - footerSize = front.length := by
      simp [footerSize]
    simp only [hfit, if_true, hlength]
    simp only [List.length_append, length_payloadFooter, footerSize]
  · simp only [hfit, if_false]

/-- Thirty-two bytes with these parts are a footer. -/
theorem payloadFooter_of_parts {footer : List UInt8} (hlength : footer.length = 32)
    (hfront : footer.take 11 = footerPrefix) (hlast : footer[31]? = some 10)
    (hdigits : ∀ b ∈ (footer.drop 11).take 20, isDigit b = true) :
    payloadFooter (decimalValue ((footer.drop 11).take 20)) = footer := by
  have htwenty : ((footer.drop 11).take 20).length = 20 := by
    rw [List.length_take, List.length_drop, hlength]
    rfl
  have htext : paddedDecimal payloadDigits (decimalValue ((footer.drop 11).take 20)) =
      (footer.drop 11).take 20 := by
    have h := paddedDecimal_decimalValue hdigits
    rwa [htwenty] at h
  have hend : (footer.drop 11).drop 20 = [10] := by
    rw [List.drop_drop]
    refine List.ext_getElem? fun i => ?_
    cases i with
    | zero => simpa using hlast
    | succ i => simp [hlength]
  calc payloadFooter (decimalValue ((footer.drop 11).take 20))
      = footerPrefix ++ (footer.drop 11).take 20 ++ [10] := by rw [payloadFooter, htext]
    _ = footer.take 11 ++ ((footer.drop 11).take 20 ++ (footer.drop 11).drop 20) := by
      rw [hfront, hend, List.append_assoc]
    _ = footer := by rw [List.take_append_drop, List.take_append_drop]

/-- A file says one size. -/
theorem EndsInFooter.unique {file : List UInt8} {size size' : ℕ} (h : EndsInFooter file size)
    (h' : EndsInFooter file size') : size = size' := by
  obtain ⟨hsize, front, rfl⟩ := h
  obtain ⟨hsize', front', hfile⟩ := h'
  have hfooter : payloadFooter size = payloadFooter size' := (List.append_inj' hfile (by simp)).2
  calc size
      = decimalValue (((payloadFooter size).drop footerPrefixSize).take payloadDigits) := by
        rw [(payloadFooter_parts size).2.2, decimalValue_paddedDecimal hsize]
    _ = size' := by
        rw [hfooter, (payloadFooter_parts size').2.2, decimalValue_paddedDecimal hsize']

/-- What the scan accepts ends in a well-formed footer. -/
theorem endsInFooter_of_payloadBounds {file : List UInt8} {start : ℤ} {size : ℕ}
    (h : payloadBounds file = some (start, size)) : EndsInFooter file size := by
  simp only [payloadBounds] at h
  split at h
  · cases h
  · next hlong =>
    split at h
    · cases h
    · next hfooter =>
      split at h
      · next hdigits =>
        simp only [ne_eq, not_or, not_not] at hfooter
        have hlength : (file.drop (file.length - footerSize)).length = 32 := by
          simp only [footerSize, Nat.not_lt] at hlong
          rw [List.length_drop, footerSize]
          omega
        have hall := List.all_eq_true.mp hdigits
        have hfooter := payloadFooter_of_parts hlength hfooter.1 hfooter.2 hall
        have hvalue := decimalValue_lt hall
        split at h
        · cases h
        · next value hparse =>
          have hsize : value = size := by
            split at h
            · cases h
            split at h
            · cases h
            split at h
            · exact congrArg Prod.snd (Option.some.inj h)
            · cases h
          simp only [strtoull] at hparse
          split at hparse
          · have hvalue' := Option.some.inj hparse
            rw [hsize] at hvalue'
            refine ⟨?_, file.take (file.length - footerSize), ?_⟩
            · rw [← hvalue']
              refine lt_of_lt_of_le hvalue (Nat.pow_le_pow_right (by decide) ?_)
              exact List.length_take_le _ _
            · rw [← hvalue']
              conv_lhs => rw [← List.take_append_drop (file.length - footerSize) file]
              exact congrArg _ hfooter.symm
          · cases hparse
      · cases h

/-! ## When the bounds are exact -/

/-- What is accepted lies between a stub and the footer, and a footer with room
for its payload is accepted. -/
structure ExactBounds (file : List UInt8) : Prop where
  /-- the payload lies inside the file -/
  inside : ∀ start size, payloadBounds file = some (start, size) →
    0 < start ∧ start + size + 32 = file.length
  /-- and every payload that does is found -/
  accepted : ∀ size, EndsInFooter file size → 0 < size → size + 32 < file.length →
    ∃ start, payloadBounds file = some (start, size)

/-- The size in the footer, plus the size of the footer, does not fit 64 bits. -/
def WrapsAround (file : List UInt8) : Prop :=
  ∃ size, EndsInFooter file size ∧ 2 ^ 64 - 32 ≤ size ∧ size < 2 ^ 64

/-- A size that fits an offset with its footer is taken as it is. -/
theorem payloadBounds_of_fits {front : List UInt8} {size : ℕ} (h : size < 2 ^ 64 - 32)
    (hfront : front.length + 32 < 2 ^ 63) :
    payloadBounds (front ++ payloadFooter size) =
      if 0 < size ∧ size < front.length then some ((front.length : ℤ) - size, size) else none := by
  have hdigits : size < 10 ^ payloadDigits := lt_trans h (by decide)
  have hsum : (size + 32) % 2 ^ 64 = size + 32 := Nat.mod_eq_of_lt (by omega)
  rw [payloadBounds_footer hdigits, if_pos (by omega), hsum]
  by_cases hzero : size = 0
  · simp [hzero]
  · by_cases hroom : front.length < size
    · rw [if_neg hzero, if_pos (by omega), if_neg (by omega)]
    · have hoff : toOffT size = size := if_pos (by omega)
      rw [if_neg hzero, if_neg (by omega), hoff]
      by_cases hstub : size < front.length
      · rw [if_pos (by omega), if_pos ⟨by omega, hstub⟩]
      · rw [if_neg (by omega), if_neg (by omega)]

/-- A size that does not is read as a negative one, and accepted. -/
theorem payloadBounds_of_wraps {front : List UInt8} {size : ℕ} (hlow : 2 ^ 64 - 32 ≤ size)
    (hhigh : size < 2 ^ 64) :
    payloadBounds (front ++ payloadFooter size) =
      some ((front.length : ℤ) - (size - 2 ^ 64), size) := by
  have hdigits : size < 10 ^ payloadDigits := lt_trans hhigh (by decide)
  have hsum : (size + 32) % 2 ^ 64 ≤ 31 := by omega
  have hoff : toOffT size = size - 2 ^ 64 := if_neg (by omega)
  rw [payloadBounds_footer hdigits, if_pos hhigh, if_neg (by omega), if_neg (by omega), hoff,
    if_pos (by omega)]

/-- The bounds are exact on every file whose footer does not wrap around. -/
theorem payloadBounds_exact_iff {file : List UInt8} (h : file.length < 2 ^ 63) :
    ExactBounds file ↔ ¬ WrapsAround file := by
  constructor
  · rintro hexact ⟨size, ⟨-, front, rfl⟩, hlow, hhigh⟩
    have hinside := (hexact.inside _ _ (payloadBounds_of_wraps hlow hhigh)).2
    simp only [List.length_append, length_payloadFooter] at hinside
    omega
  · intro hwraps
    have fits : ∀ size, EndsInFooter file size → size < 2 ^ 64 → size < 2 ^ 64 - 32 :=
      fun size hfooter hsize => by
        by_contra hlow
        exact hwraps ⟨size, hfooter, by omega, hsize⟩
    constructor
    · intro start size hbounds
      have hfooter := endsInFooter_of_payloadBounds hbounds
      obtain ⟨hdigits, front, rfl⟩ := id hfooter
      simp only [List.length_append, length_payloadFooter] at h ⊢
      have hsize : size < 2 ^ 64 := by
        by_contra hsize
        rw [payloadBounds_footer hdigits, if_neg hsize] at hbounds
        cases hbounds
      rw [payloadBounds_of_fits (fits size hfooter hsize) h] at hbounds
      split at hbounds
      · next hroom =>
        cases hbounds
        omega
      · cases hbounds
    · rintro size hfooter hpos hroom
      obtain ⟨hdigits, front, rfl⟩ := id hfooter
      simp only [List.length_append, length_payloadFooter] at h hroom
      refine ⟨(front.length : ℤ) - size, ?_⟩
      rw [payloadBounds_of_fits (by omega) h, if_pos ⟨hpos, by omega⟩]

/-- A stub, a payload and its footer. -/
theorem payloadBounds_exact_small : ExactBounds ([127, 69] ++ [1, 2, 3] ++ payloadFooter 3) := by
  refine (payloadBounds_exact_iff (by decide)).mpr ?_
  rintro ⟨size, hfooter, hlow, -⟩
  have hthree := hfooter.unique ⟨by decide, _, rfl⟩
  omega

/-- A file that is only a footer, for a payload of `2 ^ 64 - 16` bytes. -/
theorem payloadBounds_exact_counterexample :
    ¬ ∀ file : List UInt8, file.length < 2 ^ 63 → ExactBounds file := by
  intro h
  have hinside := ((h (payloadFooter (2 ^ 64 - 16)) (by simp)).inside 16 (2 ^ 64 - 16)
    (by decide +kernel)).2
  simp at hinside

end SystemSettings
