import Mathlib.Algebra.Order.Field.Rat
import Mathlib.Data.Rat.Cast.Order
import Mathlib.Tactic.Linarith
import Mathlib.Tactic.NormNum
import Mathlib.Tactic.Positivity
import SystemSettings.Decimal
import SystemSettings.Platform

/-!
# Coordinates of the zone table

The parser of `regional-context.c` for the compact coordinates of `zone.tab`: a signed
latitude `±DDMM[SS]` and at once a signed longitude `±DDDMM[SS]`. Arithmetic is exact.

`CompactAngle` is the grammar of one half. The parser accepts the text of a latitude
followed by the text of a longitude, and nothing else.
-/

namespace SystemSettings

/-- `+` or `-` -/
def isSign (b : UInt8) : Bool := b == 43 || b == 45

/-- `parse_component`. The text has the length that the code is told. -/
def parseComponent (text : Text) (degreeDigits : ℕ) (maximum : ℚ) : Option ℚ :=
  match text with
  | [] => none
  | first :: digits =>
    if !isSign first || (text.length != 1 + degreeDigits + 2 &&
        text.length != 1 + degreeDigits + 4) then none
    else if !digits.all isDigit then none
    else
      let sign : ℚ := if first == 45 then -1 else 1
      let degrees := decimalValue (digits.take degreeDigits)
      let minutes := decimalValue ((digits.drop degreeDigits).take 2)
      let seconds :=
        if text.length = 1 + degreeDigits + 4 then
          decimalValue ((digits.drop (degreeDigits + 2)).take 2)
        else 0
      if 60 ≤ minutes ∨ 60 ≤ seconds ∨ maximum < degrees ∨
          (degrees = maximum ∧ (minutes ≠ 0 ∨ seconds ≠ 0)) then none
      else some (sign * (degrees + minutes / 60 + seconds / 3600))

/-- `parse_zone_coordinate`: latitude and longitude. The second sign splits them. -/
def parseZoneCoordinate (coordinate : Text) : Option (ℚ × ℚ) :=
  let split := 1 + (coordinate.drop 1).findIdx isSign
  if coordinate.length ≤ split then none
  else do
    let latitude ← parseComponent (coordinate.take split) 2 90
    let longitude ← parseComponent (coordinate.drop split) 3 180
    pure (latitude, longitude)

/-! ## The grammar -/

/-- Degrees, minutes and seconds, with a sign. -/
def angleValue (negative : Bool) (degrees minutes seconds : ℕ) : ℚ :=
  (if negative then -1 else 1) * (degrees + minutes / 60 + seconds / 3600)

/-- An angle in compact form: whole degrees of `width` digits, minutes, and seconds that
may be left out. It is at most `limit` degrees either way. -/
structure CompactAngle (width limit : ℕ) : Type where
  /-- written with `-` -/
  negative : Bool
  /-- whole degrees -/
  degrees : ℕ
  /-- minutes -/
  minutes : ℕ
  /-- seconds, when they are written -/
  seconds : Option ℕ
  /-- the degrees fit their digits -/
  degrees_lt : degrees < 10 ^ width
  /-- less than a degree -/
  minutes_lt : minutes < 60
  /-- less than a minute -/
  seconds_lt : ∀ s ∈ seconds, s < 60
  /-- the limit itself is an angle -/
  within : |angleValue negative degrees minutes (seconds.getD 0)| ≤ limit

namespace CompactAngle

variable {width limit : ℕ}

/-- The angle in degrees. -/
def value (angle : CompactAngle width limit) : ℚ :=
  angleValue angle.negative angle.degrees angle.minutes (angle.seconds.getD 0)

/-- What stands after the sign. -/
def digits (angle : CompactAngle width limit) : Text :=
  paddedDecimal width angle.degrees ++
    (paddedDecimal 2 angle.minutes ++ angle.seconds.elim [] (paddedDecimal 2))

/-- The compact form. -/
def text (angle : CompactAngle width limit) : Text :=
  (if angle.negative then 45 else 43) :: angle.digits

end CompactAngle

/-! ## One component -/

theorem abs_angleValue (negative : Bool) (degrees minutes seconds : ℕ) :
    |angleValue negative degrees minutes seconds| = degrees + minutes / 60 + seconds / 3600 := by
  have hpos : (0 : ℚ) ≤ degrees + minutes / 60 + seconds / 3600 := by positivity
  have hsign : |if negative then (-1 : ℚ) else 1| = 1 := by
    cases negative <;> simp
  rw [angleValue, abs_mul, hsign, one_mul, abs_of_nonneg hpos]

/-- An angle is within the limit when its degrees are, and no part is left at the limit. -/
theorem abs_angleValue_le_iff {negative : Bool} {degrees minutes seconds limit : ℕ}
    (hminutes : minutes < 60) (hseconds : seconds < 60) :
    |angleValue negative degrees minutes seconds| ≤ limit ↔
      ¬ (limit < degrees ∨ (degrees = limit ∧ (minutes ≠ 0 ∨ seconds ≠ 0))) := by
  have hscale : (degrees + minutes / 60 + seconds / 3600 : ℚ) ≤ limit ↔
      3600 * degrees + 60 * minutes + seconds ≤ 3600 * limit := by
    rw [← Nat.cast_le (α := ℚ)]
    push_cast
    constructor <;> intro h <;> linarith
  rw [abs_angleValue, hscale]
  omega

/-- The seconds of these digits, or none. -/
def writtenSeconds (width : ℕ) (digits : Text) : ℕ :=
  if digits.length = width + 4 then decimalValue ((digits.drop (width + 2)).take 2) else 0

/-- What `parse_component` checks, and what it returns. -/
theorem parseComponent_cons_eq_some {first : UInt8} {digits : Text} {width limit : ℕ} {value : ℚ} :
    parseComponent (first :: digits) width limit = some value ↔
      isSign first = true ∧ (digits.length = width + 2 ∨ digits.length = width + 4) ∧
      (∀ b ∈ digits, isDigit b = true) ∧
      decimalValue ((digits.drop width).take 2) < 60 ∧ writtenSeconds width digits < 60 ∧
      |angleValue (first == 45) (decimalValue (digits.take width))
        (decimalValue ((digits.drop width).take 2)) (writtenSeconds width digits)| ≤ limit ∧
      value = angleValue (first == 45) (decimalValue (digits.take width))
        (decimalValue ((digits.drop width).take 2)) (writtenSeconds width digits) := by
  have hseconds : (if (first :: digits).length = 1 + width + 4 then
      decimalValue ((digits.drop (width + 2)).take 2) else 0) = writtenSeconds width digits := by
    rw [writtenSeconds, List.length_cons]
    congr 1
    exact propext (by omega)
  have hshape : (!isSign first || ((first :: digits).length != 1 + width + 2 &&
      (first :: digits).length != 1 + width + 4)) = true ↔
      ¬ (isSign first = true ∧ (digits.length = width + 2 ∨ digits.length = width + 4)) := by
    cases isSign first with
    | false => simp
    | true =>
      simp only [Bool.not_true, Bool.false_or, Bool.and_eq_true, bne_iff_ne, List.length_cons,
        true_and]
      omega
  have hall : (!digits.all isDigit) = true ↔ ¬ ∀ b ∈ digits, isDigit b = true := by
    rw [Bool.not_eq_true', ← Bool.not_eq_true, List.all_eq_true]
  simp only [parseComponent, hseconds, hshape, hall, Nat.cast_lt, Nat.cast_inj,
    Option.ite_none_left_eq_some, not_not, Option.some.injEq]
  constructor
  · rintro ⟨⟨hsign, hlength⟩, hdigits, hrange, rfl⟩
    rw [not_or, not_or] at hrange
    have hminutes := Nat.lt_of_not_le hrange.1
    have hsec := Nat.lt_of_not_le hrange.2.1
    exact ⟨hsign, hlength, hdigits, hminutes, hsec,
      (abs_angleValue_le_iff hminutes hsec).mpr hrange.2.2, rfl⟩
  · rintro ⟨hsign, hlength, hdigits, hminutes, hsec, hwithin, rfl⟩
    refine ⟨⟨hsign, hlength⟩, hdigits, ?_, rfl⟩
    rw [not_or, not_or]
    exact ⟨Nat.not_le_of_lt hminutes, Nat.not_le_of_lt hsec,
      (abs_angleValue_le_iff hminutes hsec).mp hwithin⟩

namespace CompactAngle

variable {width limit : ℕ} (angle : CompactAngle width limit)

theorem digits_isDigit {b : UInt8} (h : b ∈ angle.digits) : isDigit b = true := by
  rcases List.mem_append.mp h with h | h
  · exact paddedDecimal_isDigit h
  · rcases List.mem_append.mp h with h | h
    · exact paddedDecimal_isDigit h
    · cases hseconds : angle.seconds with
      | none =>
        rw [hseconds] at h
        exact absurd h List.not_mem_nil
      | some s =>
        rw [hseconds] at h
        exact paddedDecimal_isDigit h

/-- The length says whether there are seconds. -/
theorem length_digits :
    angle.digits.length = width + (if angle.seconds.isSome then 4 else 2) := by
  cases h : angle.seconds with
  | none => simp [digits, h]
  | some s => simp [digits, h]

theorem degrees_digits : decimalValue (angle.digits.take width) = angle.degrees := by
  rw [digits, List.take_left' (length_paddedDecimal _ _),
    decimalValue_paddedDecimal angle.degrees_lt]

theorem minutes_digits : decimalValue ((angle.digits.drop width).take 2) = angle.minutes := by
  have hlt : angle.minutes < 10 ^ 2 := angle.minutes_lt.trans (by decide)
  rw [digits, List.drop_left' (length_paddedDecimal _ _), List.take_left' (length_paddedDecimal _ _),
    decimalValue_paddedDecimal hlt]

theorem writtenSeconds_digits : writtenSeconds width angle.digits = angle.seconds.getD 0 := by
  rw [writtenSeconds, angle.length_digits]
  cases h : angle.seconds with
  | none => simp
  | some s =>
    have hlt : s < 10 ^ 2 := (angle.seconds_lt s h).trans (by decide)
    rw [Option.isSome_some, if_pos rfl, if_pos rfl, digits, ← List.drop_drop,
      List.drop_left' (length_paddedDecimal _ _), List.drop_left' (length_paddedDecimal _ _), h,
      Option.elim_some, List.take_of_length_le (length_paddedDecimal _ _).le,
      decimalValue_paddedDecimal hlt, Option.getD_some]

theorem seconds_getD_lt : angle.seconds.getD 0 < 60 := by
  cases h : angle.seconds with
  | none => decide
  | some s => exact angle.seconds_lt s h

end CompactAngle

/-- The parser reads the text of an angle as its value. -/
theorem parseComponent_text {width limit : ℕ} (angle : CompactAngle width limit) :
    parseComponent angle.text width limit = some angle.value := by
  have hsign : isSign (if angle.negative then 45 else 43) = true := by
    cases angle.negative <;> rfl
  have hminus : ((if angle.negative then 45 else 43 : UInt8) == 45) = angle.negative := by
    cases angle.negative <;> rfl
  rw [CompactAngle.text, parseComponent_cons_eq_some, hminus, angle.degrees_digits,
    angle.minutes_digits, angle.writtenSeconds_digits]
  refine ⟨hsign, ?_, fun b hb => angle.digits_isDigit hb, angle.minutes_lt, angle.seconds_getD_lt,
    angle.within, rfl⟩
  rw [angle.length_digits]
  split
  · exact .inr rfl
  · exact .inl rfl

/-- What the parser accepts is the text of an angle. -/
theorem exists_compactAngle {text : Text} {width limit : ℕ} {value : ℚ}
    (h : parseComponent text width limit = some value) :
    ∃ angle : CompactAngle width limit, text = angle.text ∧ value = angle.value := by
  cases text with
  | nil => exact absurd h.symm (Option.some_ne_none value)
  | cons first digits =>
    obtain ⟨hsign, hlength, hdigits, hminutes, hseconds, hwithin, rfl⟩ :=
      parseComponent_cons_eq_some.mp h
    have hfirst : first = if first == 45 then 45 else 43 := by
      rcases Bool.or_eq_true _ _ |>.mp hsign with h | h
      · rw [beq_iff_eq.mp h]
        rfl
      · rw [beq_iff_eq.mp h]
        rfl
    have hpart : ∀ k part, (∀ b ∈ part, b ∈ digits) → part.length = k →
        paddedDecimal k (decimalValue part) = part := by
      rintro k part hmem rfl
      exact paddedDecimal_decimalValue fun b hb => hdigits b (hmem b hb)
    have hdeg := hpart width (digits.take width) (fun b => List.mem_of_mem_take) (by grind)
    have hmin := hpart 2 ((digits.drop width).take 2)
      (fun b hb => List.mem_of_mem_drop (List.mem_of_mem_take hb)) (by grind)
    have hlt : decimalValue (digits.take width) < 10 ^ width := by
      have := decimalValue_lt fun b (hb : b ∈ digits.take width) =>
        hdigits b (List.mem_of_mem_take hb)
      rwa [List.length_take, Nat.min_eq_left (by omega)] at this
    rcases hlength with hlength | hlength
    · have hnone : writtenSeconds width digits = 0 := if_neg (by omega)
      have hrest : (digits.drop width).take 2 = digits.drop width :=
        List.take_of_length_le (by rw [List.length_drop]; omega)
      rw [hnone] at hwithin ⊢
      refine ⟨⟨first == 45, _, _, none, hlt, hminutes, by simp, hwithin⟩, ?_, rfl⟩
      simp only [CompactAngle.text, CompactAngle.digits, hdeg, hmin, ← hfirst, Option.elim_none]
      rw [hrest, List.append_nil, List.take_append_drop]
    · have hsome : writtenSeconds width digits = decimalValue ((digits.drop (width + 2)).take 2) :=
        if_pos hlength
      have hsec := hpart 2 ((digits.drop (width + 2)).take 2)
        (fun b hb => List.mem_of_mem_drop (List.mem_of_mem_take hb)) (by grind)
      have hrest : (digits.drop (width + 2)).take 2 = digits.drop (width + 2) :=
        List.take_of_length_le (by rw [List.length_drop]; omega)
      rw [hsome] at hwithin hseconds ⊢
      refine ⟨⟨first == 45, _, _, some (decimalValue ((digits.drop (width + 2)).take 2)), hlt,
        hminutes, fun s hs => Option.some.inj hs ▸ hseconds, hwithin⟩, ?_, rfl⟩
      simp only [CompactAngle.text, CompactAngle.digits, hdeg, hmin, hsec, ← hfirst,
        Option.elim_some]
      rw [hrest, ← List.drop_drop, List.take_append_drop, List.take_append_drop]

/-! ## The two components -/

theorem CompactAngle.exists_sign {width limit : ℕ} (angle : CompactAngle width limit) :
    ∃ first, isSign first = true ∧ angle.text = first :: angle.digits := by
  refine ⟨_, ?_, rfl⟩
  cases angle.negative <;> rfl

theorem isSign_of_isDigit {b : UInt8} (h : isDigit b = true) : isSign b = false := by
  simp only [isDigit, Bool.and_eq_true, decide_eq_true_eq] at h
  refine Bool.eq_false_iff.mpr fun hsign => ?_
  rcases Bool.or_eq_true _ _ |>.mp hsign with hb | hb
  · rw [beq_iff_eq.mp hb] at h
    exact absurd h.1 (by decide)
  · rw [beq_iff_eq.mp hb] at h
    exact absurd h.1 (by decide)

/-- The second sign is where the second angle starts. -/
theorem findIdx_isSign (latitude : CompactAngle 2 90) (longitude : CompactAngle 3 180) :
    1 + ((latitude.text ++ longitude.text).drop 1).findIdx isSign = latitude.text.length := by
  obtain ⟨first, -, hlatitude⟩ := latitude.exists_sign
  obtain ⟨second, hsecond, hlongitude⟩ := longitude.exists_sign
  have hnone : ∀ b ∈ latitude.digits, isSign b = false := fun b hb =>
    isSign_of_isDigit (latitude.digits_isDigit hb)
  rw [hlatitude, hlongitude, List.cons_append, List.drop_one, List.tail_cons, List.length_cons,
    List.findIdx_append, List.findIdx_eq_length_of_false hnone, if_neg (Nat.lt_irrefl _),
    List.findIdx_cons, hsecond]
  simp only [cond_true]
  omega

/-- The parser accepts exactly a signed latitude in degrees, minutes and perhaps seconds,
followed at once by such a longitude, and it returns their exact values. -/
theorem parseZoneCoordinate_eq_some_iff (coordinate : Text) (latitude longitude : ℚ) :
    parseZoneCoordinate coordinate = some (latitude, longitude) ↔
      ∃ (north : CompactAngle 2 90) (east : CompactAngle 3 180),
        coordinate = north.text ++ east.text ∧ latitude = north.value ∧ longitude = east.value := by
  -- the limits are whole degrees
  have hninety : (90 : ℚ) = (90 : ℕ) := Nat.cast_ofNat.symm
  have hhalf : (180 : ℚ) = (180 : ℕ) := Nat.cast_ofNat.symm
  rw [parseZoneCoordinate, hninety, hhalf, Option.ite_none_left_eq_some]
  constructor
  · rintro ⟨-, h⟩
    obtain ⟨_, hnorth, h⟩ := Option.bind_eq_some_iff.mp h
    obtain ⟨_, heast, h⟩ := Option.bind_eq_some_iff.mp h
    cases h
    obtain ⟨north, hbefore, rfl⟩ := exists_compactAngle hnorth
    obtain ⟨east, hafter, rfl⟩ := exists_compactAngle heast
    refine ⟨north, east, ?_, rfl, rfl⟩
    rw [← hbefore, ← hafter, List.take_append_drop]
  · rintro ⟨north, east, rfl, rfl, rfl⟩
    obtain ⟨second, -, hsecond⟩ := east.exists_sign
    rw [findIdx_isSign, List.take_left, List.drop_left, parseComponent_text, parseComponent_text]
    refine ⟨?_, rfl⟩
    rw [List.length_append, hsecond, List.length_cons]
    omega

-- half a degree south: the sign survives whole degrees of zero
example : parseZoneCoordinate (bytes "-0030+00000") = some (-1 / 2, 0) := by decide +kernel

end SystemSettings
