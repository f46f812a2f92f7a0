import Mathlib.Data.List.DropRight
import SystemSettings.PathText
import SystemSettings.TextTable
import SystemSettings.ZoneCoordinate

/-!
# The zone table

The search of `regional-context.c` for the zone whose reference point is nearest to a
coordinate. A table is text: lines of fields that tabs separate, with comments.

GLib's `g_strsplit`, `g_strchomp` and `g_ascii_strcasecmp` are modelled by what they
document. They see a C string, so the text of a file ends at its first NUL byte.
-/

namespace SystemSettings

/-! ## GLib on text -/

/-- The text a C string function sees. -/
def cString (data : List UInt8) : Text := data.takeWhile (· ≠ 0)

/-- `g_strsplit` into any number of pieces. The empty text has none. -/
def strsplit (text : Text) (delimiter : UInt8) : List Text :=
  if text = [] then [] else text.splitOn delimiter

/-- `g_strsplit` into at most `maxTokens` pieces. -/
def strsplitAtMost (text : Text) (delimiter : UInt8) (maxTokens : ℕ) : List Text :=
  if text = [] then [] else splitAtMost delimiter (maxTokens - 1) text

/-- `g_ascii_isspace` -/
def asciiIsSpace (b : UInt8) : Bool := b ∈ [9, 10, 12, 13, 32]

/-- `g_strchomp` -/
def strchomp (text : Text) : Text := text.rdropWhile asciiIsSpace

/-- `g_ascii_tolower` -/
def asciiToLower (b : UInt8) : UInt8 := if 65 ≤ b ∧ b ≤ 90 then b + 32 else b

/-- `g_ascii_strcasecmp` finds no difference. -/
def asciiStrcaseeq (left right : Text) : Bool := left.map asciiToLower == right.map asciiToLower

/-! ## A row -/

/-- tab -/
def tab : UInt8 := 9

/-- line feed -/
def newline : UInt8 := 10

/-- `,` -/
def comma : UInt8 := 44

/-- `#` -/
def hash : UInt8 := 35

/-- `SS_TIMEZONE_ID_CAPACITY` -/
def timezoneIdCapacity : ℕ := 128

/-- A byte that an identifier can have. -/
def timezoneIdByte (b : UInt8) : Bool :=
  decide (65 ≤ b ∧ b ≤ 90) || decide (97 ≤ b ∧ b ≤ 122) || isDigit b ||
    b == separator || b == 95 || b == 45 || b == 43

/-- `timezone_id_valid` -/
def timezoneIdValid (value : Text) : Bool :=
  !(value.isEmpty || decide (timezoneIdCapacity ≤ value.length)) &&
    value.all timezoneIdByte && !decide (dotDot <:+: value)

/-- `country_field_matches` -/
def countryFieldMatches (field countryCode : Text) : Bool :=
  if countryCode.isEmpty then false
  else (strsplit field comma).any fun part => asciiStrcaseeq part countryCode

/-- `longitude_distance` -/
def longitudeDistance (left right : ℚ) : ℚ :=
  let distance := left - right
  let distance := if distance < 0 then -distance else distance
  if 180 < distance then 360 - distance else distance

/-- The zone of a row and its reference point. -/
structure ZoneReference : Type where
  /-- the identifier -/
  timezoneId : Text
  /-- degrees north -/
  latitude : ℚ
  /-- degrees east -/
  longitude : ℚ
  deriving DecidableEq

/-- What `nearest_timezone_in_file` makes of a line; `none` when it skips it. -/
def zoneReference (countryCode line : Text) : Option ZoneReference :=
  if line.isEmpty || line.head? == some hash then none
  else
    match strsplitAtMost line tab 4 with
    | countries :: coordinate :: timezone :: _ =>
      if !countryFieldMatches countries countryCode then none
      else
        match parseZoneCoordinate coordinate with
        | none => none
        | some (latitude, longitude) =>
          let timezone := strchomp timezone
          if timezoneIdValid timezone then some ⟨timezone, latitude, longitude⟩ else none
    | _ => none

/-- The score of a reference point, seen from a coordinate. -/
def ZoneReference.score (latitude longitude : ℚ) (candidate : ZoneReference) : ℚ :=
  let latitudeDistance := candidate.latitude - latitude
  let latitudeDistance := if latitudeDistance < 0 then -latitudeDistance else latitudeDistance
  latitudeDistance + longitudeDistance candidate.longitude longitude

/-- The loop of `nearest_timezone_in_file` over the lines. `best` is the best score so far
and the zone in the output buffer, once there is one. A zone that the buffer cannot hold
ends the search without a result. -/
def nearestTimezoneLoop (countryCode : Text) (latitude longitude : ℚ) (capacity : ℕ) :
    List Text → Option (ℚ × Text) → Option (ℚ × Text)
  | [], best => best
  | line :: lines, best =>
    match zoneReference countryCode line with
    | none => nearestTimezoneLoop countryCode latitude longitude capacity lines best
    | some candidate =>
      let score := candidate.score latitude longitude
      if best.all fun best => score < best.1 then
        if capacity ≤ candidate.timezoneId.length then none
        else
          nearestTimezoneLoop countryCode latitude longitude capacity lines
            (some (score, candidate.timezoneId))
      else nearestTimezoneLoop countryCode latitude longitude capacity lines best

/-- `nearest_timezone_in_file`; `none` as the file when it cannot be read. -/
def nearestTimezoneInFile (file : Option (List UInt8)) (countryCode : Text)
    (latitude longitude : ℚ) (capacity : ℕ) : Option Text :=
  match file with
  | none => none
  | some contents =>
    if capacity = 0 then none
    else
      (nearestTimezoneLoop countryCode latitude longitude capacity
        (strsplit (cString contents) newline) none).map Prod.snd

/-- `ss_regional_context_nearest_timezone`, with the two tables it tries -/
def nearestTimezone (zone1970 zoneTab : Option (List UInt8)) (countryCode : Text)
    (latitude longitude : Double) (capacity : ℕ) : Option Text :=
  match latitude, longitude with
  | .finite latitude, .finite longitude =>
    if capacity = 0 || latitude < -90 || 90 < latitude || longitude < -180 || 180 < longitude then
      none
    else
      (nearestTimezoneInFile zone1970 countryCode latitude longitude capacity).or
        (nearestTimezoneInFile zoneTab countryCode latitude longitude capacity)
  | _, _ => none

/-! ## What a row offers -/

/-- The row is no comment, has three fields or more, and names the country, a valid
coordinate and, without the blanks after it, a valid zone. -/
structure RowOffers (countryCode row : Text) (candidate : ZoneReference) : Prop where
  /-- it is no comment -/
  not_comment : row.head? ≠ some hash
  /-- its fields -/
  fields : ∃ countries coordinate timezone comments,
    row.splitOn tab = countries :: coordinate :: timezone :: comments ∧
    (∃ entry ∈ countries.splitOn comma,
      entry.map asciiToLower = countryCode.map asciiToLower) ∧
    parseZoneCoordinate coordinate = some (candidate.latitude, candidate.longitude) ∧
    strchomp timezone = candidate.timezoneId
  /-- the zone -/
  valid : timezoneIdValid candidate.timezoneId = true

/-- How far two longitudes are apart, whichever way round is shorter. -/
def aroundAntimeridian (left right : ℚ) : ℚ := min |left - right| (360 - |left - right|)

/-- How far a reference point is from a coordinate. -/
def ZoneReference.distance (latitude longitude : ℚ) (candidate : ZoneReference) : ℚ :=
  |candidate.latitude - latitude| + aroundAntimeridian candidate.longitude longitude

/-- The zone of the first of the rows that are nearest to the coordinate. -/
def IsNearestZone (rows : List Text) (countryCode : Text) (latitude longitude : ℚ)
    (timezone : Text) : Prop :=
  ∃ before row after candidate, rows = before ++ row :: after ∧
    RowOffers countryCode row candidate ∧ candidate.timezoneId = timezone ∧
    (∀ other ∈ before, ∀ c, RowOffers countryCode other c →
      candidate.distance latitude longitude < c.distance latitude longitude) ∧
    ∀ other ∈ after, ∀ c, RowOffers countryCode other c →
      candidate.distance latitude longitude ≤ c.distance latitude longitude

theorem ite_neg_eq_abs (x : ℚ) : (if x < 0 then -x else x) = |x| := by
  split
  · next h => exact (abs_of_neg h).symm
  · next h => exact (abs_of_nonneg (le_of_not_gt h)).symm

theorem longitudeDistance_eq (left right : ℚ) :
    longitudeDistance left right = aroundAntimeridian left right := by
  simp only [longitudeDistance, ite_neg_eq_abs, aroundAntimeridian]
  split
  · next h => exact (min_eq_right (by linarith)).symm
  · next h => exact (min_eq_left (by linarith)).symm

theorem ZoneReference.score_eq_distance (latitude longitude : ℚ) (candidate : ZoneReference) :
    candidate.score latitude longitude = candidate.distance latitude longitude := by
  simp only [score, ite_neg_eq_abs, longitudeDistance_eq, distance]

theorem timezoneIdValid_length {value : Text} (h : timezoneIdValid value = true) :
    value.length < timezoneIdCapacity := by
  simp only [timezoneIdValid, Bool.and_eq_true, Bool.not_eq_true', Bool.or_eq_false_iff,
    decide_eq_false_iff_not] at h
  omega

/-- An entry of the list is the code, in whatever case. -/
theorem countryFieldMatches_iff {field countryCode : Text} (hcountry : countryCode ≠ []) :
    countryFieldMatches field countryCode = true ↔
      ∃ entry ∈ field.splitOn comma,
        entry.map asciiToLower = countryCode.map asciiToLower := by
  rw [countryFieldMatches, if_neg (by simpa using hcountry), List.any_eq_true]
  simp only [asciiStrcaseeq, beq_iff_eq, strsplit]
  split
  · next h =>
    subst h
    simp [eq_comm, hcountry]
  · rfl

/-- The first three fields, whether or not the rest is split. -/
theorem strsplitAtMost_four {line : Text} {countries coordinate timezone : Text} :
    (∃ rest, strsplitAtMost line tab 4 = countries :: coordinate :: timezone :: rest) ↔
      ∃ rest, line.splitOn tab = countries :: coordinate :: timezone :: rest := by
  have hthree : ∀ l : List Text, (∃ rest, l = countries :: coordinate :: timezone :: rest) ↔
      l.take 3 = [countries, coordinate, timezone] := by
    intro l
    constructor
    · rintro ⟨rest, rfl⟩
      rfl
    · exact fun h => ⟨l.drop 3, by rw [← List.take_append_drop 3 l, h]; simp⟩
  rw [hthree, hthree, strsplitAtMost]
  split
  · next h =>
    subst h
    simp
  · rw [take_splitAtMost]

/-- The code takes a row when it offers a zone. -/
theorem zoneReference_eq_some_iff {countryCode line : Text} {candidate : ZoneReference}
    (hcountry : countryCode ≠ []) :
    zoneReference countryCode line = some candidate ↔ RowOffers countryCode line candidate := by
  rw [zoneReference, Option.ite_none_left_eq_some, Bool.or_eq_true, not_or, List.isEmpty_iff,
    beq_iff_eq]
  constructor
  · rintro ⟨⟨-, hcomment⟩, h⟩
    split at h
    · next countries coordinate timezone rest hfields =>
      obtain ⟨comments, hfields⟩ := strsplitAtMost_four.mp ⟨rest, hfields⟩
      rw [Option.ite_none_left_eq_some, Bool.not_eq_true', Bool.not_eq_false,
        countryFieldMatches_iff hcountry] at h
      obtain ⟨hentry, h⟩ := h
      split at h
      · exact absurd h.symm (Option.some_ne_none candidate)
      · next latitude longitude hparse =>
        dsimp only at h
        rw [Option.ite_none_right_eq_some, Option.some.injEq] at h
        obtain ⟨hvalid, rfl⟩ := h
        exact ⟨hcomment, ⟨countries, coordinate, timezone, comments, hfields, hentry, hparse, rfl⟩,
          hvalid⟩
    · exact absurd h.symm (Option.some_ne_none candidate)
  · rintro ⟨hcomment, ⟨countries, coordinate, timezone, comments, hfields, hentry, hparse, hchomp⟩,
      hvalid⟩
    have hline : line ≠ [] := by
      rintro rfl
      exact absurd (congrArg List.length hfields) (by simp)
    obtain ⟨rest, hsplit⟩ := strsplitAtMost_four.mpr ⟨comments, hfields⟩
    have hmatches := (countryFieldMatches_iff hcountry).mpr hentry
    refine ⟨⟨hline, hcomment⟩, ?_⟩
    simp only [hsplit, hmatches, hparse, hchomp, hvalid, Bool.not_true, if_true]
    rfl

/-! ## The search -/

/-- The loop keeps the first least candidate when the buffer holds every zone. -/
theorem nearestTimezoneLoop_eq {countryCode : Text} (hcountry : countryCode ≠ [])
    (latitude longitude : ℚ) {capacity : ℕ} (hcapacity : timezoneIdCapacity ≤ capacity)
    (lines : List Text) (best : Option ZoneReference) :
    nearestTimezoneLoop countryCode latitude longitude capacity lines
        (best.map fun c => (c.score latitude longitude, c.timezoneId)) =
      ((lines.filterMap (zoneReference countryCode)).foldl
        (List.argAux fun b c => b.score latitude longitude < c.score latitude longitude) best).map
        fun c => (c.score latitude longitude, c.timezoneId) := by
  induction lines generalizing best with
  | nil => rfl
  | cons line lines ih =>
    rw [nearestTimezoneLoop]
    cases hline : zoneReference countryCode line with
    | none => rw [List.filterMap_cons_none hline, ih]
    | some candidate =>
      have hvalid := ((zoneReference_eq_some_iff hcountry).mp hline).valid
      have hfits : ¬ capacity ≤ candidate.timezoneId.length :=
        Nat.not_le_of_lt ((timezoneIdValid_length hvalid).trans_le hcapacity)
      rw [List.filterMap_cons_some hline, List.foldl_cons, ← ih]
      cases best with
      | none => simp [hfits, List.argAux]
      | some best =>
        by_cases hless : candidate.score latitude longitude < best.score latitude longitude
        · simp [hfits, hless, List.argAux]
        · simp [hless, List.argAux]

/-- The rows of a table, as far as its text goes. -/
def tableRows (contents : List UInt8) : List Text := (cString contents).splitOn newline

/-- The search is the first least of what the rows offer. -/
theorem nearestTimezoneInFile_eq {countryCode : Text} (hcountry : countryCode ≠ [])
    (contents : List UInt8) (latitude longitude : ℚ) {capacity : ℕ}
    (hcapacity : timezoneIdCapacity ≤ capacity) :
    nearestTimezoneInFile (some contents) countryCode latitude longitude capacity =
      (((tableRows contents).filterMap (zoneReference countryCode)).argmin
        (ZoneReference.distance latitude longitude)).map ZoneReference.timezoneId := by
  have hpositive : capacity ≠ 0 := by
    intro h
    rw [h] at hcapacity
    exact absurd hcapacity (by decide)
  have hlines : (strsplit (cString contents) newline).filterMap (zoneReference countryCode) =
      (tableRows contents).filterMap (zoneReference countryCode) := by
    rw [strsplit, tableRows]
    split
    · next h =>
      rw [h]
      rfl
    · rfl
  have hscore :
      ZoneReference.score latitude longitude = ZoneReference.distance latitude longitude :=
    funext fun candidate => candidate.score_eq_distance latitude longitude
  have hloop := nearestTimezoneLoop_eq hcountry latitude longitude hcapacity
    (strsplit (cString contents) newline) none
  rw [hlines, Option.map_none] at hloop
  rw [nearestTimezoneInFile, if_neg hpositive, hloop, Option.map_map, ← hscore]
  rfl

/-- The search finds a zone exactly when a row offers one, and then the zone of the first of
the nearest rows. Rows that offer nothing do not change the answer. -/
theorem nearestTimezoneInFile_first_least (contents : List UInt8) (countryCode : Text)
    (latitude longitude : ℚ) (capacity : ℕ) (hcountry : countryCode ≠ [])
    (hcapacity : timezoneIdCapacity ≤ capacity) :
    ((nearestTimezoneInFile (some contents) countryCode latitude longitude capacity).isSome ↔
      ∃ row ∈ tableRows contents, ∃ candidate, RowOffers countryCode row candidate) ∧
    (∀ timezone,
      nearestTimezoneInFile (some contents) countryCode latitude longitude capacity =
        some timezone ↔
      IsNearestZone (tableRows contents) countryCode latitude longitude timezone) ∧
    (∀ contents' before idle after, tableRows contents = before ++ idle ++ after →
      tableRows contents' = before ++ after →
      (∀ row ∈ idle, ∀ candidate, ¬ RowOffers countryCode row candidate) →
      nearestTimezoneInFile (some contents) countryCode latitude longitude capacity =
        nearestTimezoneInFile (some contents') countryCode latitude longitude capacity) := by
  have hrow : ∀ {row candidate}, zoneReference countryCode row = some candidate ↔
      RowOffers countryCode row candidate := zoneReference_eq_some_iff hcountry
  simp only [nearestTimezoneInFile_eq hcountry _ _ _ hcapacity]
  refine ⟨?_, fun timezone => ?_, fun contents' before idle after hrows hrows' hidle => ?_⟩
  · rw [Option.isSome_map, Option.isSome_iff_ne_none, Ne, List.argmin_eq_none,
      List.filterMap_eq_nil_iff]
    push Not
    simp only [Option.ne_none_iff_exists', hrow]
  · rw [Option.map_eq_some_iff, IsNearestZone]
    constructor
    · rintro ⟨candidate, hargmin, htimezone⟩
      obtain ⟨before, row, after, hrows, hoffers, hbefore, hafter⟩ :=
        argmin_filterMap_eq_some_iff.mp hargmin
      exact ⟨before, row, after, candidate, hrows, hrow.mp hoffers, htimezone,
        fun other hother c hc => hbefore other hother c (hrow.mpr hc),
        fun other hother c hc => hafter other hother c (hrow.mpr hc)⟩
    · rintro ⟨before, row, after, candidate, hrows, hoffers, htimezone, hbefore, hafter⟩
      refine ⟨candidate, argmin_filterMap_eq_some_iff.mpr ?_, htimezone⟩
      exact ⟨before, row, after, hrows, hrow.mpr hoffers,
        fun other hother c hc => hbefore other hother c (hrow.mp hc),
        fun other hother c hc => hafter other hother c (hrow.mp hc)⟩
  · have hsilent : idle.filterMap (zoneReference countryCode) = [] :=
      List.filterMap_eq_nil_iff.mpr fun row hmem =>
        Option.eq_none_iff_forall_ne_some.mpr fun candidate h =>
          hidle row hmem candidate (hrow.mp h)
    rw [hrows, hrows', List.filterMap_append, List.filterMap_append, hsilent, List.append_nil,
      ← List.filterMap_append]

/-- Two Australian rows among a comment, a short row and an empty one. -/
theorem nearestTimezoneInFile_first_least_australia :
    IsNearestZone
      (tableRows (bytes "# zones\nAU\tshort\nAU\t-3749+14458\tAustralia/Melbourne \n" ++
        bytes "\nNZ,au\t-3352+15113\tAustralia/Sydney"))
      (bytes "au") (-36) 145 (bytes "Australia/Melbourne") :=
  ((nearestTimezoneInFile_first_least _ _ _ _ timezoneIdCapacity (by decide) (le_refl _)).2.1 _).mp
    (by decide +kernel)

/-- A NUL byte ends the table for the code: the row after it is not seen. -/
theorem nearestTimezoneInFile_nul :
    ¬ ∀ (contents : List UInt8) (countryCode : Text) (latitude longitude : ℚ) (capacity : ℕ),
      countryCode ≠ [] → timezoneIdCapacity ≤ capacity →
      ((nearestTimezoneInFile (some contents) countryCode latitude longitude capacity).isSome ↔
        ∃ row ∈ contents.splitOn newline, ∃ candidate, RowOffers countryCode row candidate) := by
  intro h
  have hrow :=
    h (0 :: newline :: bytes "AU\t-3749+14458\tAustralia/Melbourne") (bytes "AU") (-36) 145
    timezoneIdCapacity (by decide) (le_refl _)
  have hfound : (nearestTimezoneInFile
      (some (0 :: newline :: bytes "AU\t-3749+14458\tAustralia/Melbourne")) (bytes "AU") (-36) 145
      timezoneIdCapacity).isSome = false := by decide +kernel
  refine absurd (hrow.mpr ⟨bytes "AU\t-3749+14458\tAustralia/Melbourne", by decide +kernel,
    ⟨bytes "Australia/Melbourne", -2269 / 60, 4349 / 30⟩, by decide +kernel, ?_, by decide +kernel⟩)
    (Bool.eq_false_iff.mp hfound)
  exact ⟨bytes "AU", bytes "-3749+14458", bytes "Australia/Melbourne", [], by decide +kernel,
    ⟨bytes "AU", by decide +kernel, rfl⟩, by decide +kernel, by decide +kernel⟩

end SystemSettings
