import SystemSettings.ManifestAgreement
import SystemSettings.ZoneTable

/-!
# The zone list

The zones that `regional-context.c` offers for selection: `Etc/UTC`, the valid zones of a
table, and the current zone when the table leaves it out. The list is in strictly
ascending byte order, so it is known by its elements.
-/

namespace SystemSettings

/-! ## Building the list -/

/-- `Etc/UTC` -/
def etcUtc : Text := bytes "Etc/UTC"

/-- The list under construction: `zones`, and the set `seen` of its elements. -/
structure ZoneCollection : Type where
  zones : List Text
  seen : List Text

/-- A zone goes into both. -/
def ZoneCollection.add (collection : ZoneCollection) (zone : Text) : ZoneCollection :=
  ⟨collection.zones ++ [zone], zone :: collection.seen⟩

/-- A valid zone goes in when it is not there. -/
def ZoneCollection.offer (collection : ZoneCollection) (zone : Text) : ZoneCollection :=
  if !timezoneIdValid zone || collection.seen.contains zone then collection
  else collection.add zone

/-- The zone field of a line; `none` when the line is empty, a comment or too short. -/
def zoneField (line : Text) : Option Text :=
  if line.isEmpty || line.head? == some hash then none
  else
    match strsplitAtMost line tab 4 with
    | _ :: _ :: timezone :: _ => some (strchomp timezone)
    | _ => none

/-- The loop over the lines. -/
def zoneLoop : List Text → ZoneCollection → ZoneCollection
  | [], collection => collection
  | line :: lines, collection =>
    match zoneField line with
    | none => zoneLoop lines collection
    | some zone => zoneLoop lines (collection.offer zone)

/-- `g_ptr_array_sort` with `timezone_compare` -/
def sortZones (zones : List Text) : List Text := zones.mergeSort comparePaths

/-- The list before it is sorted, without the current zone; `none` as the file when there is no
path or it cannot be read -/
def zonesOfFile (file : Option (List UInt8)) : ZoneCollection :=
  match file with
  | none => ⟨[etcUtc], [etcUtc]⟩
  | some contents => zoneLoop (strsplit (cString contents) newline) ⟨[etcUtc], [etcUtc]⟩

/-- `ss_regional_context_list_timezones_from_file` -/
def listTimezonesFromFile (file : Option (List UInt8)) (current : Option Text) : List Text :=
  match current with
  | none => sortZones (zonesOfFile file).zones
  | some current => sortZones ((zonesOfFile file).offer current).zones

/-- `ss_regional_context_list_timezones`, with the two tables -/
def listTimezones (zoneTab zone1970 : Option (List UInt8)) (current : Option Text) : List Text :=
  let zones := listTimezonesFromFile zoneTab none
  if zones.length = 1 then listTimezonesFromFile zone1970 current
  else
    match current with
    | none => zones
    | some current =>
      if timezoneIdValid current && !zones.contains current then sortZones (zones ++ [current])
      else zones

/-! ## What the list is -/

/-- Byte order: at the first difference the text with the less byte, or the text that ends. -/
def BytesLt (left right : Text) : Prop := List.Lex (· < ·) left right

/-- A non-comment row of the table has three fields or more, and the third is the zone, but
for blanks after it. -/
def RowZone (row zone : Text) : Prop :=
  row.head? ≠ some hash ∧ ∃ countries coordinate timezone comments,
    row.splitOn tab = countries :: coordinate :: timezone :: comments ∧ strchomp timezone = zone

/-- A valid zone of a row of the table. A table that cannot be read has none. -/
def TableZone (file : Option (List UInt8)) (zone : Text) : Prop :=
  (∃ contents, file = some contents ∧ ∃ row ∈ tableRows contents, RowZone row zone) ∧
    timezoneIdValid zone = true

/-- The list for a table and a current zone. -/
structure IsZoneList (file : Option (List UInt8)) (current : Option Text) (zones : List Text) :
    Prop where
  /-- it is in strictly ascending byte order -/
  ascending : zones.Pairwise BytesLt
  /-- its elements -/
  mem_iff : ∀ zone, zone ∈ zones ↔
    zone = etcUtc ∨ TableZone file zone ∨ current = some zone ∧ timezoneIdValid zone = true

/-! ## Byte order -/

theorem comparePaths_iff {left right : Text} :
    comparePaths left right = true ↔ left = right ∨ BytesLt left right := by
  induction left generalizing right with
  | nil =>
    cases right with
    | nil => exact ⟨fun _ => .inl rfl, fun _ => rfl⟩
    | cons b right => exact ⟨fun _ => .inr .nil, fun _ => rfl⟩
  | cons a left ih =>
    cases right with
    | nil =>
      constructor
      · intro h
        cases h
      · rintro (h | h)
        · cases h
        · cases h
    | cons b right =>
      simp only [comparePaths, Bool.or_eq_true, Bool.and_eq_true, decide_eq_true_eq, beq_iff_eq,
        ih, List.cons.injEq]
      constructor
      · rintro (hlt | ⟨rfl, rfl | hlex⟩)
        · exact .inr (.rel hlt)
        · exact .inl ⟨rfl, rfl⟩
        · exact .inr (.cons hlex)
      · rintro (⟨rfl, rfl⟩ | hlex)
        · exact .inr ⟨rfl, .inl rfl⟩
        · cases hlex with
          | rel hlt => exact .inl hlt
          | cons hlex => exact .inr ⟨rfl, .inr hlex⟩

theorem BytesLt.asymm {left right : Text} (h : BytesLt left right) : ¬BytesLt right left := by
  induction h with
  | nil => exact fun h => nomatch h
  | cons _ ih =>
    intro h
    cases h with
    | rel hlt => exact absurd hlt (UInt8.lt_irrefl _)
    | cons h => exact ih h
  | rel hlt =>
    intro h
    cases h with
    | rel hlt' => exact UInt8.lt_asymm hlt hlt'
    | cons h => exact absurd hlt (UInt8.lt_irrefl _)

theorem BytesLt.ne {left right : Text} (h : BytesLt left right) : left ≠ right := by
  rintro rfl
  exact h.asymm h

/-- A list without repetitions is sorted strictly. -/
theorem sortZones_ascending {zones : List Text} (h : zones.Nodup) :
    (sortZones zones).Pairwise BytesLt := by
  have hsorted : (sortZones zones).Pairwise fun a b => comparePaths a b :=
    List.pairwise_mergeSort comparePaths_trans comparePaths_total zones
  have hnodup : (sortZones zones).Nodup := (List.mergeSort_perm zones comparePaths).nodup_iff.mpr h
  refine hsorted.imp₂ ?_ hnodup
  intro a b hle hne
  exact (comparePaths_iff.mp hle).resolve_left hne

@[simp] theorem mem_sortZones {zones : List Text} {zone : Text} :
    zone ∈ sortZones zones ↔ zone ∈ zones := List.mem_mergeSort

/-- The list is known by its elements. -/
theorem IsZoneList.unique {file : Option (List UInt8)} {current : Option Text}
    {zones zones' : List Text} (h : IsZoneList file current zones)
    (h' : IsZoneList file current zones') : zones = zones' := by
  have hperm : zones.Perm zones' :=
    (List.perm_ext_iff_of_nodup (h.ascending.imp BytesLt.ne) (h'.ascending.imp BytesLt.ne)).mpr
      fun zone => (h.mem_iff zone).trans (h'.mem_iff zone).symm
  exact hperm.eq_of_pairwise (fun _ _ _ _ hab hba => absurd hba hab.asymm) h.ascending h'.ascending

/-! ## The loop -/

/-- Nothing is in the list twice, and the set has its elements. -/
structure ZoneCollection.Good (collection : ZoneCollection) : Prop where
  nodup : collection.zones.Nodup
  seen : ∀ zone, zone ∈ collection.seen ↔ zone ∈ collection.zones

theorem ZoneCollection.Good.offer {collection : ZoneCollection} (h : collection.Good)
    (zone : Text) :
    (collection.offer zone).Good ∧ ∀ other, other ∈ (collection.offer zone).zones ↔
      other ∈ collection.zones ∨ other = zone ∧ timezoneIdValid zone = true := by
  unfold ZoneCollection.offer
  split
  · next hskip =>
    simp only [Bool.or_eq_true, Bool.not_eq_true', List.contains_iff_mem] at hskip
    refine ⟨h, fun other => ⟨Or.inl, ?_⟩⟩
    rintro (hmem | ⟨rfl, hvalid⟩)
    · exact hmem
    · rcases hskip with hinvalid | hseen
      · rw [hvalid] at hinvalid
        cases hinvalid
      · exact (h.seen other).mp hseen
  · next hadd =>
    simp only [Bool.or_eq_true, Bool.not_eq_true', List.contains_iff_mem, not_or,
      Bool.not_eq_false] at hadd
    obtain ⟨hvalid, hnew⟩ := hadd
    refine ⟨⟨?_, fun other => ?_⟩, fun other => ?_⟩
    · refine List.nodup_append.mpr ⟨h.nodup, List.nodup_singleton zone, ?_⟩
      rintro a ha b hb rfl
      rw [List.mem_singleton.mp hb] at ha
      exact hnew ((h.seen zone).mpr ha)
    · rw [ZoneCollection.add, List.mem_cons, List.mem_append, List.mem_singleton, h.seen, or_comm]
    · simp only [ZoneCollection.add, List.mem_append, List.mem_singleton, hvalid, and_true]

/-- The code takes the zone of a row. -/
theorem zoneField_eq_some_iff {row zone : Text} : zoneField row = some zone ↔ RowZone row zone := by
  rw [zoneField, Option.ite_none_left_eq_some, Bool.or_eq_true, not_or, List.isEmpty_iff,
    beq_iff_eq]
  constructor
  · rintro ⟨⟨-, hcomment⟩, h⟩
    split at h
    · next countries coordinate timezone rest hfields =>
      obtain ⟨comments, hfields⟩ := strsplitAtMost_four.mp ⟨rest, hfields⟩
      exact ⟨hcomment, countries, coordinate, timezone, comments, hfields, Option.some.inj h⟩
    · cases h
  · rintro ⟨hcomment, countries, coordinate, timezone, comments, hfields, rfl⟩
    have hrow : row ≠ [] := by
      rintro rfl
      exact absurd (congrArg List.length hfields) (by simp)
    obtain ⟨rest, hsplit⟩ := strsplitAtMost_four.mpr ⟨comments, hfields⟩
    refine ⟨⟨hrow, hcomment⟩, ?_⟩
    rw [hsplit]

/-- The loop adds the valid zones of the rows. -/
theorem ZoneCollection.Good.loop {collection : ZoneCollection} (h : collection.Good)
    (rows : List Text) :
    (zoneLoop rows collection).Good ∧ ∀ zone, zone ∈ (zoneLoop rows collection).zones ↔
      zone ∈ collection.zones ∨ (∃ row ∈ rows, RowZone row zone) ∧ timezoneIdValid zone = true := by
  induction rows generalizing collection with
  | nil => exact ⟨h, fun zone => by simp [zoneLoop]⟩
  | cons row rows ih =>
    rw [zoneLoop]
    cases hrow : zoneField row with
    | none =>
      have hnone (zone : Text) : ¬RowZone row zone := fun hzone => by
        rw [zoneField_eq_some_iff.mpr hzone] at hrow
        cases hrow
      refine ⟨(ih h).1, fun zone => ((ih h).2 zone).trans ?_⟩
      simp [hnone]
    | some found =>
      obtain ⟨hoffer, hmem⟩ := h.offer found
      have hfound (zone : Text) : RowZone row zone ↔ zone = found := by
        rw [← zoneField_eq_some_iff, hrow, Option.some.injEq, eq_comm]
      refine ⟨(ih hoffer).1, fun zone => ((ih hoffer).2 zone).trans ?_⟩
      simp only [hmem, List.mem_cons, exists_eq_or_imp, hfound]
      constructor
      · rintro ((hold | ⟨rfl, hvalid⟩) | ⟨hrows, hvalid⟩)
        · exact .inl hold
        · exact .inr ⟨.inl rfl, hvalid⟩
        · exact .inr ⟨.inr hrows, hvalid⟩
      · rintro (hold | ⟨rfl | hrows, hvalid⟩)
        · exact .inl (.inl hold)
        · exact .inl (.inr ⟨rfl, hvalid⟩)
        · exact .inr ⟨hrows, hvalid⟩

/-- The empty text has no line, and its one row no zone. -/
theorem exists_rowZone_strsplit {contents : List UInt8} {zone : Text} :
    (∃ row ∈ strsplit (cString contents) newline, RowZone row zone) ↔
      ∃ row ∈ tableRows contents, RowZone row zone := by
  rw [strsplit, tableRows]
  split
  · next hempty =>
    have hnone : ¬RowZone [] zone := fun hzone => by
      cases zoneField_eq_some_iff.mpr hzone
    simp [hempty, hnone]
  · rfl

/-! ## The functions -/

/-- The zones of a table. -/
theorem zonesOfFile_good (file : Option (List UInt8)) :
    (zonesOfFile file).Good ∧
      ∀ zone, zone ∈ (zonesOfFile file).zones ↔ zone = etcUtc ∨ TableZone file zone := by
  have hstart : ZoneCollection.Good ⟨[etcUtc], [etcUtc]⟩ :=
    ⟨List.nodup_singleton etcUtc, fun _ => Iff.rfl⟩
  cases file with
  | none =>
    refine ⟨hstart, fun zone => ?_⟩
    simp [TableZone, zonesOfFile]
  | some contents =>
    obtain ⟨hgood, hmem⟩ := hstart.loop (strsplit (cString contents) newline)
    refine ⟨hgood, fun zone => (hmem zone).trans ?_⟩
    rw [exists_rowZone_strsplit]
    simp [TableZone]

/-- The list of one table is what it should be. -/
theorem listTimezonesFromFile_isZoneList (file : Option (List UInt8)) (current : Option Text) :
    IsZoneList file current (listTimezonesFromFile file current) := by
  obtain ⟨hgood, hmem⟩ := zonesOfFile_good file
  cases current with
  | none =>
    refine ⟨sortZones_ascending hgood.nodup, fun zone => ?_⟩
    simp [listTimezonesFromFile, hmem]
  | some current =>
    obtain ⟨hoffer, hoffered⟩ := hgood.offer current
    refine ⟨sortZones_ascending hoffer.nodup, fun zone => ?_⟩
    simp only [listTimezonesFromFile, mem_sortZones, hoffered, hmem, Option.some.injEq, or_assoc]
    constructor
    · rintro (hutc | hzone | ⟨rfl, hvalid⟩)
      · exact .inl hutc
      · exact .inr (.inl hzone)
      · exact .inr (.inr ⟨rfl, hvalid⟩)
    · rintro (hutc | hzone | ⟨rfl, hvalid⟩)
      · exact .inl hutc
      · exact .inr (.inl hzone)
      · exact .inr (.inr ⟨rfl, hvalid⟩)

/-- A list has one element when the table yields nothing but `Etc/UTC`. -/
theorem IsZoneList.length_eq_one_iff {file : Option (List UInt8)} {zones : List Text}
    (h : IsZoneList file none zones) :
    zones.length = 1 ↔ ¬∃ zone, zone ≠ etcUtc ∧ TableZone file zone := by
  have hutc : etcUtc ∈ zones := (h.mem_iff etcUtc).mpr (.inl rfl)
  constructor
  · rintro hone ⟨zone, hne, hzone⟩
    obtain ⟨only, rfl⟩ := List.length_eq_one_iff.mp hone
    have hmem : zone ∈ [only] := (h.mem_iff zone).mpr (.inr (.inl hzone))
    rw [List.mem_singleton] at hutc hmem
    exact hne (hmem.trans hutc.symm)
  · intro hnone
    have hlist : IsZoneList file none [etcUtc] := by
      refine ⟨List.pairwise_singleton _ _, fun zone => ?_⟩
      rw [List.mem_singleton]
      refine ⟨Or.inl, ?_⟩
      rintro (heq | hzone | ⟨hcurrent, -⟩)
      · exact heq
      · by_contra hne
        exact hnone ⟨zone, hne, hzone⟩
      · cases hcurrent
    rw [h.unique hlist, List.length_singleton]

/-- A valid zone that is missing is added, and the list is sorted again. -/
theorem IsZoneList.add_current {file : Option (List UInt8)} {zones : List Text}
    (h : IsZoneList file none zones) (current : Text) :
    IsZoneList file (some current)
      (if timezoneIdValid current && !zones.contains current then sortZones (zones ++ [current])
        else zones) := by
  have hnodup : zones.Nodup := h.ascending.imp BytesLt.ne
  split
  · next hadd =>
    simp only [Bool.and_eq_true, Bool.not_eq_true', List.contains_eq_mem,
      decide_eq_false_iff_not] at hadd
    obtain ⟨hvalid, hnew⟩ := hadd
    refine ⟨sortZones_ascending (List.nodup_append.mpr ⟨hnodup, List.nodup_singleton _, ?_⟩),
      fun zone => ?_⟩
    · rintro a ha b hb rfl
      rw [List.mem_singleton.mp hb] at ha
      exact hnew ha
    · simp only [mem_sortZones, List.mem_append, List.mem_singleton, h.mem_iff, reduceCtorEq,
        false_and, or_false, or_assoc, Option.some.injEq]
      refine or_congr_right (or_congr_right ⟨?_, fun hcurrent => hcurrent.1.symm⟩)
      rintro rfl
      exact ⟨rfl, hvalid⟩
  · next hkeep =>
    simp only [Bool.and_eq_true, Bool.not_eq_true', List.contains_eq_mem,
      decide_eq_false_iff_not, not_and, not_not] at hkeep
    refine ⟨h.ascending, fun zone => ⟨fun hzone => ?_, ?_⟩⟩
    · rcases (h.mem_iff zone).mp hzone with heq | htable | ⟨hcurrent, -⟩
      · exact .inl heq
      · exact .inr (.inl htable)
      · cases hcurrent
    · rintro (heq | htable | ⟨hcurrent, hvalid⟩)
      · exact (h.mem_iff zone).mpr (.inl heq)
      · exact (h.mem_iff zone).mpr (.inr (.inl htable))
      · rw [Option.some.inj hcurrent] at hkeep
        exact hkeep hvalid

open scoped Classical in
/-- The list of two tables is that of the first, or of the second when the first yields no zone
but `Etc/UTC`. -/
theorem listTimezones_isZoneList (zoneTab zone1970 : Option (List UInt8)) (current : Option Text) :
    IsZoneList (if ∃ zone, zone ≠ etcUtc ∧ TableZone zoneTab zone then zoneTab else zone1970)
      current (listTimezones zoneTab zone1970 current) := by
  have hfirst := listTimezonesFromFile_isZoneList zoneTab none
  unfold listTimezones
  dsimp only
  by_cases hone : (listTimezonesFromFile zoneTab none).length = 1
  · rw [if_pos hone, if_neg (hfirst.length_eq_one_iff.mp hone)]
    exact listTimezonesFromFile_isZoneList zone1970 current
  · rw [if_neg hone, if_pos (not_not.mp (mt hfirst.length_eq_one_iff.mpr hone))]
    cases current with
    | none => exact hfirst
    | some current => exact hfirst.add_current current

open scoped Classical in
/-- **The zone list is sorted, free of duplicates and complete.** The rows of a table are the
lines of its text. -/
theorem zoneList_complete :
    (∀ file current, IsZoneList file current (listTimezonesFromFile file current)) ∧
    (∀ zoneTab zone1970 current,
      IsZoneList (if ∃ zone, zone ≠ etcUtc ∧ TableZone zoneTab zone then zoneTab else zone1970)
        current (listTimezones zoneTab zone1970 current)) ∧
    (∀ zoneTab zone1970 current, (∃ zone, zone ≠ etcUtc ∧ TableZone zoneTab zone) →
      listTimezones zoneTab zone1970 current = listTimezonesFromFile zoneTab current) := by
  refine ⟨listTimezonesFromFile_isZoneList, listTimezones_isZoneList, ?_⟩
  intro zoneTab zone1970 current hzone
  have hlist := listTimezones_isZoneList zoneTab zone1970 current
  rw [if_pos hzone] at hlist
  exact hlist.unique (listTimezonesFromFile_isZoneList zoneTab current)

/-- A row after a NUL byte is not seen. -/
theorem listTimezonesFromFile_nul :
    ¬∀ (contents : List UInt8) (zone : Text),
      zone ∈ listTimezonesFromFile (some contents) none ↔
        zone = etcUtc ∨ (∃ row ∈ contents.splitOn newline, RowZone row zone) ∧
          timezoneIdValid zone = true := by
  intro h
  have hmem := (h (0 :: newline :: bytes "AU	-3749+14458	Australia/Melbourne")
    (bytes "Australia/Melbourne")).mpr (.inr ⟨⟨bytes "AU	-3749+14458	Australia/Melbourne",
      by decide +kernel, zoneField_eq_some_iff.mp (by decide +kernel)⟩, by decide +kernel⟩)
  rw [listTimezonesFromFile, mem_sortZones] at hmem
  exact absurd hmem (by decide +kernel)

end SystemSettings
