import Mathlib.Data.List.TakeWhile
import SystemSettings.CliCommit
import SystemSettings.PolicyFile

/-!
# The round trip of a locality record

`metadata_valid`, `metadata_load_path` and `metadata_save_path` of `location-metadata.c` on
the record as C has it, with its arrays. What is saved is valid and loads equal, and what
loads is valid and can be saved again.

GLib's key files are a parameter here key by key: `KeyFileLibrary` is what the code calls,
and `RoundTrips` what GLib documents of it.
-/

namespace SystemSettings

variable {D B : Type}

/-! ## Key files -/

/-- `GKeyFile`, as far as its `Location` group goes. -/
structure KeyFileLibrary (B : Type) : Type 1 where
  KeyFile : Type
  /-- `g_key_file_new` -/
  new : KeyFile
  /-- `g_key_file_set_string` -/
  setString : KeyFile → String → Text → KeyFile
  /-- `g_key_file_set_double` -/
  setDouble : KeyFile → String → Double → KeyFile
  /-- `g_key_file_to_data` -/
  toData : KeyFile → Option B
  /-- `g_key_file_load_from_file` on these contents; `none` when it is malformed -/
  load : B → Option KeyFile
  /-- `g_key_file_get_string` -/
  getString : KeyFile → String → Option Text
  /-- `g_key_file_get_double` -/
  getDouble : KeyFile → String → Option Double
  /-- `g_utf8_validate` -/
  utf8Validate : Text → Bool

variable (L : KeyFileLibrary B)

/-- The keys of the `Location` group that are written. -/
def locationKeys : List String := ["Name", "CountryCode", "Timezone", "Latitude", "Longitude"]

/-- A key file to which only UTF-8 strings and finite numbers have been written. -/
inductive KeyFileLibrary.Written : L.KeyFile → Prop where
  | new : Written L.new
  | setString {keyFile : L.KeyFile} {key : String} {text : Text} : key ∈ locationKeys →
      Written keyFile → L.utf8Validate text = true → 0 ∉ text →
      Written (L.setString keyFile key text)
  | setDouble {keyFile : L.KeyFile} {key : String} {value : Double} : key ∈ locationKeys →
      Written keyFile → value.isFinite = true → Written (L.setDouble keyFile key value)

/-- Under these keys, strings are escaped and read back, numbers are written in full, and a key
file that is written out is the same when it is loaded. -/
structure KeyFileLibrary.RoundTrips : Prop where
  getString_set : ∀ keyFile, ∀ key ∈ locationKeys, ∀ text, L.utf8Validate text = true → 0 ∉ text →
    L.getString (L.setString keyFile key text) key = some text
  getString_set_ne : ∀ keyFile, ∀ key ∈ locationKeys, ∀ key' ∈ locationKeys, ∀ text, key' ≠ key →
    L.getString (L.setString keyFile key text) key' = L.getString keyFile key'
  getString_setDouble : ∀ keyFile, ∀ key ∈ locationKeys, ∀ key' ∈ locationKeys, ∀ value,
    key' ≠ key → L.getString (L.setDouble keyFile key value) key' = L.getString keyFile key'
  getDouble_set : ∀ keyFile, ∀ key ∈ locationKeys, ∀ value, value.isFinite = true →
    L.getDouble (L.setDouble keyFile key value) key = some value
  getDouble_set_ne : ∀ keyFile, ∀ key ∈ locationKeys, ∀ key' ∈ locationKeys, ∀ value, key' ≠ key →
    L.getDouble (L.setDouble keyFile key value) key' = L.getDouble keyFile key'
  load_toData : ∀ keyFile, L.Written keyFile → ∃ data loaded, L.toData keyFile = some data ∧
    L.load data = some loaded ∧ ∀ key ∈ locationKeys,
      L.getString loaded key = L.getString keyFile key ∧
        L.getDouble loaded key = L.getDouble keyFile key
  /-- a C string ends at its first NUL -/
  getString_nul : ∀ keyFile, ∀ key ∈ locationKeys, ∀ text, L.getString keyFile key = some text →
    0 ∉ text

/-- The key file that `metadata_save_path` fills. -/
def KeyFileLibrary.ofStrings (metadata : LocationMetadata) : L.KeyFile :=
  let keyFile := L.setString L.new "Name" metadata.displayName
  let keyFile := L.setString keyFile "CountryCode" metadata.countryCode
  let keyFile := L.setString keyFile "Timezone" metadata.timezoneId
  let keyFile := L.setDouble keyFile "Latitude" metadata.latitude
  L.setDouble keyFile "Longitude" metadata.longitude

/-- The library, as the rest of the locality code sees it. -/
def KeyFileLibrary.toGLib : GLib B where
  KeyFile := L.KeyFile
  load := L.load
  getString := L.getString
  getDouble := L.getDouble
  toData metadata := L.toData (L.ofStrings metadata)
  utf8Validate := L.utf8Validate

/-! ## Records -/

/-- `SsLocationMetadata`, with its arrays -/
structure LocationRecord : Type where
  displayName : Vector UInt8 256
  countryCode : Vector UInt8 8
  timezoneId : Vector UInt8 128
  latitude : Double
  longitude : Double

/-- `{0}` -/
def LocationRecord.zero : LocationRecord :=
  ⟨Vector.replicate 256 0, Vector.replicate 8 0, Vector.replicate 128 0, default, default⟩

/-- The string in an array. -/
def arrayText {n : ℕ} (array : Vector UInt8 n) : Text := array.toList.takeWhile (· ≠ 0)

/-- The record with its strings. -/
def LocationRecord.strings (record : LocationRecord) : LocationMetadata where
  displayName := arrayText record.displayName
  countryCode := arrayText record.countryCode
  timezoneId := arrayText record.timezoneId
  latitude := record.latitude
  longitude := record.longitude

/-- `metadata_valid` -/
def recordValid (value : LocationRecord) : Bool :=
  value.displayName[0] != 0 &&
    value.displayName.toList.contains 0 &&
    value.countryCode.toList.contains 0 &&
    value.timezoneId.toList.contains 0 &&
    L.utf8Validate (arrayText value.displayName) &&
    L.utf8Validate (arrayText value.countryCode) &&
    L.utf8Validate (arrayText value.timezoneId) &&
    value.latitude.isFinite && value.longitude.isFinite &&
    Double.le (.finite (-90)) value.latitude && Double.le value.latitude (.finite 90) &&
    Double.le (.finite (-180)) value.longitude && Double.le value.longitude (.finite 180)

/-- `g_strlcpy` into a cleared array; `none` when the text does not fit. -/
def copyString (n : ℕ) (text : Text) : Option (Vector UInt8 n) :=
  if h : text.length < n then
    some ⟨(text ++ List.replicate (n - text.length) 0).toArray, by simp; omega⟩
  else none

/-- The same for a text that may be missing. -/
def copyOptional (n : ℕ) : Option Text → Option (Vector UInt8 n)
  | some text => copyString n text
  | none => some (Vector.replicate n 0)

/-- The candidate of `metadata_load_path`, if the key file is well formed. -/
def recordParse (data : B) : Option LocationRecord := do
  let keyFile ← L.load data
  let name ← L.getString keyFile "Name"
  let latitude ← L.getDouble keyFile "Latitude"
  let longitude ← L.getDouble keyFile "Longitude"
  let displayName ← copyString 256 name
  let countryCode ← copyOptional 8 (L.getString keyFile "CountryCode")
  let timezoneId ← copyOptional 128 (L.getString keyFile "Timezone")
  let candidate : LocationRecord := ⟨displayName, countryCode, timezoneId, latitude, longitude⟩
  if recordValid L candidate then some candidate else none

/-- `metadata_load_path` on a path in this state -/
def recordLoad : FileState B → LoadStatus × LocationRecord
  | .absent => (.missing, .zero)
  | .unreadable => (.ioError, .zero)
  | .contents data =>
    match recordParse L data with
    | some record => (.ok, record)
    | none => (.invalid, .zero)

/-- `metadata_save_path` -/
def recordSavePath (f : LocalityFile) (record : LocationRecord) : SysM B Bool :=
  if !recordValid L record then pure false
  else
    match L.toData (L.ofStrings record.strings) with
    | some data => writeFile f data
    | none => pure false

/-! ## Arrays and strings -/

theorem length_arrayText_lt_iff {n : ℕ} (array : Vector UInt8 n) :
    (arrayText array).length < n ↔ array.toList.contains 0 = true := by
  have hshorter : arrayText array <+: array.toList := List.takeWhile_prefix _
  have hlength : array.toList.length = n := array.length_toList
  rw [List.contains_iff_mem]
  constructor
  · intro hlt
    by_contra hnul
    have hall : arrayText array = array.toList :=
      List.takeWhile_eq_self_iff.mpr fun b hb => decide_eq_true fun heq => hnul (heq ▸ hb)
    rw [hall, hlength] at hlt
    exact absurd hlt (Nat.lt_irrefl n)
  · intro hnul
    by_contra hge
    have heq : arrayText array = array.toList :=
      hshorter.eq_of_length (by have := hshorter.length_le; omega)
    have hall := List.takeWhile_eq_self_iff.mp heq 0 hnul
    simp at hall

theorem nul_not_mem_arrayText {n : ℕ} (array : Vector UInt8 n) : 0 ∉ arrayText array := by
  intro hmem
  have hne := List.mem_takeWhile_imp hmem
  simp at hne

/-- An array that is copied holds the text. -/
theorem arrayText_copyString {n : ℕ} {text : Text} {array : Vector UInt8 n} (hnul : 0 ∉ text)
    (h : copyString n text = some array) : arrayText array = text := by
  unfold copyString at h
  split at h
  · next hlt =>
    rw [← Option.some.inj h, arrayText]
    have hpad : List.replicate (n - text.length) (0 : UInt8) =
        0 :: List.replicate (n - text.length - 1) 0 := by
      rw [← List.replicate_succ]
      congr 1
      omega
    have hall : ∀ b ∈ text, decide (b ≠ 0) = true := fun b hb =>
      decide_eq_true fun heq => hnul (heq ▸ hb)
    simp only [Vector.toList_mk]
    rw [List.takeWhile_append_of_pos hall, hpad, List.takeWhile_cons_of_neg (by simp),
      List.append_nil]
  · cases h

theorem copyString_isSome {n : ℕ} {text : Text} (h : text.length < n) :
    ∃ array, copyString n text = some array := ⟨_, dif_pos h⟩

/-- What was copied can be copied again from the array. -/
theorem copyString_again {n : ℕ} {text : Text} {array : Vector UInt8 n} (hnul : 0 ∉ text)
    (h : copyString n text = some array) : copyString n (arrayText array) = some array := by
  rw [arrayText_copyString hnul h, h]

theorem copyString_nil {n : ℕ} (h : 0 < n) : copyString n [] = some (Vector.replicate n 0) := by
  rw [copyString, dif_pos (show ([] : Text).length < n from h)]
  congr 1

theorem copyOptional_again {n : ℕ} (hn : 0 < n) {text : Option Text} {array : Vector UInt8 n}
    (hnul : ∀ t, text = some t → 0 ∉ t) (h : copyOptional n text = some array) :
    copyString n (arrayText array) = some array := by
  cases text with
  | some text => exact copyString_again (hnul text rfl) h
  | none => exact copyString_again List.not_mem_nil ((copyString_nil hn).trans h)

/-- The first byte is the terminator when the string is empty. -/
theorem isEmpty_arrayText {n : ℕ} (array : Vector UInt8 (n + 1)) :
    (arrayText array).isEmpty = (array[0] == 0) := by
  obtain ⟨⟨bytes⟩, hsize⟩ := array
  cases bytes with
  | nil => cases hsize
  | cons first rest =>
    by_cases hfirst : first = 0 <;> simp [arrayText, hfirst]

/-! ## The validator -/

/-- The validator on the arrays is the validator on the strings. -/
theorem recordValid_eq (record : LocationRecord) :
    recordValid L record = metadataValid L.toGLib record.strings := by
  have hfits : ∀ {n : ℕ} (array : Vector UInt8 n),
      array.toList.contains 0 = decide ((arrayText array).length < n) := fun array =>
    Bool.eq_iff_iff.mpr (by rw [decide_eq_true_eq, length_arrayText_lt_iff])
  have hname : (!(arrayText record.displayName).isEmpty) = (record.displayName[0] != 0) := by
    rw [isEmpty_arrayText]
    rfl
  unfold recordValid metadataValid LocationRecord.strings
  rw [hfits, hfits, hfits, hname]
  rfl

theorem recordParse_valid {data : B} {record : LocationRecord}
    (h : recordParse L data = some record) : recordValid L record = true := by
  simp only [recordParse, Option.bind_eq_bind, Option.bind_eq_some_iff] at h
  obtain ⟨_, -, _, -, _, -, _, -, _, -, _, -, _, -, h⟩ := h
  split at h
  · next hvalid =>
    cases h
    exact hvalid
  · cases h

/-! ## What is saved and loaded -/

/-- Behind their strings the arrays are cleared. -/
structure LocationRecord.Settled (record : LocationRecord) : Prop where
  displayName : copyString 256 record.strings.displayName = some record.displayName
  countryCode : copyString 8 record.strings.countryCode = some record.countryCode
  timezoneId : copyString 128 record.strings.timezoneId = some record.timezoneId

/-- A record with cleared arrays is given by its strings. -/
theorem LocationRecord.Settled.eq_of_strings {record record' : LocationRecord}
    (h : record.Settled) (h' : record'.Settled) (heq : record'.strings = record.strings) :
    record' = record := by
  have hname := h'.displayName
  have hcountry := h'.countryCode
  have htimezone := h'.timezoneId
  rw [heq] at hname hcountry htimezone
  rw [h.displayName] at hname
  rw [h.countryCode] at hcountry
  rw [h.timezoneId] at htimezone
  have hlatitude : record'.latitude = record.latitude := congrArg LocationMetadata.latitude heq
  have hlongitude : record'.longitude = record.longitude :=
    congrArg LocationMetadata.longitude heq
  obtain ⟨_, _, _, _, _⟩ := record
  obtain ⟨_, _, _, _, _⟩ := record'
  cases hname
  cases hcountry
  cases htimezone
  cases hlatitude
  cases hlongitude
  rfl

variable {L}

/-- What loads has cleared arrays. -/
theorem recordParse_settled (hL : L.RoundTrips) {data : B} {record : LocationRecord}
    (h : recordParse L data = some record) : record.Settled := by
  simp only [recordParse, Option.bind_eq_bind, Option.bind_eq_some_iff] at h
  obtain ⟨keyFile, -, name, hname, _, -, _, -, displayName, hdisplay, countryCode, hcountry,
    timezoneId, htimezone, h⟩ := h
  split at h
  · cases h
    exact ⟨copyString_again (hL.getString_nul _ _ (by decide) _ hname) hdisplay,
      copyOptional_again (by decide) (hL.getString_nul _ _ (by decide)) hcountry,
      copyOptional_again (by decide) (hL.getString_nul _ _ (by decide)) htimezone⟩
  · cases h

/-- A valid record can be written out, and what is written loads with its strings. -/
theorem recordParse_toData (hL : L.RoundTrips) {record : LocationRecord}
    (hvalid : recordValid L record = true) :
    ∃ data loaded, L.toData (L.ofStrings record.strings) = some data ∧
      recordParse L data = some loaded ∧ loaded.strings = record.strings := by
  have hparts := hvalid
  rw [recordValid_eq] at hparts
  simp only [metadataValid, Bool.and_eq_true, decide_eq_true_eq] at hparts
  obtain ⟨⟨⟨⟨⟨⟨⟨⟨⟨⟨⟨⟨-, hname⟩, hcountry⟩, htimezone⟩, hutfName⟩, hutfCountry⟩, hutfTimezone⟩,
    hlatitude⟩, hlongitude⟩, -⟩, -⟩, -⟩, -⟩ := hparts
  have hnulName : 0 ∉ record.strings.displayName := nul_not_mem_arrayText _
  have hnulCountry : 0 ∉ record.strings.countryCode := nul_not_mem_arrayText _
  have hnulTimezone : 0 ∉ record.strings.timezoneId := nul_not_mem_arrayText _
  have hwritten : L.Written (L.ofStrings record.strings) := by
    refine .setDouble (by decide) (.setDouble (by decide) (.setString (by decide)
      (.setString (by decide) (.setString (by decide) .new hutfName hnulName) hutfCountry
        hnulCountry) hutfTimezone hnulTimezone) hlatitude) hlongitude
  obtain ⟨data, keyFile, hdata, hload, hkeys⟩ := hL.load_toData _ hwritten
  -- each key reads back, past the keys that are set after it
  have hgetName : L.getString keyFile "Name" = some record.strings.displayName := by
    rw [(hkeys _ (by decide)).1, KeyFileLibrary.ofStrings]
    rw [hL.getString_setDouble _ _ (by decide) _ (by decide) _ (by decide),
      hL.getString_setDouble _ _ (by decide) _ (by decide) _ (by decide),
      hL.getString_set_ne _ _ (by decide) _ (by decide) _ (by decide),
      hL.getString_set_ne _ _ (by decide) _ (by decide) _ (by decide),
      hL.getString_set _ _ (by decide) _ hutfName hnulName]
  have hgetCountry : L.getString keyFile "CountryCode" = some record.strings.countryCode := by
    rw [(hkeys _ (by decide)).1, KeyFileLibrary.ofStrings]
    rw [hL.getString_setDouble _ _ (by decide) _ (by decide) _ (by decide),
      hL.getString_setDouble _ _ (by decide) _ (by decide) _ (by decide),
      hL.getString_set_ne _ _ (by decide) _ (by decide) _ (by decide),
      hL.getString_set _ _ (by decide) _ hutfCountry hnulCountry]
  have hgetTimezone : L.getString keyFile "Timezone" = some record.strings.timezoneId := by
    rw [(hkeys _ (by decide)).1, KeyFileLibrary.ofStrings]
    rw [hL.getString_setDouble _ _ (by decide) _ (by decide) _ (by decide),
      hL.getString_setDouble _ _ (by decide) _ (by decide) _ (by decide),
      hL.getString_set _ _ (by decide) _ hutfTimezone hnulTimezone]
  have hgetLatitude : L.getDouble keyFile "Latitude" = some record.strings.latitude := by
    rw [(hkeys _ (by decide)).2, KeyFileLibrary.ofStrings]
    rw [hL.getDouble_set_ne _ _ (by decide) _ (by decide) _ (by decide),
      hL.getDouble_set _ _ (by decide) _ hlatitude]
  have hgetLongitude : L.getDouble keyFile "Longitude" = some record.strings.longitude := by
    rw [(hkeys _ (by decide)).2, KeyFileLibrary.ofStrings]
    rw [hL.getDouble_set _ _ (by decide) _ hlongitude]
  obtain ⟨displayName, hcopyName⟩ := copyString_isSome hname
  obtain ⟨countryCode, hcopyCountry⟩ := copyString_isSome hcountry
  obtain ⟨timezoneId, hcopyTimezone⟩ := copyString_isSome htimezone
  let loaded : LocationRecord :=
    ⟨displayName, countryCode, timezoneId, record.latitude, record.longitude⟩
  have hloaded : loaded.strings = record.strings := by
    simp only [loaded, LocationRecord.strings]
    rw [arrayText_copyString hnulName hcopyName, arrayText_copyString hnulCountry hcopyCountry,
      arrayText_copyString hnulTimezone hcopyTimezone]
    rfl
  have hvalidLoaded : recordValid L loaded = true := by
    rw [recordValid_eq, hloaded, ← recordValid_eq, hvalid]
  refine ⟨data, loaded, hdata, ?_, hloaded⟩
  simp only [recordParse, Option.bind_eq_bind, hload, hgetName, hgetCountry, hgetTimezone,
    hgetLatitude, hgetLongitude, copyOptional, hcopyName, hcopyCountry, hcopyTimezone,
    Option.bind_some]
  exact if_pos hvalidLoaded

theorem recordLoad_ok_iff {state : FileState B} {record : LocationRecord} :
    recordLoad L state = (.ok, record) ↔
      ∃ data, state = .contents data ∧ recordParse L data = some record := by
  cases state with
  | contents data =>
    cases hparse : recordParse L data <;> simp [recordLoad, hparse]
  | _ => simp [recordLoad]

/-! ## Saving -/

variable {St : Storage D} {p : Pid} {s : Memory} {w : World D B}

theorem recordSavePath_eq (f : LocalityFile) (record : LocationRecord) :
    recordSavePath L f record = metadataSavePath L.toGLib f record.strings := by
  unfold recordSavePath metadataSavePath
  rw [recordValid_eq]
  cases metadataValid L.toGLib record.strings <;> rfl

/-- The file that a call wrote. -/
theorem World.file_setFile (w : World D B) (f : LocalityFile) (state : FileState B) :
    (w.setFile f state).file f = state := by
  cases f <;> rfl

/-- A save either cannot write its file, or leaves what loads with these strings. -/
theorem recordSavePath_wp (hL : L.RoundTrips) (f : LocalityFile) (record : LocationRecord) :
    (recordSavePath L f record s).wp (aloneMachine St B p)
      (fun tr saved _ w' =>
        (saved = true → recordValid L record = true ∧
          ∃ loaded, recordLoad L (w'.file f) = (.ok, loaded) ∧ loaded.Settled ∧
            loaded.strings = record.strings) ∧
        (saved = false → recordValid L record = true →
          ∃ data w₁, ⟨.writeFile f data, false, w₁⟩ ∈ tr)) w := by
  rw [recordSavePath_eq]
  refine Prog.wp_mono ?_ (metadataSavePath_wp f record.strings)
  rintro tr saved s' w' ⟨-, -, h⟩
  cases saved with
  | true =>
    obtain ⟨data, hvalid, hdata, rfl⟩ := h
    refine ⟨fun _ => ?_, nofun⟩
    have hrecord : recordValid L record = true := (recordValid_eq L record).trans hvalid
    obtain ⟨data', loaded, hdata', hparse, hstrings⟩ := recordParse_toData hL hrecord
    obtain rfl : data' = data := Option.some.inj (hdata'.symm.trans hdata)
    refine ⟨hrecord, loaded, ?_, recordParse_settled hL hparse, hstrings⟩
    rw [World.file_setFile]
    exact recordLoad_ok_iff.mpr ⟨_, rfl, hparse⟩
  | false =>
    obtain ⟨-, hfailed⟩ := h
    refine ⟨nofun, fun _ hvalid => ?_⟩
    obtain ⟨data', -, hdata', -⟩ := recordParse_toData hL hvalid
    have hwritable : L.toGLib.toData record.strings ≠ none := fun hnone =>
      Option.some_ne_none _ (hdata'.symm.trans hnone)
    obtain ⟨data, he⟩ := hfailed ((recordValid_eq L record).symm.trans hvalid) hwritable
    exact ⟨data, w, he⟩

/-- Saving and loading a locality record: what is saved was valid and loads as a record
with the same strings and coordinates; what loads is valid, and if it is saved again it
loads equal unless its file cannot be written; and a load that fails leaves the record
cleared and tells an absent file from an unreadable one and from one without a valid
record. -/
theorem recordSavePath_round_trip (hL : L.RoundTrips) :
    (∀ (f : LocalityFile) (record : LocationRecord) (s : Memory) (w : World D B)
      (tr : List (Event (Sys B) (World D B))) (s' : Memory) (w' : World D B),
      (recordSavePath L f record s).Exec (aloneMachine St B p) w tr true s' w' →
        recordValid L record = true ∧
        ∃ loaded, recordLoad L (w'.file f) = (.ok, loaded) ∧
          loaded.strings = record.strings) ∧
    (∀ (state : FileState B) (record : LocationRecord), recordLoad L state = (.ok, record) →
      recordValid L record = true ∧
      ∀ (f : LocalityFile) (s : Memory) (w : World D B)
        (tr : List (Event (Sys B) (World D B))) (saved : Bool) (s' : Memory) (w' : World D B),
        (recordSavePath L f record s).Exec (aloneMachine St B p) w tr saved s' w' →
          saved = true ∧ recordLoad L (w'.file f) = (.ok, record) ∨
          saved = false ∧ ∃ data w₁, ⟨.writeFile f data, false, w₁⟩ ∈ tr) ∧
    (∀ state : FileState B, (recordLoad L state).1 ≠ .ok → (recordLoad L state).2 = .zero) ∧
    (∀ state : FileState B,
      ((recordLoad L state).1 = .missing ↔ state = .absent) ∧
      ((recordLoad L state).1 = .ioError ↔ state = .unreadable) ∧
      ((recordLoad L state).1 = .invalid ↔
        ∃ data, state = .contents data ∧ ¬ ∃ record, recordParse L data = some record)) := by
  refine ⟨fun f record s w tr s' w' h => ?_, fun state record hload => ?_,
    fun state hstatus => ?_, fun state => ?_⟩
  · have hsaved := (h.of_wp (recordSavePath_wp hL f record)).1 rfl
    obtain ⟨hvalid, loaded, hloaded, -, hstrings⟩ := hsaved
    exact ⟨hvalid, loaded, hloaded, hstrings⟩
  · obtain ⟨data, rfl, hparse⟩ := recordLoad_ok_iff.mp hload
    have hvalid := recordParse_valid L hparse
    refine ⟨hvalid, fun f s w tr saved s' w' h => ?_⟩
    have hsaved := h.of_wp (recordSavePath_wp hL f record)
    cases saved with
    | true =>
      obtain ⟨-, loaded, hloaded, hsettled, hstrings⟩ := hsaved.1 rfl
      have heq : loaded = record :=
        (recordParse_settled hL hparse).eq_of_strings hsettled hstrings
      exact .inl ⟨rfl, heq ▸ hloaded⟩
    | false => exact .inr ⟨rfl, hsaved.2 rfl hvalid⟩
  · cases state with
    | contents data =>
      cases hparse : recordParse L data with
      | none => simp [recordLoad, hparse]
      | some record => simp [recordLoad, hparse] at hstatus
    | _ => rfl
  · cases state with
    | contents data =>
      cases hparse : recordParse L data <;> simp [recordLoad, hparse]
    | _ => simp [recordLoad]

/-! ## A concrete run -/

/-- A small library for concrete runs: a key file is its strings and its numbers. -/
def KeyFileLibrary.small :
    KeyFileLibrary ((String → Option Text) × (String → Option Double)) where
  KeyFile := (String → Option Text) × (String → Option Double)
  new := (fun _ => none, fun _ => none)
  setString keyFile key text :=
    (fun key' => if key' = key then some text else keyFile.1 key', keyFile.2)
  setDouble keyFile key value :=
    (keyFile.1, fun key' => if key' = key then some value else keyFile.2 key')
  toData := some
  load := some
  getString keyFile key := (keyFile.1 key).map (·.takeWhile (· ≠ 0))
  getDouble keyFile key := keyFile.2 key
  utf8Validate _ := true

theorem KeyFileLibrary.small_roundTrips : KeyFileLibrary.small.RoundTrips where
  getString_set keyFile key _ text _ hnul := by
    have htext : text.takeWhile (· ≠ 0) = text :=
      List.takeWhile_eq_self_iff.mpr fun b hb => decide_eq_true fun heq => hnul (heq ▸ hb)
    simpa [small] using htext
  getString_set_ne keyFile key _ key' _ text hne := by simp [small, hne]
  getString_setDouble keyFile key _ key' _ value _ := rfl
  getDouble_set keyFile key _ value _ := by simp [small]
  getDouble_set_ne keyFile key _ key' _ value hne := by simp [small, hne]
  load_toData keyFile _ := ⟨keyFile, keyFile, rfl, rfl, fun _ _ => ⟨rfl, rfl⟩⟩
  getString_nul keyFile key _ text h := by
    obtain ⟨text', -, rfl⟩ := Option.map_eq_some_iff.mp h
    intro hmem
    have hne := List.mem_takeWhile_imp hmem
    simp at hne

/-- A record for `A`, with a byte behind the end of its country code. -/
def recordA : LocationRecord where
  displayName := Vector.ofFn fun i => if i.val = 0 then 65 else 0
  countryCode := #v[0, 66, 0, 0, 0, 0, 0, 0]
  timezoneId := Vector.replicate 128 0
  latitude := .finite 52
  longitude := .finite (-2)

/-- Save a record on a fresh system. -/
def playSave (record : LocationRecord) :=
  World.play (platformStorage Common.small PolicyFormat.small) 0
    (recordSavePath KeyFileLibrary.small .locationIni record Memory.empty) (World.fresh .absent) []

theorem playSave_exec (record : LocationRecord) (hsaved : (playSave record).2.1 = true) :
    (recordSavePath KeyFileLibrary.small .locationIni record Memory.empty).Exec
      (aloneMachine (platformStorage Common.small PolicyFormat.small) _ 0) (World.fresh .absent)
      (playSave record).1 true (playSave record).2.2.1 (playSave record).2.2.2 :=
  hsaved ▸ World.play_exec _ _ (fun _ => rfl) _ _ _

theorem recordSavePath_round_trip_recordA :
    (playSave recordA).2.1 = true ∧ recordValid KeyFileLibrary.small recordA = true ∧
      ∃ loaded, recordLoad KeyFileLibrary.small ((playSave recordA).2.2.2.file .locationIni) =
        (.ok, loaded) ∧ loaded.strings = recordA.strings := by
  have hsaved : (playSave recordA).2.1 = true := by decide +kernel
  refine ⟨hsaved, ?_⟩
  generalize recordA = record at hsaved
  exact (recordSavePath_round_trip KeyFileLibrary.small_roundTrips).1 _ _ _ _ _ _ _
    (playSave_exec record hsaved)

end SystemSettings
