import SystemSettings.LocationSelection
import SystemSettings.ZoneTable

/-!
# Searching for a place

`location-search.c`: the answers of the geocoding backend, and which of them the search
offers. An offered result can later be chosen, and the record that is built from it has to
pass the validator of the metadata.
-/

namespace SystemSettings

/-- `GeocodeLocation` -/
structure GeocodeLocation : Type where
  /-- degrees north -/
  latitude : Double
  /-- degrees east -/
  longitude : Double
  /-- a description, perhaps -/
  description : Option Text
  deriving DecidableEq

/-- `GeocodePlace`. Any field can be missing. -/
structure GeocodePlace : Type where
  /-- where it is -/
  location : Option GeocodeLocation
  /-- its name -/
  name : Option Text
  /-- its state -/
  state : Option Text
  /-- its country -/
  country : Option Text
  /-- the code of its country -/
  countryCode : Option Text
  deriving DecidableEq

/-- `SS_LOCATION_NAME_CAPACITY` -/
def locationNameCapacity : ℕ := 256

/-- `SS_LOCATION_COUNTRY_CAPACITY` -/
def locationCountryCapacity : ℕ := 8

/-- A description that is not empty. -/
def GeocodeLocation.usable (location : GeocodeLocation) : Option Text :=
  location.description.filter fun description => description ≠ []

/-- `best_description` -/
def bestDescription (place : GeocodePlace) (location : GeocodeLocation) : Text :=
  match location.usable with
  | some description => description
  | none =>
    match place.name with
    | none => bytes "Unnamed location"
    | some name =>
      match place.country with
      | none => name
      | some country =>
        match place.state with
        | none => name ++ bytes ", " ++ country
        | some state => name ++ bytes ", " ++ (state ++ bytes ", " ++ country)

/-- What the loop of `search_finished` makes of one answer; `none` when it skips it. -/
def searchResult (place : Option GeocodePlace) : Option LocationSearchResult :=
  match place with
  | none => none
  | some place =>
    match place.location with
    | none => none
    | some location =>
      if !validLocation location.latitude location.longitude then none
      else
        let description := bestDescription place location
        let countryCode := place.countryCode.getD []
        if locationNameCapacity ≤ description.length then none
        else if locationCountryCapacity ≤ countryCode.length then none
        else some ⟨description, countryCode, location.latitude, location.longitude⟩

/-- The loop of `search_finished`, with the results so far. -/
def searchLoop : List (Option GeocodePlace) → List LocationSearchResult → List LocationSearchResult
  | [], results => results
  | place :: places, results =>
    if results.length < 8 then
      match searchResult place with
      | none => searchLoop places results
      | some item => searchLoop places (results ++ [item])
    else results

/-- `search_finished`: what the callback gets when the backend has given these answers. -/
def searchFinished (places : List (Option GeocodePlace)) : List LocationSearchResult :=
  searchLoop places []

/-! ## What is offered -/

/-- The loop collects results up to the eighth. -/
theorem searchLoop_eq (places : List (Option GeocodePlace)) {results : List LocationSearchResult}
    (h : results.length ≤ 8) :
    searchLoop places results =
      results ++ (places.filterMap searchResult).take (8 - results.length) := by
  induction places generalizing results with
  | nil => simp [searchLoop]
  | cons place places ih =>
    rw [searchLoop]
    split
    · next hlt =>
      cases hplace : searchResult place with
      | none => rw [List.filterMap_cons_none hplace, ih h]
      | some item =>
        have hlength : (results ++ [item]).length ≤ 8 := by
          rw [List.length_append, List.length_singleton]
          omega
        have hroom : 8 - results.length = (8 - (results ++ [item]).length) + 1 := by
          rw [List.length_append, List.length_singleton]
          omega
        dsimp only
        rw [List.filterMap_cons_some hplace, ih hlength, hroom, List.take_succ_cons,
          List.append_assoc, List.singleton_append]
    · next hfull =>
      rw [show 8 - results.length = 0 by omega, List.take_zero, List.append_nil]

theorem searchFinished_eq (places : List (Option GeocodePlace)) :
    searchFinished places = (places.filterMap searchResult).take 8 :=
  searchLoop_eq places (Nat.zero_le 8)

/-- What the search checks of a result, and where its texts come from. -/
theorem searchResult_eq_some {place : Option GeocodePlace} {result : LocationSearchResult}
    (h : searchResult place = some result) :
    ∃ answer location, place = some answer ∧ answer.location = some location ∧
      validLocation result.latitude result.longitude = true ∧
      result.displayName = bestDescription answer location ∧
      result.countryCode = answer.countryCode.getD [] ∧
      result.displayName.length < locationNameCapacity ∧
      result.countryCode.length < locationCountryCapacity := by
  rw [searchResult.eq_def] at h
  split at h
  · exact absurd h.symm (Option.some_ne_none result)
  · next answer =>
    split at h
    · exact absurd h.symm (Option.some_ne_none result)
    · next location hlocation =>
      simp only [Option.ite_none_left_eq_some, Bool.not_eq_true', Bool.not_eq_false, not_le,
        Option.some.injEq] at h
      obtain ⟨hvalid, hname, hcode, rfl⟩ := h
      exact ⟨answer, location, rfl, hlocation, hvalid, rfl, rfl, hname, hcode⟩

/-! ## What can be committed -/

variable {B : Type}

/-- What the code relies on of `g_utf8_validate`: text in ASCII is valid, and a comma and a
blank separate two texts. -/
structure GLib.Utf8 (G : GLib B) : Prop where
  /-- ASCII -/
  ascii : ∀ text : Text, (∀ b ∈ text, b < 128) → G.utf8Validate text = true
  /-- a sequence of bytes never goes on over a separator -/
  separated : ∀ before after : Text,
    G.utf8Validate (before ++ bytes ", " ++ after) =
      (G.utf8Validate before && G.utf8Validate after)

/-- The texts that the description of a place is made of are valid, and there is one. -/
def Describes (G : GLib B) (place : GeocodePlace) (location : GeocodeLocation) : Prop :=
  match location.usable with
  | some description => G.utf8Validate description = true
  | none =>
    match place.name with
    | none => True
    | some name =>
      G.utf8Validate name = true ∧
        match place.country with
        | none => name ≠ []
        | some country =>
          G.utf8Validate country = true ∧ ∀ state ∈ place.state, G.utf8Validate state = true

variable {G : GLib B}

theorem bestDescription_valid_iff (hutf8 : G.Utf8) (place : GeocodePlace)
    (location : GeocodeLocation) :
    bestDescription place location ≠ [] ∧
      G.utf8Validate (bestDescription place location) = true ↔ Describes G place location := by
  rw [bestDescription, Describes]
  cases husable : location.usable with
  | some description =>
    have hne : description ≠ [] := by
      have := (Option.filter_eq_some_iff.mp husable).2
      exact of_decide_eq_true this
    exact ⟨And.right, fun h => ⟨hne, h⟩⟩
  | none =>
    have hpair : ∀ before after : Text, before ++ bytes ", " ++ after ≠ [] ∧
        G.utf8Validate (before ++ bytes ", " ++ after) = true ↔
        G.utf8Validate before = true ∧ G.utf8Validate after = true := by
      intro before after
      have hseparator : bytes ", " ≠ [] := by decide
      rw [hutf8.separated, Bool.and_eq_true, and_iff_right]
      simp [hseparator]
    dsimp only
    cases place.name with
    | none =>
      dsimp only
      exact ⟨fun _ => trivial, fun _ => ⟨by decide, hutf8.ascii _ (by decide +kernel)⟩⟩
    | some name =>
      dsimp only
      cases place.country with
      | none => exact and_comm
      | some country =>
        dsimp only
        cases place.state with
        | none =>
          dsimp only
          rw [hpair]
          simp
        | some state =>
          dsimp only
          rw [hpair, hutf8.separated, Bool.and_eq_true]
          simp [and_comm]

/-- The place has a description, and it and the code of the country are valid text. -/
def Readable (G : GLib B) (place : GeocodePlace) : Prop :=
  (∀ location ∈ place.location, Describes G place location) ∧
    ∀ code ∈ place.countryCode, G.utf8Validate code = true

/-- The system names its zone by a valid identifier, or not at all. -/
def ZoneNamed (system : Option SystemTimeState) : Prop :=
  ∀ state, system = some state → state.timezone = [] ∨ timezoneIdValid state.timezone = true

theorem timezoneIdByte_lt {b : UInt8} (h : timezoneIdByte b = true) : b < 128 := by
  simp only [timezoneIdByte, isDigit, Bool.or_eq_true, Bool.and_eq_true, decide_eq_true_eq,
    beq_iff_eq, UInt8.le_iff_toNat_le] at h
  rw [UInt8.lt_iff_toNat_lt]
  rcases h with (((((h | h) | h) | rfl) | rfl) | rfl) | rfl
  · exact h.2.trans_lt (by decide)
  · exact h.2.trans_lt (by decide)
  · exact h.2.trans_lt (by decide)
  all_goals decide

/-- A record without a zone gets a valid one from the system. -/
theorem inZone_timezoneId (hutf8 : G.Utf8) {system : Option SystemTimeState}
    (hzone : ZoneNamed system) {record : LocationMetadata} (hrecord : record.timezoneId = []) :
    (record.inZone system).timezoneId.length < 128 ∧
      G.utf8Validate (record.inZone system).timezoneId = true := by
  have hempty : G.utf8Validate [] = true := hutf8.ascii [] fun _ h => (List.not_mem_nil h).elim
  cases system with
  | none =>
    rw [LocationMetadata.inZone, hrecord]
    exact ⟨by decide, hempty⟩
  | some state =>
    rw [LocationMetadata.inZone]
    split
    · rw [hrecord]
      exact ⟨by decide, hempty⟩
    · next hnamed =>
      have hvalid : timezoneIdValid state.timezone = true :=
        (hzone state rfl).resolve_left (by simpa using hnamed)
      simp only [timezoneIdValid, Bool.and_eq_true, List.all_eq_true] at hvalid
      refine ⟨(List.length_take_le ..).trans_lt (by decide), hutf8.ascii _ fun b hb => ?_⟩
      exact timezoneIdByte_lt (hvalid.1.2 b (List.mem_of_mem_take hb))

theorem inZone_eq (record : LocationMetadata) (system : Option SystemTimeState) :
    record.inZone system = { record with timezoneId := (record.inZone system).timezoneId } := by
  cases system with
  | none => rfl
  | some state =>
    rw [LocationMetadata.inZone]
    split <;> rfl

/-- A result whose texts fit is a valid record when they are valid and it has a name. -/
theorem metadataValid_candidate (hutf8 : G.Utf8) {system : Option SystemTimeState}
    (hzone : ZoneNamed system) {result : LocationSearchResult}
    (hvalid : validLocation result.latitude result.longitude = true)
    (hname : result.displayName.length < locationNameCapacity)
    (hcode : result.countryCode.length < locationCountryCapacity) :
    metadataValid G (result.candidate.inZone system) = true ↔
      (result.displayName ≠ [] ∧ G.utf8Validate result.displayName = true) ∧
        G.utf8Validate result.countryCode = true := by
  have htimezone := @inZone_timezoneId _ _ hutf8 _ hzone result.candidate rfl
  have hdisplay : result.displayName.take 255 = result.displayName :=
    List.take_of_length_le (Nat.le_of_lt_succ hname)
  have hcountry : result.countryCode.take 7 = result.countryCode :=
    List.take_of_length_le (Nat.le_of_lt_succ hcode)
  rw [locationNameCapacity] at hname
  rw [locationCountryCapacity] at hcode
  simp only [validLocation, Bool.and_eq_true] at hvalid
  rw [inZone_eq]
  generalize (result.candidate.inZone system).timezoneId = timezone at htimezone ⊢
  simp only [metadataValid, LocationSearchResult.candidate, hdisplay, hcountry, Bool.and_eq_true,
    Bool.not_eq_true', decide_eq_true_eq, List.isEmpty_eq_false_iff]
  constructor
  · rintro ⟨⟨⟨⟨⟨⟨⟨⟨⟨⟨⟨⟨hne, -⟩, -⟩, -⟩, hdisplay⟩, hcountry⟩, -⟩, -⟩, -⟩, -⟩, -⟩, -⟩, -⟩
    exact ⟨⟨hne, hdisplay⟩, hcountry⟩
  · rintro ⟨⟨hne, hdisplay⟩, hcountry⟩
    simp [hne, hname, hcode, htimezone, hdisplay, hcountry, hvalid]

theorem metadataValid_iff_readable (hutf8 : G.Utf8) {system : Option SystemTimeState}
    (hzone : ZoneNamed system) {place : GeocodePlace} {result : LocationSearchResult}
    (h : searchResult (some place) = some result) :
    metadataValid G (result.candidate.inZone system) = true ↔ Readable G place := by
  obtain ⟨answer, location, hanswer, hlocation, hvalid, hname, hcode, hshort, hshort'⟩ :=
    searchResult_eq_some h
  cases hanswer
  have hempty : G.utf8Validate [] = true := hutf8.ascii [] fun _ h => (List.not_mem_nil h).elim
  rw [metadataValid_candidate hutf8 hzone hvalid hshort hshort', hname,
    bestDescription_valid_iff hutf8, hcode, Readable, hlocation]
  cases place.countryCode with
  | none => simp [hempty]
  | some code => simp

/-! ## What is offered can be committed -/

/-- The search offers the answer: it has coordinates in range, and its texts fit. -/
def offered (place : Option GeocodePlace) : Bool :=
  place.any fun answer => answer.location.any fun location =>
    validLocation location.latitude location.longitude &&
      decide ((bestDescription answer location).length < locationNameCapacity) &&
      decide ((answer.countryCode.getD []).length < locationCountryCapacity)

theorem isSome_searchResult (place : Option GeocodePlace) :
    (searchResult place).isSome = offered place := by
  cases place with
  | none => rfl
  | some answer =>
    cases hlocation : answer.location with
    | none => simp [searchResult, offered, hlocation]
    | some location =>
      rw [Bool.eq_iff_iff, Option.isSome_iff_exists]
      simp [searchResult, offered, hlocation, and_assoc]

theorem mem_take_filterMap {α β : Type*} {f : α → Option β} {l : List α} {n : ℕ} {b : β} :
    b ∈ (l.filterMap f).take n ↔
      ∃ a ∈ (l.filter fun a => (f a).isSome).take n, f a = some b := by
  induction l generalizing n with
  | nil => simp
  | cons a l ih =>
    cases n with
    | zero => simp
    | succ n =>
      cases h : f a with
      | none =>
        rw [List.filterMap_cons_none h, ih, List.filter_cons_of_neg (by simp [h])]
      | some c =>
        rw [List.filterMap_cons_some h, List.filter_cons_of_pos (by simp [h]), List.take_succ_cons,
          List.take_succ_cons, List.mem_cons, ih]
        simp [h, eq_comm]

/-- The search offers at most eight results, with coordinates in range. What is chosen from
them is a valid record, and staged unless the file cannot be written, if and only if each
of the answers they come from can be described and has valid text. -/
theorem offered_committable_iff (G : GLib B) (hutf8 : G.Utf8)
    (places : List (Option GeocodePlace)) (system : Option SystemTimeState)
    (hzone : ZoneNamed system) :
    (searchFinished places).length ≤ 8 ∧
      (∀ result ∈ searchFinished places,
        validLocation result.latitude result.longitude = true) ∧
      ((∀ result ∈ searchFinished places,
          metadataValid G (result.candidate.inZone system) = true ∧
          ∀ data, G.toData (result.candidate.inZone system) = some data →
            locationMetadataStage G (result.candidate.inZone system) =
              writeFile .locationPending data) ↔
        ∀ place, some place ∈ (places.filter offered).take 8 → Readable G place) := by
  rw [searchFinished_eq]
  refine ⟨List.length_take_le .., fun result hresult => ?_, ?_⟩
  · obtain ⟨place, -, hplace⟩ := mem_take_filterMap.mp hresult
    obtain ⟨-, -, -, -, hvalid, -⟩ := searchResult_eq_some hplace
    exact hvalid
  · have hfilter : (places.filter fun place => (searchResult place).isSome) =
        places.filter offered := by
      simp only [isSome_searchResult]
    simp only [mem_take_filterMap, hfilter]
    constructor
    · intro hvalid place hmem
      have hoffered := (List.mem_filter.mp (List.mem_of_mem_take hmem)).2
      rw [← isSome_searchResult] at hoffered
      obtain ⟨result, hresult⟩ := Option.isSome_iff_exists.mp hoffered
      exact (metadataValid_iff_readable hutf8 hzone hresult).mp
        (hvalid result ⟨some place, hmem, hresult⟩).1
    · rintro hreadable result ⟨place, hmem, hresult⟩
      obtain ⟨answer, -, rfl, -⟩ := searchResult_eq_some hresult
      have hvalid := (metadataValid_iff_readable hutf8 hzone hresult).mpr (hreadable answer hmem)
      refine ⟨hvalid, fun data hdata => ?_⟩
      rw [locationMetadataStage, metadataSavePath, if_pos hvalid, hdata]

/-- An answer with a description. -/
def melbourne : GeocodePlace where
  location := some ⟨.finite (-37), .finite 144, some (bytes "Melbourne")⟩
  name := none
  state := none
  country := none
  countryCode := some (bytes "AU")

theorem offered_committable_iff_melbourne :
    metadataValid GLib.small ((LocationSearchResult.mk (bytes "Melbourne") (bytes "AU")
      (.finite (-37)) (.finite 144)).candidate.inZone none) = true := by
  have hutf8 : GLib.small.Utf8 := ⟨fun _ _ => rfl, fun _ _ => rfl⟩
  have hreadable : Readable GLib.small melbourne := by
    refine ⟨fun location hlocation => ?_, fun _ _ => rfl⟩
    cases hlocation
    exact (show GLib.small.utf8Validate (bytes "Melbourne") = true from rfl)
  refine ((offered_committable_iff GLib.small hutf8 [some melbourne] none
    fun _ h => absurd h.symm (Option.some_ne_none _)).2.2.mpr (fun place hplace => ?_)
    _ (by decide +kernel)).1
  have hmem := List.mem_of_mem_filter (List.mem_of_mem_take hplace)
  rwa [Option.some.inj (List.mem_singleton.mp hmem)]

/-- A place whose name is the empty text, in no country, is offered without a name. -/
theorem offered_committable_counterexample :
    ¬ ∀ (places : List (Option GeocodePlace)) (system : Option SystemTimeState),
      ZoneNamed system → ∀ result ∈ searchFinished places,
        metadataValid GLib.small (result.candidate.inZone system) = true := by
  intro h
  have hresult := h [some ⟨some ⟨.finite (-37), .finite 144, none⟩, some [], none, none, none⟩] none
    (fun _ h => absurd h.symm (Option.some_ne_none _)) ⟨[], [], .finite (-37), .finite 144⟩
    (by decide +kernel)
  exact absurd hresult (by decide +kernel)

end SystemSettings
