import SystemSettings.PayloadBounds
import SystemSettings.Timeouts
import SystemSettings.Transition
import SystemSettings.ZoneTable

/-!
# The status cards of the home page

`home-status.c`: the texts that are read from the system, and the ticker that reads them. While
the page is on the screen the ticker has one timer and listens to the desktop's settings and to
the network; otherwise it has neither.

The kernel's uptime is read without the locale, by a grammar of its own.
-/

namespace SystemSettings

/-! ## The uptime -/

/-- The optional fraction of `ss_home_status_parse_uptime_seconds`: what follows it -/
def skipFraction : Text → Option Text
  | 46 :: rest =>
    if (rest.takeWhile isDigit).isEmpty then none else some (rest.dropWhile isDigit)
  | rest => some rest

/-- `ss_home_status_parse_uptime_seconds`. The text ends with a zero byte, which is no blank. -/
def parseUptimeSeconds (contents : Text) : Option ℕ :=
  if (contents.takeWhile isDigit).isEmpty then none
  else
    match strtoull (contents.takeWhile isDigit) with
    | none => none
    | some seconds =>
      match skipFraction (contents.dropWhile isDigit) with
      | some (blank :: _) => if asciiIsSpace blank then some seconds else none
      | _ => none

/-- `format_uptime`, of what `/proc/uptime` contains -/
def formatUptime (contents : Option Text) : Text :=
  match contents.bind parseUptimeSeconds with
  | none => bytes "Unknown"
  | some total =>
    let days := total / 86400
    let hours := total % 86400 / 3600
    let minutes := total % 3600 / 60
    if 0 < days then bytes (toString days ++ "d " ++ toString hours ++ "h")
    else if 0 < hours then bytes (toString hours ++ "h " ++ toString minutes ++ "m")
    else bytes (toString minutes ++ "m")

/-- A fraction: nothing, or a period and digits. -/
inductive IsFraction : Text → Prop where
  | none : IsFraction []
  | some {digits : Text} (hne : digits ≠ []) (hdigits : ∀ b ∈ digits, isDigit b = true) :
      IsFraction (46 :: digits)

theorem dropWhile_isDigit {digits : Text} {b : UInt8} (rest : Text)
    (hdigits : ∀ b ∈ digits, isDigit b = true) (hb : isDigit b = false) :
    (digits ++ b :: rest).takeWhile isDigit = digits ∧
      (digits ++ b :: rest).dropWhile isDigit = b :: rest := by
  have hstop : ¬ isDigit b = true := by simp [hb]
  constructor
  · rw [List.takeWhile_append_of_pos hdigits, List.takeWhile_cons_of_neg hstop, List.append_nil]
  · rw [List.dropWhile_append_of_pos hdigits, List.dropWhile_cons_of_neg hstop]

theorem takeWhile_isDigit (text : Text) : ∀ b ∈ text.takeWhile isDigit, isDigit b = true :=
  fun _ hb => List.mem_takeWhile_imp hb

/-- A blank is no digit and no period. -/
theorem asciiIsSpace_other {blank : UInt8} (h : asciiIsSpace blank = true) :
    isDigit blank = false ∧ blank ≠ 46 := by
  simp only [asciiIsSpace, List.mem_cons, List.not_mem_nil, or_false, decide_eq_true_eq] at h
  rcases h with rfl | rfl | rfl | rfl | rfl <;> decide

/-- A fraction is skipped when a blank follows. -/
theorem skipFraction_iff {text rest : Text} {blank : UInt8} (hblank : asciiIsSpace blank = true) :
    skipFraction text = some (blank :: rest) ↔
      ∃ fraction, IsFraction fraction ∧ text = fraction ++ blank :: rest := by
  obtain ⟨hnodigit, hnoperiod⟩ := asciiIsSpace_other hblank
  constructor
  · intro h
    unfold skipFraction at h
    split at h
    · next rest' =>
      obtain ⟨hdigits, heq⟩ := Option.ite_none_left_eq_some.mp h
      refine ⟨46 :: rest'.takeWhile isDigit, .some ?_ (takeWhile_isDigit rest'), ?_⟩
      · simpa using hdigits
      · rw [List.cons_append, ← Option.some.inj heq, List.takeWhile_append_dropWhile]
    · exact ⟨[], .none, Option.some.inj h⟩
  · rintro ⟨fraction, hfraction, rfl⟩
    cases hfraction with
    | none =>
      unfold skipFraction
      split
      · next heq => exact absurd (List.cons.inj heq).1 hnoperiod
      · rfl
    | some hne hdigits =>
      obtain ⟨htake, hdrop⟩ := dropWhile_isDigit rest hdigits hnodigit
      simp [skipFraction, htake, hdrop, hne]

/-- **The uptime is read exactly.** The file is accepted exactly when it begins with digits, an
optional fraction and a blank, and the digits say a number of 64 bits; that is what is read. -/
theorem uptime_read_exactly (contents : Text) (seconds : ℕ) :
    parseUptimeSeconds contents = some seconds ↔
      ∃ whole fraction blank rest, contents = whole ++ fraction ++ blank :: rest ∧ whole ≠ [] ∧
        (∀ b ∈ whole, isDigit b = true) ∧ IsFraction fraction ∧ asciiIsSpace blank = true ∧
        decimalValue whole = seconds ∧ seconds < 2 ^ 64 := by
  constructor
  · intro h
    rw [parseUptimeSeconds] at h
    obtain ⟨hdigits, h⟩ := Option.ite_none_left_eq_some.mp h
    split at h
    · cases h
    · next number hnumber =>
      split at h
      · next blank rest hskip =>
        obtain ⟨hblank, rfl⟩ : asciiIsSpace blank = true ∧ number = seconds := by
          obtain ⟨hblank, heq⟩ := Option.ite_none_right_eq_some.mp h
          exact ⟨hblank, Option.some.inj heq⟩
        obtain ⟨hsmall, hvalue⟩ := Option.ite_none_right_eq_some.mp hnumber
        obtain ⟨fraction, hfraction, hrest⟩ := (skipFraction_iff hblank).mp hskip
        refine ⟨contents.takeWhile isDigit, fraction, blank, rest, ?_, ?_,
          takeWhile_isDigit contents, hfraction, hblank, Option.some.inj hvalue, ?_⟩
        · rw [List.append_assoc, ← hrest, List.takeWhile_append_dropWhile]
        · simpa using hdigits
        · rw [← Option.some.inj hvalue]
          exact hsmall
      · cases h
  · rintro ⟨whole, fraction, blank, rest, rfl, hne, hdigits, hfraction, hblank, rfl, hsmall⟩
    -- the digits end where the fraction or the blank begins
    obtain ⟨b, tail, hb, hnodigit⟩ : ∃ b tail, fraction ++ blank :: rest = b :: tail ∧
        isDigit b = false := by
      cases hfraction with
      | none => exact ⟨blank, rest, rfl, (asciiIsSpace_other hblank).1⟩
      | some _ _ => exact ⟨46, _, rfl, by decide⟩
    obtain ⟨htake, hdrop⟩ := dropWhile_isDigit tail hdigits hnodigit
    rw [← hb, ← List.append_assoc] at htake hdrop
    have hskip : skipFraction (fraction ++ blank :: rest) = some (blank :: rest) :=
      (skipFraction_iff hblank).mpr ⟨fraction, hfraction, rfl⟩
    have hwhole : whole.isEmpty = false := by simp [hne]
    rw [parseUptimeSeconds, htake, hdrop, hskip, hwhole, strtoull, if_pos hsmall]
    exact if_pos hblank

/-! ## What is shown -/

/-- `GNetworkConnectivity` -/
inductive NetworkConnectivity : Type where
  | localOnly
  | limited
  | portal
  | full
  /-- any other value -/
  | other
  deriving DecidableEq

/-- `network_connectivity_text` -/
def networkConnectivityText : NetworkConnectivity → Text
  | .localOnly => bytes "Local network only"
  | .limited => bytes "Limited connectivity"
  | .portal => bytes "Sign-in required"
  | .full => bytes "Full internet access"
  | .other => bytes "Connectivity unknown"

/-- `current_language_label` -/
def currentLanguageLabel (languages : List Text) : Text :=
  languages.head?.getD (bytes "Unknown")

/-- `current_format_locale_label` -/
def currentFormatLocaleLabel (localeName : Option Text) : Text :=
  (localeName.filter fun name => !name.isEmpty).getD (bytes "Unknown")

/-- What a refresh reads. -/
structure StatusReading : Type where
  /-- the locale of times -/
  localeName : Option Text
  /-- the languages of the interface, the best one first -/
  languages : List Text
  /-- the theme's name and whether a dark one is preferred, where there are settings -/
  settings : Option (Option Text × Bool)
  /-- available, metered, and connectivity, where there is a monitor -/
  network : Option (Bool × Bool × NetworkConnectivity)
  /-- the identifier of the local zone -/
  zone : Option Text
  /-- `/proc/uptime` -/
  uptimeFile : Option Text

/-- `SsHomeStatusSnapshot` -/
structure HomeStatusSnapshot : Type where
  uptime : Text
  timezone : Text
  regionValue : Text
  regionDetail : Text
  appearanceValue : Text
  appearanceDetail : Text
  networkValue : Text
  networkDetail : Text
  deriving DecidableEq

/-- `ss_home_status_snapshot_read` -/
def homeStatusSnapshotRead (reading : StatusReading) : HomeStatusSnapshot :=
  let formatLocale := currentFormatLocaleLabel reading.localeName
  let (themeName, preferDark) := reading.settings.getD (none, false)
  let (online, metered, connectivity) := reading.network.getD (false, false, .localOnly)
  { uptime := formatUptime reading.uptimeFile
    timezone := reading.zone.getD (bytes "Unknown")
    regionValue := formatLocale
    regionDetail := bytes "Date/time format locale • " ++ formatLocale ++
      bytes " • Interface language • " ++ currentLanguageLabel reading.languages
    appearanceValue := themeName.getD (bytes "System theme")
    appearanceDetail := bytes (if preferDark then "Dark" else "Light") ++ bytes " presentation"
    networkValue := bytes (if online then "Connected" else "Offline")
    networkDetail := networkConnectivityText connectivity ++
      bytes (if metered then " • Metered" else "") }

/-! ## The ticker -/

/-- The signals that the ticker listens to. -/
inductive HomeSignal : Type where
  /-- `notify::gtk-theme-name` -/
  | themeName
  /-- `notify::gtk-application-prefer-dark-theme` -/
  | themeDark
  /-- `notify::network-available` -/
  | networkAvailable
  /-- `notify::network-metered` -/
  | networkMetered
  /-- `notify::connectivity` -/
  | networkConnectivity
  deriving DecidableEq

/-- The signals of the objects that are there, in the order of the source. -/
def homeSignals (settings network : Bool) : List HomeSignal :=
  (if settings then [.themeName, .themeDark] else []) ++
    if network then [.networkAvailable, .networkMetered, .networkConnectivity] else []

/-- `HomeStatusTicker`, with what it looks at. -/
structure StatusTicker : Type where
  /-- the labels -/
  labels : HomeStatusSnapshot
  /-- `source_id` -/
  sourceId : ℕ
  /-- `settings` is not null -/
  settings : Bool
  /-- `network` is not null -/
  network : Bool
  /-- the identifiers of the handlers; 0 is none -/
  handlerId : HomeSignal → ℕ
  /-- the main loop's timeouts that call `refresh_home_status` -/
  timeouts : Timeouts
  /-- the identifier of the next handler, and the handlers that are connected -/
  nextHandler : ℕ
  connected : List (ℕ × HomeSignal)
  mapped : Bool
  /-- the page has not been destroyed -/
  alive : Bool

namespace StatusTicker

/-- `refresh_home_status` -/
def refresh (reading : StatusReading) (ticker : StatusTicker) : StatusTicker :=
  { ticker with labels := homeStatusSnapshotRead reading }

/-- `g_signal_connect`, and the identifier is kept. -/
def connect (ticker : StatusTicker) (signal : HomeSignal) : StatusTicker :=
  { ticker with
    handlerId := Function.update ticker.handlerId signal ticker.nextHandler
    nextHandler := ticker.nextHandler + 1
    connected := (ticker.nextHandler, signal) :: ticker.connected }

/-- `g_signal_handler_disconnect`, where there is an identifier. -/
def disconnect (ticker : StatusTicker) (signal : HomeSignal) : StatusTicker :=
  { ticker with
    connected :=
      if ticker.handlerId signal ≠ 0 then
        ticker.connected.filter fun handler => handler.1 ≠ ticker.handlerId signal
      else ticker.connected }

/-- The signals of the objects that the ticker holds. -/
def signals (ticker : StatusTicker) : List HomeSignal := homeSignals ticker.settings ticker.network

/-- The first part of `stop_home_status_ticker` -/
def stopTimer (ticker : StatusTicker) : StatusTicker :=
  if ticker.sourceId ≠ 0 then
    { ticker with timeouts := ticker.timeouts.remove ticker.sourceId, sourceId := 0 }
  else ticker

/-- `stop_home_status_ticker` -/
def stop (ticker : StatusTicker) : StatusTicker :=
  { ticker.signals.foldl disconnect ticker.stopTimer with
    handlerId := fun _ => 0
    settings := false
    network := false }

/-- `start_home_status_ticker`; whether there are settings and a monitor is what it is told. -/
def start (settings network : Bool) (reading : StatusReading) (ticker : StatusTicker) :
    StatusTicker :=
  if ticker.sourceId ≠ 0 then ticker
  else
    let ticker := { ticker with settings := settings, network := network }
    let ticker := (ticker.signals.foldl connect ticker).refresh reading
    { ticker with
      sourceId := ticker.timeouts.next
      timeouts := ticker.timeouts.add 60 }

/-- `ss_home_status_attach`, for labels with these texts -/
def attach (labels : HomeStatusSnapshot) : StatusTicker :=
  ⟨labels, 0, false, false, fun _ => 0, .none, 1, [], false, true⟩

end StatusTicker

/-- What can happen next, with what the calls of it read. -/
inductive StatusAction : Type where
  /-- the page comes to the screen -/
  | map (settings network : Bool) (reading : StatusReading)
  /-- the page leaves the screen -/
  | unmap
  /-- the timer expires; it goes on -/
  | timer (id : ℕ) (reading : StatusReading)
  /-- a signal is emitted, and this handler is called -/
  | signal (id : ℕ) (signal : HomeSignal) (reading : StatusReading)
  /-- the page is destroyed -/
  | destroy

/-- One step; `none` where the action cannot happen. -/
def statusStep (ticker : StatusTicker) : StatusAction → Option StatusTicker
  | .map settings network reading =>
    if ticker.mapped then none
    else
      let ticker := { ticker with mapped := true }
      some (if ticker.alive then ticker.start settings network reading else ticker)
  | .unmap =>
    if ticker.mapped then
      let ticker := { ticker with mapped := false }
      some (if ticker.alive then ticker.stop else ticker)
    else none
  | .timer id reading =>
    if id ∈ ticker.timeouts.pending.map Timeout.id then some (ticker.refresh reading) else none
  | .signal id signal reading =>
    if (id, signal) ∈ ticker.connected then some (ticker.refresh reading) else none
  | .destroy => if ticker.alive then some { ticker.stop with alive := false } else none

/-! ## Handlers and their identifiers -/

/-- The identifiers stand for the handlers that are connected, one for each signal. -/
structure StatusTicker.Linked (ticker : StatusTicker) : Prop where
  mem : ∀ id signal, (id, signal) ∈ ticker.connected ↔ id ≠ 0 ∧ ticker.handlerId signal = id
  nodup : (ticker.connected.map Prod.snd).Nodup
  next_pos : 0 < ticker.nextHandler

namespace StatusTicker

variable {ticker : StatusTicker} {reading : StatusReading}

theorem connect_handlerId (ticker : StatusTicker) (signal other : HomeSignal) :
    (ticker.connect signal).handlerId other =
      if other = signal then ticker.nextHandler else ticker.handlerId other :=
  Function.update_apply ..

/-- A handler is connected where there is none. -/
theorem Linked.connect (h : ticker.Linked) {signal : HomeSignal}
    (hnone : ticker.handlerId signal = 0) : (ticker.connect signal).Linked where
  mem id other := by
    have hmem := h.mem id other
    have hpos := h.next_pos
    have hcons : (id, other) ∈ (ticker.connect signal).connected ↔
        id = ticker.nextHandler ∧ other = signal ∨ (id, other) ∈ ticker.connected := by
      simp [StatusTicker.connect]
    rw [connect_handlerId, hcons, hmem]
    by_cases hother : other = signal
    · subst hother
      rw [if_pos rfl, hnone]
      simp only [and_true]
      omega
    · rw [if_neg hother]
      simp [hother]
  nodup := by
    refine List.nodup_cons.mpr ⟨fun hmem => ?_, h.nodup⟩
    obtain ⟨⟨id, _⟩, hconnected, rfl⟩ := List.mem_map.mp hmem
    obtain ⟨hid, heq⟩ := (h.mem _ _).mp hconnected
    exact hid (heq ▸ hnone)
  next_pos := Nat.succ_pos _

/-- Connecting touches the handlers only. -/
theorem foldl_connect_frame (signals : List HomeSignal) (ticker : StatusTicker) :
    signals.foldl StatusTicker.connect ticker =
      { ticker with
        handlerId := (signals.foldl StatusTicker.connect ticker).handlerId
        nextHandler := (signals.foldl StatusTicker.connect ticker).nextHandler
        connected := (signals.foldl StatusTicker.connect ticker).connected } := by
  induction signals generalizing ticker with
  | nil => rfl
  | cons signal rest ih => exact ih (ticker.connect signal)

/-- Handlers are connected, one after the other. -/
theorem Linked.foldl_connect {signals : List HomeSignal} (h : ticker.Linked)
    (hnodup : signals.Nodup) (hnone : ∀ signal ∈ signals, ticker.handlerId signal = 0) :
    (signals.foldl StatusTicker.connect ticker).Linked ∧
      ∀ signal, (signals.foldl StatusTicker.connect ticker).handlerId signal ≠ 0 ↔
        signal ∈ signals ∨ ticker.handlerId signal ≠ 0 := by
  induction signals generalizing ticker with
  | nil => exact ⟨h, by simp⟩
  | cons first rest ih =>
    obtain ⟨hfirst, hrest⟩ := List.nodup_cons.mp hnodup
    have hnone' : ∀ signal ∈ rest, (ticker.connect first).handlerId signal = 0 := by
      intro signal hsignal
      have hne : signal ≠ first := fun heq => hfirst (heq ▸ hsignal)
      rw [connect_handlerId, if_neg hne]
      exact hnone signal (List.mem_cons_of_mem _ hsignal)
    obtain ⟨hlinked, hhandlers⟩ := ih (h.connect (hnone first List.mem_cons_self)) hrest hnone'
    refine ⟨hlinked, fun signal => (hhandlers signal).trans ?_⟩
    rw [connect_handlerId, List.mem_cons]
    have hpos := h.next_pos
    by_cases heq : signal = first
    · simp [heq, Nat.ne_of_gt hpos]
    · simp [heq]

/-- Disconnecting touches the connections only. -/
theorem foldl_disconnect_frame (signals : List HomeSignal) (ticker : StatusTicker) :
    signals.foldl disconnect ticker =
      { ticker with connected := (signals.foldl disconnect ticker).connected } := by
  induction signals generalizing ticker with
  | nil => rfl
  | cons signal rest ih => exact ih (ticker.disconnect signal)

/-- Handlers are disconnected, one after the other. -/
theorem mem_foldl_disconnect {signals : List HomeSignal} {handler : ℕ × HomeSignal} :
    handler ∈ (signals.foldl disconnect ticker).connected ↔
      handler ∈ ticker.connected ∧
        ∀ signal ∈ signals, ticker.handlerId signal ≠ 0 → handler.1 ≠ ticker.handlerId signal := by
  induction signals generalizing ticker with
  | nil => simp
  | cons first rest ih =>
    have hfirst : handler ∈ (ticker.disconnect first).connected ↔
        handler ∈ ticker.connected ∧
          (ticker.handlerId first ≠ 0 → handler.1 ≠ ticker.handlerId first) := by
      by_cases hid : ticker.handlerId first = 0
      · simp [disconnect, hid]
      · simp [disconnect, hid]
    have hsame : (ticker.disconnect first).handlerId = ticker.handlerId := rfl
    rw [List.foldl_cons, ih, hfirst, hsame, List.forall_mem_cons, and_assoc]

/-! ## The ticker of a page -/

theorem nodup_signals (ticker : StatusTicker) : ticker.signals.Nodup := by
  rw [signals, homeSignals]
  split_ifs <;> decide

/-- What is kept by all calls: the identifiers stand for one timer of a minute and for one handler
of each signal, and a ticker that has no timer has no handler. -/
structure Kept (ticker : StatusTicker) : Prop where
  tracks : ticker.timeouts.Tracks ticker.sourceId (· = 60)
  linked : ticker.Linked
  listening : ∀ signal, ticker.handlerId signal ≠ 0 ↔ signal ∈ ticker.signals
  idle : ticker.sourceId = 0 → ticker.signals = []

/-- The timer runs exactly while the page is shown. -/
def Armed (ticker : StatusTicker) : Prop :=
  ticker.sourceId ≠ 0 ↔ ticker.mapped = true ∧ ticker.alive = true

theorem kept_attach (labels : HomeStatusSnapshot) : (attach labels).Kept where
  tracks := Timeouts.tracks_none
  linked := ⟨fun id signal => by simp [attach, eq_comm], List.nodup_nil, Nat.one_pos⟩
  listening signal := by simp [attach, signals, homeSignals]
  idle _ := rfl

/-- What a stop leaves. -/
theorem stopTimer_eq (ticker : StatusTicker) :
    ticker.stopTimer =
      { ticker with timeouts := ticker.stopTimer.timeouts, sourceId := 0 } := by
  rw [stopTimer]
  split
  · rfl
  · next hid => rw [← Decidable.not_not.mp hid]

/-- No handler is left by a stop. -/
theorem Kept.stop_connected (h : ticker.Kept) : ticker.stop.connected = [] := by
  refine List.eq_nil_iff_forall_not_mem.mpr fun handler hhandler => ?_
  obtain ⟨id, signal⟩ := handler
  obtain ⟨hmem, hother⟩ := mem_foldl_disconnect.mp hhandler
  rw [stopTimer_eq] at hmem hother
  obtain ⟨hid, heq⟩ := (h.linked.mem id signal).mp hmem
  have hne : ticker.handlerId signal ≠ 0 := heq ▸ hid
  exact hother signal ((h.listening signal).mp hne) hne heq.symm

/-- No timer is left by a stop. -/
theorem Kept.stop_timer (h : ticker.Kept) :
    ticker.stop.timeouts.Tracks ticker.stop.sourceId (· = 60) := by
  rw [stop, foldl_disconnect_frame]
  change ticker.stopTimer.timeouts.Tracks ticker.stopTimer.sourceId _
  rw [stopTimer]
  split
  · exact h.tracks.remove
  · exact h.tracks

theorem stop_sourceId (ticker : StatusTicker) : ticker.stop.sourceId = 0 := by
  rw [stop, foldl_disconnect_frame, stopTimer_eq]

theorem stop_frame (ticker : StatusTicker) :
    ticker.stop.mapped = ticker.mapped ∧ ticker.stop.nextHandler = ticker.nextHandler := by
  rw [stop, foldl_disconnect_frame, stopTimer_eq]
  exact ⟨rfl, rfl⟩

theorem Kept.stop (h : ticker.Kept) : ticker.stop.Kept where
  tracks := h.stop_timer
  linked := by
    refine ⟨fun id signal => ?_, ?_, ?_⟩
    · change (id, signal) ∈ ticker.stop.connected ↔ id ≠ 0 ∧ 0 = id
      simp [h.stop_connected, eq_comm]
    · simp [h.stop_connected]
    · rw [(stop_frame ticker).2]
      exact h.linked.next_pos
  listening signal := by simp [StatusTicker.stop, signals, homeSignals]
  idle _ := rfl

theorem Kept.refresh (h : ticker.Kept) : (ticker.refresh reading).Kept :=
  ⟨h.tracks, ⟨h.linked.mem, h.linked.nodup, h.linked.next_pos⟩, h.listening, h.idle⟩

/-- The ticker does not look at the page. -/
theorem Kept.setPage (h : ticker.Kept) (mapped alive : Bool) :
    Kept { ticker with mapped := mapped, alive := alive } :=
  ⟨h.tracks, ⟨h.linked.mem, h.linked.nodup, h.linked.next_pos⟩, h.listening, h.idle⟩

/-- What a start does. -/
theorem Kept.start (h : ticker.Kept) (hid : ticker.sourceId = 0) (settings network : Bool)
    (reading : StatusReading) :
    (ticker.start settings network reading).Kept ∧
      (ticker.start settings network reading).sourceId ≠ 0 ∧
      (ticker.start settings network reading).mapped = ticker.mapped ∧
      (ticker.start settings network reading).alive = ticker.alive := by
  have hnone (signal : HomeSignal) : ticker.handlerId signal = 0 := by
    have hlistening := h.listening signal
    simpa [h.idle hid] using hlistening
  let told : StatusTicker := { ticker with settings := settings, network := network }
  have htold : told.Linked := ⟨h.linked.mem, h.linked.nodup, h.linked.next_pos⟩
  obtain ⟨hlinked, hhandlers⟩ := htold.foldl_connect told.nodup_signals fun signal _ => hnone signal
  have hframe := foldl_connect_frame told.signals told
  have hnext : (told.signals.foldl connect told).timeouts.next ≠ 0 := by
    rw [hframe]
    exact Nat.ne_of_gt ticker.timeouts.next_pos
  rw [StatusTicker.start, if_neg (not_not.mpr hid)]
  refine ⟨⟨?_, ⟨hlinked.mem, hlinked.nodup, hlinked.next_pos⟩, ?_, ?_⟩, hnext, ?_, ?_⟩
  · have htracks := h.tracks
    rw [hid] at htracks
    change ((told.signals.foldl connect told).timeouts.add 60).Tracks
      (told.signals.foldl connect told).timeouts.next _
    rw [hframe]
    exact htracks.add rfl
  · intro signal
    have hsame : (told.signals.foldl connect told).signals = told.signals := by rw [hframe]; rfl
    refine (hhandlers signal).trans ?_
    change _ ↔ signal ∈ (told.signals.foldl connect told).signals
    rw [hsame]
    simp [told, hnone signal]
  · exact fun hzero => absurd hzero hnext
  · change (told.signals.foldl connect told).mapped = _
    rw [hframe]
  · change (told.signals.foldl connect told).alive = _
    rw [hframe]

/-- A start notes what it is told of. -/
theorem start_objects (hid : ticker.sourceId = 0) (settings network : Bool)
    (reading : StatusReading) :
    (ticker.start settings network reading).settings = settings ∧
      (ticker.start settings network reading).network = network := by
  let told : StatusTicker := { ticker with settings := settings, network := network }
  have hframe := foldl_connect_frame told.signals told
  rw [StatusTicker.start, if_neg (not_not.mpr hid)]
  change (told.signals.foldl connect told).settings = _ ∧
    (told.signals.foldl connect told).network = _
  rw [hframe]
  exact ⟨rfl, rfl⟩

/-- What one step keeps. -/
theorem Kept.step {ticker' : StatusTicker} {action : StatusAction} (h : ticker.Kept)
    (harmed : ticker.Armed) (hstep : statusStep ticker action = some ticker') :
    ticker'.Kept ∧ ticker'.Armed := by
  cases action with
  | map settings network reading =>
    obtain ⟨hhidden, hsome⟩ := Option.ite_none_left_eq_some.mp hstep
    obtain rfl := Option.some.inj hsome
    have hid : ticker.sourceId = 0 := by
      by_contra hid
      exact hhidden (harmed.mp hid).1
    have hshown := h.setPage true ticker.alive
    by_cases halive : ticker.alive = true
    · obtain ⟨hkept, hnext, hmapped, hstill⟩ := hshown.start hid settings network reading
      rw [if_pos halive]
      exact ⟨hkept, iff_of_true hnext ⟨hmapped, hstill.trans halive⟩⟩
    · rw [if_neg halive]
      exact ⟨hshown, by simp [Armed, hid, halive]⟩
  | unmap =>
    obtain ⟨-, hsome⟩ := Option.ite_none_right_eq_some.mp hstep
    obtain rfl := Option.some.inj hsome
    have hhidden := h.setPage false ticker.alive
    split
    · exact ⟨hhidden.stop, by simp [Armed, stop_sourceId, (stop_frame _).1]⟩
    · next halive =>
      have hid : ticker.sourceId = 0 := by
        by_contra hid
        exact halive (harmed.mp hid).2
      exact ⟨hhidden, by simp [Armed, hid]⟩
  | timer id reading =>
    obtain ⟨-, hsome⟩ := Option.ite_none_right_eq_some.mp hstep
    exact Option.some.inj hsome ▸ ⟨h.refresh, harmed⟩
  | signal id signal reading =>
    obtain ⟨-, hsome⟩ := Option.ite_none_right_eq_some.mp hstep
    exact Option.some.inj hsome ▸ ⟨h.refresh, harmed⟩
  | destroy =>
    obtain ⟨-, hsome⟩ := Option.ite_none_right_eq_some.mp hstep
    obtain rfl := Option.some.inj hsome
    exact ⟨h.stop.setPage ticker.stop.mapped false, by simp [Armed, stop_sourceId]⟩

end StatusTicker

/-- What the page was last told of when it came to the screen: whether there are settings, and
whether there is a monitor. -/
def StatusAction.told : StatusAction → Bool × Bool → Bool × Bool
  | .map settings network _, _ => (settings, network)
  | _, before => before

/-- One step, with what the page has been told of. -/
def statusStepTold (x : StatusTicker × (Bool × Bool)) (action : StatusAction) :
    Option (StatusTicker × (Bool × Bool)) :=
  (statusStep x.1 action).map fun ticker => (ticker, action.told x.2)

/-- A ticker that runs holds what the page was told of. -/
def StatusTicker.Holds (ticker : StatusTicker) (told : Bool × Bool) : Prop :=
  ticker.sourceId ≠ 0 → ticker.settings = told.1 ∧ ticker.network = told.2

theorem StatusTicker.Holds.step {ticker ticker' : StatusTicker} {told : Bool × Bool}
    {action : StatusAction} (h : ticker.Holds told) (harmed : ticker.Armed)
    (hstep : statusStep ticker action = some ticker') : ticker'.Holds (action.told told) := by
  cases action with
  | map settings network reading =>
    obtain ⟨hhidden, hsome⟩ := Option.ite_none_left_eq_some.mp hstep
    obtain rfl := Option.some.inj hsome
    -- a page that is hidden has no timer, so the start does not return at once
    have hid : ticker.sourceId = 0 := by
      by_contra hid
      exact hhidden (harmed.mp hid).1
    intro hrunning
    split at hrunning
    · next halive =>
      rw [if_pos halive]
      have hmapped : { ticker with mapped := true }.sourceId = 0 := hid
      exact start_objects hmapped settings network reading
    · exact absurd hid hrunning
  | unmap =>
    obtain ⟨-, hsome⟩ := Option.ite_none_right_eq_some.mp hstep
    obtain rfl := Option.some.inj hsome
    intro hrunning
    split at hrunning
    · exact absurd (stop_sourceId _) hrunning
    · next halive => exact absurd (harmed.mp hrunning).2 halive
  | timer id reading | signal id signal reading =>
    obtain ⟨-, hsome⟩ := Option.ite_none_right_eq_some.mp hstep
    exact Option.some.inj hsome ▸ h
  | destroy =>
    obtain ⟨-, hsome⟩ := Option.ite_none_right_eq_some.mp hstep
    obtain rfl := Option.some.inj hsome
    exact fun hrunning => absurd (stop_sourceId _) hrunning

/-- **The ticker follows the page.** There is one timer, of a minute, exactly while the page is on
the screen. Then the ticker has one handler for each signal of the settings and of the monitor that
the page was told of when it came there; otherwise it has none, so that nothing calls a ticker that
has been freed. -/
theorem status_ticker_follows_page {ticker : StatusTicker} {told : Bool × Bool}
    (h : Visits statusStepTold (fun x => ∃ labels, x.1 = .attach labels) (fun _ => True)
      (ticker, told)) :
    ticker.timeouts.pending.map Timeout.delay =
        (if ticker.mapped && ticker.alive then [60] else []) ∧
      (∀ signal, (∃ id, (id, signal) ∈ ticker.connected) ↔
        ticker.mapped = true ∧ ticker.alive = true ∧ signal ∈ homeSignals told.1 told.2) ∧
      (ticker.connected.map Prod.snd).Nodup := by
  obtain ⟨hkept, harmed, htold⟩ : ticker.Kept ∧ ticker.Armed ∧ ticker.Holds told := by
    refine Visits.invariant (I := fun x => x.1.Kept ∧ x.1.Armed ∧ x.1.Holds x.2) ?_ ?_ h
    · rintro ⟨_, told⟩ ⟨labels, rfl⟩
      exact ⟨StatusTicker.kept_attach labels,
        by simp [StatusTicker.Armed, StatusTicker.attach], fun hrunning => absurd rfl hrunning⟩
    · intro x action x' _ hx hstep _
      obtain ⟨ticker', hticker, rfl⟩ := Option.map_eq_some_iff.mp hstep
      obtain ⟨hkept, harmed⟩ := hx.1.step hx.2.1 hticker
      exact ⟨hkept, harmed, hx.2.2.step hx.2.1 hticker⟩
  have hconnected (signal : HomeSignal) :
      (∃ id, (id, signal) ∈ ticker.connected) ↔ signal ∈ ticker.signals := by
    rw [← hkept.listening signal]
    constructor
    · rintro ⟨id, hmem⟩
      obtain ⟨hid, heq⟩ := (hkept.linked.mem id signal).mp hmem
      exact heq ▸ hid
    · exact fun hid => ⟨_, (hkept.linked.mem _ signal).mpr ⟨hid, rfl⟩⟩
  refine ⟨hkept.tracks.map_delay ?_, fun signal => ?_, hkept.linked.nodup⟩
  · rw [Bool.and_eq_true]
    exact harmed
  · rw [hconnected signal]
    constructor
    · intro hsignal
      have hid : ticker.sourceId ≠ 0 := by
        intro hid
        rw [hkept.idle hid] at hsignal
        cases hsignal
      obtain ⟨hmapped, halive⟩ := harmed.mp hid
      rw [StatusTicker.signals, (htold hid).1, (htold hid).2] at hsignal
      exact ⟨hmapped, halive, hsignal⟩
    · rintro ⟨hmapped, halive, hsignal⟩
      have hid := harmed.mpr ⟨hmapped, halive⟩
      rw [StatusTicker.signals, (htold hid).1, (htold hid).2]
      exact hsignal

/-- A page that has come to the screen where there is a monitor and there are no settings. -/
def StatusTicker.online (reading : StatusReading) : StatusTicker :=
  { attach (homeStatusSnapshotRead reading) with mapped := true }.start false true reading

/-- The monitor is listened to, one handler for each of its signals. -/
theorem status_ticker_follows_page_online :
    (StatusTicker.online ⟨none, [], none, none, none, none⟩).timeouts.pending.map Timeout.delay =
        [60] ∧
      ∀ signal, (∃ id, (id, signal) ∈
          (StatusTicker.online ⟨none, [], none, none, none, none⟩).connected) ↔
        signal ∈ [HomeSignal.networkAvailable, .networkMetered, .networkConnectivity] := by
  have hfollows := @status_ticker_follows_page
    (.online ⟨none, [], none, none, none, none⟩) (false, true)
    (.next (.map false true ⟨none, [], none, none, none, none⟩)
      (.start (s := (_, (true, true))) ⟨_, rfl⟩ trivial) rfl trivial)
  refine ⟨hfollows.1, fun signal => (hfollows.2.1 signal).trans ?_⟩
  constructor
  · exact fun hsignal => hsignal.2.2
  · exact fun hsignal => ⟨rfl, rfl, hsignal⟩

end SystemSettings
