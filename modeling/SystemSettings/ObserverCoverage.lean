import SystemSettings.PolicyFileObserver

/-!
# When the observer misses nothing

The observer does not look again after it has started a watch, and of what
happened before only the existence of the target is compared. In the runs in
which neither matters it misses no change: while it is behind, an event, a bind
or a retry is still to come, and while a change is unseen, so is the call that
will see it.
-/

namespace SystemSettings

variable (depth : ℕ)

/-! ## The runs in which nothing is missed -/

/-- `bind_monitor` has found the directory that it is going to watch, or is about to. -/
def ObserverWorld.aboutToWatch (s : ObserverWorld) : Bool :=
  match s.phase with
  | .bind _ candidate => candidate ≤ s.existing
  | .monitor _ _ => true
  | _ => false

/-- A bind is under way that does not lead to the callback. -/
def ObserverWorld.bindsSilently (s : ObserverWorld) : Bool :=
  match s.phase with
  | .bind .new _ | .bind .retry _ | .monitor .new _ | .monitor .retry _ => true
  | _ => false

/-- A bind of `monitor_changed` is about to start its monitor. -/
def ObserverWorld.rebinding (s : ObserverWorld) : Bool :=
  match s.phase with
  | .monitor (.monitorChanged _ _) _ => true
  | _ => false

/-- What does not disturb the observer: no directory is made between the look of
a bind and the start of its watch; while its directory is not watched the target is
only renamed onto, and not while a bind that runs no callback is under way or due;
and no monitor fails to start while such a rename over a target that is recorded
as existing is unseen. -/
def undisturbed (s : ObserverWorld) : ObserverAction → Bool
  | .createDirectory => !s.aboutToWatch
  | .rename => s.watch = some depth || !s.retry && !s.bindsSilently
  | .delete => s.watch = some depth
  | .call started => started || !s.rebinding || !s.targetExists || s.seen = s.changes
  | _ => true

/-- The steps that do not disturb the observer. -/
def calmStep (s : ObserverWorld) (a : ObserverAction) : Option ObserverWorld :=
  if undisturbed depth s a then observerStep depth s a else none

/-! ## The invariant -/

/-- What is known in each phase. -/
def ObserverWorld.InPhase (s : ObserverWorld) : Prop :=
  match s.phase with
  | .idle | .callback => True
  | .desired targetEvent oldExists candidate =>
    oldExists = s.targetExists ∧ candidate ≤ depth ∧ (targetEvent = true → s.watch = some depth) ∧
      ∀ k, s.watch = some k → k ≤ candidate
  | .bind caller candidate =>
    candidate ≤ depth ∧ s.existing ≤ candidate ∧ s.watch ≠ some depth ∧
      ∀ targetEvent oldExists, caller = .monitorChanged targetEvent oldExists →
        oldExists = s.targetExists
  | .monitor caller directory =>
    directory = s.existing ∧ s.watch ≠ some depth ∧
      ∀ targetEvent oldExists, caller = .monitorChanged targetEvent oldExists →
        oldExists = s.targetExists
  | .query _ oldExists _ => oldExists = s.targetExists

/-- A call is still to come that looks for the nearest directory again. -/
def ObserverWorld.WillBind (s : ObserverWorld) : Prop :=
  s.events ≠ [] ∨ s.retry = true ∨
    match s.phase with
    | .desired _ _ candidate => ∀ k, s.watch = some k → k < candidate
    | .bind _ _ | .monitor _ _ => True
    | _ => False

/-- A call of the callback is still to come. -/
def ObserverWorld.WillNotify (s : ObserverWorld) : Prop :=
  .target ∈ s.events ∨ s.target = true ∧ s.watch ≠ some depth ∧ s.events ≠ [] ∧
      s.bindsSilently = false ∨
    match s.phase with
    | .callback => True
    | .desired targetEvent _ candidate =>
      targetEvent = true ∨ s.target = true ∧ s.watch ≠ some depth ∧
        ∀ k, s.watch = some k → k < candidate
    | .bind (.monitorChanged _ _) _ | .monitor (.monitorChanged _ _) _ => s.target = true
    | .query targetEvent oldExists rebound =>
      targetEvent = true ∨ oldExists ≠ s.target ∨ rebound = true ∧ s.target = true
    | _ => False

/-- The invariant of the undisturbed runs. -/
structure ObserverInvariant (s : ObserverWorld) : Prop where
  bounded : s.existing ≤ depth
  early : s.existing < depth → s.target = false ∧ s.targetExists = false ∧ s.seen = s.changes
  watched : ∀ k, s.watch = some k → k ≤ s.existing
  targetEvents : .target ∈ s.events → s.watch = some depth
  monitored : s.events ≠ [] → s.watch ≠ none
  inPhase : s.InPhase depth
  settled : s.watch = some depth → s.retry = false
  unwatched : s.watch = none → s.retry = true ∨ s.bindsSilently = true
  behind : ∀ k, s.watch = some k → k < s.existing → s.WillBind
  owed : s.seen = s.changes ∨ s.WillNotify depth
  retrying : s.retry = true → s.seen = s.changes ∨ s.phase = .callback ∨
    ∃ targetEvent oldExists rebound,
      s.phase = .query targetEvent oldExists rebound ∧ oldExists ≠ s.target

/-- When nothing is under way nothing is missing. -/
theorem ObserverInvariant.faithful {s : ObserverWorld} (h : ObserverInvariant depth s) :
    s.Faithful depth := by
  rintro ⟨hphase, hevents, hretry⟩ hexisting
  have hwatch : s.watch = some depth := by
    cases hwatch : s.watch with
    | none =>
      have hunwatched := h.unwatched hwatch
      simp [hretry, ObserverWorld.bindsSilently, hphase] at hunwatched
    | some k =>
      have hk := h.watched k hwatch
      have hbehind := h.behind k hwatch
      simp only [ObserverWorld.WillBind, hevents, hretry, hphase] at hbehind
      rw [Option.some.injEq]
      by_contra hne
      simp at hbehind
      omega
  refine ⟨hwatch, h.owed.resolve_right ?_⟩
  simp [ObserverWorld.WillNotify, hevents, hphase]

/-! ## What the file system does -/

/-- The events that a watch reports are more than before. -/
theorem report_cases (s : ObserverWorld) (directory : ℕ) (event : MonitorEvent) :
    s.report directory event = s.events ∧ s.watch ≠ some directory ∨
      s.report directory event = s.events ++ [event] ∧ s.watch = some directory := by
  by_cases hwatch : s.watch = some directory
  · exact .inr ⟨if_pos hwatch, hwatch⟩
  · exact .inl ⟨if_neg hwatch, hwatch⟩

/-- More events, and directories that were missing before: everything still to
come is still to come. -/
theorem ObserverInvariant.grow {s : ObserverWorld} (h : ObserverInvariant depth s) {existing : ℕ}
    {events : List MonitorEvent} (hexisting : s.existing ≤ existing) (hbounded : existing ≤ depth)
    (hevents : events = s.events ∨ events = s.events ++ [.other] ∧ s.watch ≠ none)
    (hcalm : s.existing < existing → s.aboutToWatch = false ∧ existing = s.existing + 1 ∧
      ∀ k, s.watch = some k → k = s.existing → events ≠ []) :
    ObserverInvariant depth { s with existing := existing, events := events } := by
  have htarget : .target ∈ events ↔ .target ∈ s.events := by
    rcases hevents with rfl | ⟨rfl, -⟩ <;> simp
  have hmore : s.events ≠ [] → events ≠ [] := by
    rcases hevents with rfl | ⟨rfl, -⟩ <;> simp
  refine ⟨hbounded, fun hlt => h.early (Nat.lt_of_le_of_lt hexisting hlt),
    fun k hk => Nat.le_trans (h.watched k hk) hexisting,
    fun hin => h.targetEvents (htarget.mp hin), ?_, ?_, h.settled, h.unwatched, ?_, ?_, h.retrying⟩
  · rcases hevents with rfl | ⟨rfl, hwatch⟩
    · exact h.monitored
    · exact fun _ => hwatch
  · have hphase := h.inPhase
    simp only [ObserverWorld.InPhase] at hphase ⊢
    cases hcase : s.phase with
    | bind caller candidate =>
      simp only [hcase] at hphase ⊢
      refine ⟨hphase.1, ?_, hphase.2.2⟩
      rcases Nat.eq_or_lt_of_le hexisting with rfl | hlt
      · exact hphase.2.1
      · obtain ⟨hcalm, hnext, -⟩ := hcalm hlt
        simp only [ObserverWorld.aboutToWatch, hcase, decide_eq_false_iff_not] at hcalm
        omega
    | monitor caller directory =>
      simp only [hcase] at hphase ⊢
      refine ⟨?_, hphase.2⟩
      rcases Nat.eq_or_lt_of_le hexisting with rfl | hlt
      · exact hphase.1
      · obtain ⟨hcalm, -⟩ := hcalm hlt
        simp [ObserverWorld.aboutToWatch, hcase] at hcalm
    | desired targetEvent oldExists candidate => simpa only [hcase] using hphase
    | query targetEvent oldExists rebound => simpa only [hcase] using hphase
    | _ => trivial
  · intro k hk hlt
    have hwatched := h.watched k hk
    rcases Nat.eq_or_lt_of_le hwatched with heq | hbehind
    · have hgrown : s.existing < existing := heq ▸ hlt
      exact .inl ((hcalm hgrown).2.2 k hk heq)
    · exact (h.behind k hk hbehind).imp_left hmore
  · refine h.owed.imp_right fun howed => ?_
    simp only [ObserverWorld.WillNotify] at howed ⊢
    rcases howed with hin | hopen | hphase
    · exact .inl (htarget.mpr hin)
    · exact .inr (.inl ⟨hopen.1, hopen.2.1, hmore hopen.2.2.1, hopen.2.2.2⟩)
    · exact .inr (.inr hphase)

/-- A change of the target that leaves it as `target`. -/
theorem ObserverInvariant.change {s : ObserverWorld} (h : ObserverInvariant depth s)
    (hexisting : s.existing = depth) {target : Bool}
    (hcalm : s.watch = some depth ∨
      target = true ∧ s.retry = false ∧ s.bindsSilently = false) :
    ObserverInvariant depth { s with
      target := target, changes := s.changes + 1, events := s.report depth .target } := by
  rcases report_cases s depth .target with ⟨hreport, hwatch⟩ | ⟨hreport, hwatch⟩
  · obtain ⟨rfl, hretry, hsilent⟩ := hcalm.resolve_left hwatch
    rw [hreport]
    refine ⟨h.bounded, fun hlt => absurd hexisting (Nat.ne_of_lt hlt), h.watched, h.targetEvents,
      h.monitored, ?_, h.settled, h.unwatched, h.behind, .inr ?_, ?_⟩
    · have hphase := h.inPhase
      simp only [ObserverWorld.InPhase] at hphase ⊢
      exact hphase
    · -- the observer is behind, so it will bind, and not silently
      obtain ⟨k, hk⟩ : ∃ k, s.watch = some k := by
        cases hcase : s.watch with
        | none =>
          have hdue := h.unwatched hcase
          simp [hretry, hsilent] at hdue
        | some k => exact ⟨k, rfl⟩
      have hkne : k ≠ depth := fun heq => hwatch (heq ▸ hk)
      have hwill := h.behind k hk (by have := h.watched k hk; omega)
      simp only [ObserverWorld.WillBind, hretry] at hwill
      simp only [ObserverWorld.WillNotify]
      rcases hwill with hevents | hno | hphase
      · exact .inr (.inl ⟨trivial, hwatch, hevents, hsilent⟩)
      · cases hno
      · refine .inr (.inr ?_)
        cases hcase : s.phase with
        | desired targetEvent oldExists candidate =>
          simp only [hcase] at hphase ⊢
          exact .inr ⟨trivial, hwatch, hphase⟩
        | bind caller candidate =>
          cases caller <;> simp_all [ObserverWorld.bindsSilently]
        | monitor caller directory =>
          cases caller <;> simp_all [ObserverWorld.bindsSilently]
        | _ => simp [hcase] at hphase
    · intro hretrying
      rw [hretry] at hretrying
      cases hretrying
  · rw [hreport]
    have hretry := h.settled hwatch
    refine ⟨h.bounded, fun hlt => absurd hexisting (Nat.ne_of_lt hlt), h.watched, fun _ => hwatch,
      ?_, ?_, h.settled, h.unwatched, ?_, .inr (.inl (by simp)), ?_⟩
    · exact fun _ => by rw [hwatch]; nofun
    · have hphase := h.inPhase
      simp only [ObserverWorld.InPhase] at hphase ⊢
      exact hphase
    · intro k hk hlt
      exact .inl (by simp)
    · intro hretrying
      rw [hretry] at hretrying
      cases hretrying

/-! ## What the observer does -/

/-- A watched directory that is not the target's is above it. -/
theorem ObserverInvariant.above {s : ObserverWorld} (h : ObserverInvariant depth s) {k : ℕ}
    (hk : s.watch = some k) (hwatch : s.watch ≠ some depth) : k < depth := by
  have hle := Nat.le_trans (h.watched k hk) h.bounded
  refine Nat.lt_of_le_of_ne hle fun heq => hwatch (heq ▸ hk)

/-- Before a bind has returned and while nothing is under way, a retry is due only
when nothing is unseen. -/
theorem ObserverInvariant.seen_of_due {s : ObserverWorld} (h : ObserverInvariant depth s)
    (hcallback : s.phase ≠ .callback)
    (hquery : ∀ targetEvent oldExists rebound, s.phase ≠ .query targetEvent oldExists rebound)
    (hretry : s.retry = true) : s.seen = s.changes := by
  rcases h.retrying hretry with hseen | hphase | ⟨targetEvent, oldExists, rebound, hphase, -⟩
  · exact hseen
  · exact absurd hphase hcallback
  · exact absurd hphase (hquery targetEvent oldExists rebound)

/-- Without a watch a retry is due, unless a bind is under way that runs no callback. -/
theorem ObserverInvariant.due_of_unwatched {s : ObserverWorld} (h : ObserverInvariant depth s)
    (hsilent : s.bindsSilently = false) (hwatch : s.watch = none) : s.retry = true := by
  simpa only [hsilent, Bool.false_eq_true, or_false] using h.unwatched hwatch

/-- An event is delivered to `monitor_changed`. -/
theorem ObserverInvariant.deliver {s : ObserverWorld} (h : ObserverInvariant depth s)
    (hphase : s.phase = .idle) {event : MonitorEvent} {events : List MonitorEvent}
    (hevents : s.events = event :: events) :
    ObserverInvariant depth { s with
      events := events, phase := .desired (event = .target) s.targetExists depth } := by
  have hrest {e : MonitorEvent} (hin : e ∈ events) : e ∈ s.events := by
    rw [hevents]
    exact List.mem_cons_of_mem _ hin
  have hsilent : s.bindsSilently = false := by simp [ObserverWorld.bindsSilently, hphase]
  have hmonitored : s.watch ≠ none := h.monitored (by rw [hevents]; nofun)
  refine ⟨h.bounded, h.early, h.watched, fun hin => h.targetEvents (hrest hin),
    fun _ => hmonitored, ?_, h.settled, fun hnone => absurd hnone hmonitored, ?_, ?_, ?_⟩
  · refine ⟨rfl, Nat.le_refl depth, fun htarget => h.targetEvents ?_,
      fun k hk => Nat.le_trans (h.watched k hk) h.bounded⟩
    rw [hevents, of_decide_eq_true htarget]
    exact List.mem_cons_self
  · intro k hk hlt
    refine .inr (.inr fun k' hk' => ?_)
    rw [hk] at hk'
    cases hk'
    exact Nat.lt_of_lt_of_le hlt h.bounded
  · refine h.owed.imp_right fun howed => ?_
    simp only [ObserverWorld.WillNotify, hphase, or_false] at howed ⊢
    rcases howed with hin | ⟨htarget, hwatch, -, -⟩
    · rw [hevents] at hin
      rcases List.mem_cons.mp hin with rfl | hin
      · exact .inr (.inr (.inl rfl))
      · exact .inl hin
    · exact .inr (.inr (.inr ⟨htarget, hwatch, fun k hk => h.above depth hk hwatch⟩))
  · exact fun hretry => .inl (h.seen_of_due depth (by simp [hphase]) (by simp [hphase]) hretry)

/-- The retry timer calls `bind_monitor`. -/
theorem ObserverInvariant.timer {s : ObserverWorld} (h : ObserverInvariant depth s)
    (hphase : s.phase = .idle) (hretry : s.retry = true) :
    ObserverInvariant depth { s with phase := .bind .retry depth } := by
  have hseen : s.seen = s.changes :=
    h.seen_of_due depth (by simp [hphase]) (by simp [hphase]) hretry
  have hwatch : s.watch ≠ some depth := by
    intro hwatch
    rw [h.settled hwatch] at hretry
    cases hretry
  exact ⟨h.bounded, h.early, h.watched, h.targetEvents, h.monitored,
    ⟨Nat.le_refl depth, h.bounded, hwatch, nofun⟩, h.settled, fun _ => .inl hretry,
    fun k hk hlt => .inr (.inr trivial), .inl hseen, fun _ => .inl hseen⟩

/-- `monitor_changed` looks for the directory that it should watch. -/
theorem ObserverInvariant.callDesired {s s' : ObserverWorld} (h : ObserverInvariant depth s)
    {targetEvent oldExists : Bool} {candidate : ℕ}
    (hphase : s.phase = .desired targetEvent oldExists candidate)
    {started : Bool} (hcall : observerCall depth started s = some s') :
    ObserverInvariant depth s' := by
  obtain ⟨hold, hcandidate, htarget, habove⟩ : oldExists = s.targetExists ∧ candidate ≤ depth ∧
      (targetEvent = true → s.watch = some depth) ∧ ∀ k, s.watch = some k → k ≤ candidate := by
    have hin := h.inPhase
    simpa only [ObserverWorld.InPhase, hphase] using hin
  have hsilent : s.bindsSilently = false := by simp [ObserverWorld.bindsSilently, hphase]
  have hretrying : s.retry = true → s.seen = s.changes :=
    h.seen_of_due depth (by simp [hphase]) (by simp [hphase])
  have hunwatched : s.watch = none → s.retry = true := h.due_of_unwatched depth hsilent
  simp only [observerCall, hphase] at hcall
  split at hcall
  · next hfound =>
    split at hcall
    · next hwatch =>
      cases hcall
      refine ⟨h.bounded, h.early, h.watched, h.targetEvents, h.monitored, hold, h.settled,
        fun hnone => .inl (hunwatched hnone), ?_, ?_, fun hretry => .inl (hretrying hretry)⟩
      · intro k hk hlt
        have hwill := h.behind k hk hlt
        simp only [ObserverWorld.WillBind, hphase] at hwill ⊢
        refine hwill.imp_right fun hwill => hwill.imp_right fun hbelow => ?_
        exact Nat.lt_irrefl _ (hbelow candidate hwatch)
      · refine h.owed.imp_right fun howed => ?_
        simp only [ObserverWorld.WillNotify, hphase] at howed ⊢
        rcases howed with hin | hopen | hevent | ⟨-, -, hbelow⟩
        · exact .inl hin
        · exact .inr (.inl ⟨hopen.1, hopen.2.1, hopen.2.2.1, rfl⟩)
        · exact .inr (.inr (.inl hevent))
        · exact absurd (hbelow candidate hwatch) (Nat.lt_irrefl _)
    · next hwatch =>
      cases hcall
      have hnot : s.watch ≠ some depth := by
        intro hdepth
        have hle := habove depth hdepth
        exact hwatch (by rw [hdepth]; congr 1; omega)
      refine ⟨h.bounded, h.early, h.watched, h.targetEvents, h.monitored,
        ⟨Nat.le_refl depth, h.bounded, hnot, ?_⟩, h.settled, fun hnone => .inl (hunwatched hnone),
        fun k hk hlt => .inr (.inr trivial), ?_, fun hretry => .inl (hretrying hretry)⟩
      · rintro _ _ ⟨⟩
        exact hold
      · refine h.owed.imp_right fun howed => ?_
        simp only [ObserverWorld.WillNotify, hphase] at howed ⊢
        rcases howed with hin | hopen | hevent | ⟨hexists, -, -⟩
        · exact .inl hin
        · exact .inr (.inl ⟨hopen.1, hopen.2.1, hopen.2.2.1, rfl⟩)
        · exact absurd (htarget hevent) hnot
        · exact .inr (.inr hexists)
  · next hmissing =>
    cases hcall
    have hbelow {k : ℕ} (hk : s.watch = some k) : k ≤ candidate - 1 := by
      have hwatched := h.watched k hk
      omega
    refine ⟨h.bounded, h.early, h.watched, h.targetEvents, h.monitored,
      ⟨hold, by omega, htarget, fun k hk => hbelow hk⟩, h.settled,
      fun hnone => .inl (hunwatched hnone), ?_, ?_, fun hretry => .inl (hretrying hretry)⟩
    · intro k hk hlt
      refine .inr (.inr fun k' hk' => ?_)
      rw [hk] at hk'
      cases hk'
      have hbehind : k < s.existing := hlt
      omega
    · refine .inl (h.early ?_).2.2
      exact Nat.lt_of_lt_of_le (Nat.not_le.mp hmissing) hcandidate

/-- While a bind is under way that runs no callback, nothing is unseen. -/
theorem ObserverInvariant.seen_of_silent {s : ObserverWorld} (h : ObserverInvariant depth s)
    (hsilent : s.bindsSilently = true) (hwatch : s.watch ≠ some depth) : s.seen = s.changes := by
  refine h.owed.resolve_right fun howed => ?_
  simp only [ObserverWorld.WillNotify, hsilent, Bool.true_eq_false, and_false, false_or] at howed
  rcases howed with hin | hphase
  · exact hwatch (h.targetEvents hin)
  · simp only [ObserverWorld.bindsSilently] at hsilent
    split at hsilent <;> simp_all

/-- While a bind of `monitor_changed` is under way, what is unseen is a target that exists. -/
theorem ObserverInvariant.target_of_rebinding {s : ObserverWorld} (h : ObserverInvariant depth s)
    {targetEvent oldExists : Bool} {directory : ℕ}
    (hphase : s.phase = .bind (.monitorChanged targetEvent oldExists) directory ∨
      s.phase = .monitor (.monitorChanged targetEvent oldExists) directory)
    (hwatch : s.watch ≠ some depth) : s.seen = s.changes ∨ s.target = true := by
  refine h.owed.imp_right fun howed => ?_
  rcases hphase with hphase | hphase <;> simp only [ObserverWorld.WillNotify, hphase] at howed <;>
    rcases howed with hin | hopen | hexists
  · exact absurd (h.targetEvents hin) hwatch
  · exact hopen.1
  · exact hexists
  · exact absurd (h.targetEvents hin) hwatch
  · exact hopen.1
  · exact hexists

/-- `bind_monitor` returns with a watch on the nearest directory: the old one, with
its events and a retry that may be due, or a new one without. -/
theorem ObserverInvariant.bound {s : ObserverWorld} (h : ObserverInvariant depth s)
    {caller : BindCaller} {directory : ℕ}
    (hphase : s.phase = .bind caller directory ∨ s.phase = .monitor caller directory)
    (hwatch : s.watch ≠ some depth)
    (hold : ∀ targetEvent oldExists, caller = .monitorChanged targetEvent oldExists →
      oldExists = s.targetExists)
    (retry : Bool) {events : List MonitorEvent} (hretry : retry = true → s.retry = true)
    (hevents : events = [] ∨ events = s.events)
    (hnew : s.existing = depth → retry = true → caller = .retry) :
    ObserverInvariant depth (bindReturns caller true
      { s with watch := some s.existing, events := events, retry := retry }) := by
  have hnotarget : .target ∉ events := by
    rcases hevents with rfl | rfl
    · exact List.not_mem_nil
    · exact fun hin => hwatch (h.targetEvents hin)
  have hbelow (k : ℕ) (hk : some s.existing = some k) : k ≤ s.existing := by
    cases hk
    exact Nat.le_refl _
  have hsilentSeen (hsilent : s.bindsSilently = true) : s.seen = s.changes :=
    h.seen_of_silent depth hsilent hwatch
  cases caller with
  | new =>
    have hseen : s.seen = s.changes := hsilentSeen (by
      rcases hphase with hphase | hphase <;> simp [ObserverWorld.bindsSilently, hphase])
    refine ⟨h.bounded, h.early, hbelow, fun hin => absurd hin hnotarget, fun _ => nofun, trivial,
      ?_, nofun, ?_, .inl hseen, fun _ => .inl hseen⟩
    · intro hdepth
      by_contra hdue
      have hdue : retry = true := by simpa [bindReturns] using hdue
      cases hnew (Option.some.inj hdepth) hdue
    · intro k hk hlt
      cases hk
      exact absurd hlt (Nat.lt_irrefl _)
  | retry =>
    have hseen : s.seen = s.changes := hsilentSeen (by
      rcases hphase with hphase | hphase <;> simp [ObserverWorld.bindsSilently, hphase])
    refine ⟨h.bounded, h.early, hbelow, fun hin => absurd hin hnotarget, fun _ => nofun, trivial,
      fun _ => rfl, nofun, ?_, .inl hseen, fun _ => .inl hseen⟩
    intro k hk hlt
    cases hk
    exact absurd hlt (Nat.lt_irrefl _)
  | monitorChanged targetEvent oldExists =>
    have hunseen := h.target_of_rebinding depth hphase hwatch
    have hretrying : s.retry = true → s.seen = s.changes := by
      rcases hphase with hphase | hphase <;>
        exact h.seen_of_due depth (by simp [hphase]) (by simp [hphase])
    refine ⟨h.bounded, h.early, hbelow, fun hin => absurd hin hnotarget, fun _ => nofun,
      hold _ _ rfl, ?_, nofun, ?_, ?_, fun hdue => .inl (hretrying (hretry hdue))⟩
    · intro hdepth
      by_contra hdue
      have hdue : retry = true := by simpa [bindReturns] using hdue
      cases hnew (Option.some.inj hdepth) hdue
    · intro k hk hlt
      cases hk
      exact absurd hlt (Nat.lt_irrefl _)
    · exact hunseen.imp_right fun hexists => .inr (.inr (.inr (.inr ⟨rfl, hexists⟩)))

/-- `bind_monitor` looks for the directory that it will watch. -/
theorem ObserverInvariant.callBind {s s' : ObserverWorld} (h : ObserverInvariant depth s)
    {caller : BindCaller} {candidate : ℕ} (hphase : s.phase = .bind caller candidate)
    {started : Bool} (hcall : observerCall depth started s = some s') :
    ObserverInvariant depth s' := by
  obtain ⟨hcandidate, hexisting, hwatch, hold⟩ : candidate ≤ depth ∧ s.existing ≤ candidate ∧
      s.watch ≠ some depth ∧ ∀ targetEvent oldExists,
        caller = .monitorChanged targetEvent oldExists → oldExists = s.targetExists := by
    have hin := h.inPhase
    simpa only [ObserverWorld.InPhase, hphase] using hin
  have hretrying : s.retry = true → s.seen = s.changes :=
    h.seen_of_due depth (by simp [hphase]) (by simp [hphase])
  simp only [observerCall, hphase] at hcall
  split at hcall
  · next hfound =>
    obtain rfl : candidate = s.existing := Nat.le_antisymm hfound hexisting
    split at hcall
    · next hsame =>
      cases hcall
      have hbound := h.bound depth (.inl hphase) hwatch hold s.retry id (.inr rfl)
        fun hdepth _ => absurd (hdepth ▸ hsame) hwatch
      rwa [← hsame] at hbound
    · next hother =>
      cases hcall
      refine ⟨h.bounded, h.early, h.watched, h.targetEvents, h.monitored, ⟨rfl, hwatch, hold⟩,
        h.settled, ?_, fun k hk hlt => .inr (.inr trivial), ?_,
        fun hretry => .inl (hretrying hretry)⟩
      · intro hnone
        have hunwatched := h.unwatched hnone
        cases caller <;> simpa only [ObserverWorld.bindsSilently, hphase] using hunwatched
      · cases caller with
        | new =>
          have hsilent : s.bindsSilently = true := by simp [ObserverWorld.bindsSilently, hphase]
          exact .inl (h.seen_of_silent depth hsilent hwatch)
        | retry =>
          have hsilent : s.bindsSilently = true := by simp [ObserverWorld.bindsSilently, hphase]
          exact .inl (h.seen_of_silent depth hsilent hwatch)
        | monitorChanged targetEvent oldExists =>
          exact (h.target_of_rebinding depth (.inl hphase) hwatch).imp_right fun hexists =>
            .inr (.inr hexists)
  · next hmissing =>
    cases hcall
    have hseen : s.seen = s.changes :=
      (h.early (Nat.lt_of_lt_of_le (Nat.not_le.mp hmissing) hcandidate)).2.2
    refine ⟨h.bounded, h.early, h.watched, h.targetEvents, h.monitored,
      ⟨by omega, ?_, hwatch, hold⟩, h.settled, ?_, fun k hk hlt => .inr (.inr trivial), .inl hseen,
      fun _ => .inl hseen⟩
    · exact Nat.le_sub_one_of_lt (Nat.not_le.mp hmissing)
    · intro hnone
      have hunwatched := h.unwatched hnone
      cases caller <;> simpa only [ObserverWorld.bindsSilently, hphase] using hunwatched

/-- `bind_monitor` starts its monitor, or fails to. -/
theorem ObserverInvariant.callMonitor {s s' : ObserverWorld} (h : ObserverInvariant depth s)
    {caller : BindCaller} {directory : ℕ} (hphase : s.phase = .monitor caller directory)
    {started : Bool} (hcalm : undisturbed depth s (.call started) = true)
    (hcall : observerCall depth started s = some s') : ObserverInvariant depth s' := by
  obtain ⟨rfl, hwatch, hold⟩ : directory = s.existing ∧ s.watch ≠ some depth ∧
      ∀ targetEvent oldExists, caller = .monitorChanged targetEvent oldExists →
        oldExists = s.targetExists := by
    have hin := h.inPhase
    simpa only [ObserverWorld.InPhase, hphase] using hin
  simp only [observerCall, hphase, Option.some.injEq] at hcall
  subst hcall
  cases started with
  | true =>
    have hbound := h.bound depth (.inr hphase) hwatch hold false nofun (.inl rfl)
      fun _ => nofun
    exact hbound
  | false =>
    cases caller with
    | new =>
      have hseen := h.seen_of_silent depth (by simp [ObserverWorld.bindsSilently, hphase]) hwatch
      exact ⟨h.bounded, h.early, h.watched, h.targetEvents, h.monitored, trivial,
        fun hdepth => absurd hdepth hwatch, fun _ => .inl rfl, fun k hk hlt => .inr (.inl rfl),
        .inl hseen, fun _ => .inl hseen⟩
    | retry =>
      have hseen := h.seen_of_silent depth (by simp [ObserverWorld.bindsSilently, hphase]) hwatch
      exact ⟨h.bounded, h.early, h.watched, h.targetEvents, h.monitored, trivial,
        fun hdepth => absurd hdepth hwatch, fun _ => .inl rfl, fun k hk hlt => .inr (.inl rfl),
        .inl hseen, fun _ => .inl hseen⟩
    | monitorChanged targetEvent oldExists =>
      have hunseen : s.seen = s.changes ∨ oldExists ≠ s.target := by
        rcases h.target_of_rebinding depth (.inr hphase) hwatch with hseen | hexists
        · exact .inl hseen
        · have hknown : s.targetExists = false ∨ s.seen = s.changes := by
            simpa [undisturbed, ObserverWorld.rebinding, hphase] using hcalm
          refine hknown.symm.imp_right fun hmissing => ?_
          rw [hold _ _ rfl, hmissing, hexists]
          nofun
      refine ⟨h.bounded, h.early, h.watched, h.targetEvents, h.monitored, hold _ _ rfl,
        fun hdepth => absurd hdepth hwatch, fun _ => .inl rfl, fun k hk hlt => .inr (.inl rfl),
        ?_, ?_⟩
      · exact hunseen.imp_right fun hdiffer => .inr (.inr (.inr (.inl hdiffer)))
      · exact fun _ => hunseen.imp_right fun hdiffer => .inr ⟨_, _, _, rfl, hdiffer⟩

/-- `monitor_changed` looks at the target and decides about the callback. -/
theorem ObserverInvariant.callQuery {s s' : ObserverWorld} (h : ObserverInvariant depth s)
    {targetEvent oldExists rebound : Bool} (hphase : s.phase = .query targetEvent oldExists rebound)
    {started : Bool} (hcall : observerCall depth started s = some s') :
    ObserverInvariant depth s' := by
  have hsilent : s.bindsSilently = false := by simp [ObserverWorld.bindsSilently, hphase]
  have hunwatched : s.watch = none → s.retry = true := h.due_of_unwatched depth hsilent
  have hbehind : ∀ k, s.watch = some k → k < s.existing → s.events ≠ [] ∨ s.retry = true := by
    intro k hk hlt
    have hwill := h.behind k hk hlt
    simpa only [ObserverWorld.WillBind, hphase, or_false] using hwill
  simp only [observerCall, hphase, Option.some.injEq] at hcall
  subst hcall
  cases hnotify : targetEvent || oldExists != s.target || (rebound && s.target) with
  | true =>
    refine ⟨h.bounded, fun hlt => ⟨(h.early hlt).1, (h.early hlt).1, (h.early hlt).2.2⟩, h.watched,
      h.targetEvents, h.monitored, trivial, h.settled, fun hnone => .inl (hunwatched hnone), ?_,
      .inr (.inr (.inr trivial)), fun _ => .inr (.inl rfl)⟩
    exact fun k hk hlt => (hbehind k hk hlt).imp_right .inl
  | false =>
    simp only [Bool.or_eq_false_iff, bne_eq_false_iff_eq, Bool.and_eq_false_iff] at hnotify
    refine ⟨h.bounded, fun hlt => ⟨(h.early hlt).1, (h.early hlt).1, (h.early hlt).2.2⟩, h.watched,
      h.targetEvents, h.monitored, trivial, h.settled, fun hnone => .inl (hunwatched hnone), ?_,
      ?_, ?_⟩
    · exact fun k hk hlt => (hbehind k hk hlt).imp_right .inl
    · refine h.owed.imp_right fun howed => ?_
      simp only [ObserverWorld.WillNotify, hphase] at howed ⊢
      rcases howed with hin | hopen | hevent | hdiffer | hexists
      · exact .inl hin
      · exact .inr (.inl ⟨hopen.1, hopen.2.1, hopen.2.2.1, rfl⟩)
      · rw [hnotify.1.1] at hevent
        cases hevent
      · exact absurd hnotify.1.2 hdiffer
      · rcases hnotify.2 with hno | hno
        · rw [hno] at hexists
          cases hexists.1
        · rw [hno] at hexists
          cases hexists.2
    · intro hretry
      rcases h.retrying hretry with hseen | hcallback | ⟨_, _, _, hquery, hdiffer⟩
      · exact .inl hseen
      · rw [hphase] at hcallback
        cases hcallback
      · rw [hphase] at hquery
        cases hquery
        exact absurd hnotify.1.2 hdiffer

/-- The callback runs. -/
theorem ObserverInvariant.callCallback {s s' : ObserverWorld} (h : ObserverInvariant depth s)
    (hphase : s.phase = .callback) {started : Bool}
    (hcall : observerCall depth started s = some s') : ObserverInvariant depth s' := by
  simp only [observerCall, hphase, Option.some.injEq] at hcall
  subst hcall
  refine ⟨h.bounded, fun hlt => ⟨(h.early hlt).1, (h.early hlt).2.1, rfl⟩, h.watched,
    h.targetEvents, h.monitored, trivial, h.settled, ?_, ?_, .inl rfl, fun _ => .inl rfl⟩
  · intro hnone
    have hunwatched := h.unwatched hnone
    simpa only [ObserverWorld.bindsSilently, hphase] using hunwatched
  · intro k hk hlt
    have hwill := h.behind k hk hlt
    simpa only [ObserverWorld.WillBind, hphase] using hwill

/-! ## Every step, and every run -/

/-- Every call keeps the invariant. -/
theorem ObserverInvariant.call {s s' : ObserverWorld} (h : ObserverInvariant depth s)
    {started : Bool} (hcalm : undisturbed depth s (.call started) = true)
    (hcall : observerCall depth started s = some s') : ObserverInvariant depth s' := by
  cases hphase : s.phase with
  | idle =>
    rw [observerCall, hphase] at hcall
    cases hcall
  | desired targetEvent oldExists candidate => exact h.callDesired depth hphase hcall
  | bind caller candidate => exact h.callBind depth hphase hcall
  | monitor caller directory => exact h.callMonitor depth hphase hcalm hcall
  | query targetEvent oldExists rebound => exact h.callQuery depth hphase hcall
  | callback => exact h.callCallback depth hphase hcall

/-- The next directory is made, and not behind the back of a bind. -/
theorem ObserverInvariant.createDirectory {s : ObserverWorld} (h : ObserverInvariant depth s)
    (hmissing : s.existing < depth) (hcalm : s.aboutToWatch = false) :
    ObserverInvariant depth { s with
      existing := s.existing + 1, events := s.report s.existing .other } := by
  refine h.grow depth (Nat.le_succ _) hmissing ?_ fun _ => ⟨hcalm, rfl, ?_⟩
  · rcases report_cases s s.existing .other with ⟨hreport, -⟩ | ⟨hreport, hwatch⟩
    · exact .inl hreport
    · exact .inr ⟨hreport, by rw [hwatch]; nofun⟩
  · intro k hk heq
    rw [ObserverWorld.report, if_pos (heq ▸ hk)]
    simp

/-- Every undisturbed step keeps the invariant. -/
theorem ObserverInvariant.step {s s' : ObserverWorld} (h : ObserverInvariant depth s)
    {a : ObserverAction} (hstep : calmStep depth s a = some s') : ObserverInvariant depth s' := by
  obtain ⟨hcalm, hstep⟩ : undisturbed depth s a = true ∧ observerStep depth s a = some s' := by
    simpa only [calmStep, Option.ite_none_right_eq_some] using hstep
  cases a with
  | createDirectory =>
    obtain ⟨hmissing, hstep⟩ := Option.ite_none_right_eq_some.mp hstep
    cases hstep
    have hcalm : s.aboutToWatch = false := by
      simpa only [undisturbed, Bool.not_eq_true'] using hcalm
    exact h.createDirectory depth hmissing hcalm
  | rename =>
    obtain ⟨hexisting, hstep⟩ := Option.ite_none_right_eq_some.mp hstep
    cases hstep
    refine h.change depth hexisting ?_
    simpa [undisturbed] using hcalm
  | delete =>
    obtain ⟨htarget, hstep⟩ := Option.ite_none_right_eq_some.mp hstep
    cases hstep
    have hexisting : s.existing = depth := by
      refine Nat.le_antisymm h.bounded (Nat.not_lt.mp fun hlt => ?_)
      rw [(h.early hlt).1] at htarget
      cases htarget
    refine h.change depth hexisting (.inl ?_)
    simpa [undisturbed] using hcalm
  | stir =>
    obtain ⟨k, hwatch, rfl⟩ := Option.map_eq_some_iff.mp hstep
    exact h.grow depth (Nat.le_refl _) h.bounded (.inr ⟨rfl, by rw [hwatch]; nofun⟩)
      fun hlt => absurd hlt (Nat.lt_irrefl _)
  | deliver =>
    simp only [observerStep] at hstep
    split at hstep
    · next hphase hevents =>
      cases hstep
      exact h.deliver depth hphase hevents
    · cases hstep
  | timer =>
    obtain ⟨⟨hphase, hretry⟩, hstep⟩ := Option.ite_none_right_eq_some.mp hstep
    cases hstep
    exact h.timer depth hphase hretry
  | call started => exact h.call depth hcalm hstep

/-- `ss_policy_file_observer_new` establishes the invariant. -/
theorem ObserverWorld.Starts.invariant {s : ObserverWorld} (h : s.Starts depth) :
    ObserverInvariant depth s := by
  obtain ⟨existing, target, hexisting, htarget, rfl⟩ := h
  refine ⟨hexisting, fun hlt => ?_, nofun, nofun, fun hne => absurd rfl hne,
    ⟨Nat.le_refl depth, hexisting, nofun, nofun⟩, nofun, fun _ => .inr rfl, nofun, .inl rfl, nofun⟩
  have hmissing : target = false :=
    Bool.eq_false_iff.mpr fun hexists => absurd (htarget hexists) (Nat.ne_of_lt hlt)
  exact ⟨hmissing, hmissing, rfl⟩

/-- The observer misses no change in a run in which nothing disturbs it. -/
theorem observer_faithful {s : ObserverWorld}
    (h : Visits (calmStep depth) (ObserverWorld.Starts depth) (fun _ => True) s) :
    s.Faithful depth := by
  have hinvariant : ObserverInvariant depth s :=
    h.invariant (fun _ hstart => hstart.invariant depth)
      fun _ _ _ _ hs hstep _ => hs.step depth hstep
  exact hinvariant.faithful depth

/-- The directory and then the target are made while the root is watched. -/
theorem observer_faithful_appears :
    (⟨1, true, 1, some 1, [], true, false, .idle, 1⟩ : ObserverWorld).Faithful 1 := by
  have hstart : Visits (calmStep 1) (ObserverWorld.Starts 1) (fun _ => True)
      ⟨0, false, 0, none, [], false, false, .bind .new 1, 0⟩ :=
    .start ⟨0, false, by decide, nofun, rfl⟩ trivial
  have hend : Visits (calmStep 1) (ObserverWorld.Starts 1) (fun _ => True)
      ⟨1, true, 1, some 1, [], true, false, .idle, 1⟩ :=
    hstart.of_run
      ([.call true, .call true, .call true, .createDirectory, .rename, .deliver] ++
        List.replicate 5 (.call true)) rfl
  exact observer_faithful 1 hend

end SystemSettings
