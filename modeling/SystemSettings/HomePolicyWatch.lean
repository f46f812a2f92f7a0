import SystemSettings.HomePresenter
import SystemSettings.ObserverCoverage
import SystemSettings.PolicyFile
import SystemSettings.Timeouts

/-!
# Home and the policy file

The presenter of `home-temporal-presentation.c` among the policy file, the
observer of that file, and the timer with which it tries a failed reload again.

A reload that fails leaves one timer behind, whose delay doubles up to a minute;
when nothing is under way and no timer is armed, Home presents the policy that
is in the file.
-/

namespace SystemSettings

variable {P : Type} (R : TemporalResources) (K : Common) (F : PolicyFormat P) (depth : ℕ)

/-! ## The presenter and its timer -/

/-- `SsHomeTemporalPresenter`, with what it looks at. -/
structure HomeWatch (P : Type) : Type where
  /-- the texts' part -/
  presenter : HomeTemporalPresenter
  /-- `policy_reload_retry_id` -/
  policyReloadRetryId : ℕ
  /-- `policy_reload_retry_seconds` -/
  policyReloadRetrySeconds : ℕ
  /-- the main loop's timeouts that call `retry_policy_reload` -/
  timeouts : Timeouts
  /-- the observer of the policy file -/
  observer : ObserverWorld
  /-- the policy file -/
  document : FileState P
  /-- the policy that was loaded last, with its seconds; the code does not keep it -/
  loaded : Option TemporalPolicyV3
  /-- whether the last reload succeeded; the code does not keep it -/
  reloaded : Bool
  /-- the timers that have expired since a reload succeeded; the code does not count them -/
  expiries : ℕ

/-- `store->load` as the presenter calls it: it may fail, and it looks at the
desktop's settings where there is no policy to go by. -/
def homeLoad (ok : Bool) (native : Option Native) (document : FileState P) :
    Option TemporalPolicyV3 :=
  if ok then (platformLoad K F native document).map Prod.fst else none

namespace HomeWatch

/-- `presenter_reload_policy`, with what it returns. -/
def presenterReload (loaded : Option TemporalPolicyV3) (home : HomeWatch P) :
    Bool × HomeWatch P :=
  let reloaded := K.policyDefault.isSome && loaded.isSome
  (reloaded, { home with
    presenter := presenterReloadPolicy K loaded home.presenter
    loaded := if reloaded then loaded else home.loaded
    reloaded := reloaded })

/-- `schedule_policy_reload_retry` -/
def schedulePolicyReloadRetry (home : HomeWatch P) : HomeWatch P :=
  if home.policyReloadRetryId ≠ 0 then home
  else
    let delay :=
      if home.policyReloadRetrySeconds ≠ 0 then home.policyReloadRetrySeconds else 2
    { home with
      policyReloadRetryId := home.timeouts.next
      policyReloadRetrySeconds := if delay < 60 then min (delay * 2) 60 else 60
      timeouts := home.timeouts.add delay }

/-- `on_policy_file_changed` -/
def onPolicyFileChanged (loaded : Option TemporalPolicyV3) (home : HomeWatch P) : HomeWatch P :=
  match home.presenterReload K loaded with
  | (false, home) => home.schedulePolicyReloadRetry
  | (true, home) =>
    let home :=
      if home.policyReloadRetryId ≠ 0 then
        { home with
          timeouts := home.timeouts.remove home.policyReloadRetryId
          policyReloadRetryId := 0 }
      else home
    { home with policyReloadRetrySeconds := 2, expiries := 0 }

/-- `retry_policy_reload` -/
def retryPolicyReload (loaded : Option TemporalPolicyV3) (home : HomeWatch P) : HomeWatch P :=
  match { home with policyReloadRetryId := 0 }.presenterReload K loaded with
  | (true, home) => { home with policyReloadRetrySeconds := 2, expiries := 0 }
  | (false, home) => { home with expiries := home.expiries + 1 }.schedulePolicyReloadRetry

/-- The main loop dispatches a timer, which is removed when it has run. -/
def dispatch (id : ℕ) (loaded : Option TemporalPolicyV3) (home : HomeWatch P) : HomeWatch P :=
  let home := home.retryPolicyReload K loaded
  { home with timeouts := home.timeouts.remove id }

/-- `ss_home_temporal_presenter_new`: the policy is loaded before the observer is created. -/
def new (setting : Option Bool) (loaded : Option TemporalPolicyV3) (observer : ObserverWorld)
    (document : FileState P) : HomeWatch P :=
  let presenter := homeTemporalPresenterNew K setting loaded
  let reloaded := K.policyDefault.isSome && loaded.isSome
  let home : HomeWatch P :=
    ⟨presenter, 0, 2, .none, observer, document, if reloaded then loaded else none, reloaded, 0⟩
  if presenter.policyValid then home else home.schedulePolicyReloadRetry

end HomeWatch

/-! ## Steps -/

/-- What can happen next. -/
inductive HomeAction (P : Type) : Type where
  /-- a step of the observer and its directories, other than the three below -/
  | observer (action : ObserverAction)
  /-- this file is renamed onto the policy file -/
  | rename (file : FileState P)
  /-- the policy file is deleted -/
  | delete
  /-- the observer calls `on_policy_file_changed` -/
  | callback (ok : Bool) (native : Option Native)
  /-- a timer of the presenter expires -/
  | retry (id : ℕ) (ok : Bool) (native : Option Native)
  /-- a desktop setting has changed -/
  | settingsChanged (key : String) (setting : Option Bool)
  /-- the page asks for its texts -/
  | formatNow (now : Option LocalTime)

/-- A step of the observer that neither is about the policy file nor calls the presenter. -/
def HomeWatch.besides (home : HomeWatch P) : ObserverAction → Bool
  | .rename | .delete => false
  | .call _ => home.observer.phase ≠ .callback
  | _ => true

/-- The observer takes this step, and `f` comes with it. -/
def HomeWatch.observe (action : ObserverAction) (f : HomeWatch P → HomeWatch P)
    (home : HomeWatch P) : Option (HomeWatch P) :=
  (observerStep depth home.observer action).map fun observer => f { home with observer := observer }

/-- One step; `none` where the action cannot happen. -/
def homeStep (home : HomeWatch P) : HomeAction P → Option (HomeWatch P)
  | .observer action => if home.besides action then home.observe depth action id else none
  | .rename .absent => none
  | .rename file => home.observe depth .rename fun home => { home with document := file }
  | .delete => home.observe depth .delete fun home => { home with document := .absent }
  | .callback ok native =>
    if home.observer.phase = .callback then
      home.observe depth (.call true) fun home =>
        home.onPolicyFileChanged K (homeLoad K F ok native home.document)
    else none
  | .retry id ok native =>
    if id ∈ home.timeouts.pending.map Timeout.id then
      some (home.dispatch K id (homeLoad K F ok native home.document))
    else none
  | .settingsChanged key setting =>
    some { home with presenter := onPresenterSettingsChanged key setting home.presenter }
  | .formatNow now => some { home with presenter := (presenterFormatNow R home.presenter now).2 }

/-- The presenter is new: it has loaded the policy from `before`, and its observer
starts at `document`. -/
def HomeWatch.StartsFrom (before document : FileState P) (home : HomeWatch P) : Prop :=
  ∃ setting ok native observer, observer.Starts depth ∧
    home = .new K setting (homeLoad K F ok native before) observer document

/-- A new presenter. -/
def HomeWatch.Starts (home : HomeWatch P) : Prop :=
  ∃ before document, home.StartsFrom K F depth before document

/-! ## The timer -/

namespace HomeWatch

variable {R K F depth} {home : HomeWatch P}

/-- The delay after so many timers that have expired in vain. -/
def retryDelay (expiries : ℕ) : ℕ := min (2 ^ (expiries + 1)) 60

theorem retryDelay_zero : retryDelay 0 = 2 := rfl

theorem retryDelay_succ (expiries : ℕ) :
    retryDelay (expiries + 1) =
      if retryDelay expiries < 60 then min (retryDelay expiries * 2) 60 else 60 := by
  unfold retryDelay
  have hdouble : 2 ^ (expiries + 1 + 1) = 2 ^ (expiries + 1) * 2 := pow_succ ..
  split_ifs <;> omega

theorem retryDelay_pos (expiries : ℕ) : retryDelay expiries ≠ 0 := by
  have hpos : 0 < 2 ^ (expiries + 1) := Nat.two_pow_pos _
  rw [retryDelay]
  omega

/-- A reload that failed is being tried again: by one timer, whose delay doubles from
two seconds to a minute. A reload that succeeded leaves no timer. -/
structure Retried (home : HomeWatch P) : Prop where
  /-- the identifier stands for the timer, and for its delay -/
  tracks : home.timeouts.Tracks home.policyReloadRetryId (· = retryDelay home.expiries)
  /-- there is one exactly after a failure -/
  armed : home.policyReloadRetryId ≠ 0 ↔ home.reloaded = false
  /-- the delay of the next one -/
  seconds : home.policyReloadRetrySeconds =
    if home.policyReloadRetryId ≠ 0 then retryDelay (home.expiries + 1) else 2
  /-- without one, none has expired -/
  expiries : home.policyReloadRetryId = 0 → home.expiries = 0

/-- A reload adopts what it loaded, or changes nothing. -/
theorem presenterReload_cases (loaded : Option TemporalPolicyV3) (home : HomeWatch P) :
    (∃ policy, loaded = some policy ∧ home.presenterReload K loaded = (true, { home with
      presenter := { home.presenter with policy := withoutSeconds policy, policyValid := true }
      loaded := some policy
      reloaded := true })) ∨
    home.presenterReload K loaded = (false, { home with reloaded := false }) := by
  unfold presenterReload presenterReloadPolicy
  cases K.policyDefault with
  | none => exact .inr rfl
  | some fallback =>
    cases loaded with
    | none => exact .inr rfl
    | some policy => exact .inl ⟨policy, rfl, rfl⟩

theorem schedule_observer (home : HomeWatch P) :
    home.schedulePolicyReloadRetry.observer = home.observer := by
  rw [schedulePolicyReloadRetry]
  split <;> rfl

/-- The observer is not touched from its callback. -/
theorem onPolicyFileChanged_observer (loaded : Option TemporalPolicyV3) (home : HomeWatch P) :
    (home.onPolicyFileChanged K loaded).observer = home.observer := by
  rw [HomeWatch.onPolicyFileChanged]
  rcases presenterReload_cases (K := K) loaded home with ⟨policy, -, hreload⟩ | hreload
  · simp only [hreload]
    split <;> rfl
  · simp only [hreload, schedule_observer]

theorem dispatch_observer (id : ℕ) (loaded : Option TemporalPolicyV3) (home : HomeWatch P) :
    (home.dispatch K id loaded).observer = home.observer := by
  unfold HomeWatch.dispatch retryPolicyReload
  rcases presenterReload_cases (K := K) loaded { home with policyReloadRetryId := 0 } with
    ⟨policy, -, hreload⟩ | hreload
  · simp only [hreload]
  · simp only [hreload, schedule_observer]

/-- A failure for which no timer is armed gets one. -/
theorem retried_schedule (hid : home.policyReloadRetryId = 0)
    (hpending : home.timeouts.pending = []) (hreloaded : home.reloaded = false)
    (hseconds : home.policyReloadRetrySeconds = retryDelay home.expiries) :
    home.schedulePolicyReloadRetry.Retried := by
  have hdelay : home.policyReloadRetrySeconds ≠ 0 := hseconds ▸ retryDelay_pos _
  have hnext : home.timeouts.next ≠ 0 := Nat.ne_of_gt home.timeouts.next_pos
  have htracks : home.timeouts.Tracks 0 (· = retryDelay home.expiries) := .inl ⟨rfl, hpending⟩
  rw [schedulePolicyReloadRetry, if_neg (not_not.mpr hid)]
  simp only [if_pos hdelay]
  refine ⟨htracks.add hseconds, iff_of_true hnext hreloaded, ?_, fun hzero => absurd hzero hnext⟩
  simp only [if_pos hnext, hseconds, retryDelay_succ]

/-- A file that changes is read at once; a failure is tried again. -/
theorem Retried.onPolicyFileChanged (h : home.Retried) (loaded : Option TemporalPolicyV3) :
    (home.onPolicyFileChanged K loaded).Retried := by
  rcases presenterReload_cases (K := K) loaded home with ⟨policy, -, hreload⟩ | hreload
  · simp only [HomeWatch.onPolicyFileChanged, hreload]
    split_ifs with hid
    · exact ⟨h.tracks.remove, by simp, by simp, fun _ => rfl⟩
    · have hzero : home.policyReloadRetryId = 0 := not_not.mp hid
      have htracks := h.tracks
      rw [h.expiries hzero] at htracks
      exact ⟨htracks, by simp [hzero], by simp [hzero], fun _ => rfl⟩
  · simp only [HomeWatch.onPolicyFileChanged, hreload]
    by_cases hid : home.policyReloadRetryId = 0
    · refine retried_schedule hid ?_ rfl ?_
      · exact (hid ▸ h.tracks).pending_eq_nil
      · have hseconds := h.seconds
        rw [if_neg (not_not.mpr hid)] at hseconds
        simp only [hseconds, h.expiries hid, retryDelay_zero]
    · rw [schedulePolicyReloadRetry, if_pos hid]
      exact ⟨h.tracks, iff_of_true hid rfl, h.seconds, h.expiries⟩

/-- The timer that is waited for expires; the reload is tried again. -/
theorem Retried.dispatch (h : home.Retried) (hid : home.policyReloadRetryId ≠ 0)
    (loaded : Option TemporalPolicyV3) :
    (home.dispatch K home.policyReloadRetryId loaded).Retried := by
  have hseconds := h.seconds
  rw [if_pos hid] at hseconds
  rcases presenterReload_cases (K := K) loaded { home with policyReloadRetryId := 0 } with
    ⟨policy, -, hreload⟩ | hreload
  · simp only [HomeWatch.dispatch, retryPolicyReload, hreload]
    exact ⟨h.tracks.remove, by simp, by simp, fun _ => rfl⟩
  · have hnext : home.timeouts.next ≠ 0 := Nat.ne_of_gt home.timeouts.next_pos
    have hdelay : home.policyReloadRetrySeconds ≠ 0 := hseconds ▸ retryDelay_pos _
    simp only [HomeWatch.dispatch, retryPolicyReload, hreload, schedulePolicyReloadRetry,
      ne_eq, not_true_eq_false, if_false, if_pos hdelay]
    refine ⟨h.tracks.add_remove hseconds, iff_of_true hnext rfl, ?_,
      fun hzero => absurd hzero hnext⟩
    simp only [ne_eq, hnext, not_false_eq_true, if_true, hseconds, retryDelay_succ]

/-- The timer is no concern of the observer, of the file and of the texts. -/
theorem Retried.congr (h : home.Retried) {home' : HomeWatch P}
    (hid : home'.policyReloadRetryId = home.policyReloadRetryId)
    (hseconds : home'.policyReloadRetrySeconds = home.policyReloadRetrySeconds)
    (htimeouts : home'.timeouts = home.timeouts) (hreloaded : home'.reloaded = home.reloaded)
    (hexpiries : home'.expiries = home.expiries) : home'.Retried := by
  refine ⟨?_, ?_, ?_, ?_⟩
  · rw [hid, htimeouts, hexpiries]
    exact h.tracks
  · rw [hid, hreloaded]
    exact h.armed
  · rw [hid, hseconds, hexpiries]
    exact h.seconds
  · rw [hid, hexpiries]
    exact h.expiries

/-- What a step is: one of the observer alone, one of the file, one of the presenter with
the observer, or one of the presenter alone. -/
theorem homeStep_cases {action : HomeAction P} {home' : HomeWatch P}
    (hstep : homeStep R K F depth home action = some home') :
    (∃ observed observer, action = .observer observed ∧ home.besides observed = true ∧
      observerStep depth home.observer observed = some observer ∧
      home' = { home with observer := observer }) ∨
    (∃ observed observer document, (observed = .rename ∧ action = .rename document ∨
        observed = .delete ∧ action = .delete ∧ document = .absent) ∧
      observerStep depth home.observer observed = some observer ∧
      home' = { home with observer := observer, document := document }) ∨
    (∃ ok native, action = .callback ok native ∧ home.observer.phase = .callback ∧
      home' = { home with observer := { home.observer with
        seen := home.observer.changes, phase := .idle } }.onPolicyFileChanged K
          (homeLoad K F ok native home.document)) ∨
    (∃ id ok native, action = .retry id ok native ∧ id ∈ home.timeouts.pending.map Timeout.id ∧
      home' = home.dispatch K id (homeLoad K F ok native home.document)) ∨
    (∃ key setting, action = .settingsChanged key setting ∧
      home' = { home with presenter := onPresenterSettingsChanged key setting home.presenter }) ∨
    ∃ now, action = .formatNow now ∧
      home' = { home with presenter := (presenterFormatNow R home.presenter now).2 } := by
  cases action with
  | observer observed =>
    obtain ⟨hbesides, hstep⟩ := Option.ite_none_right_eq_some.mp hstep
    obtain ⟨observer, hobserver, rfl⟩ := Option.map_eq_some_iff.mp hstep
    exact .inl ⟨observed, observer, rfl, hbesides, hobserver, rfl⟩
  | rename file =>
    have hstep : home.observe depth .rename (fun home => { home with document := file }) =
        some home' := by
      cases file with
      | absent => cases hstep
      | unreadable => exact hstep
      | contents data => exact hstep
    obtain ⟨observer, hobserver, rfl⟩ := Option.map_eq_some_iff.mp hstep
    exact .inr (.inl ⟨.rename, observer, file, .inl ⟨rfl, rfl⟩, hobserver, rfl⟩)
  | delete =>
    obtain ⟨observer, hobserver, rfl⟩ := Option.map_eq_some_iff.mp hstep
    exact .inr (.inl ⟨.delete, observer, .absent, .inr ⟨rfl, rfl, rfl⟩, hobserver, rfl⟩)
  | callback ok native =>
    obtain ⟨hphase, hstep⟩ := Option.ite_none_right_eq_some.mp hstep
    obtain ⟨observer, hobserver, rfl⟩ := Option.map_eq_some_iff.mp hstep
    simp only [observerStep, observerCall, hphase, Option.some.injEq] at hobserver
    subst hobserver
    exact .inr (.inr (.inl ⟨ok, native, rfl, hphase, rfl⟩))
  | retry id ok native =>
    obtain ⟨hid, hstep⟩ := Option.ite_none_right_eq_some.mp hstep
    exact .inr (.inr (.inr (.inl ⟨id, ok, native, rfl, hid, (Option.some.inj hstep).symm⟩)))
  | settingsChanged key setting =>
    exact .inr (.inr (.inr (.inr (.inl ⟨key, setting, rfl, (Option.some.inj hstep).symm⟩))))
  | formatNow now =>
    exact .inr (.inr (.inr (.inr (.inr ⟨now, rfl, (Option.some.inj hstep).symm⟩))))

theorem Retried.step (h : home.Retried) {action : HomeAction P} {home' : HomeWatch P}
    (hstep : homeStep R K F depth home action = some home') : home'.Retried := by
  rcases homeStep_cases hstep with ⟨_, _, _, _, _, rfl⟩ | ⟨_, _, _, _, _, rfl⟩ |
    ⟨ok, native, _, _, rfl⟩ | ⟨id, ok, native, _, hid, rfl⟩ | ⟨_, _, _, rfl⟩ | ⟨_, _, rfl⟩
  · exact h.congr rfl rfl rfl rfl rfl
  · exact h.congr rfl rfl rfl rfl rfl
  · refine Retried.onPolicyFileChanged ?_ _
    exact h.congr rfl rfl rfl rfl rfl
  · obtain ⟨timeout, htimeout, rfl⟩ := List.mem_map.mp hid
    rw [(h.tracks.of_mem htimeout).1]
    refine h.dispatch (fun hzero => ?_) _
    have htracks := h.tracks
    rw [hzero] at htracks
    rw [htracks.pending_eq_nil] at htimeout
    cases htimeout
  · exact h.congr rfl rfl rfl rfl rfl
  · exact h.congr rfl rfl rfl rfl rfl

/-- A new presenter: its first load counts as a reload. -/
theorem new_cases (setting : Option Bool) (loaded : Option TemporalPolicyV3)
    (observer : ObserverWorld) (document : FileState P) :
    (∃ policy, loaded = some policy ∧ HomeWatch.new K setting loaded observer document =
      ⟨⟨withoutSeconds policy, true, desktopUses24hFromSettings setting, none, none, ⟨0, 0, 0⟩⟩,
        0, 2, .none, observer, document, some policy, true, 0⟩) ∨
    HomeWatch.new K setting loaded observer document =
      (⟨⟨default, false, desktopUses24hFromSettings setting, none, none, ⟨0, 0, 0⟩⟩,
        0, 2, .none, observer, document, none, false, 0⟩ :
        HomeWatch P).schedulePolicyReloadRetry := by
  unfold HomeWatch.new homeTemporalPresenterNew presenterReloadPolicy
  cases K.policyDefault with
  | none => exact .inr rfl
  | some fallback =>
    cases loaded with
    | none => exact .inr rfl
    | some policy => exact .inl ⟨policy, rfl, rfl⟩

theorem Retried.new (setting : Option Bool) (loaded : Option TemporalPolicyV3)
    (observer : ObserverWorld) (document : FileState P) :
    (HomeWatch.new K setting loaded observer document).Retried := by
  rcases new_cases setting loaded observer document with ⟨policy, -, hnew⟩ | hnew
  · rw [hnew]
    exact ⟨Timeouts.tracks_none, by simp, by simp, fun _ => rfl⟩
  · rw [hnew]
    exact retried_schedule rfl rfl rfl rfl

end HomeWatch

variable {R K F depth} in
/-- In every run of a presenter, over any changes of the file and any reloads that fail. -/
theorem home_retries {home : HomeWatch P}
    (h : Visits (homeStep R K F depth) (HomeWatch.Starts K F depth) (fun _ => True) home) :
    home.Retried := by
  refine h.invariant ?_ fun _ _ _ _ hs hstep _ => hs.step hstep
  rintro _ ⟨before, document, setting, ok, native, observer, -, rfl⟩
  exact .new ..

/-- One clock, and a date that is the same every day. -/
def TemporalResources.oneDay : TemporalResources where
  clockModeFind mode := if mode = "standard-24" then some ⟨bytes "24-hour", false, false⟩ else none
  clockPresentationNew _ := some fun reading => some (if reading.showSeconds then [1] else [0])
  calendarFind _ := none
  formatDate _ _ := some (bytes "1 May")

/-- A saved policy with seconds. -/
def savedPolicy : TemporalPolicyV3 :=
  ⟨"standard-24", "gregorian", true, false, .finite 0, .finite 0⟩

/-- A presenter that has found no policy file. -/
def homeAlone : HomeWatch (Option TemporalPolicyV3) :=
  .new Common.small none (homeLoad Common.small PolicyFormat.small true none .absent)
    ⟨0, false, 0, none, [], false, false, .bind .new 0, 0⟩ .absent

/-- A policy is saved while the directory is watched; the first reload fails, and the
timer expires. -/
def homePublished : List (HomeAction (Option TemporalPolicyV3)) :=
  List.replicate 2 (.observer (.call true)) ++
    [.rename (.contents (some savedPolicy)), .observer .deliver] ++
    List.replicate 2 (.observer (.call true)) ++
    [.callback false none, .settingsChanged "clock-use-24h" (some false), .retry 1 true none]

/-- The first reload of the saved policy fails and is tried again two seconds later. -/
theorem home_retries_published :
    ∃ home : HomeWatch (Option TemporalPolicyV3), home.timeouts.pending = [⟨1, 2⟩] ∧
      home.policyReloadRetryId = 1 ∧ home.reloaded = false ∧ home.Retried := by
  have hstart : Visits (homeStep .oneDay Common.small PolicyFormat.small 0)
      (HomeWatch.Starts Common.small PolicyFormat.small 0) (fun _ => True) homeAlone :=
    .start ⟨.absent, .absent, none, true, none, _, ⟨0, false, Nat.le_refl 0, nofun, rfl⟩, rfl⟩
      trivial
  obtain ⟨home, hrun, hpending, hid, hreloaded⟩ : ∃ home, Visits.run
      (homeStep .oneDay Common.small PolicyFormat.small 0) (fun _ => True) homeAlone
        (homePublished.take 7) = some home ∧ home.timeouts.pending = [⟨1, 2⟩] ∧
      home.policyReloadRetryId = 1 ∧ home.reloaded = false :=
    ⟨_, rfl, rfl, rfl, rfl⟩
  exact ⟨home, hpending, hid, hreloaded, home_retries (hstart.of_run _ hrun)⟩

/-! ## What Home shows -/

/-- The policy that Home goes by is that of the file as it is now. -/
def HomeWatch.Current (home : HomeWatch P) : Prop :=
  ∃ native found policy, platformLoad K F native home.document = some (policy, found) ∧
    home.loaded = some policy

/-- What a presenter knows of the file: its cache is sound, and after a callback it is
up to date until the file changes, unless the reload failed. -/
structure HomeWatch.Informed (home : HomeWatch P) : Prop where
  holds : home.presenter.Holds R home.loaded home.presenter.use24h
  seen : home.observer.seen ≤ home.observer.changes
  current : home.observer.seen = home.observer.changes → home.reloaded = true → home.Current K F

namespace HomeWatch

variable {R K F depth} {home : HomeWatch P}

/-- A load that succeeds is one of the file. -/
theorem current_of_homeLoad (ok : Bool) (native : Option Native) {policy : TemporalPolicyV3}
    (hload : homeLoad K F ok native home.document = some policy)
    (hloaded : home.loaded = some policy) : home.Current K F := by
  obtain ⟨-, hmap⟩ := Option.ite_none_right_eq_some.mp hload
  obtain ⟨⟨policy', found⟩, hplatform, rfl⟩ := Option.map_eq_some_iff.mp hmap
  exact ⟨native, found, policy', hplatform, hloaded⟩

/-- Only the callback sees, and no call changes the file. -/
theorem observerCall_counts {observer observer' : ObserverWorld}
    (hphase : observer.phase ≠ .callback) {started : Bool}
    (hcall : observerCall depth started observer = some observer') :
    observer'.changes = observer.changes ∧ observer'.seen = observer.seen := by
  have hreturns (caller : BindCaller) (bound : Bool) (s : ObserverWorld) :
      (bindReturns caller bound s).changes = s.changes ∧
        (bindReturns caller bound s).seen = s.seen := by
    cases caller <;> exact ⟨rfl, rfl⟩
  cases hcase : observer.phase with
  | idle =>
    simp only [observerCall, hcase] at hcall
    cases hcall
  | desired targetEvent oldExists candidate =>
    simp only [observerCall, hcase] at hcall
    split_ifs at hcall <;> cases hcall <;> exact ⟨rfl, rfl⟩
  | bind caller candidate =>
    simp only [observerCall, hcase] at hcall
    split_ifs at hcall
    · cases hcall
      exact hreturns _ _ _
    · cases hcall
      exact ⟨rfl, rfl⟩
    · cases hcall
      exact ⟨rfl, rfl⟩
  | monitor caller directory =>
    simp only [observerCall, hcase, Option.some.injEq] at hcall
    subst hcall
    rw [monitorReturns]
    split_ifs
    · exact hreturns _ _ _
    · exact hreturns _ _ _
  | query targetEvent oldExists rebound =>
    simp only [observerCall, hcase, Option.some.injEq] at hcall
    subst hcall
    exact ⟨rfl, rfl⟩
  | callback => exact absurd hcase hphase

/-- The observer counts changes and callbacks only where they happen. -/
theorem observer_besides {action : ObserverAction} (hbesides : home.besides action = true)
    {observer : ObserverWorld} (hstep : observerStep depth home.observer action = some observer) :
    observer.changes = home.observer.changes ∧ observer.seen = home.observer.seen := by
  cases action with
  | rename => cases hbesides
  | delete => cases hbesides
  | createDirectory =>
    obtain ⟨-, hstep⟩ := Option.ite_none_right_eq_some.mp hstep
    cases hstep
    exact ⟨rfl, rfl⟩
  | stir =>
    obtain ⟨_, -, rfl⟩ := Option.map_eq_some_iff.mp hstep
    exact ⟨rfl, rfl⟩
  | deliver =>
    simp only [observerStep] at hstep
    split at hstep
    · cases hstep
      exact ⟨rfl, rfl⟩
    · cases hstep
  | timer =>
    obtain ⟨-, hstep⟩ := Option.ite_none_right_eq_some.mp hstep
    cases hstep
    exact ⟨rfl, rfl⟩
  | call started =>
    have hphase : home.observer.phase ≠ .callback := of_decide_eq_true hbesides
    exact observerCall_counts hphase hstep

/-- The file has changed, and the observer has not seen it. -/
theorem observer_change {action : ObserverAction} (haction : action = .rename ∨ action = .delete)
    {observer : ObserverWorld} (hstep : observerStep depth home.observer action = some observer) :
    observer.changes = home.observer.changes + 1 ∧ observer.seen = home.observer.seen := by
  rcases haction with rfl | rfl
  · obtain ⟨-, hstep⟩ := Option.ite_none_right_eq_some.mp hstep
    cases hstep
    exact ⟨rfl, rfl⟩
  · obtain ⟨-, hstep⟩ := Option.ite_none_right_eq_some.mp hstep
    cases hstep
    exact ⟨rfl, rfl⟩

theorem Informed.congr (h : home.Informed R K F) {home' : HomeWatch P}
    (hholds : home'.presenter.Holds R home'.loaded home'.presenter.use24h)
    (hdocument : home'.document = home.document) (hloaded : home'.loaded = home.loaded)
    (hreloaded : home'.reloaded = home.reloaded)
    (hchanges : home'.observer.changes = home.observer.changes)
    (hseen : home'.observer.seen = home.observer.seen) : home'.Informed R K F := by
  refine ⟨hholds, ?_, ?_⟩
  · rw [hchanges, hseen]
    exact h.seen
  · rw [hchanges, hseen, hreloaded, Current, hdocument, hloaded]
    exact h.current

/-- After a reload Home goes by the file, unless it failed. -/
theorem informed_presenterReload (home : HomeWatch P) (ok : Bool) (native : Option Native)
    (hholds : home.presenter.Holds R home.loaded home.presenter.use24h)
    (hseen : home.observer.seen ≤ home.observer.changes) :
    (home.presenterReload K (homeLoad K F ok native home.document)).2.Informed R K F := by
  rcases presenterReload_cases (K := K) (homeLoad K F ok native home.document) home with
    ⟨policy, hload, hreload⟩ | hreload
  · rw [hreload]
    refine ⟨⟨rfl, ?_, rfl, hholds.cache⟩, hseen, fun _ _ => current_of_homeLoad ok native hload rfl⟩
    rintro _ ⟨⟩
    rfl
  · rw [hreload]
    exact ⟨hholds, hseen, fun _ => nofun⟩

theorem Informed.schedule (h : home.Informed R K F) :
    home.schedulePolicyReloadRetry.Informed R K F := by
  rw [schedulePolicyReloadRetry]
  split
  · exact h
  · exact h.congr h.holds rfl rfl rfl rfl rfl

theorem informed_onPolicyFileChanged (home : HomeWatch P) (ok : Bool) (native : Option Native)
    (hholds : home.presenter.Holds R home.loaded home.presenter.use24h)
    (hseen : home.observer.seen ≤ home.observer.changes) :
    (home.onPolicyFileChanged K (homeLoad K F ok native home.document)).Informed R K F := by
  have hinformed := informed_presenterReload (K := K) (F := F) home ok native hholds hseen
  rw [HomeWatch.onPolicyFileChanged]
  split
  · next hreload =>
    rw [hreload] at hinformed
    exact hinformed.schedule
  · next hreload =>
    rw [hreload] at hinformed
    dsimp only
    split
    · exact hinformed.congr hinformed.holds rfl rfl rfl rfl rfl
    · exact hinformed.congr hinformed.holds rfl rfl rfl rfl rfl

theorem informed_dispatch (id : ℕ) (ok : Bool) (native : Option Native)
    (hholds : home.presenter.Holds R home.loaded home.presenter.use24h)
    (hseen : home.observer.seen ≤ home.observer.changes) :
    (home.dispatch K id (homeLoad K F ok native home.document)).Informed R K F := by
  have hinformed := informed_presenterReload (K := K) (F := F)
    { home with policyReloadRetryId := 0 } ok native hholds hseen
  have hretry :
      (home.retryPolicyReload K (homeLoad K F ok native home.document)).Informed R K F := by
    rw [retryPolicyReload]
    dsimp only at hinformed
    split
    · next hreload =>
      rw [hreload] at hinformed
      exact hinformed.congr hinformed.holds rfl rfl rfl rfl rfl
    · next hreload =>
      rw [hreload] at hinformed
      refine Informed.schedule ?_
      exact hinformed.congr hinformed.holds rfl rfl rfl rfl rfl
  exact hretry.congr hretry.holds rfl rfl rfl rfl rfl

theorem Informed.step (h : home.Informed R K F) {action : HomeAction P} {home' : HomeWatch P}
    (hstep : homeStep R K F depth home action = some home') : home'.Informed R K F := by
  rcases homeStep_cases hstep with ⟨observed, observer, _, hbesides, hobserver, rfl⟩ |
    ⟨observed, observer, document, haction, hobserver, rfl⟩ | ⟨ok, native, _, _, rfl⟩ |
    ⟨id, ok, native, _, _, rfl⟩ | ⟨key, setting, _, rfl⟩ | ⟨now, _, rfl⟩
  · obtain ⟨hchanges, hseen⟩ := observer_besides hbesides hobserver
    exact h.congr h.holds rfl rfl rfl hchanges hseen
  · obtain ⟨hchanges, hseen⟩ :=
      observer_change (haction.imp (fun hrename => hrename.1) fun hdelete => hdelete.1) hobserver
    -- the change is not seen yet
    have hlt : observer.seen < observer.changes := by
      rw [hchanges, hseen]
      exact Nat.lt_succ_of_le h.seen
    exact ⟨h.holds, Nat.le_of_lt hlt, fun heq => absurd heq (Nat.ne_of_lt hlt)⟩
  · exact informed_onPolicyFileChanged { home with observer := { home.observer with
      seen := home.observer.changes, phase := .idle } } ok native h.holds (Nat.le_refl _)
  · exact informed_dispatch id ok native h.holds h.seen
  · have hholds := h.holds.apply R K (.settingsChanged key setting)
    refine h.congr ⟨hholds.valid, hholds.policy, rfl, hholds.cache⟩ rfl rfl rfl rfl rfl
  · have hholds := (h.holds.format R now).2
    refine h.congr ⟨hholds.valid, hholds.policy, rfl, hholds.cache⟩ rfl rfl rfl rfl rfl

/-- A new presenter goes by the file that it has read, unless that failed. -/
theorem Informed.starts {document : FileState P} (h : home.StartsFrom K F depth document document) :
    home.Informed R K F ∧ ObserverInvariant depth home.observer := by
  obtain ⟨setting, ok, native, observer, hstarts, rfl⟩ := h
  have hobserver := hstarts.invariant
  obtain ⟨existing, target, -, -, rfl⟩ := hstarts
  rcases new_cases (K := K) setting (homeLoad K F ok native document)
    ⟨existing, target, 0, none, [], target, false, .bind .new depth, 0⟩ document with
    ⟨policy, hload, hnew⟩ | hnew
  · rw [hnew]
    refine ⟨⟨⟨rfl, ?_, rfl, Memo.Sound.none _⟩, Nat.le_refl _, fun _ _ => ?_⟩, hobserver⟩
    · rintro _ ⟨⟩
      rfl
    · exact current_of_homeLoad ok native hload rfl
  · rw [hnew]
    exact ⟨Informed.schedule ⟨⟨rfl, nofun, rfl, Memo.Sound.none _⟩, Nat.le_refl _, fun _ => nofun⟩,
      hobserver⟩

end HomeWatch

/-! ## Home follows the file -/

/-- What does not disturb the observer of the file. -/
def homeUndisturbed (home : HomeWatch P) : HomeAction P → Bool
  | .observer action => undisturbed depth home.observer action
  | .rename _ => undisturbed depth home.observer .rename
  | .delete => undisturbed depth home.observer .delete
  | _ => true

/-- The steps that do not disturb the observer. -/
def calmHomeStep (home : HomeWatch P) (action : HomeAction P) : Option (HomeWatch P) :=
  if homeUndisturbed depth home action then homeStep R K F depth home action else none

/-- A new presenter, for which the file has not changed between its load and its observer. -/
def HomeWatch.CalmStarts (home : HomeWatch P) : Prop :=
  ∃ document, home.StartsFrom K F depth document document

variable {R K F depth}

/-- What does not disturb the observer keeps its invariant. -/
theorem ObserverInvariant.homeStep {home home' : HomeWatch P} {action : HomeAction P}
    (h : ObserverInvariant depth home.observer)
    (hstep : calmHomeStep R K F depth home action = some home') :
    ObserverInvariant depth home'.observer := by
  obtain ⟨hcalm, hstep⟩ := Option.ite_none_right_eq_some.mp hstep
  rcases HomeWatch.homeStep_cases hstep with ⟨observed, observer, rfl, -, hobserver, rfl⟩ |
    ⟨observed, observer, document, haction, hobserver, rfl⟩ | ⟨ok, native, -, hphase, rfl⟩ |
    ⟨id, ok, native, -, -, rfl⟩ | ⟨key, setting, -, rfl⟩ | ⟨now, -, rfl⟩
  · refine h.step depth (a := observed) ?_
    rw [calmStep, if_pos (by exact hcalm)]
    exact hobserver
  · refine h.step depth (a := observed) ?_
    rw [calmStep, if_pos ?_]
    · exact hobserver
    · rcases haction with ⟨rfl, rfl⟩ | ⟨rfl, rfl, -⟩
      · exact hcalm
      · exact hcalm
  · have hcall : observerCall depth true home.observer =
        some { home.observer with seen := home.observer.changes, phase := .idle } := by
      simp only [observerCall, hphase]
    rw [HomeWatch.onPolicyFileChanged_observer]
    exact h.call depth rfl hcall
  · rw [HomeWatch.dispatch_observer]
    exact h
  · exact h
  · exact h

/-- In a run in which nothing disturbs the observer: when nothing is under way and no
timer is armed, the texts of Home are those of the policy in the file, without seconds. -/
theorem home_follows_policy_file {home : HomeWatch P}
    (h : Visits (calmHomeStep R K F depth) (HomeWatch.CalmStarts K F depth) (fun _ => True) home)
    (hquiet : home.observer.Quiescent) (hretry : home.policyReloadRetryId = 0) :
    ∃ native found policy, platformLoad K F native home.document = some (policy, found) ∧
      ∀ now, (presenterFormatNow R home.presenter now).1 =
        homeTemporalPresentationFormat R (some (withoutSeconds policy)) now
          home.presenter.use24h := by
  have hinvariant : home.Retried ∧ home.Informed R K F ∧ ObserverInvariant depth home.observer := by
    refine h.invariant (I := fun home => home.Retried ∧ home.Informed R K F ∧
      ObserverInvariant depth home.observer) ?_ ?_
    · rintro _ ⟨document, hstarts⟩
      refine ⟨?_, HomeWatch.Informed.starts hstarts⟩
      obtain ⟨setting, ok, native, observer, -, rfl⟩ := hstarts
      exact .new ..
    · rintro _ _ _ - ⟨hretried, hinformed, hobserver⟩ hstep -
      have hstep' := (Option.ite_none_right_eq_some.mp hstep).2
      exact ⟨hretried.step hstep', hinformed.step hstep', hobserver.homeStep hstep⟩
  obtain ⟨hretried, hinformed, hobserver⟩ := hinvariant
  have hseen : home.observer.seen = home.observer.changes := by
    rcases Nat.lt_or_eq_of_le hobserver.bounded with hearly | hexisting
    · exact (hobserver.early hearly).2.2
    · exact (hobserver.faithful depth hquiet hexisting).2
  have hreloaded : home.reloaded = true := by
    rw [← Bool.not_eq_false]
    exact fun hfailed => hretried.armed.mpr hfailed hretry
  obtain ⟨native, found, policy, hload, hloaded⟩ := hinformed.current hseen hreloaded
  refine ⟨native, found, policy, hload, fun now => ?_⟩
  have hformat := (hinformed.holds.format R now).1
  rwa [hloaded] at hformat

theorem home_follows_policy_file_published :
    ∃ home : HomeWatch (Option TemporalPolicyV3),
      home.document = .contents (some savedPolicy) ∧ home.policyReloadRetryId = 0 ∧
      ∃ native found policy,
        platformLoad Common.small PolicyFormat.small native home.document = some (policy, found) ∧
        ∀ now, (presenterFormatNow .oneDay home.presenter now).1 =
          homeTemporalPresentationFormat .oneDay (some (withoutSeconds policy)) now
            home.presenter.use24h := by
  have hstart : Visits (calmHomeStep .oneDay Common.small PolicyFormat.small 0)
      (HomeWatch.CalmStarts Common.small PolicyFormat.small 0) (fun _ => True) homeAlone :=
    .start ⟨.absent, none, true, none, _, ⟨0, false, Nat.le_refl 0, nofun, rfl⟩, rfl⟩ trivial
  obtain ⟨home, hrun, hquiet, hretry, hdocument⟩ : ∃ home, Visits.run
      (calmHomeStep .oneDay Common.small PolicyFormat.small 0) (fun _ => True) homeAlone
        homePublished = some home ∧ home.observer.Quiescent ∧ home.policyReloadRetryId = 0 ∧
      home.document = .contents (some savedPolicy) :=
    ⟨_, rfl, ⟨rfl, rfl, rfl⟩, rfl, rfl⟩
  have hend := hstart.of_run homePublished hrun
  exact ⟨home, hdocument, hretry, home_follows_policy_file hend hquiet hretry⟩

end SystemSettings
