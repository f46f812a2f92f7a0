import SystemSettings.Decimal
import SystemSettings.Platform
import SystemSettings.Transition

/-!
# The theme of the windows

`linux-theme.c`: a style sheet is made from a light or a dark palette and installed for the whole
display. It is made anew only when the palette changes, and the desktop's settings are listened to
once, however many windows are opened.
-/

namespace SystemSettings

/-- What the desktop's settings say: a dark theme is preferred, and the theme's name. -/
structure ThemeSettings : Type where
  preferDark : Bool
  themeName : Option Text
  deriving DecidableEq

/-- The variables of `linux-theme.c`, with the display and the desktop that they are about. -/
structure LinuxTheme : Type where
  /-- `common_theme_provider`, by its number -/
  provider : Option ℕ
  /-- `common_theme_watch_installed` -/
  watchInstalled : Bool
  /-- `common_theme_state_valid` -/
  stateValid : Bool
  /-- `common_theme_dark` -/
  dark : Bool
  /-- `common_theme_generation` -/
  generation : UInt32
  /-- the display's style sheets, each with whether its palette is dark -/
  installed : List (ℕ × Bool)
  /-- how many style sheets have been made -/
  made : ℕ
  /-- the handlers of the settings -/
  handlers : ℕ
  /-- the desktop's settings, where there are any -/
  settings : Option ThemeSettings
  /-- the last install had a palette, metrics, typography and a display -/
  ready : Bool

namespace LinuxTheme

-- `infiltratr_ascii_contains_ci`
variable (containsCi : Text → Text → Bool)

/-- `system_prefers_dark` -/
def systemPrefersDark (settings : Option ThemeSettings) : Bool :=
  match settings with
  | none => false
  | some settings =>
    settings.preferDark || settings.themeName.any fun name => containsCi name (bytes "dark")

/-- `ss_linux_theme_install`; `ready` is whether there is all that a style sheet needs. -/
def install (ready : Bool) (theme : LinuxTheme) : LinuxTheme :=
  let dark := systemPrefersDark containsCi theme.settings
  let theme := { theme with ready := ready }
  if theme.provider.isSome ∧ theme.stateValid ∧ theme.dark = dark then theme
  else if !ready then theme
  else
    let installed :=
      match theme.provider with
      | some provider => theme.installed.filter fun sheet => sheet.1 ≠ provider
      | none => theme.installed
    { theme with
      provider := some theme.made
      stateValid := true
      dark := dark
      generation := theme.generation + 1
      installed := (theme.made, dark) :: installed
      made := theme.made + 1 }

/-- `ss_linux_theme_watch` -/
def watch (theme : LinuxTheme) : LinuxTheme :=
  if theme.watchInstalled then theme
  else
    match theme.settings with
    | none => theme
    | some _ => { theme with handlers := theme.handlers + 2, watchInstalled := true }

/-- The program has just started. -/
def new (settings : Option ThemeSettings) : LinuxTheme :=
  ⟨none, false, false, false, 0, [], 0, 0, settings, false⟩

end LinuxTheme

/-- What can happen next. -/
inductive ThemeAction : Type where
  /-- a window is opened -/
  | activate (ready : Bool)
  /-- the settings change, and their handlers are called -/
  | change (settings : ThemeSettings) (ready : Bool)

variable (containsCi : Text → Text → Bool)

/-- One step; `none` where the action cannot happen. -/
def themeStep (theme : LinuxTheme) : ThemeAction → Option LinuxTheme
  | .activate ready => some (theme.install containsCi ready).watch
  | .change settings ready =>
    match theme.settings with
    | none => none
    | some _ =>
      let theme := { theme with settings := some settings }
      -- `on_system_theme_changed`
      some (if theme.watchInstalled then theme.install containsCi ready else theme)

namespace LinuxTheme

variable {containsCi} {theme : LinuxTheme}

/-- The display has the style sheet that the variables speak of, and no other. -/
structure Single (theme : LinuxTheme) : Prop where
  installed : theme.installed = (theme.provider.map fun provider => (provider, theme.dark)).toList
  valid : theme.provider.isSome = theme.stateValid
  counted : theme.generation = UInt32.ofNat theme.made
  first : theme.provider = none ↔ theme.made = 0

/-- The handlers are connected once. -/
def Watched (theme : LinuxTheme) : Prop :=
  theme.handlers = if theme.watchInstalled then 2 else 0

/-- The style sheet is that of the settings. -/
def Follows (containsCi : Text → Text → Bool) (theme : LinuxTheme) : Prop :=
  theme.installed.map Prod.snd = [systemPrefersDark containsCi theme.settings]

/-- What an install does. -/
theorem Single.install (h : theme.Single) (containsCi : Text → Text → Bool) (ready : Bool) :
    (theme.install containsCi ready).Single ∧
      (ready = true → (theme.install containsCi ready).Follows containsCi) := by
  rw [LinuxTheme.install]
  dsimp only
  split
  · next hsame =>
    obtain ⟨provider, hprovider⟩ := Option.isSome_iff_exists.mp hsame.1
    refine ⟨⟨h.installed, h.valid, h.counted, h.first⟩, fun _ => ?_⟩
    simp [Follows, h.installed, hprovider, hsame.2.2]
  · split
    · next hready =>
      refine ⟨⟨h.installed, h.valid, h.counted, h.first⟩, fun htrue => ?_⟩
      simp [htrue] at hready
    · -- the old style sheet is the only one
      have hnone : (match theme.provider with
          | some provider => theme.installed.filter fun sheet => sheet.1 ≠ provider
          | none => theme.installed) = [] := by
        rw [h.installed]
        cases theme.provider with
        | none => rfl
        | some provider => simp
      rw [hnone]
      refine ⟨⟨rfl, rfl, ?_, by simp⟩, fun _ => rfl⟩
      simp [h.counted]

/-- What an install leaves alone. -/
theorem install_frame (containsCi : Text → Text → Bool) (theme : LinuxTheme) (ready : Bool) :
    (theme.install containsCi ready).settings = theme.settings ∧
      (theme.install containsCi ready).watchInstalled = theme.watchInstalled ∧
      (theme.install containsCi ready).handlers = theme.handlers ∧
      (theme.install containsCi ready).ready = ready := by
  rw [install]
  dsimp only
  split
  · exact ⟨rfl, rfl, rfl, rfl⟩
  · split
    · exact ⟨rfl, rfl, rfl, rfl⟩
    · exact ⟨rfl, rfl, rfl, rfl⟩

/-- A style sheet is made only where the palette is another one. -/
theorem Single.install_made (h : theme.Single) (ready : Bool) :
    (theme.install containsCi ready).made = theme.made ∨ theme.provider = none ∨
      (theme.install containsCi ready).dark ≠ theme.dark := by
  rw [LinuxTheme.install]
  dsimp only
  split
  · exact .inl rfl
  · next hother =>
    split
    · exact .inl rfl
    · refine .inr ?_
      cases hprovider : theme.provider with
      | none => exact .inl rfl
      | some provider =>
        have hvalid : theme.stateValid = true := by rw [← h.valid, hprovider]; rfl
        refine .inr fun hdark => hother ⟨?_, hvalid, hdark.symm⟩
        rw [hprovider]
        rfl

/-- What is kept. -/
structure Good (containsCi : Text → Text → Bool) (theme : LinuxTheme) : Prop where
  single : theme.Single
  watched : theme.Watched
  follows : theme.watchInstalled = true → theme.ready = true → theme.Follows containsCi

theorem good_new (settings : Option ThemeSettings) : (new settings).Good containsCi where
  single := ⟨rfl, rfl, rfl, ⟨fun _ => rfl, fun _ => rfl⟩⟩
  watched := rfl
  follows hwatch := by cases hwatch

/-- Watching touches the handlers only. -/
theorem watch_frame (theme : LinuxTheme) :
    theme.watch =
      { theme with
        handlers := theme.watch.handlers
        watchInstalled := theme.watch.watchInstalled } := by
  rw [watch]
  split
  · rfl
  · split
    · rfl
    · rfl

theorem Watched.watch (h : theme.Watched) : theme.watch.Watched := by
  rw [LinuxTheme.watch]
  split
  · exact h
  · next hwatch =>
    split
    · exact h
    · rw [Watched, if_neg hwatch] at h
      simp [Watched, h]

/-- What one step keeps. -/
theorem Good.step {theme' : LinuxTheme} {action : ThemeAction} (h : theme.Good containsCi)
    (hstep : themeStep containsCi theme action = some theme') : theme'.Good containsCi := by
  cases action with
  | activate ready =>
    obtain rfl := Option.some.inj hstep
    obtain ⟨hsingle, hfollows⟩ := h.single.install containsCi ready
    obtain ⟨-, hwatch, hhandlers, hready⟩ := install_frame containsCi theme ready
    have hwatched : (theme.install containsCi ready).Watched := by
      rw [Watched, hhandlers, hwatch]
      exact h.watched
    refine ⟨?_, hwatched.watch, fun _ hready' => ?_⟩
    · rw [watch_frame]
      exact ⟨hsingle.installed, hsingle.valid, hsingle.counted, hsingle.first⟩
    · rw [watch_frame] at hready' ⊢
      exact hfollows (hready ▸ hready')
  | change settings ready =>
    rw [themeStep] at hstep
    split at hstep
    · cases hstep
    · obtain rfl := Option.some.inj hstep
      have hchanged : Single { theme with settings := some settings } :=
        ⟨h.single.installed, h.single.valid, h.single.counted, h.single.first⟩
      split
      · next hwatch =>
        obtain ⟨hsingle, hfollows⟩ := hchanged.install containsCi ready
        obtain ⟨-, hwatch', hhandlers, hready⟩ :=
          install_frame containsCi { theme with settings := some settings } ready
        refine ⟨hsingle, ?_, fun _ hready' => hfollows (hready ▸ hready')⟩
        rw [Watched, hhandlers, hwatch']
        exact h.watched
      · next hwatch =>
        exact ⟨hchanged, h.watched, fun hwatch' => absurd hwatch' hwatch⟩

end LinuxTheme

/-- **The theme follows the desktop.** However windows are opened and settings change, the display
has one style sheet at most, and the handlers are connected once. Once they are, a style sheet
that could be made is that of the settings as they are now, and a new one is made only where there
was none or the palette is another one. -/
theorem theme_follows_desktop {containsCi : Text → Text → Bool} {theme : LinuxTheme}
    (h : Visits (themeStep containsCi) (fun t => ∃ settings, t = .new settings) (fun _ => True)
      theme) :
    theme.installed.length ≤ 1 ∧ theme.handlers = (if theme.watchInstalled then 2 else 0) ∧
      theme.generation = UInt32.ofNat theme.made ∧
      (theme.watchInstalled = true → theme.ready = true →
        theme.installed.map Prod.snd =
          [LinuxTheme.systemPrefersDark containsCi theme.settings]) ∧
      ∀ ready, (theme.install containsCi ready).made = theme.made ∨ theme.provider = none ∨
        (theme.install containsCi ready).dark ≠ theme.dark := by
  have hgood : theme.Good containsCi := by
    refine Visits.invariant ?_ (fun s a s' _ hs hstep _ => hs.step hstep) h
    rintro _ ⟨settings, rfl⟩
    exact LinuxTheme.good_new settings
  refine ⟨?_, hgood.watched, hgood.single.counted, hgood.follows, hgood.single.install_made⟩
  rw [hgood.single.installed]
  exact Option.length_toList_le

/-- A window is opened under a light theme, and the desktop turns dark. -/
def LinuxTheme.dusk : LinuxTheme :=
  let theme := ((LinuxTheme.new (some ⟨false, none⟩)).install (fun _ _ => false) true).watch
  { theme with settings := some ⟨true, none⟩ }.install (fun _ _ => false) true

theorem theme_follows_desktop_dusk :
    LinuxTheme.dusk.installed.length ≤ 1 ∧ LinuxTheme.dusk.handlers = 2 ∧
      LinuxTheme.dusk.installed.map Prod.snd = [true] := by
  have hfollows := @theme_follows_desktop (fun _ _ => false) .dusk
    (.next (.change ⟨true, none⟩ true)
      (.next (.activate true) (.start ⟨some ⟨false, none⟩, rfl⟩ trivial) rfl trivial) rfl trivial)
  exact ⟨hfollows.1, hfollows.2.1, hfollows.2.2.2.1 rfl rfl⟩

end SystemSettings
