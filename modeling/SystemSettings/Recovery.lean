import SystemSettings.PolicyFile

/-!
# Recovery over a damaged policy

`platform_load` reports a damaged policy as the defaults, with success. Recovery
takes these for a policy without a location.
-/

namespace SystemSettings

variable {P B : Type} {K : Common} {F : PolicyFormat P} {G : GLib B} {p : Pid} {s : Memory}
  {w : World (FileState P) B}

/-- Nothing else touches the policy, the locality files or their lock. -/
def World.Undisturbed (w w' : World (FileState P) B) : Prop :=
  w'.document = w.document ∧ w'.locationIni = w.locationIni ∧
    w'.locationPending = w.locationPending ∧ w'.localityLock = w.localityLock

/-- Recovery alone with the files. -/
abbrev recoveryMachine (K : Common) (F : PolicyFormat P) (B : Type) (p : Pid) :
    Machine (Sys B) Memory (World (FileState P) B) :=
  World.machine (platformStorage K F) p World.Undisturbed

theorem World.Undisturbed.refl (w : World (FileState P) B) : w.Undisturbed w :=
  ⟨rfl, rfl, rfl, rfl⟩

/-- Both locality files are as they were. -/
def World.SameFiles (w w' : World (FileState P) B) : Prop :=
  w'.locationIni = w.locationIni ∧ w'.locationPending = w.locationPending

/-- What spares the files of a policy that is no authority: recovery cannot read
the policy, take the lock or read the journal, or there are no files. -/
def World.Spared (w : World (FileState P) B) : Prop :=
  w.document = .unreadable ∨ w.localityLock ≠ none ∨ w.locationPending = .unreadable ∨
    (w.locationPending = .absent ∧ w.locationIni = .absent)

/-! ## What a damaged policy is taken for -/

/-- A damaged policy is loaded as one without a location. -/
theorem platformLoad_damaged (hdefault : ∃ policy, K.policyDefault = some policy ∧
      policy.locationConfigured = false) {document : FileState P}
    (hd : ¬ Authoritative F document) (native : Option Native) :
    (document = .unreadable ∧ platformLoad K F native document = none) ∨
      (document ≠ .unreadable ∧ ∃ policy, platformLoad K F native document = some (policy, false) ∧
        policy.locationConfigured = false) := by
  obtain ⟨default, hK, hconf⟩ := hdefault
  cases document with
  | absent => exact absurd trivial hd
  | unreadable => exact .inl ⟨rfl, rfl⟩
  | contents data =>
    refine .inr ⟨by simp, loadCinnamonDefaults K native default, ?_, by simpa⟩
    cases hp : F.parse data with
    | ok policy => exact absurd ⟨policy, hp⟩ hd
    | error damage => cases damage <;> simp [platformLoad, hp, hK]

/-- Recovery under the lock leaves spared files alone. -/
theorem locationMetadataRecoverLocked_spares
    (hdefault : ∃ policy, K.policyDefault = some policy ∧ policy.locationConfigured = false)
    (hd : ¬ Authoritative F w.document) (hs : w.document = .unreadable ∨
      w.locationPending = .unreadable ∨
      (w.locationPending = .absent ∧ w.locationIni = .absent)) :
    (locationMetadataRecoverLocked G s).wp (recoveryMachine K F B p)
      (fun _ _ _ w' => w.SameFiles w') w := by
  refine World.wp_call fun w₁ ok h₁ => ?_
  have same : w.SameFiles w₁ := ⟨h₁.2.1, h₁.2.2.1⟩
  -- the policy is not loaded, or as one without a location
  have loaded : (World.respond (platformStorage K F) p ok w₁ .load).1 = none ∨
      w.document ≠ .unreadable ∧ ∃ policy,
        (World.respond (platformStorage K F) p ok w₁ .load).1 = some (policy, false) ∧
        policy.locationConfigured = false := by
    rw [← h₁.1]
    cases ok with
    | false => exact .inl rfl
    | true =>
      rw [← h₁.1] at hd
      exact (platformLoad_damaged hdefault hd w₁.native).imp_left And.right
  rcases loaded with h | ⟨hreadable, policy, h, hconf⟩
  · rw [h]
    exact same
  · rw [h]
    have hs := hs.resolve_left hreadable
    refine World.wp_call fun w₂ ok h₂ => ?_
    have hini : w₂.locationIni = w.locationIni := h₂.2.1.trans same.1
    have hpending : w₂.locationPending = w.locationPending := h₂.2.2.1.trans same.2
    -- so the journal is not read, or there is nothing to remove
    rcases hs with hunreadable | ⟨habsent, hiniAbsent⟩
    · have hread : (World.respond (platformStorage K F) p ok w₂ (.readFile .locationPending)).1 =
          .unreadable := by
        cases ok with
        | false => rfl
        | true => exact hpending.trans hunreadable
      simp only [hread, Prog.ret_bind, Action.pure_run, metadataLoad]
      exact ⟨hini, hpending⟩
    · cases ok with
      | false => exact ⟨hini, hpending⟩
      | true =>
        have hread :
            (World.respond (platformStorage K F) p true w₂ (.readFile .locationPending)).1 =
            .absent := hpending.trans habsent
        simp only [hread, Prog.ret_bind, Action.pure_run, metadataLoad, hconf, Bool.false_eq_true,
          if_false]
        refine World.wp_call fun w₃ ok h₃ => ?_
        cases ok with
        | false => exact ⟨h₃.2.1.trans hini, h₃.2.2.1.trans hpending⟩
        | true => exact ⟨hiniAbsent.symm, h₃.2.2.1.trans hpending⟩

/-- Recovery leaves spared files alone. -/
theorem locationMetadataRecover_spares
    (hdefault : ∃ policy, K.policyDefault = some policy ∧ policy.locationConfigured = false)
    (hd : ¬ Authoritative F w.document) (hs : w.Spared) :
    (locationMetadataRecover G s).wp (recoveryMachine K F B p)
      (fun _ _ _ w' => w.SameFiles w') w := by
  refine World.wp_call fun w₁ ok h₁ => ?_
  by_cases htaken : ok = true ∧ w₁.localityLock = none
  · have hs : w.document = .unreadable ∨ w.locationPending = .unreadable ∨
        (w.locationPending = .absent ∧ w.locationIni = .absent) := by
      rcases hs with h | h | h
      · exact .inl h
      · exact absurd (h₁.2.2.2.symm.trans htaken.2) h
      · exact .inr h
    simp only [World.respond, if_pos htaken, Prog.ret_bind]
    rw [← h₁.1, ← h₁.2.1, ← h₁.2.2.1] at hs
    rw [← h₁.1] at hd
    refine Prog.wp_bind (Prog.wp_mono ?_ (locationMetadataRecoverLocked_spares
      (w := { w₁ with localityLock := some p }) hdefault hd hs))
    intro tr recovered s' w' h'
    refine World.wp_call fun w₂ ok h₂ => ?_
    have hsame : w.SameFiles w₂ :=
      ⟨h₂.2.1.trans (h'.1.trans h₁.2.1), h₂.2.2.1.trans (h'.2.trans h₁.2.2.1)⟩
    simp only [World.respond]
    split <;> exact hsame
  · simp only [World.respond, if_neg htaken, Prog.ret_bind]
    exact ⟨h₁.2.1, h₁.2.2.1⟩

/-- Played with no fault, recovery does not leave other files alone. -/
theorem locationMetadataRecover_destroys
    (hdefault : ∃ policy, K.policyDefault = some policy ∧ policy.locationConfigured = false)
    (hd : ¬ Authoritative F w.document) (hs : ¬ w.Spared) :
    ¬ w.SameFiles (World.play (platformStorage K F) p (locationMetadataRecover G s) w []).2.2.2 := by
  simp only [World.Spared, not_or, ne_eq, not_not] at hs
  obtain ⟨hreadable, hfree, hpending, hfiles⟩ := hs
  obtain ⟨h, -⟩ | ⟨-, policy, hload, hconf⟩ := platformLoad_damaged hdefault hd w.native
  · exact absurd h hreadable
  intro hsame
  cases hp : w.locationPending with
  | unreadable => exact hpending hp
  | absent =>
    -- no journal: `location.ini` goes
    have hini : w.locationIni ≠ .absent := fun h => hfiles ⟨hp, h⟩
    refine hini (hsame.1.symm.trans ?_)
    simp [World.play, Prog.play, locationMetadataRecover, locationMetadataRecoverLocked,
      World.respond, hfree, platformStorage, hload, metadataLoadPath, World.file, hp, metadataLoad,
      hconf, locationMetadataClear, World.setFile]
  | contents data =>
    -- whatever the journal holds, it is discarded
    have hdiscarded := hsame.2
    rcases hm : metadataParse G data with _ | metadata <;>
      simp [World.play, Prog.play, locationMetadataRecover, locationMetadataRecoverLocked,
        World.respond, hfree, platformStorage, hload, metadataLoadPath, World.file, hp,
        metadataLoad, hm, hconf, locationMetadataClear, locationMetadataDiscardStaged,
        World.setFile] at hdiscarded

/-- Recovery destroys nothing on a damaged policy exactly when it gets nothing
to see. -/
theorem recovery_spares_damaged_iff
    (hdefault : ∃ policy, K.policyDefault = some policy ∧ policy.locationConfigured = false)
    (hd : ¬ Authoritative F w.document) :
    (∀ tr ok s' w', (locationMetadataRecover G s).Exec (recoveryMachine K F B p) w tr ok s' w' →
      w.SameFiles w') ↔ w.Spared := by
  constructor
  · intro h
    by_contra hs
    exact locationMetadataRecover_destroys hdefault hd hs
      (h _ _ _ _ (World.play_exec _ p World.Undisturbed.refl _ w []))
  · intro hs tr ok s' w' hx
    exact hx.of_wp (locationMetadataRecover_spares hdefault hd hs)

/-! ## A truncated policy file -/

/-- An empty policy file beside the metadata of a locality. -/
def truncatedPolicy : World (FileState (Option TemporalPolicyV3)) (Option LocationMetadata) :=
  { World.fresh (.contents none) with
    locationIni := .contents (some ⟨[77], [], [], .finite (-37), .finite 145⟩) }

theorem truncatedPolicy_damaged : ¬ Authoritative PolicyFormat.small truncatedPolicy.document := by
  rintro ⟨policy, h⟩
  cases h

/-- An unreadable journal saves both files. -/
theorem recovery_spares_damaged_unreadable :
    let w := { truncatedPolicy with locationPending := .unreadable }
    ∀ tr ok s' w', (locationMetadataRecover GLib.small Memory.empty).Exec
      (recoveryMachine Common.small PolicyFormat.small _ 1) w tr ok s' w' → w.SameFiles w' := by
  intro w
  have damaged : ¬ Authoritative PolicyFormat.small w.document := truncatedPolicy_damaged
  exact (recovery_spares_damaged_iff ⟨_, rfl, rfl⟩ damaged).mpr (.inr (.inr (.inl rfl)))

/-- Without a journal the metadata is removed. -/
theorem recovery_spares_damaged_counterexample :
    ¬ ∀ (w : World (FileState (Option TemporalPolicyV3)) (Option LocationMetadata)),
      ¬ Authoritative PolicyFormat.small w.document →
      ∀ tr ok s' w', (locationMetadataRecover GLib.small Memory.empty).Exec
        (recoveryMachine Common.small PolicyFormat.small _ 1) w tr ok s' w' → w.SameFiles w' := by
  intro h
  have hrun := h truncatedPolicy truncatedPolicy_damaged _ _ _ _
    (World.play_exec _ 1 World.Undisturbed.refl _ truncatedPolicy [])
  exact absurd hrun.1 (by decide +kernel)

end SystemSettings
