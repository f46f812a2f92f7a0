import SystemSettings.CliTransaction
import SystemSettings.LocalityTransactions

/-!
# The command line tool on a place

A run of the tool follows the locality protocol: what the draft notes about the place is
what its policy says.
-/

namespace SystemSettings

variable {P B : Type} {K : Common} {F : PolicyFormat P} {G : GLib B} {m : ModelId}
  {round : Double → Double} {s : Memory} {d : Locality}
  {allowed : Locality → LocalityMove → Prop} {offers : Set LocalityPair}

/-! ## The draft -/

/-- The place of the draft's policy is the one that the draft has noted, or that of the policy
it started from. -/
def CliDraft.Placed (draft : CliDraft) (policy : TemporalPolicyV3) : Prop :=
  draft.policy.location =
    if draft.locationChangeRequested then
      if draft.locationClearRequested then none else some draft.locationCandidate.coordinates
    else policy.location

theorem CliDraft.Placed.apply {draft draft' : CliDraft} {policy : TemporalPolicyV3}
    {option : CliOption} (h : draft.Placed policy) (happly : draft.apply K option = some draft') :
    draft'.Placed policy := by
  obtain ⟨edited, hedit, rfl⟩ := Option.map_eq_some_iff.mp happly
  cases option with
  | clock mode =>
    obtain ⟨info, -, rfl⟩ := Option.map_eq_some_iff.mp hedit
    exact h
  | calendar id =>
    obtain ⟨-, rfl⟩ := (policyDraftSetCalendar_eq_some K).mp hedit
    exact h
  | seconds showSeconds =>
    cases hedit
    exact h
  | location latitude longitude | clearLocation =>
    obtain ⟨-, rfl⟩ := policyDraftSetLocation_eq_some.mp hedit
    rfl

theorem placed_of_fold {policy : TemporalPolicyV3} {options : List CliOption}
    {draft draft' : CliDraft} (h : draft.Placed policy)
    (hfold : options.foldlM (CliDraft.apply K) draft = some draft') : draft'.Placed policy := by
  induction options generalizing draft with
  | nil =>
    cases hfold
    exact h
  | cons option options ih =>
    rw [List.foldlM_cons] at hfold
    obtain ⟨draft₁, happly, hrest⟩ := Option.bind_eq_some_iff.mp hfold
    exact ih (h.apply happly) hrest

/-- What the options leave. -/
theorem cliOptions_placed {program : String} {args : List String} {policy : TemporalPolicyV3}
    {draft : CliDraft} (h : cliOptions K program args (.start policy) = .ok draft) :
    draft.Placed policy := by
  obtain ⟨options, -, hfold⟩ := cliOptions_folds h
  have hstart : (CliDraft.start policy).Placed policy := rfl
  exact placed_of_fold hstart hfold

/-- The pair that the draft leaves when it changes the place. -/
def CliDraft.offer (round : Double → Double) (draft : CliDraft) : LocalityPair :=
  if draft.locationClearRequested then .cleared else draft.locationCandidate.pair round

variable (K round) in
/-- The pairs that a command line can commit, whatever the policy it starts from. -/
def commandLineOffers (program : String) (args : List String) : Set LocalityPair :=
  { pair | ∃ policy draft, cliOptions K program args (.start policy) = .ok draft ∧
    draft.locationChangeRequested = true ∧ pair = draft.offer round }

/-! ## The transaction -/

section Commit

variable {loaded : TemporalPolicyV3 × Bool} {draft : CliDraft}
  (hloaded : LoadedAt K F round loaded d.place) (hplaced : draft.Placed loaded.1)
include hloaded hplaced

/-- A draft that keeps the place. -/
theorem cliCommit_follows_keep (hchange : draft.locationChangeRequested = false) :
    (cliCommit G loaded.1 loaded.2 draft s).Follows (transactionMachine K F G round allowed)
      (LocalityStep round allowed offers .transaction) (fun _ _ _ _ => True) .idle d := by
  have hplace : some (draft.policy.location.map (Coordinates.rounded round)) = d.place := by
    rw [hplaced, hchange, if_neg Bool.false_ne_true, hloaded.rounded, hloaded.shown]
  simp only [cliCommit, hchange, Bool.false_and, Bool.false_eq_true, if_false]
  refine follows_save trivial fun _ => ⟨.idle, .inr ⟨rfl, hplace⟩, ?_⟩
  refine follows_skip id fun same => ?_
  cases same with
  | false | true => trivial

/-- A draft that clears the place. -/
theorem cliCommit_follows_clear (hchange : draft.locationChangeRequested = true)
    (hclear : draft.locationClearRequested = true) (hoffer : LocalityPair.cleared ∈ offers) :
    (cliCommit G loaded.1 loaded.2 draft s).Follows (transactionMachine K F G round allowed)
      (LocalityStep round allowed offers .transaction) (fun _ _ _ _ => True) .idle d := by
  have hlocation : draft.policy.location = none := by
    rw [hplaced, hchange, hclear, if_pos rfl, if_pos rfl]
  simp only [cliCommit, hchange, hclear, Bool.not_true, Bool.and_false, Bool.false_eq_true,
    if_false, if_true]
  refine follows_save trivial fun hguard => ⟨.cleared d.place, .inl ?_, ?_⟩
  · rw [hlocation]
    exact .clear hoffer (hguard.1 rfl rfl hlocation)
  refine follows_write fun ok d₁ heffect _ => ?_
  cases ok with
  | true =>
    have hd₁ : d₁ = { d with place := some none, ini := FileView.missing } := by
      rw [hlocation] at heffect
      exact heffect
    subst hd₁
    refine ⟨.removed, .inl ?_, ?_⟩
    · rw [hlocation]
      exact .remove
    · refine follows_skip id fun same => ?_
      cases same with
      | false | true => trivial
  | false =>
    refine ⟨_, .inr ⟨rfl, heffect⟩, ?_⟩
    have hd₁ : d₁ = _ := heffect
    subst hd₁
    refine (undo_follows true hloaded LocalityStep.restore).bind ?_
    rintro restored s q d ⟨rfl, -⟩
    cases restored with
    | false | true => trivial

/-- A draft that sets the place. -/
theorem cliCommit_follows_set (hG : G.ReadsBack) (hchange : draft.locationChangeRequested = true)
    (hclear : draft.locationClearRequested = false)
    (hoffer : draft.locationCandidate.pair round ∈ offers) :
    (cliCommit G loaded.1 loaded.2 draft s).Follows (transactionMachine K F G round allowed)
      (LocalityStep round allowed offers .transaction) (fun _ _ _ _ => True) .idle d := by
  have hlocation : draft.policy.location = some draft.locationCandidate.coordinates := by
    rw [hplaced, hchange, hclear, if_pos rfl, if_neg Bool.false_ne_true]
  simp only [cliCommit, hchange, hclear, Bool.not_false, Bool.and_true, Bool.false_eq_true,
    if_false, if_true, Action.bind_run]
  refine (locationMetadataStage_follows hG hoffer).bind ?_
  rintro staged s q d₁ ⟨rfl, hstaged⟩
  cases staged with
  | false => trivial
  | true =>
    obtain ⟨rfl, rfl⟩ := hstaged
    refine follows_save ?_ fun _ => ⟨.saved draft.locationCandidate d.place, .inl ?_, ?_⟩
    · refine (locationMetadataDiscardStaged_follows (.inl rfl)).bind fun _ _ _ _ _ => ?_
      trivial
    · rw [hlocation]
      exact .save
    · rw [hlocation]
      have hjournal : ({ d.write .locationPending (.ok, draft.locationCandidate) with
          place := (draft.locationCandidate.pair round).1 } : Locality).pending =
          (.ok, draft.locationCandidate) := rfl
      refine (locationMetadataFinishStaged_follows hG hjournal LocalityStep.publish
        LocalityStep.retire).bind ?_
      rintro finished s q d₁ ⟨rfl, hfinished⟩
      cases finished with
      | true =>
        refine follows_skip id fun same => ?_
        cases same with
        | false | true => trivial
      | false =>
        obtain ⟨rfl, -⟩ := hfinished
        refine (undo_follows true hloaded LocalityStep.undo).bind ?_
        rintro restored s q d₂ ⟨rfl, hrestored⟩
        cases restored with
        | false => trivial
        | true =>
          refine (locationMetadataDiscardStaged_follows (.inr hrestored.1)).bind fun _ _ _ _ _ => ?_
          trivial

/-- Publishing a draft. -/
theorem cliCommit_follows (hG : G.ReadsBack)
    (hoffer : draft.locationChangeRequested = true → draft.offer round ∈ offers) :
    (cliCommit G loaded.1 loaded.2 draft s).Follows (transactionMachine K F G round allowed)
      (LocalityStep round allowed offers .transaction) (fun _ _ _ _ => True) .idle d := by
  cases hchange : draft.locationChangeRequested with
  | false => exact cliCommit_follows_keep hloaded hplaced hchange
  | true =>
    have hoffer := hoffer hchange
    cases hclear : draft.locationClearRequested with
    | true =>
      rw [CliDraft.offer, hclear, if_pos rfl] at hoffer
      exact cliCommit_follows_clear hloaded hplaced hchange hclear hoffer
    | false =>
      rw [CliDraft.offer, hclear, if_neg Bool.false_ne_true] at hoffer
      exact cliCommit_follows_set hloaded hplaced hG hchange hclear hoffer

end Commit

variable {program : String} {args : List String}

/-- From the initialised model to the label `done`. -/
theorem cliTransaction_follows (hG : G.ReadsBack) {loaded : TemporalPolicyV3 × Bool}
    {priv : ModelPrivate} (hm : s.models m = some priv)
    (hpriv : (priv.policy, priv.persistedPolicyPresent) = loaded)
    (hloaded : LoadedAt K F round loaded d.place) :
    (cliTransaction K G m program args s).Follows (transactionMachine K F G round allowed)
      (LocalityStep round allowed (commandLineOffers K round program args) .transaction)
      (fun _ _ _ _ => True) .idle d := by
  subst hpriv
  simp only [cliTransaction, Action.bind_run, readModel_run, Prog.ret_bind, hm]
  refine follows_skip id fun allocated => ?_
  cases allocated with
  | false => trivial
  | true =>
    simp only [if_true, Prog.ret_bind]
    cases hdraft : cliOptions K program args (.start priv.policy) with
    | error message => trivial
    | ok draft =>
      simp only [Action.ite_run]
      split
      · trivial
      · exact cliCommit_follows hloaded (cliOptions_placed hdraft) hG fun hchange =>
          ⟨priv.policy, draft, hdraft, hchange, rfl⟩

section Reading

variable {A : Type} {guard : Locality → (c : Call B) → c.Answer → Prop}
  {next : A → Locality → A → Locality → Prop} {q : A}

/-- `modelInit` reads the policy. -/
theorem modelInit_follows (hm : s.models m = none) :
    (modelInit K m platformTemporalPolicyStore s).Follows (protocolMachine K F G round guard) next
      (fun ok s' q' d' => q' = q ∧ d' = d ∧ (ok = true → ∃ loaded,
        LoadedAt K F round loaded d.place ∧
          s'.models m = some ⟨loaded.1, platformTemporalPolicyStore, loaded.2, false⟩)) q d := by
  refine follows_of_under (Prog.under_of_told fun tr ok s' hy => ?_)
  rcases modelInit_yields hm rfl rfl hy with
    ⟨rfl, rfl, rfl | ⟨r, w, rfl⟩ | ⟨w₁, w₂, rfl⟩⟩ | ⟨rfl, -, x, w₁, w₂, rfl, rfl⟩
  · exact ⟨by simp, fun _ => ⟨rfl, rfl, nofun⟩⟩
  · exact ⟨by simp [Call.IsWrite], fun _ => ⟨rfl, rfl, nofun⟩⟩
  · exact ⟨by simp [Call.IsWrite], fun _ => ⟨rfl, rfl, nofun⟩⟩
  · refine ⟨by simp [Call.IsWrite], fun htold => ⟨rfl, rfl, fun _ => ⟨x, ?_, ?_⟩⟩⟩
    · exact (htold (event .load (some x) w₂) (.tail _ (.head _))).2 x rfl
    · exact Memory.setModel_self ..

/-- The locality lock is given back when it was taken. -/
theorem transactionEnd_follows (locked : Bool) :
    (Action.when locked locationMetadataTransactionEnd s).Follows
      (protocolMachine K F G round guard) next (fun _ s' q' d' => s' = s ∧ q' = q ∧ d' = d)
      q d := by
  cases locked with
  | false => exact ⟨rfl, rfl, rfl⟩
  | true => exact follows_skip id fun _ => ⟨rfl, rfl, rfl⟩

/-- The policy lock is given back when it was taken. -/
theorem endUpdate_follows (locked : Bool) :
    (Action.when locked storeEndUpdate s).Follows
      (protocolMachine K F G round guard) next (fun _ s' q' d' => s' = s ∧ q' = q ∧ d' = d)
      q d := by
  cases locked with
  | false => exact ⟨rfl, rfl, rfl⟩
  | true => exact follows_skip id fun _ => ⟨rfl, rfl, rfl⟩

theorem modelClear_follows : (modelClear m s).Follows (protocolMachine K F G round guard) next
    (fun _ _ q' d' => q' = q ∧ d' = d) q d := by
  refine releaseUpdateLock_follows.bind ?_
  rintro _ s' q d ⟨-, rfl, rfl⟩
  exact ⟨rfl, rfl⟩

end Reading

/-- `main` from the policy lock on. -/
theorem cliWithPolicy_follows (hG : G.ReadsBack) (hm : s.models m = none) (locked : Bool) :
    (cliWithPolicy K G m program args locked s).Follows (transactionMachine K F G round allowed)
      (LocalityStep round allowed (commandLineOffers K round program args) .transaction)
      (fun _ _ _ _ => True) .idle d := by
  have hlock : ((if args.isEmpty then pure false else storeBeginUpdate : SysM B Bool) s).Follows
      (transactionMachine K F G round allowed)
      (LocalityStep round allowed (commandLineOffers K round program args) .transaction)
      (fun _ s' q' d' => s' = s ∧ q' = RunState.idle ∧ d' = d) .idle d := by
    split
    · exact ⟨rfl, rfl, rfl⟩
    · exact follows_skip id fun _ => ⟨rfl, rfl, rfl⟩
  simp only [cliWithPolicy, Action.bind_run]
  refine hlock.bind ?_
  rintro platformLocked s q d ⟨rfl, rfl, rfl⟩
  simp only [Action.ite_run, Action.bind_run]
  split
  · exact (transactionEnd_follows locked).bind fun _ _ _ _ _ => trivial
  refine (modelInit_follows hm).bind ?_
  rintro ok s₁ q d ⟨rfl, rfl, hmodel⟩
  cases ok with
  | false =>
    refine (endUpdate_follows platformLocked).bind fun _ _ _ _ _ => ?_
    exact (transactionEnd_follows locked).bind fun _ _ _ _ _ => trivial
  | true =>
    obtain ⟨loaded, hloaded, hs₁⟩ := hmodel rfl
    refine (cliTransaction_follows hG hs₁ rfl hloaded).bind fun result s₂ q d _ => ?_
    refine (endUpdate_follows platformLocked).bind fun _ _ _ _ _ => ?_
    refine (transactionEnd_follows locked).bind fun _ _ _ _ _ => ?_
    exact modelClear_follows.bind fun _ _ _ _ _ => trivial

/-- A run of the tool. -/
theorem cliMain_follows (hG : G.ReadsBack) (hm : s.models m = none) :
    (cliMain K G m program args s).Follows (transactionMachine K F G round allowed)
      (LocalityStep round allowed (commandLineOffers K round program args) .transaction)
      (fun _ _ _ _ => True) .idle d := by
  simp only [cliMain, Action.ite_run, Action.bind_run]
  split
  · refine follows_skip id fun locked => ?_
    cases locked with
    | false => trivial
    | true => exact cliWithPolicy_follows hG hm true
  · exact cliWithPolicy_follows hG hm false

end SystemSettings
