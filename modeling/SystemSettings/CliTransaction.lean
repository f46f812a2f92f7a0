import SystemSettings.CliSetters
import SystemSettings.PolicyFile

/-!
# A run of the command line as a transaction

A run with nobody else about, for any failures of its calls: it leaves the policy
and `location.ini` alone, or it leaves what its options say of both, or it says
with its exit code how far it came.
-/

namespace SystemSettings

variable {D B : Type} {St : Storage D} {K : Common} {G : GLib B} {p : Pid} {m : ModelId}

/-! ## What a run leaves -/

/-- `location.ini` after the last location option. -/
def LocalityPublished (G : GLib B) (w w' : World D B) : Option CliOption → Prop
  | none => w'.locationIni = w.locationIni
  | some (.location latitude longitude) => ∃ data, w'.locationIni = .contents data ∧
    metadataParse G data = some ⟨customCoordinates, [], [], latitude, longitude⟩
  | some _ => w'.locationIni = .absent

/-- The options are durable: the policy that was loaded under the lock, with every
option applied, saved once, and the locality with it. The model setters leave the same
document. -/
structure CliCommit (St : Storage D) (K : Common) (G : GLib B) (p : Pid) (args : List String)
    (w : World D B) (tr : List (Event (Sys B) (World D B))) (w' : World D B)
    (loaded : TemporalPolicyV3 × Bool) (options : List CliOption) (final : TemporalPolicyV3) :
    Prop where
  load : St.load w.native w.document = some loaded
  underLock : ∃ w₁ : World D B, ⟨.load, some loaded, w₁⟩ ∈ tr ∧ w₁.policyLock = some p
  read : readOptions K args = some options
  fold : options.foldlM (CliOption.edit K) loaded.1 = some final
  saved : St.save final = some w'.document
  once : savedPolicies tr = [final]
  locality : LocalityPublished G w w' (lastLocation options)
  setters : ∀ (m : ModelId) (s : Memory) (tr' : List (Event (Sys B) (World D B))) (s' : Memory)
    (w'' : World D B), s.models m = none →
      (setterSequence K m options s).Exec (aloneMachine St B p) w tr' true s' w'' →
      w''.document = w'.document

/-- What a run with these arguments leaves, by its exit code. -/
inductive CliOutcome (St : Storage D) (K : Common) (G : GLib B) (p : Pid) (args : List String)
    (w : World D B) (tr : List (Event (Sys B) (World D B))) (w' : World D B) : ℕ → Prop
  /-- it has refused -/
  | untouched {code : ℕ} (hcode : code = 1 ∨ code = 2) (hdocument : w'.document = w.document)
      (hini : w'.locationIni = w.locationIni) : CliOutcome St K G p args w tr w' code
  /-- it has printed the policy -/
  | printed (hargs : args = []) (hdocument : w'.document = w.document)
      (hini : w'.locationIni = w.locationIni) : CliOutcome St K G p args w tr w' 0
  | committed {loaded : TemporalPolicyV3 × Bool} {options : List CliOption}
      {final : TemporalPolicyV3} (h : CliCommit St K G p args w tr w' loaded options final) :
      CliOutcome St K G p args w tr w' 0
  /-- everything is committed, but the desktop's settings differ -/
  | mirrorDiffers {loaded : TemporalPolicyV3 × Bool} {options : List CliOption}
      {final : TemporalPolicyV3} (h : CliCommit St K G p args w tr w' loaded options final)
      (hdiffers : ∃ w₁, ⟨.compatibilityMatches final, false, w₁⟩ ∈ tr) :
      CliOutcome St K G p args w tr w' 3
  /-- the locality was not published, and the policy is what it was -/
  | rolledBack {loaded : TemporalPolicyV3 × Bool} {options : List CliOption}
      (hload : St.load w.native w.document = some loaded)
      (hread : readOptions K args = some options) (hlocation : lastLocation options ≠ none)
      (hfailed : PublicationFailed tr) (hini : w'.locationIni = w.locationIni)
      (hrestored : PolicyRestored St loaded w'.document ∨
        ∃ w₁, ⟨.save loaded.1, false, w₁⟩ ∈ tr ∨ ⟨.clear, false, w₁⟩ ∈ tr) :
      CliOutcome St K G p args w tr w' 3

/-! ## From the draft to the options -/

variable {s : Memory} {w w₀ w₁ w' : World D B} {draft : CliDraft}
  {loaded : TemporalPolicyV3 × Bool} {program : String} {args : List String} {code : ℕ}

theorem DraftPublished.congr (h : DraftPublished G draft w w')
    (hbefore : w.locationIni = w₀.locationIni) (hafter : w₁.locationIni = w'.locationIni) :
    DraftPublished G draft w₀ w₁ := by
  simpa only [DraftPublished, hbefore, hafter] using h

/-- What a draft publishes is what the last location option says. -/
theorem DraftPublished.locality {last : Option CliOption} (h : DraftPublished G draft w w')
    (hnotes : draft.Notes last) : LocalityPublished G w w' last := by
  cases last with
  | none =>
    have hchange : draft.locationChangeRequested = false := hnotes
    simpa [DraftPublished, LocalityPublished, CliDraft.stages, hchange] using h
  | some option =>
    cases option with
    | location latitude longitude =>
      obtain ⟨hchange, hclear, hcandidate⟩ := hnotes
      simpa [DraftPublished, LocalityPublished, CliDraft.stages, hchange, hclear, hcandidate]
        using h
    | _ =>
      obtain ⟨hchange, hclear⟩ := hnotes
      simpa [DraftPublished, LocalityPublished, CliDraft.stages, hchange, hclear] using h

/-- What surrounds the commit does not change how it ends. -/
theorem CommitOutcome.surround {pre tr post : List (Event (Sys B) (World D B))}
    (h : CommitOutcome St G loaded draft w tr w' code) (hpre : Quiet w₀ pre w)
    (hpost : Quiet w' post w₁) :
    CommitOutcome St G loaded draft w₀ (pre ++ (tr ++ post)) w₁ code := by
  have hmem {e : Event (Sys B) (World D B)} (he : e ∈ tr) : e ∈ pre ++ (tr ++ post) :=
    List.mem_append_right _ (List.mem_append_left _ he)
  cases h with
  | untouched hdocument hini =>
    exact .untouched (hpost.document.trans (hdocument.trans hpre.document))
      (hpost.locationIni.trans (hini.trans hpre.locationIni))
  | committed hcode hsaved honce hpublished =>
    refine .committed (hcode.imp_right fun ⟨hcode, w₂, he⟩ => ⟨hcode, w₂, hmem he⟩) ?_ ?_
      (hpublished.congr hpre.locationIni hpost.locationIni)
    · rw [hpost.document]
      exact hsaved
    · rw [savedPolicies_append, savedPolicies_append, hpre.saved, hpost.saved, honce]
      rfl
  | rolledBack hchange hfailed hini hrestored =>
    refine .rolledBack hchange (hfailed.mono fun e he => hmem he)
      (hpost.locationIni.trans (hini.trans hpre.locationIni)) ?_
    rcases hrestored with hrestored | ⟨w₂, he⟩
    · exact .inl (hpost.document ▸ hrestored)
    · exact .inr ⟨w₂, he.imp hmem hmem⟩

/-- A commit of the draft that the option loop leaves. -/
theorem CommitOutcome.cliOutcome {round : Double → Double}
    {tr : List (Event (Sys B) (World D B))} (hround : St.Rounds round)
    (h : CommitOutcome St G loaded draft w tr w' code) (hargs : args ≠ [])
    (hload : St.load w.native w.document = some loaded)
    (hunderLock : ∃ w₁ : World D B, ⟨.load, some loaded, w₁⟩ ∈ tr ∧ w₁.policyLock = some p)
    (hoptions : cliOptions K program args (.start loaded.1) = .ok draft) :
    CliOutcome St K G p args w tr w' code := by
  obtain ⟨options, hread, hfold⟩ := cliOptions_folds hoptions
  cases h with
  | untouched hdocument hini => exact .untouched (.inr rfl) hdocument hini
  | rolledBack hchange hfailed hini hrestored =>
    obtain ⟨last, -, -, hlast⟩ := exists_location hfold hchange
    have hlocation : lastLocation options ≠ none := by
      rw [hlast]
      exact Option.some_ne_none last
    exact .rolledBack hload hread hlocation hfailed hini hrestored
  | committed hcode hsaved honce hpublished =>
    have hfinal := policy_of_fold hfold
    have hcommit : CliCommit St K G p args w tr w' loaded options draft.policy := by
      refine ⟨hload, hunderLock, hread, hfinal, hsaved, honce,
        hpublished.locality (notes_of_fold hfold), fun m s tr' s' w'' hm hx => ?_⟩
      have hsetters := setterSequence_document hround hload hfinal
        (readOptions_ne_nil hread hargs) hm hx
      exact Option.some.inj (hsetters.symm.trans hsaved)
    rcases hcode with rfl | ⟨rfl, hdiffers⟩
    · exact .committed hcommit
    · exact .mirrorDiffers hcommit hdiffers

/-! ## The run -/

/-- How the transaction on a loaded policy ends. -/
inductive TransactionOutcome (St : Storage D) (K : Common) (G : GLib B) (program : String)
    (args : List String) (loaded : TemporalPolicyV3 × Bool) (w : World D B)
    (tr : List (Event (Sys B) (World D B))) (w' : World D B) : ℕ → Prop
  | refused {code : ℕ} (hcode : code = 1 ∨ code = 2) (hquiet : Quiet w tr w') :
      TransactionOutcome St K G program args loaded w tr w' code
  | printed (hargs : args = []) (hquiet : Quiet w tr w') :
      TransactionOutcome St K G program args loaded w tr w' 0
  | published {code : ℕ} {draft : CliDraft} (hargs : args ≠ [])
      (hoptions : cliOptions K program args (.start loaded.1) = .ok draft)
      (h : CommitOutcome St G loaded draft w tr w' code) :
      TransactionOutcome St K G program args loaded w tr w' code

theorem cliTransaction_wp (hG : G.ReadsBack)
    (hm : s.models m = some ⟨loaded.1, platformTemporalPolicyStore, loaded.2, false⟩) :
    (cliTransaction K G m program args s).wp (aloneMachine St B p)
      (fun tr result s' w' => s' = s ∧ KeepsLocks (commandTouchesLocation args) w tr w' ∧
        TransactionOutcome St K G program args loaded w tr w' result.exitCode) w := by
  simp only [cliTransaction, Action.bind_run, readModel_run, Prog.ret_bind, hm, calloc_run,
    Prog.call_bind]
  have hquiet (ok : Bool) : Quiet w [⟨.calloc, ok, w⟩] w := .cons id id rfl rfl rfl (.nil w)
  have hkeeps (ok : Bool) : KeepsLocks (commandTouchesLocation args) w [⟨.calloc, ok, w⟩] w :=
    .cons id rfl rfl (.nil _ w)
  refine wp_alone fun ok => ?_
  cases ok with
  | false => exact ⟨rfl, hkeeps false, .refused (.inl rfl) (hquiet false)⟩
  | true =>
    simp only [World.respond, ↓reduceIte]
    cases hoptions : cliOptions K program args (.start loaded.1) with
    | error message => exact ⟨rfl, hkeeps true, .refused (.inr rfl) (hquiet true)⟩
    | ok draft =>
      cases args with
      | nil => exact ⟨rfl, hkeeps true, .printed rfl (hquiet true)⟩
      | cons option rest =>
        refine Prog.wp_mono ?_ (cliCommit_wp hG loaded draft)
        rintro tr result _ w' ⟨rfl, hlocks, hcommit⟩
        have hchange : draft.locationChangeRequested = true →
            commandTouchesLocation (option :: rest) = true := by
          intro hchange
          obtain ⟨options, hread, hfold⟩ := cliOptions_folds hoptions
          obtain ⟨last, hmem, hlocation, -⟩ := exists_location hfold hchange
          exact commandTouchesLocation_of_mem hread hmem hlocation
        refine ⟨rfl, (hkeeps true).trans (hlocks.mono hchange), ?_⟩
        refine .published (List.cons_ne_nil _ _) hoptions ?_
        simpa using hcommit.surround (hquiet true) (.nil w')

/-- The policy lock of a run with options. -/
theorem policyLock_wp (args : List String) :
    ((if args.isEmpty then pure false else storeBeginUpdate : SysM B Bool) s).wp
      (aloneMachine St B p) (fun tr locked s' w' => s' = s ∧ Quiet w tr w' ∧
        w'.localityLock = w.localityLock ∧ (locked = true → w'.policyLock = some p)) w := by
  cases args with
  | nil => exact ⟨rfl, .nil w, rfl, fun hlocked => absurd hlocked Bool.false_ne_true⟩
  | cons option rest =>
    refine wp_alone fun ok => ?_
    simp only [World.respond]
    split
    · exact ⟨rfl, .cons id id rfl rfl rfl (.nil _), rfl, fun _ => rfl⟩
    · exact ⟨rfl, .cons id id rfl rfl rfl (.nil w), rfl,
        fun hlocked => absurd hlocked Bool.false_ne_true⟩

theorem endUpdate_wp (locked : Bool) :
    ((Action.when locked storeEndUpdate : SysM B Unit) s).wp (aloneMachine St B p)
      (fun tr _ s' w' => s' = s ∧ Quiet w tr w') w := by
  cases locked with
  | false => exact ⟨rfl, .nil w⟩
  | true =>
    refine wp_alone fun ok => ?_
    simp only [World.respond]
    split <;> exact ⟨rfl, .cons id id rfl rfl rfl (.nil _)⟩

theorem transactionEnd_wp (locked : Bool) :
    ((Action.when locked locationMetadataTransactionEnd : SysM B Unit) s).wp (aloneMachine St B p)
      (fun tr _ s' w' => s' = s ∧ Quiet w tr w') w := by
  cases locked with
  | false => exact ⟨rfl, .nil w⟩
  | true =>
    refine wp_alone fun ok => ?_
    simp only [World.respond]
    split <;> exact ⟨rfl, .cons id id rfl rfl rfl (.nil _)⟩

theorem modelClear_run {priv : ModelPrivate} (hm : s.models m = some priv)
    (hsaving : priv.saving = false) :
    modelClear m s = (.ret () (s.setModel m none) : Prog (Sys B) Memory Unit) := by
  simp [modelClear, releaseUpdateLock, hm, hsaving]

/-- The locality files are touched under the locality lock only. -/
def TouchesUnderLock (p : Pid) (tr : List (Event (Sys B) (World D B))) : Prop :=
  ∀ e ∈ tr, e.cmd.TouchesLocality → e.world.localityLock = some p

theorem Quiet.touchesUnderLock {tr : List (Event (Sys B) (World D B))} (h : Quiet w tr w') :
    TouchesUnderLock p tr :=
  fun e he htouches => absurd htouches (h.untouched e he)

theorem TouchesUnderLock.append {tr tr' : List (Event (Sys B) (World D B))}
    (h : TouchesUnderLock p tr) (h' : TouchesUnderLock p tr') : TouchesUnderLock p (tr ++ tr') := by
  intro e he
  rcases List.mem_append.mp he with he | he
  · exact h e he
  · exact h' e he

theorem KeepsLocks.touchesUnderLock {change : Bool} {tr : List (Event (Sys B) (World D B))}
    (h : KeepsLocks change w tr w') (hlock : change = true → w.localityLock = some p) :
    TouchesUnderLock p tr := by
  intro e he htouches
  cases change with
  | false => exact absurd htouches (h.touches rfl e he)
  | true => exact (h.along e he).trans (hlock rfl)

/-- A run that stops before it has a draft. -/
theorem Quiet.untouched_outcome {tr : List (Event (Sys B) (World D B))} (h : Quiet w tr w')
    (hcode : code = 1 ∨ code = 2) : CliOutcome St K G p args w tr w' code :=
  .untouched hcode h.document h.locationIni

/-- `main` from the policy lock on, after the calls `pre`. -/
theorem cliWithPolicy_wp {round : Double → Double} (hround : St.Rounds round) (hG : G.ReadsBack)
    (hm : s.models m = none) {pre : List (Event (Sys B) (World D B))} (hbefore : Quiet w₀ pre w)
    {localityLocked : Bool} (hlocality : if localityLocked then w.localityLock = some p
      else commandTouchesLocation args = false) :
    (cliWithPolicy K G m program args localityLocked s).wp (aloneMachine St B p)
      (fun tr result _ w' => TouchesUnderLock p (pre ++ tr) ∧
        CliOutcome St K G p args w₀ (pre ++ tr) w' result.exitCode) w := by
  simp only [cliWithPolicy, Action.bind_run]
  refine Prog.wp_bind (Prog.wp_mono ?_ (policyLock_wp args))
  rintro tr₁ platformLocked s₁ w₁ ⟨rfl, hquiet₁, hlocality₁, hpolicy₁⟩
  by_cases hrefused : (!args.isEmpty && !platformLocked) = true
  · -- no policy lock
    simp only [hrefused, if_true]
    refine Prog.wp_bind (Prog.wp_mono ?_ (transactionEnd_wp localityLocked))
    rintro tr₂ _ _ w₂ ⟨rfl, hquiet₂⟩
    have hquiet := hbefore.trans (hquiet₁.trans (hquiet₂.trans (.nil w₂)))
    exact ⟨hquiet.touchesUnderLock, hquiet.untouched_outcome (.inr rfl)⟩
  · simp only [hrefused]
    refine Prog.wp_bind (Prog.wp_mono ?_ (modelInit_wp hm))
    rintro tr₂ ok s₂ w₂ ⟨rfl, hquiet₂, hmodel⟩
    cases ok with
    | false =>
      -- no policy
      subst hmodel
      refine Prog.wp_bind (Prog.wp_mono ?_ (endUpdate_wp platformLocked))
      rintro tr₃ _ _ w₃ ⟨rfl, hquiet₃⟩
      refine Prog.wp_bind (Prog.wp_mono ?_ (transactionEnd_wp localityLocked))
      rintro tr₄ _ _ w₄ ⟨rfl, hquiet₄⟩
      have hquiet := hbefore.trans (hquiet₁.trans (hquiet₂.trans
        (hquiet₃.trans (hquiet₄.trans (.nil w₄)))))
      exact ⟨hquiet.touchesUnderLock, hquiet.untouched_outcome (.inl rfl)⟩
    | true =>
      obtain ⟨loaded, hload, hevent, rfl⟩ := hmodel
      have hloaded := s₁.setModel_self m
        (some ⟨loaded.1, platformTemporalPolicyStore, loaded.2, false⟩)
      refine Prog.wp_bind (Prog.wp_mono ?_ (cliTransaction_wp hG hloaded))
      rintro tr₃ result _ w₃ ⟨rfl, hlocks, houtcome⟩
      refine Prog.wp_bind (Prog.wp_mono ?_ (endUpdate_wp platformLocked))
      rintro tr₄ _ _ w₄ ⟨rfl, hquiet₄⟩
      refine Prog.wp_bind (Prog.wp_mono ?_ (transactionEnd_wp localityLocked))
      rintro tr₅ _ _ w₅ ⟨rfl, hquiet₅⟩
      simp only [modelClear_run hloaded rfl, Action.bind_run, Prog.ret_bind]
      have hquiet := hbefore.trans hquiet₁
      have hpre : Quiet w₀ (pre ++ (tr₁ ++ tr₂)) w₂ := hbefore.trans (hquiet₁.trans hquiet₂)
      have hpost : Quiet w₃ (tr₄ ++ (tr₅ ++ [])) w₅ := hquiet₄.trans (hquiet₅.trans (.nil w₅))
      have htouches : TouchesUnderLock p tr₃ := by
        refine hlocks.touchesUnderLock fun htouches => ?_
        rw [if_pos] at hlocality
        · exact hlocality₁.trans hlocality
        · cases localityLocked with
          | false => exact absurd (hlocality.symm.trans htouches) Bool.false_ne_true
          | true => rfl
      constructor
      · rw [← List.append_assoc tr₁, ← List.append_assoc pre]
        exact hpre.touchesUnderLock.append (htouches.append hpost.touchesUnderLock)
      · rw [← List.append_assoc tr₁, ← List.append_assoc pre]
        generalize result.exitCode = code at houtcome ⊢
        cases houtcome with
        | refused hcode hquiet₃ =>
          exact (hpre.trans (hquiet₃.trans hpost)).untouched_outcome hcode
        | printed hargs hquiet₃ =>
          have hall := hpre.trans (hquiet₃.trans hpost)
          exact .printed hargs hall.document hall.locationIni
        | published hargs hoptions hcommit =>
          refine (hcommit.surround hpre hpost).cliOutcome hround hargs ?_ ?_ hoptions
          · rw [← hquiet.native, ← hquiet.document]
            exact hload
          · refine ⟨w₂, List.mem_append_left _ (List.mem_append_right _ ?_), hpolicy₁ ?_⟩
            · exact List.mem_append_right _ hevent
            cases args with
            | nil => exact absurd rfl hargs
            | cons option rest => simpa using hrefused

/-- Every run of the command line: the policy and `location.ini` as they were, or committed as
the options say, or the policy restored because the locality could not be published. The
locality files are touched under the locality lock only. -/
theorem cliMain_outcome {round : Double → Double} (hround : St.Rounds round) (hG : G.ReadsBack)
    (hm : s.models m = none) {tr : List (Event (Sys B) (World D B))} {result : CliResult}
    {s' : Memory}
    (hx : (cliMain K G m program args s).Exec (aloneMachine St B p) w tr result s' w') :
    TouchesUnderLock p tr ∧ CliOutcome St K G p args w tr w' result.exitCode := by
  refine Prog.Exec.of_wp (Q := fun tr result _ w' => TouchesUnderLock p tr ∧
    CliOutcome St K G p args w tr w' result.exitCode) hx ?_
  unfold cliMain
  cases htouches : commandTouchesLocation args with
  | false =>
    refine cliWithPolicy_wp hround hG hm (.nil w) ?_
    exact htouches
  | true =>
    refine wp_alone fun ok => ?_
    by_cases hfree : ok = true ∧ w.localityLock = none
    · simp only [World.respond, hfree, and_self, if_true]
      have hbegun : Quiet w [⟨.transactionBegin, true, { w with localityLock := some p }⟩]
          { w with localityLock := some p } := .cons id id rfl rfl rfl (.nil _)
      refine cliWithPolicy_wp hround hG hm hbegun ?_
      rfl
    · simp only [World.respond, hfree, if_false]
      have hquiet : Quiet w [⟨.transactionBegin, false, w⟩] w := .cons id id rfl rfl rfl (.nil w)
      exact ⟨hquiet.touchesUnderLock, hquiet.untouched_outcome (.inr rfl)⟩

/-! ## Concrete runs -/

theorem GLib.small_readsBack : GLib.small.ReadsBack := by
  intro metadata data hvalid hdata
  cases hdata
  have hfits : metadata.displayName.length < 256 ∧ metadata.countryCode.length < 8 ∧
      metadata.timezoneId.length < 128 := by
    simp only [metadataValid, Bool.and_eq_true, decide_eq_true_eq] at hvalid
    tauto
  simp [metadataParse, GLib.small] at hvalid ⊢
  simp [hfits, hvalid]

theorem platformStorage_small_rounds :
    (platformStorage Common.small PolicyFormat.small).Rounds id where
  round_round _ := rfl
  load_save policy document native hsave := by
    cases hsave
    rfl
  save_rounded _ := rfl

/-- A run of the tool on a fresh system with this policy file. -/
abbrev playCli (document : FileState (Option TemporalPolicyV3)) (args : List String)
    (oks : List Bool) :=
  World.play (platformStorage Common.small PolicyFormat.small) 0
    (cliMain Common.small GLib.small 0 "time-settings" args Memory.empty) (World.fresh document) oks

theorem cliMain_outcome_clearing :
    let run := playCli .absent ["--clock", "decimal", "--clear-location", "--seconds", "on"] []
    run.2.1.exitCode = 0 ∧ TouchesUnderLock 0 run.1 ∧
      CliOutcome (platformStorage Common.small PolicyFormat.small) Common.small GLib.small 0
        ["--clock", "decimal", "--clear-location", "--seconds", "on"] (World.fresh .absent) run.1
        run.2.2.2 run.2.1.exitCode :=
  ⟨by decide, cliMain_outcome platformStorage_small_rounds GLib.small_readsBack rfl
    (World.play_exec _ _ (fun _ => rfl) _ _ _)⟩

/-- `location.ini` cannot be removed. The rollback writes, and says that it has restored the
policy, but a damaged policy file counts as none, and it is gone. -/
theorem cliMain_removes_damaged_policy :
    ∃ tr result s' w', (cliMain Common.small GLib.small 0 "time-settings" ["--clear-location"]
        Memory.empty).Exec (aloneMachine (platformStorage Common.small PolicyFormat.small) _ 0)
        (World.fresh (.contents none)) tr result s' w' ∧
      result = .failure 3 restoredMessage ∧ PublicationFailed tr ∧
      (∃ w, ⟨.clear, true, w⟩ ∈ tr) ∧ w'.document = .absent := by
  refine ⟨_, _, _, _, World.play_exec _ _ (fun _ => rfl) _ _
    [true, true, true, true, true, true, false], ?_, ?_, ?_, ?_⟩
  · decide
  · exact ⟨_, .inl (List.mem_of_getElem? (i := 6) rfl)⟩
  · exact ⟨_, List.mem_of_getElem? (i := 7) rfl⟩
  · rfl

end SystemSettings
