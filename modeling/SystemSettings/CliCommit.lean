import SystemSettings.CliOptions
import SystemSettings.ModelSession

/-!
# Publishing the draft of a command line

What the part of a run that writes leaves, with nobody else about: the journal,
the policy, `location.ini` and the rollback of the policy, for any failures of
these calls.
-/

namespace SystemSettings

variable {D B W : Type} {St : Storage D} {K : Common} {G : GLib B} {p : Pid} {m : ModelId}

/-! ## A process alone -/

/-- Process `p` with nobody else about. -/
abbrev aloneMachine (St : Storage D) (B : Type) (p : Pid) :
    Machine (Sys B) Memory (World D B) :=
  World.machine St p (· = ·)

/-- A call on one of the locality files. -/
def Call.TouchesLocality : Call B → Prop
  | .readFile _ | .writeFile _ _ | .unlinkFile _ => True
  | _ => False

/-- A call that saves a policy. -/
def Call.Saves : Call B → Prop
  | .save _ => True
  | _ => False

/-- The policies that a trace saves. -/
def savedPolicies (tr : List (Event (Sys B) W)) : List TemporalPolicyV3 :=
  tr.filterMap fun e =>
    match e.cmd with
    | .save policy => some policy
    | _ => none

/-- The policy as it was loaded: saved again, or no document when none was found. -/
def PolicyRestored (St : Storage D) (loaded : TemporalPolicyV3 × Bool) (document : D) : Prop :=
  if loaded.2 then St.save loaded.1 = some document else document = St.absent

/-- `location.ini` could not be removed or written, or the journal not be read. -/
def PublicationFailed (tr : List (Event (Sys B) W)) : Prop :=
  ∃ w, ⟨.unlinkFile .locationIni, false, w⟩ ∈ tr ∨
    (∃ data, ⟨.writeFile .locationIni data, false, w⟩ ∈ tr) ∨
    ⟨.readFile .locationPending, .unreadable, w⟩ ∈ tr

/-- A record that is written can be read back. -/
def GLib.ReadsBack (G : GLib B) : Prop :=
  ∀ metadata data, metadataValid G metadata = true → G.toData metadata = some data →
    metadataParse G data = some metadata

/-! ## Traces -/

@[simp] theorem savedPolicies_nil : savedPolicies ([] : List (Event (Sys B) W)) = [] := rfl

@[simp] theorem savedPolicies_append (tr tr' : List (Event (Sys B) W)) :
    savedPolicies (tr ++ tr') = savedPolicies tr ++ savedPolicies tr' := List.filterMap_append ..

@[simp] theorem savedPolicies_save (policy : TemporalPolicyV3) (ok : Bool) (w : W)
    (tr : List (Event (Sys B) W)) :
    savedPolicies (⟨.save policy, ok, w⟩ :: tr) = policy :: savedPolicies tr := rfl

/-- A call that does not save. -/
theorem savedPolicies_skip {c : Call B} (hc : ¬ c.Saves) (r : c.Answer) (w : W)
    (tr : List (Event (Sys B) W)) : savedPolicies (⟨c, r, w⟩ :: tr) = savedPolicies tr := by
  cases c with
  | save policy => exact absurd trivial hc
  | _ => rfl

theorem PublicationFailed.mono {tr tr' : List (Event (Sys B) W)} (h : PublicationFailed tr)
    (hsub : ∀ e ∈ tr, e ∈ tr') : PublicationFailed tr' := by
  obtain ⟨w, h⟩ := h
  exact ⟨w, h.imp (hsub _) (Or.imp (fun ⟨data, he⟩ => ⟨data, hsub _ he⟩) (hsub _))⟩

/-- The worlds of a trace, up to `w'`, are `w` but for the locality files. Nothing is saved. -/
structure LocalityOnly (w : World D B) (tr : List (Event (Sys B) (World D B))) (w' : World D B) :
    Prop where
  document : w'.document = w.document
  policyLock : w'.policyLock = w.policyLock
  localityLock : w'.localityLock = w.localityLock
  along : ∀ e ∈ tr, e.world.localityLock = w.localityLock
  saved : savedPolicies tr = []

theorem LocalityOnly.nil (w : World D B) : LocalityOnly w [] w :=
  ⟨rfl, rfl, rfl, fun _ he => absurd he List.not_mem_nil, rfl⟩

/-- One call on a locality file, and what follows. -/
theorem LocalityOnly.cons {w w₁ w' : World D B} {c : Call B} {r : c.Answer}
    {tr : List (Event (Sys B) (World D B))} (hc : ¬ c.Saves)
    (hdocument : w₁.document = w.document) (hpolicy : w₁.policyLock = w.policyLock)
    (hlocality : w₁.localityLock = w.localityLock) (h : LocalityOnly w₁ tr w') :
    LocalityOnly w (⟨c, r, w₁⟩ :: tr) w' := by
  refine ⟨h.document.trans hdocument, h.policyLock.trans hpolicy,
    h.localityLock.trans hlocality, fun e he => ?_, ?_⟩
  · rcases List.mem_cons.mp he with rfl | he
    · exact hlocality
    · exact (h.along e he).trans hlocality
  · rw [savedPolicies_skip hc, h.saved]

theorem LocalityOnly.trans {w w₁ w' : World D B} {tr tr' : List (Event (Sys B) (World D B))}
    (h : LocalityOnly w tr w₁) (h' : LocalityOnly w₁ tr' w') : LocalityOnly w (tr ++ tr') w' := by
  refine ⟨h'.document.trans h.document, h'.policyLock.trans h.policyLock,
    h'.localityLock.trans h.localityLock, fun e he => ?_, by rw [savedPolicies_append, h.saved,
      h'.saved, List.append_nil]⟩
  rcases List.mem_append.mp he with he | he
  · exact h.along e he
  · exact (h'.along e he).trans h.localityLock

theorem LocalityOnly.write {w w' : World D B} {f : LocalityFile} {data : FileState B}
    {c : Call B} {r : c.Answer} {tr : List (Event (Sys B) (World D B))}
    (hc : ¬ c.Saves) (h : LocalityOnly (w.setFile f data) tr w') :
    LocalityOnly w (⟨c, r, w.setFile f data⟩ :: tr) w' := by
  cases f <;> exact .cons hc rfl rfl rfl h

/-- Nothing is saved, and neither the policy nor a locality file is written or read. -/
structure Quiet (w : World D B) (tr : List (Event (Sys B) (World D B))) (w' : World D B) :
    Prop where
  document : w'.document = w.document
  native : w'.native = w.native
  locationIni : w'.locationIni = w.locationIni
  saved : savedPolicies tr = []
  untouched : ∀ e ∈ tr, ¬ e.cmd.TouchesLocality

theorem Quiet.nil (w : World D B) : Quiet w [] w :=
  ⟨rfl, rfl, rfl, rfl, fun _ he => absurd he List.not_mem_nil⟩

theorem Quiet.cons {w w₁ w' : World D B} {c : Call B} {r : c.Answer}
    {tr : List (Event (Sys B) (World D B))} (hc : ¬ c.Saves)
    (hlocality : ¬ c.TouchesLocality) (hdocument : w₁.document = w.document)
    (hnative : w₁.native = w.native) (hini : w₁.locationIni = w.locationIni)
    (h : Quiet w₁ tr w') : Quiet w (⟨c, r, w₁⟩ :: tr) w' := by
  refine ⟨h.document.trans hdocument, h.native.trans hnative, h.locationIni.trans hini, ?_,
    fun e he => ?_⟩
  · rw [savedPolicies_skip hc, h.saved]
  · rcases List.mem_cons.mp he with rfl | he
    · exact hlocality
    · exact h.untouched e he

theorem Quiet.trans {w w₁ w' : World D B} {tr tr' : List (Event (Sys B) (World D B))}
    (h : Quiet w tr w₁) (h' : Quiet w₁ tr' w') : Quiet w (tr ++ tr') w' := by
  refine ⟨h'.document.trans h.document, h'.native.trans h.native,
    h'.locationIni.trans h.locationIni, ?_, fun e he => ?_⟩
  · rw [savedPolicies_append, h.saved, h'.saved, List.append_nil]
  · rcases List.mem_append.mp he with he | he
    · exact h.untouched e he
    · exact h'.untouched e he

/-! ## The calls of a process alone -/

variable {s : Memory} {w : World D B}

/-- A call with nobody else about. -/
theorem wp_alone {α : Type} {c : Call B} {k : c.Answer → Memory → Prog (Sys B) Memory α}
    {Q : List (Event (Sys B) (World D B)) → α → Memory → World D B → Prop}
    (h : ∀ ok, (k (World.respond St p ok w c).1 s).wp (aloneMachine St B p)
      (fun tr => Q (⟨c, (World.respond St p ok w c).1, (World.respond St p ok w c).2⟩ :: tr))
      (World.respond St p ok w c).2) :
    (Prog.call (S := Sys B) c s k).wp (aloneMachine St B p) Q w := by
  refine World.wp_call fun w₁ ok heq => ?_
  subst heq
  exact h ok

/-- A save that the world answers with a document. -/
theorem Storage.saved {policy : TemporalPolicyV3} {ok : Bool} {document : D}
    (h : (if ok then St.save policy else none) = some document) :
    ok = true ∧ St.save policy = some document := by
  cases ok with
  | false => cases h
  | true => exact ⟨rfl, h⟩

/-- To initialise a model is to read the policy. -/
theorem modelInit_wp (hm : s.models m = none) :
    (modelInit K m platformTemporalPolicyStore s).wp (aloneMachine St B p)
      (fun tr ok s' w' => w' = w ∧ Quiet w tr w ∧
        if ok then ∃ loaded, St.load w.native w.document = some loaded ∧
          ⟨.load, some loaded, w⟩ ∈ tr ∧
          s' = s.setModel m (some ⟨loaded.1, platformTemporalPolicyStore, loaded.2, false⟩)
        else s' = s) w := by
  refine Prog.wp_iff.mpr fun tr ok s' w' hx => ?_
  obtain ⟨hy, hpath⟩ := Prog.exec_quiet.mp hx
  have hquiet : Quiet w [] w := .nil w
  rcases modelInit_yields hm rfl rfl hy with ⟨rfl, rfl, htr⟩ | ⟨rfl, -, loaded, w₁, w₂, rfl, rfl⟩
  · rcases htr with rfl | ⟨r, w₁, rfl⟩ | ⟨w₁, w₂, rfl⟩
    · obtain rfl := hpath
      exact ⟨rfl, hquiet, rfl⟩
    · obtain ⟨⟨_, _, rfl, -, rfl⟩, rfl⟩ := hpath
      exact ⟨rfl, hquiet.cons id id rfl rfl rfl, rfl⟩
    · obtain ⟨⟨_, _, rfl, -, rfl⟩, ⟨_, _, rfl, -, rfl⟩, rfl⟩ := hpath
      exact ⟨rfl, .cons id id rfl rfl rfl (hquiet.cons id id rfl rfl rfl), rfl⟩
  · obtain ⟨⟨_, _, rfl, -, rfl⟩, ⟨_, ok, rfl, hload, rfl⟩, rfl⟩ := hpath
    refine ⟨rfl, .cons id id rfl rfl rfl (hquiet.cons id id rfl rfl rfl), ?_⟩
    cases ok with
    | false => cases hload
    | true => exact ⟨loaded, hload.symm, .tail _ (.head _), rfl⟩

theorem metadataSavePath_wp (f : LocalityFile) (metadata : LocationMetadata) :
    (metadataSavePath G f metadata s).wp (aloneMachine St B p)
      (fun tr saved s' w' => s' = s ∧ LocalityOnly w tr w' ∧
        if saved then ∃ data, metadataValid G metadata = true ∧ G.toData metadata = some data ∧
          w' = w.setFile f (.contents data)
        else w' = w ∧ (metadataValid G metadata = true → G.toData metadata ≠ none →
          ∃ data, ⟨.writeFile f data, false, w⟩ ∈ tr)) w := by
  unfold metadataSavePath
  split
  · next hvalid =>
    cases hdata : G.toData metadata with
    | none => exact ⟨rfl, .nil w, rfl, fun _ hno => absurd rfl hno⟩
    | some data =>
      refine wp_alone fun ok => ?_
      cases ok with
      | false =>
        exact ⟨rfl, .cons id rfl rfl rfl (.nil w), rfl, fun _ _ => ⟨data, .head _⟩⟩
      | true => exact ⟨rfl, .write id (.nil _), data, hvalid, rfl, rfl⟩
  · next hvalid => exact ⟨rfl, .nil w, rfl, fun h => absurd h hvalid⟩

theorem unlinkFile_wp (f : LocalityFile) :
    (unlinkFile f s).wp (aloneMachine St B p)
      (fun tr removed s' w' => s' = s ∧ LocalityOnly w tr w' ∧
        if removed then w' = w.setFile f .absent
        else w' = w ∧ ⟨.unlinkFile f, false, w⟩ ∈ tr) w := by
  refine wp_alone fun ok => ?_
  cases ok with
  | false => exact ⟨rfl, .cons id rfl rfl rfl (.nil w), rfl, .head _⟩
  | true => exact ⟨rfl, .write id (.nil _), rfl⟩

/-- A staged record is published, or `location.ini` stays. -/
theorem locationMetadataFinishStaged_wp (hG : G.ReadsBack) {metadata : LocationMetadata} {data : B}
    (hvalid : metadataValid G metadata = true) (hdata : G.toData metadata = some data)
    (hpending : w.locationPending = .contents data) :
    (locationMetadataFinishStaged G s).wp (aloneMachine St B p)
      (fun tr finished s' w' => s' = s ∧ LocalityOnly w tr w' ∧
        if finished then w'.locationIni = .contents data
        else w'.locationIni = w.locationIni ∧ PublicationFailed tr) w := by
  have hparse := hG metadata data hvalid hdata
  refine wp_alone fun ok => ?_
  cases ok with
  | false => exact ⟨rfl, .cons id rfl rfl rfl (.nil w), rfl, w, .inr (.inr (.head _))⟩
  | true =>
    simp only [World.respond, if_true, World.file, hpending, Prog.ret_bind, Action.pure_run,
      metadataLoad, hparse]
    refine Prog.wp_bind (Prog.wp_mono ?_ (metadataSavePath_wp .locationIni metadata))
    rintro tr saved _ w₁ ⟨rfl, honly, hsaved⟩
    cases saved with
    | false =>
      obtain ⟨rfl, hfailed⟩ := hsaved
      obtain ⟨data', he⟩ := hfailed hvalid (by rw [hdata]; exact Option.some_ne_none data)
      refine ⟨rfl, .cons id rfl rfl rfl (honly.trans (.nil _)), rfl, w₁, .inr (.inl ⟨data', ?_⟩)⟩
      exact .tail _ (List.mem_append_left _ he)
    | true =>
      obtain ⟨data', -, hdata', rfl⟩ := hsaved
      rw [hdata] at hdata'
      cases hdata'
      refine Prog.wp_bind (Prog.wp_mono ?_ (unlinkFile_wp .locationPending))
      rintro tr' removed _ w₂ ⟨rfl, honly', hremoved⟩
      refine ⟨rfl, .cons id rfl rfl rfl (honly.trans (honly'.trans (.nil _))), ?_⟩
      cases removed with
      | false => rw [hremoved.1]; rfl
      | true => rw [hremoved]; rfl

/-! ## Publishing a draft -/

/-- The draft is to be staged. -/
def CliDraft.stages (draft : CliDraft) : Bool :=
  draft.locationChangeRequested && !draft.locationClearRequested

/-- `location.ini` is what the draft says. -/
def DraftPublished (G : GLib B) (draft : CliDraft) (w w' : World D B) : Prop :=
  if draft.stages then ∃ data, w'.locationIni = .contents data ∧
    metadataParse G data = some draft.locationCandidate
  else if draft.locationChangeRequested then w'.locationIni = .absent
  else w'.locationIni = w.locationIni

/-- The journal holds what the draft stages. -/
def DraftStaged (G : GLib B) (draft : CliDraft) (w : World D B) : Prop :=
  draft.stages = true → ∃ data, metadataValid G draft.locationCandidate = true ∧
    G.toData draft.locationCandidate = some data ∧ w.locationPending = .contents data

theorem stageDraft_wp (draft : CliDraft) :
    ((if draft.stages then locationMetadataStage G draft.locationCandidate else pure true :
      SysM B Bool) s).wp (aloneMachine St B p)
      (fun tr ready s' w' => s' = s ∧ LocalityOnly w tr w' ∧ w'.locationIni = w.locationIni ∧
        (draft.stages = false → tr = []) ∧ (ready = true → DraftStaged G draft w')) w := by
  cases hstages : draft.stages with
  | false =>
    refine ⟨rfl, .nil w, rfl, fun _ => rfl, fun _ hstage => ?_⟩
    rw [hstages] at hstage
    cases hstage
  | true =>
    simp only [if_true]
    refine Prog.wp_mono ?_ (metadataSavePath_wp .locationPending draft.locationCandidate)
    rintro tr saved _ w' ⟨rfl, honly, hsaved⟩
    cases saved with
    | false =>
      obtain ⟨rfl, -⟩ := hsaved
      exact ⟨rfl, honly, rfl, nofun, nofun⟩
    | true =>
      obtain ⟨data, hvalid, hdata, rfl⟩ := hsaved
      exact ⟨rfl, honly, rfl, nofun, fun _ _ => ⟨data, hvalid, hdata, rfl⟩⟩

theorem publishDraft_wp (hG : G.ReadsBack) {draft : CliDraft} (hstaged : DraftStaged G draft w) :
    ((if draft.locationChangeRequested then
        if draft.locationClearRequested then locationMetadataClear
        else locationMetadataFinishStaged G
      else pure true : SysM B Bool) s).wp (aloneMachine St B p)
      (fun tr metadataOk s' w' => s' = s ∧ LocalityOnly w tr w' ∧
        (draft.locationChangeRequested = false → tr = []) ∧
        if metadataOk then DraftPublished G draft w w'
        else draft.locationChangeRequested = true ∧ w'.locationIni = w.locationIni ∧
          PublicationFailed tr) w := by
  cases hchange : draft.locationChangeRequested with
  | false =>
    refine ⟨rfl, .nil w, fun _ => rfl, ?_⟩
    simp [DraftPublished, CliDraft.stages, hchange]
  | true =>
    cases hclear : draft.locationClearRequested with
    | true =>
      refine Prog.wp_mono ?_ (unlinkFile_wp .locationIni)
      rintro tr removed _ w' ⟨rfl, honly, hremoved⟩
      refine ⟨rfl, honly, nofun, ?_⟩
      cases removed with
      | false =>
        obtain ⟨rfl, he⟩ := hremoved
        exact ⟨rfl, rfl, w', .inl he⟩
      | true =>
        subst hremoved
        simp [DraftPublished, CliDraft.stages, hchange, hclear, World.setFile]
    | false =>
      have hstages : draft.stages = true := by simp [CliDraft.stages, hchange, hclear]
      obtain ⟨data, hvalid, hdata, hpending⟩ := hstaged hstages
      refine Prog.wp_mono ?_ (locationMetadataFinishStaged_wp hG hvalid hdata hpending)
      rintro tr finished _ w' ⟨rfl, honly, hini⟩
      refine ⟨rfl, honly, nofun, ?_⟩
      cases finished with
      | false => exact ⟨rfl, hini⟩
      | true =>
        simp only [DraftPublished, hstages, if_true]
        exact ⟨data, hini, hG _ _ hvalid hdata⟩

/-- How publishing a draft ends, by the exit code. -/
inductive CommitOutcome (St : Storage D) (G : GLib B) (loaded : TemporalPolicyV3 × Bool)
    (draft : CliDraft) (w : World D B) (tr : List (Event (Sys B) (World D B))) (w' : World D B) :
    ℕ → Prop
  | untouched (hdocument : w'.document = w.document) (hini : w'.locationIni = w.locationIni) :
      CommitOutcome St G loaded draft w tr w' 2
  | committed {code : ℕ} (hcode : code = 0 ∨
        code = 3 ∧ ∃ w₁, ⟨.compatibilityMatches draft.policy, false, w₁⟩ ∈ tr)
      (hsaved : St.save draft.policy = some w'.document) (honce : savedPolicies tr = [draft.policy])
      (hpublished : DraftPublished G draft w w') : CommitOutcome St G loaded draft w tr w' code
  | rolledBack (hchange : draft.locationChangeRequested = true) (hfailed : PublicationFailed tr)
      (hini : w'.locationIni = w.locationIni) (hrestored : PolicyRestored St loaded w'.document ∨
        ∃ w₁, ⟨.save loaded.1, false, w₁⟩ ∈ tr ∨ ⟨.clear, false, w₁⟩ ∈ tr) :
      CommitOutcome St G loaded draft w tr w' 3

/-- What a part of the run does to the locks and with the locality files. -/
structure KeepsLocks (change : Bool) (w : World D B) (tr : List (Event (Sys B) (World D B)))
    (w' : World D B) : Prop where
  policyLock : w'.policyLock = w.policyLock
  localityLock : w'.localityLock = w.localityLock
  along : ∀ e ∈ tr, e.world.localityLock = w.localityLock
  touches : change = false → ∀ e ∈ tr, ¬ e.cmd.TouchesLocality

theorem KeepsLocks.nil (change : Bool) (w : World D B) : KeepsLocks change w [] w :=
  ⟨rfl, rfl, fun _ he => absurd he List.not_mem_nil, fun _ _ he => absurd he List.not_mem_nil⟩

theorem KeepsLocks.trans {change : Bool} {w w₁ w' : World D B}
    {tr tr' : List (Event (Sys B) (World D B))} (h : KeepsLocks change w tr w₁)
    (h' : KeepsLocks change w₁ tr' w') : KeepsLocks change w (tr ++ tr') w' := by
  refine ⟨h'.policyLock.trans h.policyLock, h'.localityLock.trans h.localityLock,
    fun e he => ?_, fun hchange e he => ?_⟩
  · rcases List.mem_append.mp he with he | he
    · exact h.along e he
    · exact (h'.along e he).trans h.localityLock
  · rcases List.mem_append.mp he with he | he
    · exact h.touches hchange e he
    · exact h'.touches hchange e he

theorem KeepsLocks.mono {change change' : Bool} {w w' : World D B}
    {tr : List (Event (Sys B) (World D B))} (h : KeepsLocks change w tr w')
    (hchange : change = true → change' = true) : KeepsLocks change' w tr w' := by
  refine ⟨h.policyLock, h.localityLock, h.along, fun hno => h.touches ?_⟩
  cases change with
  | false => rfl
  | true => exact absurd (hno.symm.trans (hchange rfl)) Bool.false_ne_true

/-- A call that is none on the locality files and takes no lock. -/
theorem KeepsLocks.cons {change : Bool} {w w₁ w' : World D B} {c : Call B} {r : c.Answer}
    {tr : List (Event (Sys B) (World D B))} (hc : ¬ c.TouchesLocality)
    (hpolicy : w₁.policyLock = w.policyLock) (hlocality : w₁.localityLock = w.localityLock)
    (h : KeepsLocks change w₁ tr w') : KeepsLocks change w (⟨c, r, w₁⟩ :: tr) w' := by
  have hone : KeepsLocks change w [⟨c, r, w₁⟩] w₁ := by
    refine ⟨hpolicy, hlocality, fun e he => ?_, fun _ e he => ?_⟩
    · rw [List.mem_singleton.mp he]
      exact hlocality
    · rw [List.mem_singleton.mp he]
      exact hc
  exact hone.trans h

theorem LocalityOnly.keepsLocks {change : Bool} {w w' : World D B}
    {tr : List (Event (Sys B) (World D B))} (h : LocalityOnly w tr w')
    (hnil : change = false → tr = []) : KeepsLocks change w tr w' := by
  refine ⟨h.policyLock, h.localityLock, h.along, fun hchange e he => ?_⟩
  rw [hnil hchange] at he
  exact absurd he List.not_mem_nil

theorem discardDraft_wp (staged : Bool) :
    ((Action.when staged do
      let _ ← locationMetadataDiscardStaged
      pure () : SysM B Unit) s).wp (aloneMachine St B p)
      (fun tr _ s' w' => s' = s ∧ LocalityOnly w tr w' ∧ w'.locationIni = w.locationIni ∧
        (staged = false → tr = [])) w := by
  cases staged with
  | false => exact ⟨rfl, .nil w, rfl, fun _ => rfl⟩
  | true =>
    refine Prog.wp_bind (Prog.wp_mono ?_ (unlinkFile_wp .locationPending))
    rintro tr removed _ w' ⟨rfl, honly, hremoved⟩
    refine ⟨rfl, honly.trans (.nil _), ?_, nofun⟩
    cases removed with
    | false => rw [hremoved.1]
    | true => rw [hremoved]; rfl

/-- The policy is restored, or that fails. -/
theorem rollback_wp (change : Bool) (loaded : TemporalPolicyV3 × Bool) :
    ((if loaded.2 then storeSave loaded.1 else storeClear : SysM B Bool) s).wp
      (aloneMachine St B p) (fun tr _ s' w' => s' = s ∧ KeepsLocks change w tr w' ∧
        w'.locationIni = w.locationIni ∧ (PolicyRestored St loaded w'.document ∨
          ∃ w₁, ⟨.save loaded.1, false, w₁⟩ ∈ tr ∨ ⟨.clear, false, w₁⟩ ∈ tr)) w := by
  cases hfound : loaded.2 with
  | true =>
    refine wp_alone fun ok => ?_
    cases hsave : if ok then St.save loaded.1 else none with
    | none =>
      simp only [World.respond, hsave]
      exact ⟨rfl, .cons id rfl rfl (.nil _ w), rfl, .inr ⟨w, .inl List.mem_cons_self⟩⟩
    | some document =>
      have hdocument : St.save loaded.1 = some document := (Storage.saved hsave).2
      simp only [World.respond, hsave]
      refine ⟨rfl, .cons id rfl rfl (.nil _ _), rfl, .inl ?_⟩
      rw [PolicyRestored, hfound, if_pos rfl]
      exact hdocument
  | false =>
    refine wp_alone fun ok => ?_
    cases ok with
    | false => exact ⟨rfl, .cons id rfl rfl (.nil _ w), rfl, .inr ⟨w, .inr List.mem_cons_self⟩⟩
    | true =>
      refine ⟨rfl, .cons id rfl rfl (.nil _ _), rfl, .inl ?_⟩
      rw [PolicyRestored, hfound, if_neg Bool.false_ne_true]
      rfl

/-- Publishing a draft. -/
theorem cliCommit_wp (hG : G.ReadsBack) (loaded : TemporalPolicyV3 × Bool) (draft : CliDraft) :
    (cliCommit G loaded.1 loaded.2 draft s).wp (aloneMachine St B p)
      (fun tr result s' w' => s' = s ∧ KeepsLocks draft.locationChangeRequested w tr w' ∧
        CommitOutcome St G loaded draft w tr w' result.exitCode) w := by
  have hstages (h : draft.locationChangeRequested = false) : draft.stages = false := by
    simp [CliDraft.stages, h]
  simp only [cliCommit, Action.bind_run]
  refine Prog.wp_bind (Prog.wp_mono ?_ (stageDraft_wp draft))
  rintro tr₁ ready _ w₁ ⟨rfl, honly₁, hini₁, hnil₁, hstaged⟩
  have hkeeps₁ : KeepsLocks draft.locationChangeRequested w tr₁ w₁ :=
    honly₁.keepsLocks fun h => hnil₁ (hstages h)
  cases ready with
  | false =>
    refine ⟨rfl, hkeeps₁.trans (.nil _ _), .untouched honly₁.document hini₁⟩
  | true =>
    simp only [Bool.not_true, Bool.false_eq_true, if_false, Action.bind_run, storeSave_run,
      Prog.call_bind, Prog.ret_bind]
    refine wp_alone fun ok => ?_
    cases hsave : if ok then St.save draft.policy else none with
    | none =>
      -- the policy is not saved
      simp only [World.respond, hsave]
      refine Prog.wp_bind (Prog.wp_mono ?_ (discardDraft_wp draft.stages))
      rintro tr₂ _ _ w₂ ⟨rfl, honly₂, hini₂, hnil₂⟩
      refine ⟨rfl, ?_, .untouched (honly₂.document.trans honly₁.document) (hini₂.trans hini₁)⟩
      have hkeeps₂ : KeepsLocks draft.locationChangeRequested w₁ tr₂ w₂ :=
        honly₂.keepsLocks fun h => hnil₂ (hstages h)
      exact hkeeps₁.trans (.cons id rfl rfl (hkeeps₂.trans (.nil _ _)))
    | some document =>
      have hdocument : St.save draft.policy = some document := (Storage.saved hsave).2
      simp only [World.respond, hsave, if_true]
      set w₂ : World D B := { w₁ with document := document }
      have hstaged₂ : DraftStaged G draft w₂ := hstaged rfl
      refine Prog.wp_bind (Prog.wp_mono ?_ (publishDraft_wp hG hstaged₂))
      rintro tr₂ metadataOk _ w₃ ⟨rfl, honly₃, hnil₃, hpublished⟩
      have hkeeps₃ : KeepsLocks draft.locationChangeRequested w₂ tr₂ w₃ := honly₃.keepsLocks hnil₃
      cases metadataOk with
      | false =>
        -- the locality is not published, and the policy is undone
        obtain ⟨hchange, hini₃, hfailed⟩ := hpublished
        have hmem {e : Event (Sys B) (World D B)} {tr : List (Event (Sys B) (World D B))}
            (he : e ∈ tr₂ ∨ e ∈ tr) : e ∈ tr₁ ++ ⟨.save draft.policy, true, w₂⟩ :: (tr₂ ++ tr) :=
          List.mem_append_right _ (.tail _ (List.mem_append.mpr he))
        refine Prog.wp_bind (Prog.wp_mono ?_ (rollback_wp draft.locationChangeRequested loaded))
        rintro tr₃ undone _ w₄ ⟨rfl, hkeeps₄, hini₄, hrestored⟩
        refine Prog.wp_bind (Prog.wp_mono ?_ (discardDraft_wp (undone && draft.stages)))
        rintro tr₄ _ _ w₅ ⟨rfl, honly₅, hini₅, -⟩
        have hini : w₅.locationIni = w.locationIni :=
          hini₅.trans (hini₄.trans (hini₃.trans hini₁))
        have hkeeps₅ : KeepsLocks draft.locationChangeRequested w₄ tr₄ w₅ :=
          honly₅.keepsLocks fun h => absurd (h.symm.trans hchange) Bool.false_ne_true
        refine ⟨rfl, ?_, .rolledBack hchange (hfailed.mono fun e he => hmem (.inl he)) hini ?_⟩
        · exact hkeeps₁.trans (.cons id rfl rfl
            (hkeeps₃.trans (hkeeps₄.trans (hkeeps₅.trans (.nil _ _)))))
        · rcases hrestored with hrestored | ⟨w₆, hfailed⟩
          · exact .inl (honly₅.document ▸ hrestored)
          · have hmem' {e : Event (Sys B) (World D B)} (he : e ∈ tr₃) :=
              hmem (.inr (List.mem_append_left (tr₄ ++ []) he))
            exact .inr ⟨w₆, hfailed.imp hmem' hmem'⟩
      | true =>
        refine wp_alone fun same => ?_
        have hsaved : St.save draft.policy = some w₃.document := by
          rw [honly₃.document]
          exact hdocument
        have hini : DraftPublished G draft w w₃ := by
          simpa only [DraftPublished, if_true, w₂, hini₁] using hpublished
        have honce (x : Bool) : savedPolicies (tr₁ ++ ⟨.save draft.policy, true, w₂⟩ ::
            (tr₂ ++ [⟨.compatibilityMatches draft.policy, x, w₃⟩])) = [draft.policy] := by
          rw [savedPolicies_append, savedPolicies_save, savedPolicies_append, honly₁.saved,
            honly₃.saved]
          rfl
        have hkeeps (x : Bool) : KeepsLocks draft.locationChangeRequested w
            (tr₁ ++ ⟨.save draft.policy, true, w₂⟩ ::
              (tr₂ ++ [⟨.compatibilityMatches draft.policy, x, w₃⟩])) w₃ :=
          hkeeps₁.trans (.cons id rfl rfl (hkeeps₃.trans (.cons id rfl rfl (.nil _ _))))
        cases same with
        | false =>
          refine ⟨rfl, hkeeps false, .committed (.inr ⟨rfl, w₃, ?_⟩) hsaved (honce false) hini⟩
          exact List.mem_append_right _ (.tail _ (List.mem_append_right _ (.head _)))
        | true => exact ⟨rfl, hkeeps true, .committed (.inl rfl) hsaved (honce true) hini⟩

end SystemSettings
