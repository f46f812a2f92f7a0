import SystemSettings.PolicySection

/-!
# A run of the command line as a section

The locality files are none of the policy lock's business, so the calls on them
are set aside; what is left is the lock, one read, one save and perhaps its
undo.
-/

namespace SystemSettings

variable {B α β : Type} {fallback : Option Native → TemporalPolicyV3} {p : Pid}
  {guard : Memory → Option TemporalPolicyV3 → Prop}
  {changes : Option TemporalPolicyV3 → Option TemporalPolicyV3 → Prop}
  {K : Common} {G : GLib B} {m : ModelId} {s : Memory} {st : LockState}

/-! ## Programs aside -/

/-- The program makes neutral calls only and leaves the memory `s` alone. -/
def Aside (s : Memory) : Prog (Sys B) Memory α → Prop
  | .ret _ s' => s' = s
  | .call c s' k => Call.IsNeutral c ∧ s' = s ∧ ∀ r, Aside s (k r s)

theorem Aside.bind {m : Prog (Sys B) Memory α} {f : α → Memory → Prog (Sys B) Memory β}
    (hm : Aside s m) (hf : ∀ a, Aside s (f a s)) : Aside s (m.bind f) := by
  induction m with
  | ret a s' =>
    obtain rfl : s' = s := hm
    exact hf a
  | call c s' k ih =>
    obtain ⟨hc, rfl, hk⟩ := hm
    exact ⟨hc, rfl, fun r => ih r s' (hk r)⟩

/-- What is set aside does not matter. -/
theorem Holds.aside {m : Prog (Sys B) Memory α} {f : α → Memory → Prog (Sys B) Memory β}
    {Q : β → Memory → LockState → Prop} (hm : Aside s m)
    (hf : ∀ a, Holds fallback p guard changes (f a s) Q st) :
    Holds fallback p guard changes (m.bind f) Q st := by
  induction m with
  | ret a s' =>
    obtain rfl : s' = s := hm
    exact hf a
  | call c s' k ih =>
    obtain ⟨hc, rfl, hk⟩ := hm
    exact .neutral hc fun r => ih r s' (hk r)

theorem metadataSavePath_aside {f : LocalityFile} {metadata : LocationMetadata} :
    Aside s (metadataSavePath G f metadata s) := by
  unfold metadataSavePath
  split
  · cases G.toData metadata with
    | some data => exact ⟨trivial, rfl, fun _ => rfl⟩
    | none => rfl
  · rfl

theorem unlinkFile_aside {f : LocalityFile} : Aside s ((unlinkFile f : SysM B Bool) s) :=
  ⟨trivial, rfl, fun _ => rfl⟩

theorem locationMetadataFinishStaged_aside : Aside s (locationMetadataFinishStaged G s) := by
  refine ⟨trivial, rfl, fun r => ?_⟩
  simp only [Prog.ret_bind, Action.pure_run]
  rcases metadataLoad G r with ⟨status, staged⟩
  cases status with
  | ok =>
    refine metadataSavePath_aside.bind fun saved => ?_
    cases saved with
    | true => exact ⟨trivial, rfl, fun _ => rfl⟩
    | false => rfl
  | _ => rfl

/-! ## The run -/

/-- Whether a run changed the policy: it succeeded, or it reported that the
policy was saved all the same. -/
def cliCommitted (args : List String) (result : CliResult) : Bool :=
  !args.isEmpty && (result.exitCode == 0 ||
    result.exitCode == 3 && result.message != some restoredMessage)

theorem modelInit_holds {store : TemporalPolicyStore} {Q : Bool → Memory → LockState → Prop}
    (hst : store.Locking) (hno : Q false s st)
    (hyes : ∀ x, st.Reads fallback x → Q true (s.setModel m (some ⟨x.1, store, x.2, false⟩)) st) :
    Holds (B := B) fallback p guard changes (modelInit K m store s) Q st := by
  cases hm : s.models m with
  | some priv =>
    simp [modelInit, hm]
    exact .ret hno
  | none =>
  simp [modelInit, hm, hst.load, hst.save, hst.beginUpdate, hst.endUpdate]
  refine .neutral trivial fun r => ?_
  cases r with
  | false => exact .ret hno
  | true =>
    cases hp : K.policyDefault with
    | none => exact .ret hno
    | some policy =>
      simp [modelReload, hp, hst.load]
      refine .load ?_ fun x hx => ?_
      · simp [modelClear, releaseUpdateLock]
        rw [Memory.setModel_eq_self hm]
        exact .ret hno
      · simp
        exact .ret (hyes x hx)

theorem modelClear_holds {priv : ModelPrivate} (hm : s.models m = some priv)
    (hs : priv.saving = false) :
    Holds (B := B) fallback p guard changes (modelClear m s)
      (fun _ s' st' => s' = s.setModel m none ∧ st' = st) st := by
  simp [modelClear, releaseUpdateLock, hm, hs]
  exact .ret ⟨rfl, rfl⟩

/-- Publishing a draft under the lock: the document is the draft's policy, or
what it was. -/
theorem cliCommit_holds {d : Option TemporalPolicyV3} {x : TemporalPolicyV3 × Bool}
    {draft : CliDraft} {args : List String} (hargs : args.isEmpty = false)
    (hx : Shows fallback d x) (hc : changes d (some draft.policy))
    (hc' : changes (some draft.policy) d) :
    Holds fallback p guard changes (cliCommit G x.1 x.2 draft s)
      (fun r s' st' => s' = s ∧
        st' = .held d (if cliCommitted args r then some draft.policy else d)) (.held d d) := by
  have hd : d = if x.2 then some x.1 else none := hx.document
  have stage : Aside s ((if draft.locationChangeRequested && !draft.locationClearRequested then
      locationMetadataStage G draft.locationCandidate else pure true : SysM B Bool) s) := by
    split
    · exact metadataSavePath_aside
    · rfl
  have metadata : Aside s ((if draft.locationChangeRequested then
        if draft.locationClearRequested then locationMetadataClear
        else locationMetadataFinishStaged G
      else pure true : SysM B Bool) s) := by
    split
    · split
      · exact unlinkFile_aside
      · exact locationMetadataFinishStaged_aside
    · rfl
  have discard : ∀ b : Bool, Aside s ((Action.when b do
      let _ ← locationMetadataDiscardStaged
      pure () : SysM B Unit) s) := by
    intro b
    cases b with
    | true => exact ⟨trivial, rfl, fun _ => rfl⟩
    | false => rfl
  have saved : ∀ text, text ≠ restoredMessage → cliCommitted args (.failure 3 text) = true := by
    intro text h
    simp [cliCommitted, hargs, CliResult.failure, h]
  simp only [cliCommit, Action.bind_run]
  refine .aside stage fun ready => ?_
  cases ready with
  | false => exact .ret ⟨rfl, by simp [cliCommitted, CliResult.failure]⟩
  | true =>
    simp only [Bool.not_true, Bool.false_eq_true, if_false, Action.bind_run, storeSave_run,
      Prog.call_bind, Prog.ret_bind]
    refine .save ?_ ?_ hc
    · -- the policy is not saved
      refine .aside (discard _) fun _ => ?_
      exact .ret ⟨rfl, by simp [cliCommitted, CliResult.failure]⟩
    -- the policy is saved
    simp only [if_true, Action.bind_run]
    refine .aside metadata fun metadataOk => ?_
    cases metadataOk with
    | true =>
      refine .neutral trivial fun matched => ?_
      cases matched with
      | true => exact .ret ⟨rfl, by simp [cliCommitted, hargs]⟩
      | false =>
        refine .ret ⟨rfl, ?_⟩
        rw [if_pos (saved _ (by decide))]
    | false =>
      -- the metadata is not committed: the previous state is saved back, or the policy removed
      have undone : cliCommitted args (.failure 3 restoredMessage) = false := by
        simp [cliCommitted, CliResult.failure]
      simp only [Bool.not_false, if_true, Action.bind_run]
      cases hfound : x.2 with
      | true =>
        rw [hfound, if_pos rfl] at hd
        subst hd
        simp only [if_true, storeSave_run, Prog.call_bind, Prog.ret_bind]
        refine .save ?_ ?_ hc'
        · refine .aside (discard _) fun _ => .ret ⟨rfl, ?_⟩
          rw [if_pos (saved _ (by decide))]
        · refine .aside (discard _) fun _ => .ret ⟨rfl, ?_⟩
          simp [undone]
      | false =>
        rw [hfound, if_neg Bool.false_ne_true] at hd
        subst hd
        simp only [Bool.false_eq_true, if_false, storeClear_run, Prog.call_bind, Prog.ret_bind]
        refine .clear ?_ ?_ hc'
        · refine .aside (discard _) fun _ => .ret ⟨rfl, ?_⟩
          rw [if_pos (saved _ (by decide))]
        · refine .aside (discard _) fun _ => .ret ⟨rfl, ?_⟩
          simp [undone]

/-- What a run that committed makes of a policy: all its options applied. -/
def cliChange (K : Common) (program : String) (args : List String) (policy : TemporalPolicyV3) :
    Option TemporalPolicyV3 :=
  match cliOptions K program args (.start policy) with
  | .ok draft => some draft.policy
  | .error _ => none

/-- What a section of the command line does. -/
def CliEffect (fallback : Option Native → TemporalPolicyV3) (K : Common) (program : String)
    (args : List String) (result : CliResult) (before after : Option TemporalPolicyV3) : Prop :=
  if cliCommitted args result then
    ∃ x y, Shows fallback before x ∧ cliChange K program args x.1 = some y ∧ after = some y
  else after = before

theorem cliTransaction_holds {d : Option TemporalPolicyV3} {x : TemporalPolicyV3 × Bool}
    {program : String} {args : List String} {store : TemporalPolicyStore}
    (hm : s.models m = some ⟨x.1, store, x.2, false⟩) (hargs : args.isEmpty = false)
    (hx : Shows fallback d x)
    (hc : ∀ x y, Shows fallback d x → cliChange K program args x.1 = some y →
      changes d (some y) ∧ changes (some y) d) :
    Holds fallback p guard changes (cliTransaction K G m program args s)
      (fun r s' st' => s' = s ∧ ∃ after, st' = .held d after ∧
        CliEffect fallback K program args r d after) (.held d d) := by
  have failed : ∀ code text, code ≤ 2 → code ≠ 0 →
      CliEffect fallback K program args (.failure code text) d d := by
    intro code text hle hne
    have : cliCommitted args (.failure code text) = false := by
      simp [cliCommitted, CliResult.failure]
      omega
    simp [CliEffect, this]
  simp only [cliTransaction, Action.bind_run, readModel_run, hm, Prog.ret_bind]
  refine .neutral trivial fun allocated => ?_
  cases allocated with
  | false => exact .ret ⟨rfl, d, rfl, failed 1 _ (by omega) (by omega)⟩
  | true =>
    cases ho : cliOptions K program args (.start x.1) with
    | error text =>
      exact .ret ⟨rfl, d, rfl, failed 2 _ (by omega) (by omega)⟩
    | ok draft =>
      have hy : cliChange K program args x.1 = some draft.policy := by simp [cliChange, ho]
      obtain ⟨h₁, h₂⟩ := hc x _ hx hy
      simp only [hargs, Bool.false_eq_true, if_false]
      refine (cliCommit_holds hargs hx h₁ h₂).mono ?_
      rintro r s' st' ⟨rfl, rfl⟩
      refine ⟨rfl, _, rfl, ?_⟩
      unfold CliEffect
      split
      · exact ⟨x, _, hx, hy, rfl⟩
      · rfl

/-- A run of the tool: its options applied to the document it found, or nothing. -/
theorem cliMain_holds {program : String} {args : List String} (hr : Resting m s)
    (hc : ∀ d x y, Shows fallback d x → cliChange K program args x.1 = some y →
      changes d (some y) ∧ changes (some y) d) :
    Holds fallback p guard changes (cliMain K G m program args s)
      (fun r s' st => Resting m s' ∧ match st with
        | .free => cliCommitted args r = false
        | .held _ _ => False
        | .released before after => CliEffect fallback K program args r before after) .free := by
  have release : ∀ (b : Bool) (s : Memory), Aside s
      ((Action.when b locationMetadataTransactionEnd : SysM B Unit) s) := by
    intro b s
    cases b with
    | true => exact ⟨trivial, rfl, fun _ => rfl⟩
    | false => rfl
  have cleared : Resting m (s.setModel m none) := by simp [Resting]
  have failed : ∀ code text, code ≤ 2 → code ≠ 0 →
      cliCommitted args (.failure code text) = false := by
    intro code text hle hne
    simp [cliCommitted, CliResult.failure]
    omega
  have body : ∀ localityLocked, Holds (B := B) fallback p guard changes
      (cliWithPolicy K G m program args localityLocked s)
      (fun r s' st => Resting m s' ∧ match st with
        | .free => cliCommitted args r = false
        | .held _ _ => False
        | .released before after => CliEffect fallback K program args r before after) .free := by
    intro localityLocked
    simp only [cliWithPolicy, Action.bind_run]
    cases hargs : args.isEmpty with
    | true =>
      -- without options: read and print, no lock
      obtain rfl : args = [] := by simpa using hargs
      have init : Holds (B := B) fallback p guard changes
          (modelInit K m platformTemporalPolicyStore s)
          (fun ok s' st => st = .free ∧ (ok = false ∧ s' = s ∨ ok = true ∧
            ∃ x : TemporalPolicyV3 × Bool,
              s' = s.setModel m (some ⟨x.1, platformTemporalPolicyStore, x.2, false⟩))) .free :=
        modelInit_holds platformTemporalPolicyStore_locking ⟨rfl, .inl ⟨rfl, rfl⟩⟩
          fun x _ => ⟨rfl, .inr ⟨rfl, x, rfl⟩⟩
      simp only [if_true, Action.pure_run, Prog.ret_bind, Bool.not_true, Bool.false_and,
        Bool.false_eq_true, if_false, Action.bind_run]
      refine init.bind ?_
      rintro ok s' st ⟨rfl, ⟨rfl, rfl⟩ | ⟨rfl, x, rfl⟩⟩
      · have unlocked : Aside s' ((Action.when false storeEndUpdate : SysM B Unit) s') := rfl
        refine .aside unlocked fun _ => .aside (release localityLocked s') fun _ => ?_
        exact .ret ⟨hr, rfl⟩
      · have hm := s.setModel_self m (some ⟨x.1, platformTemporalPolicyStore, x.2, false⟩)
        have finish : ∀ r : CliResult, Holds (B := B) fallback p guard changes
            ((Action.when localityLocked locationMetadataTransactionEnd >>= fun _ =>
              modelClear m >>= fun _ => pure r : SysM B CliResult)
                (s.setModel m (some ⟨x.1, platformTemporalPolicyStore, x.2, false⟩)))
            (fun r' s' st => Resting m s' ∧ match st with
              | .free => cliCommitted [] r' = false
              | .held _ _ => False
              | .released before after => CliEffect fallback K program [] r' before after)
            .free := by
          intro r
          refine .aside (release localityLocked _) fun _ => ?_
          refine (modelClear_holds hm rfl).bind ?_
          rintro _ s' st ⟨rfl, rfl⟩
          exact .ret ⟨by simpa using cleared, rfl⟩
        simp only [if_true, Action.bind_run, cliTransaction, readModel_run, hm, Prog.ret_bind,
          calloc_run, Prog.call_bind]
        refine .neutral trivial fun allocated => ?_
        cases allocated with
        | false => exact finish _
        | true => exact finish _
    | false =>
      simp only [Bool.false_eq_true, if_false, storeBeginUpdate_run, Prog.call_bind, Prog.ret_bind]
      refine .beginUpdate ?_ fun d _ => ?_
      · refine .aside (release localityLocked s) fun _ => ?_
        exact .ret ⟨hr, failed 2 _ (by omega) (by omega)⟩
      · have init : Holds (B := B) fallback p guard changes
            (modelInit K m platformTemporalPolicyStore s)
            (fun ok s' st => st = .held d d ∧ (ok = false ∧ s' = s ∨ ok = true ∧ ∃ x,
              Shows fallback d x ∧
              s' = s.setModel m (some ⟨x.1, platformTemporalPolicyStore, x.2, false⟩)))
            (.held d d) :=
          modelInit_holds platformTemporalPolicyStore_locking ⟨rfl, .inl ⟨rfl, rfl⟩⟩
            fun x hx => ⟨rfl, .inr ⟨rfl, x, hx, rfl⟩⟩
        simp only [Bool.not_false, Bool.not_true, Bool.and_false, Bool.false_eq_true, if_false,
          Action.bind_run]
        refine init.bind ?_
        rintro ok s' st ⟨rfl, ⟨rfl, rfl⟩ | ⟨rfl, x, hx, rfl⟩⟩
        · refine .endUpdate ?_
          simp only [Prog.ret_bind]
          refine .aside (release localityLocked s') fun _ => .ret ⟨hr, ?_⟩
          simp [CliEffect, failed 1 _ (by omega) (by omega)]
        · have hm := s.setModel_self m (some ⟨x.1, platformTemporalPolicyStore, x.2, false⟩)
          simp only [if_true, Action.bind_run]
          refine (cliTransaction_holds hm hargs hx (fun x y => hc d x y)).bind ?_
          rintro r s' st ⟨rfl, after, rfl, heffect⟩
          refine .endUpdate ?_
          simp only [Prog.ret_bind]
          refine .aside (release localityLocked _) fun _ => ?_
          refine (modelClear_holds hm rfl).bind ?_
          rintro _ s' st ⟨rfl, rfl⟩
          exact .ret ⟨by simpa using cleared, heffect⟩
  simp only [cliMain]
  split
  · refine .neutral trivial fun taken => ?_
    cases taken with
    | true => exact body true
    | false => exact .ret ⟨hr, failed 2 _ (by omega) (by omega)⟩
  · exact body false

end SystemSettings
