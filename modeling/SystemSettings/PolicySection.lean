import SystemSettings.Cli
import SystemSettings.PersistBeforePublish
import SystemSettings.Sections

/-!
# Policy operations as sections

The policy document behind the update lock is a locked resource, and every
operation on it is a program with one section. `Holds` is the program logic for
that: the state of a program is whether it holds the lock, since which document,
and what the document is now. There is one rule for each call and one
specification for each operation of the model and of the command line.
-/

namespace SystemSettings

variable {B α β : Type} {fallback : Option Native → TemporalPolicyV3} {p : Pid}
  {guard : Memory → Option TemporalPolicyV3 → Prop}
  {changes : Option TemporalPolicyV3 → Option TemporalPolicyV3 → Prop}

/-- The policy document behind the update lock. What happens by itself touches
neither. -/
def policyResource (B : Type) (fallback : Option Native → TemporalPolicyV3) :
    LockedResource (Sys B) (World (Option TemporalPolicyV3) B) (Option TemporalPolicyV3) where
  holder := World.policyLock
  res := World.document
  answer p w e := ∃ ok, e.resp = (World.respond (.exact fallback) p ok w e.cmd).1 ∧
    e.world = (World.respond (.exact fallback) p ok w e.cmd).2
  env w w' := w'.policyLock = w.policyLock ∧ w'.document = w.document
  holder_answer := by
    rintro p w ⟨c, r, w'⟩ ⟨ok, hr, hw⟩
    simp only at hr hw
    subst hr hw
    cases c with
    | beginUpdate =>
      simp only [World.respond]
      split
      · next h => exact .inr (.inl ⟨h.2, rfl⟩)
      · exact .inl rfl
    | endUpdate =>
      simp only [World.respond]
      split
      · next h => exact .inr (.inr ⟨h, rfl⟩)
      · exact .inl rfl
    | save policy => cases ok <;> exact .inl rfl
    | clear => cases ok <;> exact .inl rfl
    | writeFile f data => cases f <;> cases ok <;> exact .inl rfl
    | unlinkFile f => cases f <;> cases ok <;> exact .inl rfl
    | transactionBegin | transactionEnd =>
      simp only [World.respond]
      split <;> exact .inl rfl
    | _ => exact .inl rfl
  holder_env h := h.1
  res_env h := h.2

/-- Where a program is with respect to its section, with the document now. -/
inductive LockState : Type where
  /-- the lock has not been taken -/
  | free
  /-- it is held since the document was `before`; now it is `now` -/
  | held (before now : Option TemporalPolicyV3)
  /-- it has been given back -/
  | released (before after : Option TemporalPolicyV3)

/-- The phase of the section. -/
def LockState.phase : LockState → Phase (Option TemporalPolicyV3)
  | free => .outside
  | held before _ => .inside before
  | released before after => .done before after

/-- A world that fits the state. -/
def LockState.Fits (p : Pid) (w : World (Option TemporalPolicyV3) B) : LockState → Prop
  | held _ now => w.policyLock = some p ∧ w.document = now
  | _ => w.policyLock ≠ some p

variable (fallback p guard changes) in
/-- From the state `st` the program keeps to its section and ends in `Q`. -/
def Holds (m : Prog (Sys B) Memory α) (Q : α → Memory → LockState → Prop) (st : LockState) : Prop :=
  ∀ w, st.Fits p w → m.Meets (policyResource B fallback) guard changes p
    (fun a s μ w => ∃ st', μ = st'.phase ∧ st'.Fits p w ∧ Q a s st') st.phase w

section Rules

variable {Q : α → Memory → LockState → Prop} {st : LockState} {s : Memory}

theorem Holds.ret {a : α} (h : Q a s st) :
    Holds (B := B) fallback p guard changes (.ret a s) Q st :=
  fun _ hw => ⟨st, rfl, hw, h⟩

theorem Holds.bind {m : Prog (Sys B) Memory α} {f : α → Memory → Prog (Sys B) Memory β}
    {R : β → Memory → LockState → Prop} (hm : Holds fallback p guard changes m Q st)
    (hf : ∀ a s st', Q a s st' → Holds fallback p guard changes (f a s) R st') :
    Holds fallback p guard changes (m.bind f) R st := by
  intro w hw
  refine (hm w hw).bind ?_
  rintro a s μ w ⟨st', rfl, hw', hQ⟩
  exact hf a s st' hQ w hw'

theorem Holds.mono {m : Prog (Sys B) Memory α} {Q' : α → Memory → LockState → Prop}
    (hm : Holds fallback p guard changes m Q st) (hQ : ∀ a s st', Q a s st' → Q' a s st') :
    Holds fallback p guard changes m Q' st := by
  have := hm.bind (f := fun a s => .ret a s) fun a s st' h => .ret (hQ a s st' h)
  simpa using this

/-- A program that holds at every end what its contract asks for keeps to it. -/
theorem Holds.keeps {ι : Type} {C : Contract ι Memory α (Option TemporalPolicyV3)} {i : ι}
    {m : Prog (Sys B) Memory α} (h : Holds fallback p (C.guard i) (C.changes i) m
      (fun a s st => C.Ends i a s st.phase) .free) {w : World (Option TemporalPolicyV3) B}
    (hw : w.policyLock ≠ some p) : m.Keeps (policyResource B fallback) C p i .outside w := by
  have hends := (h w hw).bind (f := fun a s => .ret a s) (Q := fun a s μ _ => C.Ends i a s μ)
    fun a s μ w hQ => by
      obtain ⟨st', rfl, -, hends⟩ := hQ
      exact hends
  rwa [Prog.bind_ret] at hends

theorem LockState.Fits.of_rely {w w' : World (Option TemporalPolicyV3) B} (h : st.Fits p w)
    (hR : (policyResource B fallback).Rely p w w') : st.Fits p w' := by
  cases st with
  | held before now => exact ⟨hR.1.mpr h.1, (hR.2 h.1).trans h.2⟩
  | free | released => exact fun h' => h (hR.1.mp h')

/-- The rule every call rule comes from: look at each answer the world can give. -/
theorem Holds.call {c : Call B} {k : c.Answer → Memory → Prog (Sys B) Memory α}
    (h : ∀ w ok, st.Fits p w →
      ((policyResource B fallback).Takes p w (World.respond (.exact fallback) p ok w c).2 →
        guard s w.document) →
      ∃ st', (policyResource B fallback).Next p changes w
          (World.respond (.exact fallback) p ok w c).2 st.phase st'.phase ∧
        st'.Fits p (World.respond (.exact fallback) p ok w c).2 ∧
        Holds fallback p guard changes
          (k (World.respond (.exact fallback) p ok w c).1 s) Q st') :
    Holds fallback p guard changes (.call (S := Sys B) c s k) Q st := by
  rintro w hw w₁ r w' hR ⟨ok, hr, hw'⟩ hg
  simp only at hr hw'
  subst hr hw'
  obtain ⟨st', hn, hf, hk⟩ := h w₁ ok (hw.of_rely hR) hg
  exact ⟨st'.phase, hn, hk _ hf⟩

/-- The calls that touch neither the document nor the update lock. -/
def Call.IsNeutral : Call B → Prop
  | .save _ | .clear | .beginUpdate | .endUpdate => False
  | _ => True

theorem World.respond_neutral {D : Type} {c : Call B} (hc : c.IsNeutral) (St : Storage D) (p : Pid)
    (ok : Bool) (w : World D B) : (World.respond St p ok w c).2.policyLock = w.policyLock ∧
      (World.respond St p ok w c).2.document = w.document := by
  cases c with
  | save | clear | beginUpdate | endUpdate => exact hc.elim
  | writeFile f data => cases f <;> cases ok <;> exact ⟨rfl, rfl⟩
  | unlinkFile f => cases f <;> cases ok <;> exact ⟨rfl, rfl⟩
  | transactionBegin | transactionEnd =>
    simp only [World.respond]
    split <;> exact ⟨rfl, rfl⟩
  | _ => exact ⟨rfl, rfl⟩

/-- A call that leaves lock and document as they are leaves the state as it is. -/
theorem LockState.next_same (fallback : Option Native → TemporalPolicyV3)
    (changes : Option TemporalPolicyV3 → Option TemporalPolicyV3 → Prop)
    {w w' : World (Option TemporalPolicyV3) B} (h : st.Fits p w)
    (hl : w'.policyLock = w.policyLock) (hd : w'.document = w.document) :
    (policyResource B fallback).Next p changes w w' st.phase st.phase ∧ st.Fits p w' := by
  cases st with
  | free => exact ⟨.stay (fun h' => h (hl.symm.trans h')) hd, fun h' => h (hl.symm.trans h')⟩
  | held before now => exact ⟨.work before (hl.trans h.1) (.inl hd), hl.trans h.1, hd.trans h.2⟩
  | released before after =>
    exact ⟨.rest before after (fun h' => h (hl.symm.trans h')) hd, fun h' => h (hl.symm.trans h')⟩

theorem Holds.neutral {c : Call B} {k : c.Answer → Memory → Prog (Sys B) Memory α}
    (hc : c.IsNeutral) (h : ∀ r, Holds fallback p guard changes (k r s) Q st) :
    Holds fallback p guard changes (.call (S := Sys B) c s k) Q st := by
  refine .call fun w ok hw _ => ⟨st, ?_⟩
  obtain ⟨hl, hd⟩ := World.respond_neutral hc (.exact fallback) p ok w
  obtain ⟨hn, hf⟩ := LockState.next_same fallback changes hw hl hd
  exact ⟨hn, hf, h _⟩

variable {before now : Option TemporalPolicyV3}

/-- What a read can find: under the lock, the document. -/
def LockState.Reads (fallback : Option Native → TemporalPolicyV3) (x : TemporalPolicyV3 × Bool) :
    LockState → Prop
  | held _ now => Shows fallback now x
  | _ => True

theorem Holds.load {k : Option (TemporalPolicyV3 × Bool) → Memory → Prog (Sys B) Memory α}
    (hnone : Holds fallback p guard changes (k none s) Q st)
    (hsome : ∀ x, st.Reads fallback x → Holds fallback p guard changes (k (some x) s) Q st) :
    Holds fallback p guard changes (.call (S := Sys B) .load s k) Q st := by
  refine .call fun w ok hw _ => ⟨st, ?_⟩
  obtain ⟨hn, hf⟩ := LockState.next_same fallback changes hw rfl rfl
  refine ⟨hn, hf, ?_⟩
  cases ok with
  | false => exact hnone
  | true =>
    refine hsome _ ?_
    cases st with
    | free | released => trivial
    | held before now =>
      rw [← hw.2]
      cases hd : w.document with
      | some policy => rfl
      | none => exact ⟨w.native, rfl⟩

/-- The lock may be refused. Whoever gets it finds some document. -/
theorem Holds.beginUpdate {k : Bool → Memory → Prog (Sys B) Memory α}
    (hno : Holds fallback p guard changes (k false s) Q .free)
    (hyes : ∀ d, guard s d → Holds fallback p guard changes (k true s) Q (.held d d)) :
    Holds fallback p guard changes (.call (S := Sys B) .beginUpdate s k) Q .free := by
  refine .call fun w ok hw hg => ?_
  by_cases h : ok = true ∧ w.policyLock = none
  · simp only [World.respond, if_pos h] at hg ⊢
    exact ⟨.held w.document w.document, .take ⟨hw, rfl⟩ rfl, ⟨rfl, rfl⟩, hyes _ (hg ⟨hw, rfl⟩)⟩
  · simp only [World.respond, if_neg h]
    exact ⟨.free, .stay hw rfl, hw, hno⟩

theorem Holds.endUpdate {k : Unit → Memory → Prog (Sys B) Memory α}
    (h : Holds fallback p guard changes (k () s) Q (.released before now)) :
    Holds fallback p guard changes (.call (S := Sys B) .endUpdate s k) Q (.held before now) := by
  refine .call fun w ok hw _ => ⟨.released before now, ?_, ?_, h⟩
  · simp only [World.respond, if_pos hw.1]
    have give : (policyResource B fallback).Next p changes w { w with policyLock := none }
        (.inside before) (.done before w.document) := .give before (by simp [policyResource]) rfl
    simpa [LockState.phase, hw.2] using give
  · simp only [World.respond, if_pos hw.1]
    simp [LockState.Fits]

theorem Holds.save {policy : TemporalPolicyV3} {k : Bool → Memory → Prog (Sys B) Memory α}
    (hno : Holds fallback p guard changes (k false s) Q (.held before now))
    (hyes : Holds fallback p guard changes (k true s) Q (.held before (some policy)))
    (hc : changes now (some policy)) :
    Holds fallback p guard changes (.call (S := Sys B) (.save policy) s k) Q
      (.held before now) := by
  refine .call fun w ok hw _ => ?_
  cases ok with
  | false => exact ⟨.held before now, .work before hw.1 (.inl rfl), hw, hno⟩
  | true =>
    obtain ⟨hl, rfl⟩ := hw
    exact ⟨.held before (some policy), .work before hl (.inr hc), ⟨hl, rfl⟩, hyes⟩

theorem Holds.clear {k : Bool → Memory → Prog (Sys B) Memory α}
    (hno : Holds fallback p guard changes (k false s) Q (.held before now))
    (hyes : Holds fallback p guard changes (k true s) Q (.held before none))
    (hc : changes now none) :
    Holds fallback p guard changes (.call (S := Sys B) .clear s k) Q (.held before now) := by
  refine .call fun w ok hw _ => ?_
  cases ok with
  | false => exact ⟨.held before now, .work before hw.1 (.inl rfl), hw, hno⟩
  | true =>
    obtain ⟨hl, rfl⟩ := hw
    exact ⟨.held before none, .work before hl (.inr hc), ⟨hl, rfl⟩, hyes⟩

end Rules

/-! ## The operations of the model -/

/-- A memory in which the model of the process is at rest. -/
def Resting (m : ModelId) (s : Memory) : Prop :=
  ∀ priv, s.models m = some priv → priv.store.Locking ∧ priv.saving = false

section Model

variable {m : ModelId} {s : Memory} {priv : ModelPrivate} {before now : Option TemporalPolicyV3}

theorem releaseUpdateLock_holds (hm : s.models m = some priv) (hl : priv.store.Locking)
    (hs : priv.saving = true) :
    Holds (B := B) fallback p guard changes (releaseUpdateLock m s)
      (fun _ s' st => s' = s.setModel m (some { priv with saving := false }) ∧
        st = .released before now) (.held before now) := by
  simp only [releaseUpdateLock, Action.bind_run, readModel_run, Prog.ret_bind, hm,
    Action.when_run, hs, hl.beginUpdate, hl.endUpdate, Bool.and_self, if_true, storeEndUpdate_run,
    Prog.call_bind, modifyModel_run]
  exact .endUpdate (.ret ⟨by rw [hm]; rfl, rfl⟩)

/-- A candidate, read under the lock, or none and no lock held. -/
theorem beginCandidate_holds (hm : s.models m = some priv) (hl : priv.store.Locking)
    (hs : priv.saving = false) :
    Holds (B := B) fallback p guard changes (beginCandidate m s)
      (fun a s' st => match a with
        | none => s' = s ∧ (st = .free ∨ ∃ d, st = .released d d)
        | some x => s' = s.setModel m (some { priv with saving := true }) ∧
          ∃ d, st = .held d d ∧ Shows fallback d x ∧ guard s' d) .free := by
  have same : s.setModel m (some { priv with saving := false }) = s := by
    rw [← hs]
    exact Memory.setModel_eq_self hm
  have raised := s.setModel_self m (some { priv with saving := true })
  simp [beginCandidate, hm, hs, hl.save, hl.beginUpdate, hl.load]
  refine .beginUpdate ?_ fun d hg => ?_
  · exact .ret ⟨by simp [same], .inl rfl⟩
  · refine .load ?_ fun x hx => ?_
    · refine (releaseUpdateLock_holds raised hl rfl).bind ?_
      rintro _ s' st ⟨rfl, rfl⟩
      exact .ret ⟨by simp [same], .inr ⟨d, rfl⟩⟩
    · exact .ret ⟨rfl, d, rfl, hx, hg⟩

theorem saveCandidate_holds (hm : s.models m = some priv) (hl : priv.store.Locking)
    (hs : priv.saving = true) {candidate : TemporalPolicyV3}
    (hc : changes now (some candidate)) :
    Holds (B := B) fallback p guard changes (saveCandidate m candidate s)
      (fun ok s' st => (∃ priv', s'.models m = some priv' ∧ priv'.store = priv.store ∧
          priv'.saving = false) ∧
        st = .released before (if ok then some candidate else now)) (.held before now) := by
  simp [saveCandidate, hm, hs, hl.save]
  refine .save ?_ ?_ hc
  · refine (releaseUpdateLock_holds hm hl hs).bind ?_
    rintro _ s' st ⟨rfl, rfl⟩
    exact .ret ⟨⟨_, Memory.setModel_self .., rfl, rfl⟩, rfl⟩
  · refine (releaseUpdateLock_holds hm hl hs).bind ?_
    rintro _ s' st ⟨rfl, rfl⟩
    simp
    exact .ret ⟨⟨_, Memory.setModel_self .., rfl, rfl⟩, rfl⟩

/-- The document is as it was when the lock was taken, if it was. -/
def LockState.Unchanged : LockState → Prop
  | free => True
  | held _ _ => False
  | released before after => after = before

theorem Resting.of_model {s' : Memory} {priv' : ModelPrivate} (hm : s'.models m = some priv')
    (hl : priv'.store.Locking) (hs : priv'.saving = false) : Resting m s' := by
  intro priv'' hm'
  obtain rfl := Option.some.inj (hm.symm.trans hm')
  exact ⟨hl, hs⟩

/-- A setter: nothing, or its change applied to the document it found. -/
theorem setField_holds {edit : TemporalPolicyV3 → TemporalPolicyV3} (hr : Resting m s)
    (hc : ∀ priv d x, s.models m = some priv →
      guard (s.setModel m (some { priv with saving := true })) d → Shows fallback d x →
      changes d (some (edit x.1))) :
    Holds (B := B) fallback p guard changes (setField m edit s)
      (fun ok s' st => Resting m s' ∧ (ok = false ∧ st.Unchanged ∨ ok = true ∧
        ∃ d x, Shows fallback d x ∧ st = .released d (some (edit x.1)))) .free := by
  cases hm : s.models m with
  | none =>
    simp [setField, beginCandidate, hm]
    exact .ret ⟨hr, .inl ⟨rfl, trivial⟩⟩
  | some priv =>
    obtain ⟨hl, hs⟩ := hr priv hm
    simp only [setField, Action.bind_run]
    refine (beginCandidate_holds hm hl hs).bind ?_
    rintro a s' st ha
    cases a with
    | none =>
      obtain ⟨rfl, rfl | ⟨d, rfl⟩⟩ := ha
      · exact .ret ⟨hr, .inl ⟨rfl, trivial⟩⟩
      · exact .ret ⟨hr, .inl ⟨rfl, rfl⟩⟩
    | some x =>
      obtain ⟨rfl, d, rfl, hx, hg⟩ := ha
      have raised := s.setModel_self m (some { priv with saving := true })
      refine (saveCandidate_holds raised hl rfl (hc priv d x hm hg hx)).mono ?_
      rintro ok s' st ⟨⟨priv', hm', hst, hs'⟩, rfl⟩
      refine ⟨.of_model hm' (hst ▸ hl) hs', ?_⟩
      cases ok with
      | false => exact .inl ⟨rfl, rfl⟩
      | true => exact .inr ⟨rfl, d, x, hx, rfl⟩

theorem modelReload_holds {K : Common} {st : LockState} (hr : Resting m s) :
    Holds (B := B) fallback p guard changes (modelReload K m s)
      (fun _ s' st' => Resting m s' ∧ st' = st) st := by
  cases hm : s.models m with
  | none =>
    simp [modelReload, hm]
    exact .ret ⟨hr, rfl⟩
  | some priv =>
    obtain ⟨hl, hs⟩ := hr priv hm
    cases hK : K.policyDefault with
    | none =>
      simp [modelReload, hm, hK]
      exact .ret ⟨hr, rfl⟩
    | some policy =>
      simp [modelReload, hm, hs, hK, hl.load]
      refine .neutral trivial fun r => ?_
      cases r with
      | none => exact .ret ⟨hr, rfl⟩
      | some x =>
        refine .ret ⟨fun priv' hm' => ?_, rfl⟩
        simp [hm] at hm'
        subst hm'
        exact ⟨hl, hs⟩

theorem modelNormalizeUnpersistedClockMode_holds {K : Common} {st : LockState} {clockMode : String}
    (hr : Resting m s) :
    Holds (B := B) fallback p guard changes (modelNormalizeUnpersistedClockMode K m clockMode s)
      (fun _ s' st' => Resting m s' ∧ st' = st) st := by
  cases hm : s.models m with
  | none =>
    simp [modelNormalizeUnpersistedClockMode, hm]
    exact .ret ⟨hr, rfl⟩
  | some priv =>
    obtain ⟨hl, hs⟩ := hr priv hm
    cases hv : validClockMode K clockMode with
    | none =>
      simp [modelNormalizeUnpersistedClockMode, hm, hv]
      exact .ret ⟨hr, rfl⟩
    | some info =>
      cases hp : priv.persistedPolicyPresent with
      | true =>
        simp [modelNormalizeUnpersistedClockMode, hm, hv, hs, hp]
        exact .ret ⟨hr, rfl⟩
      | false =>
        simp [modelNormalizeUnpersistedClockMode, hm, hv, hs, hp]
        exact .ret ⟨.of_model (Memory.setModel_self ..) hl rfl, rfl⟩

/-- An update that is open: the lock is held, the document is the new policy, and
the token is what the update found. -/
def Updating (fallback : Option Native → TemporalPolicyV3) (m : ModelId) (t : TokenId)
    (edit : TemporalPolicyV3 → TemporalPolicyV3) (s : Memory) (st : LockState) : Prop :=
  ∃ priv d x, ModelOp.Open s m t priv ∧ priv.store.Locking ∧
    (s.tokens t).previousPolicy = x.1 ∧ (s.tokens t).previousPersistedPolicyPresent = x.2 ∧
    Shows fallback d x ∧ st = .held d (some (edit x.1))

theorem modelBeginLocationUpdate_holds {configured : Bool} {latitude longitude : Double}
    {t : TokenId} (hr : Resting m s)
    (hc : validLocation latitude longitude = true → ∀ d x, Shows fallback d x →
      changes d (some (assignLocation configured latitude longitude x.1))) :
    Holds (B := B) fallback p guard changes
      (modelBeginLocationUpdate m configured latitude longitude t s)
      (fun ok s' st => ok = false ∧ Resting m s' ∧ st.Unchanged ∨
        ok = true ∧ validLocation latitude longitude = true ∧
          Updating fallback m t (assignLocation configured latitude longitude) s' st) .free := by
  cases hm : s.models m with
  | none =>
    simp [modelBeginLocationUpdate, hm]
    exact .ret (.inl ⟨rfl, hr, trivial⟩)
  | some priv =>
    obtain ⟨hl, hs⟩ := hr priv hm
    by_cases hg : ((s.tokens t).active || !validLocation latitude longitude ||
        !priv.store.beginUpdate || !priv.store.endUpdate || !priv.store.clear) = true
    · simp only [modelBeginLocationUpdate, Action.bind_run, readModel_run, hm, Prog.ret_bind,
        readToken_run, hg, if_true, Action.pure_run]
      exact .ret (.inl ⟨rfl, hr, trivial⟩)
    have hv : validLocation latitude longitude = true := by
      cases hv : validLocation latitude longitude with
      | true => rfl
      | false => simp [hv] at hg
    simp only [modelBeginLocationUpdate, Action.bind_run, readModel_run, hm, Prog.ret_bind,
      readToken_run, hg]
    refine (beginCandidate_holds hm hl hs).bind ?_
    rintro a s' st ha
    cases a with
    | none =>
      obtain ⟨rfl, rfl | ⟨d, rfl⟩⟩ := ha
      · exact .ret (.inl ⟨rfl, hr, trivial⟩)
      · exact .ret (.inl ⟨rfl, hr, rfl⟩)
    | some x =>
      obtain ⟨rfl, d, rfl, hx, hg⟩ := ha
      have raised := s.setModel_self m (some { priv with saving := true })
      simp
      refine .save ?_ ?_ (hc hv d x hx)
      · refine (releaseUpdateLock_holds (s := (s.setModel m (some { priv with saving := true })).setToken
          t ⟨some m, x.1, x.2, false⟩) raised hl rfl).bind ?_
        rintro _ s' st ⟨rfl, rfl⟩
        exact .ret (.inl ⟨rfl, .of_model (Memory.setModel_self ..) hl rfl, rfl⟩)
      · exact .ret (.inr ⟨rfl, hv, { priv with
            policy := assignLocation configured latitude longitude x.1
            persistedPolicyPresent := true, saving := true }, d, x,
          ⟨by simp, rfl, by simp, by simp⟩, hl, by simp, by simp, hx, rfl⟩)

theorem modelFinishLocationUpdate_holds {t : TokenId} {edit : TemporalPolicyV3 → TemporalPolicyV3}
    {st : LockState} (hu : Updating fallback m t edit s st) :
    Holds (B := B) fallback p guard changes (modelFinishLocationUpdate m t s)
      (fun ok s' st => ok = true ∧ Resting m s' ∧
        ∃ d x, Shows fallback d x ∧ st = .released d (some (edit x.1))) st := by
  obtain ⟨priv, d, x, ho, hl, -, -, hx, rfl⟩ := hu
  have hg : updateOpen m (s.tokens t) priv = true := by
    simp [updateOpen, ho.2.1, ho.2.2.1, ho.2.2.2]
  simp only [modelFinishLocationUpdate, Action.bind_run, readModel_run, ho.1, Prog.ret_bind,
    readToken_run, hg, if_true]
  refine (releaseUpdateLock_holds ho.1 hl ho.2.1).bind ?_
  rintro _ s' st ⟨rfl, rfl⟩
  exact .ret ⟨rfl, .of_model (Memory.setModel_self ..) hl rfl, d, x, hx, rfl⟩

/-- What is left of a rollback once the undo has been tried: the document is as it was,
or the new policy stays. -/
theorem rollbackEnd_holds {t : TokenId} {priv : ModelPrivate} {restored : Bool}
    {edit : TemporalPolicyV3 → TemporalPolicyV3} {d now : Option TemporalPolicyV3}
    {x : TemporalPolicyV3 × Bool} (hm : s.models m = some priv) (hl : priv.store.Locking)
    (hs : priv.saving = true) (hx : Shows fallback d x)
    (hnow : now = if restored then d else some (edit x.1)) :
    Holds (B := B) fallback p guard changes ((do
      let update ← readToken t
      Action.when restored do
        modifyModel m fun priv =>
          { priv with
            policy := update.previousPolicy
            persistedPolicyPresent := update.previousPersistedPolicyPresent }
      releaseUpdateLock m
      modifyToken t fun update => { update with active := false, model := none }
      pure restored : SysM B Bool) s)
      (fun ok s' st => Resting m s' ∧ (ok = true ∧ st.Unchanged ∨
        ok = false ∧ ∃ d x, Shows fallback d x ∧ st = .released d (some (edit x.1))))
      (.held d now) := by
  subst hnow
  cases restored with
  | false =>
    simp only [Action.bind_run, Action.when_run, Prog.ret_bind, if_false, Bool.false_eq_true,
      readToken_run]
    refine (releaseUpdateLock_holds hm hl hs).bind ?_
    rintro _ s' st ⟨rfl, rfl⟩
    exact .ret ⟨.of_model (Memory.setModel_self ..) hl rfl, .inr ⟨rfl, d, x, hx, rfl⟩⟩
  | true =>
    simp only [Action.bind_run, Action.when_run, Prog.ret_bind, if_true, modifyModel_run, hm,
      Option.map_some, readToken_run]
    have held := s.setModel_self m (some { priv with
      policy := (s.tokens t).previousPolicy
      persistedPolicyPresent := (s.tokens t).previousPersistedPolicyPresent })
    refine (releaseUpdateLock_holds held hl hs).bind ?_
    rintro _ s' st ⟨rfl, rfl⟩
    exact .ret ⟨.of_model (Memory.setModel_self ..) hl rfl, .inl ⟨rfl, rfl⟩⟩

theorem modelRollbackLocationUpdate_holds {t : TokenId}
    {edit : TemporalPolicyV3 → TemporalPolicyV3} {st : LockState}
    (hu : Updating fallback m t edit s st)
    (hc : ∀ d x, Shows fallback d x → changes (some (edit x.1)) d) :
    Holds (B := B) fallback p guard changes (modelRollbackLocationUpdate m t s)
      (fun ok s' st => Resting m s' ∧ (ok = true ∧ st.Unchanged ∨
        ok = false ∧ ∃ d x, Shows fallback d x ∧ st = .released d (some (edit x.1)))) st := by
  obtain ⟨priv, d, x, ho, hl, hpol, hpers, hx, rfl⟩ := hu
  have hg : updateOpen m (s.tokens t) priv = true := by
    simp [updateOpen, ho.2.1, ho.2.2.1, ho.2.2.2]
  have hd : d = if x.2 then some x.1 else none := hx.document
  have hc := hc d x hx
  simp only [modelRollbackLocationUpdate, Action.bind_run, readModel_run, ho.1, Prog.ret_bind,
    readToken_run, hg, if_true, hpers]
  cases hfound : x.2 with
  | true =>
    rw [hfound, if_pos rfl] at hd
    subst hd
    simp only [if_true, storeSave_run, Prog.call_bind, Prog.ret_bind, hpol]
    refine .save ?_ ?_ hc
    · exact rollbackEnd_holds ho.1 hl ho.2.1 hx rfl
    · exact rollbackEnd_holds ho.1 hl ho.2.1 hx rfl
  | false =>
    rw [hfound, if_neg Bool.false_ne_true] at hd
    subst hd
    cases hclear : priv.store.clear with
    | true =>
      simp only [Bool.false_eq_true, if_false, if_true, storeClear_run, Prog.call_bind,
        Prog.ret_bind]
      refine .clear ?_ ?_ hc
      · exact rollbackEnd_holds ho.1 hl ho.2.1 hx rfl
      · exact rollbackEnd_holds ho.1 hl ho.2.1 hx rfl
    | false =>
      simp only [Bool.false_eq_true, if_false, Action.pure_run, Prog.ret_bind]
      exact rollbackEnd_holds ho.1 hl ho.2.1 hx rfl

end Model

end SystemSettings
