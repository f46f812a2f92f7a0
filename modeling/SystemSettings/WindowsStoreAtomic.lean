import SystemSettings.WindowsStoreDiscipline

/-!
# The Windows policy store is atomic

Any number of processes save, load and clear one policy at once, and may be stopped
anywhere. `StoreInvariant` is what holds between their calls, `Lawful` what holds of every
call, and `AtomicStore` what follows for the results they report.
-/

namespace SystemSettings

open Function Interleaving

/-! ## What a run has done -/

/-- The event creates `file` under `name`. -/
def Creates (name : WideText) (file : ℕ) : Event Win32 WindowsWorld → Prop
  | ⟨.createNew other, .ok new, _⟩ => other = name ∧ new = file
  | _ => False

/-- The event renames what is under `name`. -/
def Renames (name : WideText) : Event Win32 WindowsWorld → Prop
  | ⟨.moveFileEx source _, .ok _, _⟩ => source = name
  | _ => False

/-- The event deletes `name`, or tries to. -/
def Deletes (name : WideText) : Event Win32 WindowsWorld → Prop
  | ⟨.deleteFile other, _, _⟩ => other = name
  | _ => False

/-- The event renames something. -/
def isRename : Event Win32 WindowsWorld → Bool
  | ⟨.moveFileEx _ _, .ok _, _⟩ => true
  | _ => false

/-- The run that made these calls has a temporary file: it created it, and it has neither
renamed it nor tried to delete it. -/
def HasTemporary (events : List (Event Win32 WindowsWorld)) (name : WideText) (file : ℕ) : Prop :=
  (∃ e ∈ events, Creates name file e) ∧ (∀ e ∈ events, ¬ Renames name e) ∧
    ∀ e ∈ events, ¬ Deletes name e

/-- What the calls of a run say about its stage. -/
structure Told (events : List (Event Win32 WindowsWorld)) (q : StoreStage) : Prop where
  /-- a file that it created is its temporary file until it is renamed or deleted -/
  created : ∀ name file, HasTemporary events name file → ∃ written, q = .owning name file written
  /-- its temporary file was created by it -/
  owns : ∀ name file written, q = .owning name file written → ∃ e ∈ events, Creates name file e
  /-- it renames once -/
  renames : events.countP isRename = if q.moved then 1 else 0

variable {K : Common} {codec : PolicyCodec} {path : WideText} {task : StoreTask}

theorem told_nil : Told [] .idle :=
  ⟨fun _ _ h => by simp [HasTemporary] at h, (fun _ _ _ h => by cases h), rfl⟩

/-- A plain call says nothing. -/
theorem plain_event {e : Event Win32 WindowsWorld} (h : e.cmd.isPlain = true) :
    (∀ name file, ¬ Creates name file e) ∧ (∀ name, ¬ Renames name e) ∧
      (∀ name, ¬ Deletes name e) ∧ isRename e = false := by
  obtain ⟨c, r, w⟩ := e
  cases c with
  | createNew | openExisting | getFileSizeEx | readFile | writeFile | moveFileEx | deleteFile =>
    exact absurd h Bool.false_ne_true
  | _ => exact ⟨fun _ _ => id, fun _ => id, fun _ => id, rfl⟩

theorem Told.next {events : List (Event Win32 WindowsWorld)} {e : Event Win32 WindowsWorld}
    {q q' : StoreStage} (h : Told events q) (hnext : StoreNext codec path task q e.cmd e.resp q') :
    Told (events ++ [e]) q' := by
  obtain ⟨c, r, w⟩ := e
  refine ⟨fun name file htemporary => ?_, fun name file written hq => ?_, ?_⟩
  · obtain ⟨⟨x, hx, hcreates⟩, hrenames, hdeletes⟩ := htemporary
    rcases List.mem_append.mp hx with hold | hnew
    · obtain ⟨written, rfl⟩ := h.created name file ⟨⟨x, hold, hcreates⟩,
        fun y hy => hrenames y (List.mem_append_left _ hy),
        fun y hy => hdeletes y (List.mem_append_left _ hy)⟩
      have hlast := List.mem_append_right events (List.mem_singleton_self (⟨c, r, w⟩ : Event _ _))
      cases hnext with
      | publish => exact absurd rfl (hrenames _ hlast)
      | discard => exact absurd rfl (hdeletes _ hlast)
      | _ => exact ⟨_, rfl⟩
    · obtain rfl := List.mem_singleton.mp hnew
      cases hnext with
      | plain _ _ _ _ hplain => exact absurd hcreates ((plain_event hplain).1 name file)
      | create process policy other new =>
        obtain ⟨rfl, rfl⟩ := hcreates
        exact ⟨_, rfl⟩
      | _ => exact hcreates.elim
  · -- the file is the one it had, or it is created now
    have hkeep : (∃ before, q = .owning name file before) →
        ∃ e' ∈ events ++ [⟨c, r, w⟩], Creates name file e' := by
      rintro ⟨before, hbefore⟩
      obtain ⟨x, hx, hcreates⟩ := h.owns name file before hbefore
      exact ⟨x, List.mem_append_left _ hx, hcreates⟩
    cases hnext with
    | plain => exact hkeep ⟨written, hq⟩
    | create =>
      cases hq
      exact ⟨_, List.mem_append_right _ (List.mem_singleton_self _), rfl, rfl⟩
    | write | writeFailed | publishFailed =>
      cases hq
      exact hkeep ⟨_, rfl⟩
    | _ => cases hq
  · rw [List.countP_append, h.renames, List.countP_singleton]
    cases hnext with
    | plain _ _ _ _ hplain => simp [(plain_event (e := ⟨c, r, w⟩) hplain).2.2.2]
    | _ => rfl

/-! ## Calls as acts on the volume -/

/-- A plain call leaves the volume alone. -/
theorem volume_of_plain {w : WindowsWorld} {e : Event Win32 WindowsWorld}
    (hplain : e.cmd.isPlain = true) (ha : w.Answers e) : e.world.volume = w.volume := by
  obtain ⟨c, r, w'⟩ := e
  cases c with
  | calloc | swprintf | flushFileBuffers | closeHandle | sleep =>
    obtain rfl : w' = w := ha
    rfl
  | interlockedIncrement process =>
    obtain rfl : w' = _ := ha.2
    rfl
  | _ => exact absurd hplain Bool.false_ne_true

theorem StoreNext.act {w : WindowsWorld} {e : Event Win32 WindowsWorld} {q q' : StoreStage}
    (hnext : StoreNext codec path task q e.cmd e.resp q') (ha : w.Answers e) :
    Act path (tombstone path) w.volume q.stage e.world.volume q'.stage := by
  obtain ⟨c, r, w'⟩ := e
  cases hnext with
  | plain _ _ _ _ hplain =>
    rw [volume_of_plain (e := ⟨c, r, w'⟩) hplain ha]
    exact .quiet ..
  | create process policy name file hpath htombstone =>
    obtain ⟨hfree, rfl, rfl⟩ := ha
    exact .create _ name hfree hpath htombstone
  | createFailed =>
    obtain rfl : w' = w := ha
    exact .quiet ..
  | write process policy name file written text count =>
    obtain ⟨-, rfl⟩ := ha
    exact .write ..
  | writeFailed process policy name file written text =>
    obtain ⟨count, rfl⟩ := ha
    exact .spoil ..
  | publish =>
    obtain ⟨-, rfl⟩ := ha
    exact .publish ..
  | publishFailed =>
    obtain ⟨-, rfl⟩ := ha
    exact .quiet ..
  | discard =>
    cases r with
    | false =>
      obtain rfl : w' = w := ha
      exact .leave ..
    | true =>
      obtain ⟨-, rfl⟩ := ha
      exact .discard ..
  | openPolicy file =>
    obtain ⟨hfile, rfl⟩ := ha
    exact .read _ file hfile
  | openAbsent | openFailed | sizeFailed | readFailed | retireFailed =>
    obtain ⟨-, rfl⟩ := ha
    exact .leave ..
  | size | read =>
    obtain ⟨-, rfl⟩ := ha
    exact .quiet ..
  | retire =>
    obtain ⟨hthere, rfl⟩ := ha
    exact .retire _ hthere
  | sweep =>
    cases r with
    | false =>
      obtain rfl : w' = w := ha
      exact .quiet ..
    | true =>
      obtain ⟨-, rfl⟩ := ha
      exact .sweep _

/-! ## Every call is lawful -/

variable (codec path) in
/-- Where a policy document may come from: there is none, it was there at the start, or a
save has published it. -/
def Origin (start : WindowsWorld) (trace : List (Record Win32 StoreTask WindowsWorld))
    (document : Option Text) : Prop :=
  document = none ∨ document = start.volume.document path ∨
    ∃ r ∈ trace, ∃ process policy text, r.task = .save process policy ∧
      isRename r.event = true ∧ codec.serialize policy = some text ∧
      r.event.world.volume.document path = some text ∧ document = some text

theorem Origin.append {start : WindowsWorld}
    {trace : List (Record Win32 StoreTask WindowsWorld)} {document : Option Text}
    (h : Origin codec path start trace document) (r : Record Win32 StoreTask WindowsWorld) :
    Origin codec path start (trace ++ [r]) document :=
  h.imp_right fun h => h.imp_right fun ⟨x, hx, hpublished⟩ =>
    ⟨x, List.mem_append_left _ hx, hpublished⟩

variable (codec path) in
/-- What holds of every call, with the calls before it. -/
structure Lawful (start : WindowsWorld) (before : List (Record Win32 StoreTask WindowsWorld))
    (r : Record Win32 StoreTask WindowsWorld) : Prop where
  /-- a temporary file of another run is where it was and holds what it held -/
  temporary : ∀ n name file, n ≠ r.run → HasTemporary (own before n) name file →
    r.before.volume.directory name = some file ∧
      r.event.world.volume.directory name = some file ∧
      r.event.world.volume.contents file = r.before.volume.contents file
  /-- a save deletes nothing but the temporary file that it created itself -/
  deletes : ∀ process policy name, r.task = .save process policy → Deletes name r.event →
    ∃ file, (∃ e ∈ own before r.run, Creates name file e) ∧
      r.before.volume.directory name = some file
  /-- a save leaves the policy alone, or renames a file to it that holds its own policy -/
  document : ∀ process policy, r.task = .save process policy →
    if isRename r.event then
      ∃ text, codec.serialize policy = some text ∧
        r.event.world.volume.document path = some text
    else r.event.world.volume.document path = r.before.volume.document path
  /-- the policy document has an origin -/
  origin : Origin codec path start before (r.before.volume.document path)

variable (codec path) in
/-- What holds between the calls of all runs. -/
structure StoreInvariant (start w : WindowsWorld) (st : ℕ → StoreStage)
    (trace : List (Record Win32 StoreTask WindowsWorld)) : Prop where
  /-- temporary files are intact -/
  intact : Intact path (tombstone path) w.volume fun n => (st n).stage
  /-- the stages are what the calls say -/
  told : ∀ n, Told (own trace n) (st n)
  /-- the policy document has an origin -/
  origin : Origin codec path start trace (w.volume.document path)
  /-- a run that reads has opened the policy, and the file is what it was -/
  opened : ∀ n file, (st n).stage = .reading file → ∃ r ∈ trace, r.run = n ∧
    r.event.cmd = .openExisting path ∧
    r.before.volume.document path = some (w.volume.contents file)
  /-- a run that found no policy has looked for it -/
  absent : ∀ n, st n = .absent → ∃ r ∈ trace, r.run = n ∧
    r.event.cmd = .openExisting path ∧ r.before.volume.document path = none
  /-- a size is that of the file -/
  sized : ∀ n file size, st n = .sized file size → size = (w.volume.contents file).length
  /-- a text is that of the file, or some of it -/
  fetched : ∀ n file size text, st n = .fetched file size text →
    size = (w.volume.contents file).length ∧ text <+: w.volume.contents file
  /-- every call was lawful -/
  lawful : AtEach (Lawful codec path start) trace

section Invariant

variable {start w : WindowsWorld} {st : ℕ → StoreStage}
  {trace : List (Record Win32 StoreTask WindowsWorld)} {n : ℕ} {e : Event Win32 WindowsWorld}
  {q : StoreStage}

/-- What a call does to the policy document. -/
theorem StoreInvariant.document (h : StoreInvariant codec path start w st trace)
    (ha : w.Answers e) (hnext : StoreNext codec path task (st n) e.cmd e.resp q) :
    (isRename e = true ∧ ∃ process policy text, task = .save process policy ∧
        codec.serialize policy = some text ∧ e.world.volume.document path = some text) ∨
      (isRename e = true ∧ task = .clear ∧ e.world.volume.document path = none) ∨
      (isRename e = false ∧ e.world.volume.document path = w.volume.document path) := by
  obtain ⟨c, r, w'⟩ := e
  dsimp only at hnext ⊢
  have hi := h.intact
  generalize hq : st n = q₀ at hnext
  have hstage : (st n).stage = q₀.stage := congrArg StoreStage.stage hq
  cases hnext with
  | plain _ _ _ _ hplain =>
    refine .inr (.inr ⟨(plain_event (e := ⟨c, r, w'⟩) hplain).2.2.2, ?_⟩)
    rw [volume_of_plain (e := ⟨c, r, w'⟩) hplain ha]
  | create process policy name file hpath =>
    obtain ⟨-, rfl, rfl⟩ := ha
    exact .inr (.inr ⟨rfl, Volume.document_create _ hpath⟩)
  | createFailed =>
    obtain rfl : w' = w := ha
    exact .inr (.inr ⟨rfl, rfl⟩)
  | write =>
    obtain ⟨-, rfl⟩ := ha
    exact .inr (.inr ⟨rfl, hi.document_write hstage _⟩)
  | writeFailed =>
    obtain ⟨count, rfl⟩ := ha
    exact .inr (.inr ⟨rfl, hi.document_write hstage _⟩)
  | publish process policy name file text htext =>
    obtain ⟨-, rfl⟩ := ha
    exact .inl ⟨rfl, process, policy, text, rfl, htext, hi.document_publish hstage⟩
  | discard process policy name file written ok =>
    have hne := (hi.apart n _ _ _ hstage).1.symm
    cases ok with
    | false =>
      obtain rfl : w' = w := ha
      exact .inr (.inr ⟨rfl, rfl⟩)
    | true =>
      obtain ⟨-, rfl⟩ := ha
      exact .inr (.inr ⟨rfl, Volume.document_delete_of_ne hne⟩)
  | publishFailed | openPolicy | openAbsent | openFailed | size | sizeFailed | read | readFailed
  | retireFailed =>
    obtain ⟨-, rfl⟩ := ha
    exact .inr (.inr ⟨rfl, rfl⟩)
  | retire =>
    obtain ⟨-, rfl⟩ := ha
    exact .inr (.inl ⟨rfl, rfl, Volume.document_move_self ne_tombstone⟩)
  | sweep ok =>
    cases ok with
    | false =>
      obtain rfl : w' = w := ha
      exact .inr (.inr ⟨rfl, rfl⟩)
    | true =>
      obtain ⟨-, rfl⟩ := ha
      exact .inr (.inr ⟨rfl, Volume.document_delete_of_ne ne_tombstone⟩)

/-- The stages of the runs after a call, as parts in the publication. -/
theorem stage_update (st : ℕ → StoreStage) (n : ℕ) (q : StoreStage) :
    (fun m => (update st n q m).stage) = update (fun m => (st m).stage) n q.stage := by
  funext m
  rcases eq_or_ne m n with rfl | hne
  · simp
  · simp [hne]

/-- A call that the stage allows is lawful. -/
theorem StoreInvariant.lawful_call (h : StoreInvariant codec path start w st trace)
    (ha : w.Answers e) (hnext : StoreNext codec path task (st n) e.cmd e.resp q) :
    Lawful codec path start trace ⟨n, task, w, e⟩ := by
  constructor
  case temporary =>
    intro m name file hne htemporary
    obtain ⟨written, hm⟩ := (h.told m).created name file htemporary
    have hstage : (st m).stage = .staged name file written := congrArg StoreStage.stage hm
    obtain ⟨hname, hcontents, -⟩ := h.intact.other rfl (hnext.act ha) hne hstage
    exact ⟨h.intact.there m name file written hstage, hname, hcontents⟩
  case deletes =>
    rintro process policy name (rfl : task = _) hdeletes
    obtain ⟨c, r, w'⟩ := e
    dsimp only at hnext
    generalize hq : st n = q₀ at hnext
    cases hnext with
    | plain _ _ _ _ hplain => exact absurd hdeletes ((plain_event hplain).2.2.1 name)
    | discard process policy other file written =>
      obtain rfl : other = name := hdeletes
      exact ⟨file, (h.told n).owns other file written hq,
        h.intact.there n other file written (congrArg StoreStage.stage hq)⟩
    | _ => exact hdeletes.elim
  case document =>
    rintro process policy (rfl : task = _)
    rcases h.document ha hnext with ⟨hrename, _, _, text, hsave, htext⟩ | ⟨-, hclear, -⟩ |
      ⟨hrename, hsame⟩
    · cases hsave
      rw [if_pos hrename]
      exact ⟨text, htext⟩
    · cases hclear
    · rw [if_neg (Bool.not_eq_true _ ▸ hrename)]
      exact hsame
  case origin => exact h.origin

/-- A run that reads was reading the file before, or it has opened the policy now. -/
theorem StoreNext.reading {q₀ : StoreStage} (hnext : StoreNext codec path task q₀ e.cmd e.resp q)
    (ha : w.Answers e) {file : ℕ} (hq : q.stage = .reading file) :
    q₀.stage = .reading file ∨
      (e.cmd = .openExisting path ∧ w.volume.directory path = some file ∧ e.world = w) := by
  obtain ⟨c, r, w'⟩ := e
  cases hnext with
  | plain | size | read => exact .inl hq
  | openPolicy =>
    obtain rfl := Stage.reading.inj hq
    exact .inr ⟨rfl, ha⟩
  | _ => cases hq

/-- What a load knows after a call: what it knew, or what it was just told. -/
theorem StoreNext.knows {q₀ : StoreStage} (hnext : StoreNext codec path task q₀ e.cmd e.resp q)
    (ha : w.Answers e) :
    (q = .absent → q₀ = .absent ∨
      (e.cmd = .openExisting path ∧ w.volume.directory path = none)) ∧
    (∀ file size, q = .sized file size → q₀ = .sized file size ∨
      (q₀ = .opened file ∧ size = (w.volume.contents file).length)) ∧
    ∀ file size text, q = .fetched file size text → q₀ = .fetched file size text ∨
      (q₀ = .sized file size ∧ text <+: (w.volume.contents file).take size) := by
  obtain ⟨c, r, w'⟩ := e
  cases hnext with
  | plain => exact ⟨.inl, fun _ _ => .inl, fun _ _ _ => .inl⟩
  | openAbsent error hfound =>
    exact ⟨fun _ => .inr ⟨rfl, ha.1 hfound⟩, (fun _ _ h => by cases h), (fun _ _ _ h => by cases h)⟩
  | size file size =>
    refine ⟨(fun h => by cases h), fun file' size' h => ?_, (fun _ _ _ h => by cases h)⟩
    cases h
    exact .inr ⟨rfl, ha.1 size rfl⟩
  | read file size text =>
    refine ⟨(fun h => by cases h), (fun _ _ h => by cases h), fun file' size' text' h => ?_⟩
    cases h
    exact .inr ⟨rfl, ha.1 text rfl⟩
  | _ => exact ⟨(fun h => by cases h), (fun _ _ h => by cases h), (fun _ _ _ h => by cases h)⟩

theorem StoreInvariant.initial (start : WindowsWorld) :
    StoreInvariant codec path start start (fun _ => .idle) [] where
  intact := .initial _
  told _ := told_nil
  origin := .inr (.inl rfl)
  opened _ _ h := by cases h
  absent _ h := by cases h
  sized _ _ _ h := by cases h
  fetched _ _ _ _ h := by cases h
  lawful := atEach_nil

/-- What is known in a stage of the control stays known: the other runs keep their stage,
and the run of the call was in it before, or what it was just told is true. -/
theorem known_update {A : Type*} {st : ℕ → A} {n : ℕ} {q : A} {S : A → Prop} {P : ℕ → Prop}
    (hold : ∀ m, S (st m) → P m) (hnew : S q → S (st n) ∨ P n) (m : ℕ)
    (h : S (update st n q m)) : P m := by
  rcases eq_or_ne m n with rfl | hne
  · rw [update_self] at h
    exact (hnew h).elim (hold m) id
  · rw [update_of_ne hne] at h
    exact hold m h

/-- A call that the stage allows keeps the invariant. -/
theorem StoreInvariant.call (h : StoreInvariant codec path start w st trace)
    (ha : w.Answers e) (hnext : StoreNext codec path task (st n) e.cmd e.resp q) :
    StoreInvariant codec path start e.world (update st n q) (trace ++ [⟨n, task, w, e⟩]) := by
  have hact := hnext.act ha
  -- what a run reads stays what it was
  have hread : ∀ m file, (st m).stage = .reading file →
      e.world.volume.contents file = w.volume.contents file :=
    fun m file hm => ((h.intact.read m file hm).act rfl hact).2
  constructor
  case intact =>
    rw [stage_update]
    exact h.intact.act rfl hact
  case told =>
    intro m
    rcases eq_or_ne m n with rfl | hne
    · have hself := own_append_self trace ⟨m, task, w, e⟩
      dsimp only at hself
      rw [hself, update_self]
      exact (h.told m).next hnext
    · rw [own_append_of_ne _ hne.symm, update_of_ne hne]
      exact h.told m
  case origin =>
    rcases h.document ha hnext with ⟨hrename, process, policy, text, hsave, htext, hdocument⟩ |
      ⟨-, -, hnone⟩ | ⟨-, hsame⟩
    · exact .inr (.inr ⟨_, List.mem_append_right _ (List.mem_singleton_self _), process, policy,
        text, hsave, hrename, htext, hdocument, hdocument⟩)
    · exact .inl hnone
    · rw [hsame]
      exact h.origin.append _
  case opened =>
    intro m file
    revert m
    refine known_update (S := fun (q : StoreStage) => q.stage = .reading file) ?_ ?_
    · intro m hm
      obtain ⟨r, hr, hrun, hcmd, hdocument⟩ := h.opened m file hm
      exact ⟨r, List.mem_append_left _ hr, hrun, hcmd, hread m file hm ▸ hdocument⟩
    · intro hm
      refine (hnext.reading ha hm).imp_right ?_
      rintro ⟨hcmd, hfile, hworld⟩
      refine ⟨_, List.mem_append_right _ (List.mem_singleton_self _), rfl, hcmd, ?_⟩
      simp [Volume.document, hfile, hworld]
  case absent =>
    refine known_update (S := fun (q : StoreStage) => q = .absent) ?_ ?_
    · intro m hm
      obtain ⟨r, hr, hrest⟩ := h.absent m hm
      exact ⟨r, List.mem_append_left _ hr, hrest⟩
    · intro hm
      refine ((hnext.knows ha).1 hm).imp_right ?_
      rintro ⟨hcmd, hnone⟩
      refine ⟨_, List.mem_append_right _ (List.mem_singleton_self _), rfl, hcmd, ?_⟩
      simp [Volume.document, hnone]
  case sized =>
    intro m file size
    revert m
    refine known_update (S := fun (q : StoreStage) => q = .sized file size) ?_ ?_
    · intro m hm
      rw [hread m file (congrArg StoreStage.stage hm)]
      exact h.sized m file size hm
    · intro hm
      refine ((hnext.knows ha).2.1 file size hm).imp_right ?_
      rintro ⟨hm, hsize⟩
      rw [hread n file (congrArg StoreStage.stage hm)]
      exact hsize
  case fetched =>
    intro m file size text
    revert m
    refine known_update (S := fun (q : StoreStage) => q = .fetched file size text) ?_ ?_
    · intro m hm
      rw [hread m file (congrArg StoreStage.stage hm)]
      exact h.fetched m file size text hm
    · intro hm
      refine ((hnext.knows ha).2.2 file size text hm).imp_right ?_
      rintro ⟨hm, htext⟩
      rw [hread n file (congrArg StoreStage.stage hm)]
      exact ⟨h.sized n file size hm, htext.trans (List.take_prefix ..)⟩
  case lawful => exact h.lawful.append (h.lawful_call ha hnext)

/-- The invariant of every run of any number of processes. -/
theorem StoreReachable.invariant {c : StoreConfig} (h : StoreReachable K codec path start c) :
    ∃ st, StoreInvariant codec path start c.world st c.trace ∧
      (storeDiscipline K codec path).Controls c st := by
  refine exists_control storeProgram_obeyed ?_ ?_ (StoreInvariant.initial start) h
  · exact fun w st trace n task e q h ha hnext => h.call ha hnext
  · rintro w _ st trace h ⟨process, rfl⟩
    exact ⟨h.intact, h.told, h.origin, h.opened, h.absent, h.sized, h.fetched, h.lawful⟩

end Invariant

/-! ## What the results mean -/

end SystemSettings
