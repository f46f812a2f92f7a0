import SystemSettings.WindowsPolicyStore

/-!
# What a task of the Windows policy store may do

Every task of the store leads its stage through `StoreNext`: a save owns at most one
temporary file and publishes only the text of its policy, a load looks at one file object.
Nothing here depends on the volume or on other processes.
-/

namespace SystemSettings

open Function Interleaving

/-- How far a process is in a task. -/
inductive StoreStage : Type where
  /-- nothing has been done to the volume -/
  | idle
  /-- a save has its temporary file; what it wrote, when it knows -/
  | owning (name : WideText) (file : ℕ) (written : Option Text)
  /-- a save has renamed it to the policy -/
  | published
  /-- a clear has renamed the policy -/
  | cleared
  /-- a load found no policy -/
  | absent
  /-- a load has the policy open -/
  | opened (file : ℕ)
  /-- and knows its size -/
  | sized (file size : ℕ)
  /-- and has its text -/
  | fetched (file size : ℕ) (text : Text)
  /-- nothing more will be done -/
  | finished

namespace StoreStage

/-- The part in the publication of files. -/
def stage : StoreStage → Stage WideText UInt8
  | idle => .ready
  | owning name file written => .staged name file written
  | opened file | sized file _ | fetched file _ _ => .reading file
  | published | cleared | absent | finished => .over

/-- Whether a file was renamed. -/
def moved : StoreStage → Bool
  | published | cleared => true
  | _ => false

end StoreStage

/-- Calls that do nothing to the volume and whose answers are not about it. -/
def Win32Call.isPlain : Win32Call → Bool
  | .calloc | .swprintf | .interlockedIncrement _ | .flushFileBuffers _ | .closeHandle _
  | .sleep => true
  | _ => false

variable (K : Common) (codec : PolicyCodec) (path : WideText)

/-- What a task may call, and what the answer does to its stage. -/
inductive StoreNext : StoreTask → StoreStage → (c : Win32.Cmd) → Win32.Resp c → StoreStage →
    Prop where
  /-- a plain call -/
  | plain (task : StoreTask) (q : StoreStage) (c : Win32Call) (r : Win32.Resp c) :
      c.isPlain = true → StoreNext task q c r q
  /-- the temporary file is created, -/
  | create (process : ℕ) (policy : TemporalPolicyV3) (name : WideText) (file : ℕ) :
      name ≠ path → name ≠ tombstone path →
      StoreNext (.save process policy) .idle (.createNew name) (.ok file)
        (.owning name file (some []))
  /-- or not -/
  | createFailed (process : ℕ) (policy : TemporalPolicyV3) (name : WideText)
      (error : Win32Error) :
      StoreNext (.save process policy) .idle (.createNew name) (.error error) .idle
  /-- it is written, -/
  | write (process : ℕ) (policy : TemporalPolicyV3) (name : WideText) (file : ℕ)
      (written text : Text) (count : ℕ) :
      StoreNext (.save process policy) (.owning name file (some written)) (.writeFile file text)
        (some count) (.owning name file (some (written ++ text.take count)))
  /-- or not all of it -/
  | writeFailed (process : ℕ) (policy : TemporalPolicyV3) (name : WideText) (file : ℕ)
      (written : Option Text) (text : Text) :
      StoreNext (.save process policy) (.owning name file written) (.writeFile file text) none
        (.owning name file none)
  /-- it is renamed when it holds the policy, -/
  | publish (process : ℕ) (policy : TemporalPolicyV3) (name : WideText) (file : ℕ)
      (text : Text) : codec.serialize policy = some text →
      StoreNext (.save process policy) (.owning name file (some text)) (.moveFileEx name path)
        (.ok ()) .published
  /-- or not -/
  | publishFailed (process : ℕ) (policy : TemporalPolicyV3) (name : WideText) (file : ℕ)
      (written : Option Text) (error : Win32Error) :
      StoreNext (.save process policy) (.owning name file written) (.moveFileEx name path)
        (.error error) (.owning name file written)
  /-- it is deleted, or cannot be -/
  | discard (process : ℕ) (policy : TemporalPolicyV3) (name : WideText) (file : ℕ)
      (written : Option Text) (ok : Bool) :
      StoreNext (.save process policy) (.owning name file written) (.deleteFile name) ok .finished
  /-- the policy is opened, -/
  | openPolicy (file : ℕ) :
      StoreNext .load .idle (.openExisting path) (.ok file) (.opened file)
  /-- is not there, -/
  | openAbsent (error : Win32Error) : error.isNotFound = true →
      StoreNext .load .idle (.openExisting path) (.error error) .absent
  /-- or cannot be opened -/
  | openFailed (error : Win32Error) :
      StoreNext .load .idle (.openExisting path) (.error error) .finished
  /-- its size, -/
  | size (file size : ℕ) :
      StoreNext .load (.opened file) (.getFileSizeEx file) (some size) (.sized file size)
  /-- which may fail, -/
  | sizeFailed (file : ℕ) :
      StoreNext .load (.opened file) (.getFileSizeEx file) none .finished
  /-- and its text, -/
  | read (file size : ℕ) (text : Text) :
      StoreNext .load (.sized file size) (.readFile file size) (some text)
        (.fetched file size text)
  /-- which may fail -/
  | readFailed (file size : ℕ) :
      StoreNext .load (.sized file size) (.readFile file size) none .finished
  /-- the policy is taken back, -/
  | retire : StoreNext .clear .idle (.moveFileEx path (tombstone path)) (.ok ()) .cleared
  /-- or not -/
  | retireFailed (error : Win32Error) :
      StoreNext .clear .idle (.moveFileEx path (tombstone path)) (.error error) .finished
  /-- and its tombstone is deleted, or cannot be -/
  | sweep (ok : Bool) : StoreNext .clear .cleared (.deleteFile (tombstone path)) ok .cleared

/-- What a load reports from its stage. -/
def Reports (standard : TemporalPolicyV3) : StoreStage → TemporalPolicyV3 × Bool → Prop
  | .absent, report => report = (standard, false)
  | .sized _ size, report => (size = 0 ∨ policyCapacity ≤ size) ∧ report = (standard, false)
  | .fetched _ size text, report => ¬ (size = 0 ∨ policyCapacity ≤ size) ∧
      text.length = size ∧ report = parsePolicy codec standard text
  | _, _ => False

/-- In which stage a task may end with a result. -/
def StorePost : StoreTask → StoreResult → StoreStage → Prop
  | .save _ _, .done ok, q => q.moved = ok
  | .load, .loaded report, q => ∀ r, report = some r →
      ∃ standard, K.policyDefault = some standard ∧ Reports codec standard q r
  | .clear, .done _, _ => True
  | _, _, _ => False

/-- What is asked of the tasks of the store. -/
def storeDiscipline : Discipline Win32 StoreTask StoreResult StoreStage where
  start := .idle
  next := StoreNext codec path
  post := StorePost K codec

/-! ## The tasks obey -/

variable {K codec path}

theorem ne_tombstone : path ≠ tombstone path := by
  simp [tombstone]

theorem temporaryName_ne_path (process sequence : ℕ) :
    temporaryName path process sequence ≠ path := by
  simp [temporaryName]

/-- The number in the name of a temporary file starts with a digit. -/
theorem temporaryName_ne_tombstone (process sequence : ℕ) :
    temporaryName path process sequence ≠ tombstone path := by
  intro h
  have htail := List.append_cancel_left h
  cases hdigits : Nat.toDigits 10 process with
  | nil => exact Nat.toDigits_ne_nil hdigits
  | cons digit digits =>
    have hdigit : digit.isDigit = true :=
      Nat.isDigit_of_mem_toDigits (by decide) (by decide) (hdigits ▸ List.mem_cons_self)
    simp [hdigits] at htail
    rw [htail.1] at hdigit
    exact absurd hdigit (by decide)

section Obeys

variable {α : Type} {task : StoreTask}

/-- A plain call. -/
theorem obeys_plain {post : α → StoreStage → Prop} {q : StoreStage} {c : Win32Call}
    (hc : c.isPlain = true) {k : Win32.Resp c → Unit → Prog Win32 Unit α}
    (hk : ∀ r, (k r ()).Obeys (StoreNext codec path task) post q) :
    (Prog.call c () k).Obeys (StoreNext codec path task) post q :=
  fun r => ⟨q, .plain task q c r hc, hk r⟩

theorem createTemporary_obeys (process : ℕ) (policy : TemporalPolicyV3) (attempts : ℕ) :
    (createTemporary path process attempts ()).Obeys
      (StoreNext codec path (.save process policy))
      (fun result q => match result with
        | none => q = .idle
        | some (name, file) => q = .owning name file (some [])) .idle := by
  induction attempts with
  | zero => exact rfl
  | succ attempts ih =>
    refine obeys_plain rfl fun sequence => ?_
    refine obeys_plain rfl fun formatted => ?_
    cases formatted with
    | false => exact rfl
    | true =>
      rintro (error | file)
      · refine ⟨_, .createFailed process policy _ error, ?_⟩
        exact Prog.Obeys.ite (fun _ => ih) fun _ => rfl
      · exact ⟨_, .create process policy _ file (temporaryName_ne_path process sequence)
          (temporaryName_ne_tombstone process sequence), rfl⟩

theorem writeTemporary_obeys (process : ℕ) (policy : TemporalPolicyV3) (name : WideText)
    (file : ℕ) (text : Text) :
    (writeTemporary file text ()).Obeys (StoreNext codec path (.save process policy))
      (fun written q => ∃ known, q = .owning name file known ∧
        (written = true → known = some text)) (.owning name file (some [])) := by
  rintro (_ | count)
  · exact ⟨_, .writeFailed process policy name file _ text, _, rfl,
      fun h => absurd h Bool.false_ne_true⟩
  · refine ⟨_, .write process policy name file [] text count, ?_⟩
    refine Prog.Obeys.ite (fun _ => ?_) fun hcount => ?_
    · exact ⟨_, rfl, fun h => absurd h Bool.false_ne_true⟩
    · refine obeys_plain rfl fun flushed => ⟨_, rfl, fun _ => ?_⟩
      rw [not_not.mp hcount, List.take_length, List.nil_append]

theorem publishTemporary_obeys (process : ℕ) {policy : TemporalPolicyV3} {text : Text}
    (htext : codec.serialize policy = some text) (name : WideText) (file attempts : ℕ) :
    (publishTemporary path name attempts ()).Obeys (StoreNext codec path (.save process policy))
      (fun ok q => if ok then q = .published else q = .owning name file (some text))
      (.owning name file (some text)) := by
  induction attempts with
  | zero => exact rfl
  | succ attempts ih =>
    rintro (error | _)
    · refine ⟨_, .publishFailed process policy name file _ error, ?_⟩
      exact Prog.Obeys.ite (fun _ => rfl) fun _ => obeys_plain rfl fun _ => ih
    · exact ⟨_, .publish process policy name file text htext, rfl⟩

theorem saveFile_obeys (process : ℕ) (policy : TemporalPolicyV3) :
    (saveFile codec path process policy ()).Obeys (StoreNext codec path (.save process policy))
      (fun ok q => q.moved = ok) .idle := by
  cases htext : codec.serialize policy with
  | none =>
    rw [saveFile, htext]
    exact rfl
  | some text =>
    rw [saveFile, htext]
    refine obeys_plain rfl fun allocated => ?_
    cases allocated with
    | false => exact rfl
    | true =>
      refine (createTemporary_obeys process policy 32).bind fun created _ q hq => ?_
      cases created with
      | none =>
        subst hq
        exact rfl
      | some temporary =>
        obtain ⟨name, file⟩ := temporary
        subst hq
        refine (writeTemporary_obeys process policy name file text).bind fun written _ q hq => ?_
        obtain ⟨known, rfl, hknown⟩ := hq
        refine obeys_plain rfl fun closed => ?_
        -- the file is given up unless it was renamed
        have hdiscard : ∀ known,
            ((win32 (.deleteFile name) >>= fun _ => pure false : Action Win32 Unit Bool) ()).Obeys
              (StoreNext codec path (.save process policy))
              (fun ok q => q.moved = ok) (.owning name file known) :=
          fun known ok => ⟨_, .discard process policy name file known ok, rfl⟩
        cases written with
        | false => exact hdiscard known
        | true =>
          rw [hknown rfl]
          refine (publishTemporary_obeys process htext name file 64).bind fun ok _ q hq => ?_
          cases ok with
          | false =>
            obtain rfl : q = _ := hq
            exact hdiscard _
          | true =>
            obtain rfl : q = _ := hq
            exact rfl

theorem readPolicy_obeys (standard : TemporalPolicyV3) (file : ℕ) :
    (readPolicy codec standard file ()).Obeys (StoreNext codec path .load)
      (fun result q => ∀ r, result = some r → Reports codec standard q r) (.opened file) := by
  have hnone : ∀ (q : StoreStage) (r : TemporalPolicyV3 × Bool), none = some r →
      Reports codec standard q r := fun _ r h => absurd h.symm (Option.some_ne_none r)
  rintro (_ | size)
  · exact ⟨_, .sizeFailed file, hnone _⟩
  · refine ⟨_, .size file size, Prog.Obeys.ite (fun hbound => ?_) fun hbound => ?_⟩
    · rintro r ⟨⟩
      exact ⟨hbound, rfl⟩
    · rintro (_ | text)
      · exact ⟨_, .readFailed file size, hnone _⟩
      · refine ⟨_, .read file size text, Prog.Obeys.ite (fun _ => hnone _) fun hlength => ?_⟩
        rintro r ⟨⟩
        exact ⟨hbound, not_not.mp hlength, rfl⟩

theorem loadFile_obeys :
    (loadFile K codec path ()).Obeys (StoreNext codec path .load)
      (fun report q => ∀ r, report = some r →
        ∃ standard, K.policyDefault = some standard ∧ Reports codec standard q r) .idle := by
  cases hstandard : K.policyDefault with
  | none =>
    rw [loadFile, hstandard]
    exact fun r h => absurd h.symm (Option.some_ne_none r)
  | some standard =>
    rw [loadFile, hstandard]
    rintro (error | file)
    · cases herror : error.isNotFound with
      | false =>
        refine ⟨_, .openFailed error, Prog.Obeys.ite (fun h => ?_) fun _ r h => ?_⟩
        · exact absurd (herror.symm.trans h) Bool.false_ne_true
        · exact absurd h.symm (Option.some_ne_none r)
      | true =>
        refine ⟨_, .openAbsent error herror, Prog.Obeys.ite (fun _ => ?_) fun h => absurd herror h⟩
        rintro r ⟨⟩
        exact ⟨standard, rfl, rfl⟩
    · refine ⟨_, .openPolicy file, ?_⟩
      refine (readPolicy_obeys standard file).bind fun result _ q hq => ?_
      exact obeys_plain rfl fun _ r hr => ⟨standard, rfl, hq r hr⟩

theorem clearFile_obeys :
    (clearFile path ()).Obeys (StoreNext codec path .clear) (fun _ _ => True) .idle := by
  rw [clearFile, Action.ite_run]
  split
  · exact trivial
  · refine obeys_plain rfl fun allocated => ?_
    cases allocated with
    | false => exact trivial
    | true =>
      rintro (error | _)
      · exact ⟨_, .retireFailed error, trivial⟩
      · exact ⟨_, .retire, fun ok => ⟨_, .sweep ok, trivial⟩⟩

theorem storeProgram_obeyed :
    (storeDiscipline K codec path).Obeyed (storeProgram K codec path) := by
  intro task
  cases task with
  | save process policy => exact (saveFile_obeys process policy).bind fun ok _ q hq => hq
  | load => exact loadFile_obeys.bind fun report _ q hq => hq
  | clear => exact clearFile_obeys.bind fun ok _ q _ => trivial

end Obeys

/-! ## Attempts -/

section Attempts

variable {counts : Win32Call → Bool} {create move rest : ℕ}

end Attempts

end SystemSettings
