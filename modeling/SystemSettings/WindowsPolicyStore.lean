import SystemSettings.Decimal
import SystemSettings.Interleaving
import SystemSettings.Platform
import SystemSettings.StagedFiles

/-!
# The Windows policy store

`load_file`, `save_file` and `clear_file` of the Windows `temporal-policy-store.c`, call by
call. Every call may fail in any way; `MoveFileExW` and `DeleteFileW` do all of it or
nothing. A handle is the file object that was opened.
-/

namespace SystemSettings

/-- A `wchar_t` string. -/
abbrev WideText : Type := List Char

/-- What `GetLastError` says after a call that failed. -/
inductive Win32Error : Type where
  /-- `ERROR_FILE_NOT_FOUND` -/
  | fileNotFound
  /-- `ERROR_PATH_NOT_FOUND` -/
  | pathNotFound
  /-- `ERROR_FILE_EXISTS` -/
  | fileExists
  /-- `ERROR_ALREADY_EXISTS` -/
  | alreadyExists
  /-- `ERROR_ACCESS_DENIED` -/
  | accessDenied
  /-- `ERROR_SHARING_VIOLATION` -/
  | sharingViolation
  /-- `ERROR_LOCK_VIOLATION` -/
  | lockViolation
  /-- any other -/
  | other (code : ℕ)
  deriving DecidableEq

/-- The name is not there. -/
def Win32Error.isNotFound (error : Win32Error) : Bool :=
  error == .fileNotFound || error == .pathNotFound

/-- The name is taken. -/
def Win32Error.isTaken (error : Win32Error) : Bool :=
  error == .fileExists || error == .alreadyExists

/-- Somebody is in the way for a moment. -/
def Win32Error.isTransient (error : Win32Error) : Bool :=
  error == .accessDenied || error == .sharingViolation || error == .lockViolation

/-- The calls of the store. -/
inductive Win32Call : Type where
  /-- `calloc` -/
  | calloc
  /-- `swprintf` -/
  | swprintf
  /-- `InterlockedIncrement(&sequence)` in a process -/
  | interlockedIncrement (process : ℕ)
  /-- `CreateFileW` with `CREATE_NEW` -/
  | createNew (name : WideText)
  /-- `CreateFileW` with `OPEN_EXISTING` -/
  | openExisting (name : WideText)
  /-- `GetFileSizeEx` -/
  | getFileSizeEx (file : ℕ)
  /-- `ReadFile` -/
  | readFile (file size : ℕ)
  /-- `WriteFile` -/
  | writeFile (file : ℕ) (text : Text)
  /-- `FlushFileBuffers` -/
  | flushFileBuffers (file : ℕ)
  /-- `CloseHandle` -/
  | closeHandle (file : ℕ)
  /-- `MoveFileExW` with `MOVEFILE_REPLACE_EXISTING | MOVEFILE_WRITE_THROUGH` -/
  | moveFileEx (source target : WideText)
  /-- `DeleteFileW` -/
  | deleteFile (name : WideText)
  /-- `Sleep(1U)` -/
  | sleep
  deriving DecidableEq

/-- What the calls answer. -/
def Win32 : Signature where
  Cmd := Win32Call
  Resp
    | .calloc | .swprintf | .flushFileBuffers _ | .closeHandle _ | .deleteFile _ => Bool
    | .interlockedIncrement _ => ℕ
    | .createNew _ | .openExisting _ => Except Win32Error ℕ
    | .getFileSizeEx _ => Option ℕ
    | .readFile _ _ => Option Text
    | .writeFile _ _ => Option ℕ
    | .moveFileEx _ _ => Except Win32Error Unit
    | .sleep => Unit

/-- The volume that the policy is on, and the counter of temporary files in every
process. -/
structure WindowsWorld : Type where
  /-- the volume -/
  volume : Volume WideText UInt8
  /-- `sequence` of every process -/
  sequence : ℕ → ℕ

/-- A world with another volume. -/
def WindowsWorld.withVolume (w : WindowsWorld) (volume : Volume WideText UInt8) : WindowsWorld :=
  { w with volume := volume }

/-- How the calls may be answered. -/
def WindowsWorld.Answers (w : WindowsWorld) : Event Win32 WindowsWorld → Prop
  | ⟨.calloc, _, w'⟩ | ⟨.swprintf, _, w'⟩ | ⟨.flushFileBuffers _, _, w'⟩
  | ⟨.closeHandle _, _, w'⟩ | ⟨.sleep, _, w'⟩ => w' = w
  | ⟨.interlockedIncrement process, (r : ℕ), w'⟩ =>
    r = (w.sequence process + 1) % 2 ^ 32 ∧
      w' = { w with sequence := Function.update w.sequence process r }
  | ⟨.createNew name, .ok file, w'⟩ =>
    w.volume.directory name = none ∧ file = w.volume.next ∧
      w' = w.withVolume (w.volume.create name)
  | ⟨.openExisting name, .ok file, w'⟩ => w.volume.directory name = some file ∧ w' = w
  | ⟨.createNew _, .error _, w'⟩ => w' = w
  | ⟨.openExisting name, .error error, w'⟩ =>
    (error.isNotFound = true → w.volume.directory name = none) ∧ w' = w
  | ⟨.getFileSizeEx file, answer, w'⟩ =>
    (∀ size, answer = some size → size = (w.volume.contents file).length) ∧ w' = w
  | ⟨.readFile file size, answer, w'⟩ =>
    (∀ text, answer = some text → text <+: (w.volume.contents file).take size) ∧ w' = w
  | ⟨.writeFile file text, some written, w'⟩ =>
    written ≤ text.length ∧ w' = w.withVolume (w.volume.write file (text.take written))
  | ⟨.writeFile file text, none, w'⟩ =>
    ∃ written, w' = w.withVolume (w.volume.write file (text.take written))
  | ⟨.moveFileEx source target, .ok _, w'⟩ =>
    w.volume.directory source ≠ none ∧ w' = w.withVolume (w.volume.move source target)
  | ⟨.moveFileEx source _, .error error, w'⟩ =>
    (error.isNotFound = true → w.volume.directory source = none) ∧ w' = w
  | ⟨.deleteFile name, true, w'⟩ =>
    w.volume.directory name ≠ none ∧ w' = w.withVolume (w.volume.delete name)
  | ⟨.deleteFile _, false, w'⟩ => w' = w

/-- A volume without files, and processes that have not saved yet. -/
def WindowsWorld.empty : WindowsWorld where
  volume := ⟨fun _ => none, fun _ => [], 0, by simp⟩
  sequence _ := 0

/-- A world that answers: every call succeeds when it may and can, and fails otherwise. -/
def WindowsWorld.respond (ok : Bool) (w : WindowsWorld) :
    (c : Win32Call) → Win32.Resp c × WindowsWorld
  | .calloc | .swprintf | .flushFileBuffers _ | .closeHandle _ => (ok, w)
  | .interlockedIncrement process =>
    let sequence := (w.sequence process + 1) % 2 ^ 32
    (sequence, { w with sequence := Function.update w.sequence process sequence })
  | .createNew name =>
    if ok && (w.volume.directory name).isNone then
      (.ok w.volume.next, w.withVolume (w.volume.create name))
    else (.error .fileExists, w)
  | .openExisting name =>
    match w.volume.directory name with
    | none => (.error .fileNotFound, w)
    | some file => if ok then (.ok file, w) else (.error .sharingViolation, w)
  | .getFileSizeEx file => (if ok then some (w.volume.contents file).length else none, w)
  | .readFile file size => (if ok then some ((w.volume.contents file).take size) else none, w)
  | .writeFile file text =>
    if ok then (some text.length, w.withVolume (w.volume.write file (text.take text.length)))
    else (none, w.withVolume (w.volume.write file (text.take 0)))
  | .moveFileEx source target =>
    if ok && (w.volume.directory source).isSome then
      (.ok (), w.withVolume (w.volume.move source target))
    else (.error .accessDenied, w)
  | .deleteFile name =>
    if ok && (w.volume.directory name).isSome then (true, w.withVolume (w.volume.delete name))
    else (false, w)
  | .sleep => ((), w)

/-- A process ends, and another one gets its number. -/
def WindowsWorld.Moves (w w' : WindowsWorld) : Prop :=
  ∃ process, w' = { w with sequence := Function.update w.sequence process 0 }

/-- The documents of the Common library. -/
structure PolicyCodec : Type where
  /-- `infiltratr_temporal_policy_v3_serialize` into a buffer of `SS_POLICY_CAPACITY` -/
  serialize : TemporalPolicyV3 → Option Text
  /-- `infiltratr_temporal_policy_v3_parse` -/
  parse : Text → Option TemporalPolicyV3

/-- A policy as it is documented, -/
def policy24 : TemporalPolicyV3 :=
  ⟨"standard-24", "gregorian", true, false, .finite 0, .finite 0⟩

/-- and its document. -/
def document24 : Text := bytes ("version=3\nclock-mode=standard-24\ncalendar=gregorian\n" ++
  "show-seconds=true\nlocation-configured=false\nlatitude=0.000000\nlongitude=0.000000\n")

/-- The documents of a library that knows one policy. -/
def PolicyCodec.small : PolicyCodec where
  serialize policy := if policy = policy24 then some document24 else none
  parse text := if text = document24 then some policy24 else none

/-- `SS_POLICY_CAPACITY` -/
def policyCapacity : ℕ := 1024

/-- The tombstone of a policy path. -/
def tombstone (path : WideText) : WideText := path ++ ".deleted".toList

/-- The temporary file of a process. -/
def temporaryName (path : WideText) (process sequence : ℕ) : WideText :=
  path ++ ("." ++ toString process ++ "." ++ toString sequence ++ ".tmp").toList

variable (K : Common) (codec : PolicyCodec) (path : WideText)

/-- Make a call. -/
def win32 (c : Win32Call) : Action Win32 Unit (Win32.Resp c) := Action.call (S := Win32) c

/-! ## Loading -/

/-- What a document of acceptable size says: the policy and whether it was found. -/
def parsePolicy (standard : TemporalPolicyV3) (text : Text) : TemporalPolicyV3 × Bool :=
  if text.contains 0 then (standard, false)
  else match codec.parse text with
    | none => (standard, false)
    | some policy => (policy, true)

/-- The part of `load_file` with the file open. -/
def readPolicy (standard : TemporalPolicyV3) (file : ℕ) :
    Action Win32 Unit (Option (TemporalPolicyV3 × Bool)) := do
  match ← win32 (.getFileSizeEx file) with
  | none => pure none
  | some size =>
    if size = 0 ∨ policyCapacity ≤ size then pure (some (standard, false))
    else match ← win32 (.readFile file size) with
      | none => pure none
      | some text =>
        if text.length ≠ size then pure none
        else pure (some (parsePolicy codec standard text))

/-- `ss_windows_temporal_policy_load_file`: policy and `found`, or `none` for failure. -/
def loadFile : Action Win32 Unit (Option (TemporalPolicyV3 × Bool)) :=
  match K.policyDefault with
  | none => pure none
  | some standard => do
    match ← win32 (.openExisting path) with
    | .error error =>
      if error.isNotFound then pure (some (standard, false)) else pure none
    | .ok file => do
      let result ← readPolicy codec standard file
      let _ ← win32 (.closeHandle file)
      pure result

/-! ## Saving -/

/-- The loop that creates the temporary file, with the attempts that are left. -/
def createTemporary (process : ℕ) : ℕ → Action Win32 Unit (Option (WideText × ℕ))
  | 0 => pure none
  | attempts + 1 => do
    let sequence ← win32 (.interlockedIncrement process)
    let temporary := temporaryName path process sequence
    if !(← win32 .swprintf) then pure none
    else match ← win32 (.createNew temporary) with
      | .ok file => pure (some (temporary, file))
      | .error error =>
        if error.isTaken then createTemporary process attempts else pure none

/-- The loop that renames the temporary file, with the attempts that are left. -/
def publishTemporary (temporary : WideText) : ℕ → Action Win32 Unit Bool
  | 0 => pure false
  | attempts + 1 => do
    match ← win32 (.moveFileEx temporary path) with
    | .ok _ => pure true
    | .error error =>
      if !error.isTransient then pure false
      else do
        let _ ← win32 .sleep
        publishTemporary temporary attempts

/-- The text is written and flushed. -/
def writeTemporary (file : ℕ) (text : Text) : Action Win32 Unit Bool := do
  match ← win32 (.writeFile file text) with
  | none => pure false
  | some written => if written ≠ text.length then pure false else win32 (.flushFileBuffers file)

/-- `ss_windows_temporal_policy_save_file` in a process. -/
def saveFile (process : ℕ) (policy : TemporalPolicyV3) : Action Win32 Unit Bool :=
  match codec.serialize policy with
  | none => pure false
  | some text => do
    if !(← win32 .calloc) then pure false
    else match ← createTemporary path process 32 with
      | none => pure false
      | some (temporary, file) => do
        let written ← writeTemporary file text
        let _ ← win32 (.closeHandle file)
        let ok ← if written then publishTemporary path temporary 64 else pure false
        if !ok then
          let _ ← win32 (.deleteFile temporary)
        pure ok

/-! ## Clearing -/

/-- `ss_windows_temporal_policy_clear_file` -/
def clearFile : Action Win32 Unit Bool :=
  if path = [] then pure false
  else do
    if !(← win32 .calloc) then pure false
    else match ← win32 (.moveFileEx path (tombstone path)) with
      | .error error => pure error.isNotFound
      | .ok _ => do
        let _ ← win32 (.deleteFile (tombstone path))
        pure true

/-! ## Processes -/

/-- What a process can be asked to do with the store. -/
inductive StoreTask : Type where
  /-- save a policy; the process has a number -/
  | save (process : ℕ) (policy : TemporalPolicyV3)
  /-- load -/
  | load
  /-- clear -/
  | clear

/-- What it reports. -/
inductive StoreResult : Type where
  /-- of a save or a clear -/
  | done (ok : Bool)
  /-- of a load: policy and `found`, or failure -/
  | loaded (report : Option (TemporalPolicyV3 × Bool))
  deriving DecidableEq

/-- The program of a task. -/
def storeProgram : StoreTask → Prog Win32 Unit StoreResult
  | .save process policy => (StoreResult.done <$> saveFile codec path process policy) ()
  | .load => (StoreResult.loaded <$> loadFile K codec path) ()
  | .clear => (StoreResult.done <$> clearFile path) ()

/-- A configuration of processes that use the store. -/
abbrev StoreConfig : Type :=
  Interleaving.Config Win32 Unit StoreTask StoreResult WindowsWorld

/-- What any number of processes can reach from a volume. -/
abbrev StoreReachable : WindowsWorld → StoreConfig → Prop :=
  Interleaving.Reachable WindowsWorld.Answers WindowsWorld.Moves (storeProgram K codec path)

end SystemSettings
