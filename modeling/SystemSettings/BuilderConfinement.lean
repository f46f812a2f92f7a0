import SystemSettings.ReleaseAssets

/-!
# Where the builder writes

Whatever fails, the builder writes only to the assets in its output directory and below
its workspace, and only after it has seen that what it releases is what is committed. A
workspace that has been made is removed in the end.
-/

namespace SystemSettings

namespace SourceAssetBuilder

/-! ## What may be written -/

/-- The path that a call makes, changes or removes, or that it changes something below. What is
appended goes to what has been opened. -/
def SystemCall.writes : SystemCall → Option Path
  | .mkdir path | .attempt (.writeText path _) | .attempt (.writeCommonManifest path)
  | .attempt (.normalizeTreeTimes path _) | .attempt (.fopen path) | .attempt (.chmod path)
  | .attempt (.removeTree path) => some path
  | _ => none

/-- What the builder may write: its assets, its workspace, and what is below it. -/
def Release.Owns (r : Release) (work path : Path) : Prop :=
  path = r.runPath ∨ path = r.zipPath ∨ path = work ∨ ∃ rest, path = work ++ separator :: rest

/-- The commands that are run in a workspace, with what each of them writes. -/
inductive Release.Runs (r : Release) (w : Workspace) : List Path → Option Path → Prop where
  | archiveRoot : r.Runs w [bytes "git", bytes "archive", bytes "--format=tar",
      bytes "--output=" ++ w.rootTar, bytes "HEAD"] (some w.rootTar)
  | extractRoot : r.Runs w [bytes "tar", bytes "-xf", w.rootTar, bytes "-C", w.sourceRoot]
      (some w.sourceRoot)
  | archiveCommon : r.Runs w [bytes "git", bytes "-C", r.common, bytes "archive",
      bytes "--format=tar", bytes "--output=" ++ w.commonTar, r.pin] (some w.commonTar)
  | extractCommon : r.Runs w [bytes "tar", bytes "-xf", w.commonTar, bytes "-C", w.commonExport]
      (some w.commonExport)
  | pack : r.Runs w (tarArgv w (bytes "--mtime=@" ++ bytes (toString r.epoch)) w.payload)
      (some w.payload)
  | compile : r.Runs w (compileArgv w.installerSource w.installerBinary) (some w.installerBinary)
  | zip : r.Runs w (zipArgv r.zipPath) (some r.zipPath)
  | readelf : r.Runs w [bytes "readelf", bytes "-h", r.runPath] none
  | help : r.Runs w [r.runPath, bytes "--help"] none
  | extract : r.Runs w [r.runPath, bytes "--extract", w.verified] (some w.verified)
  | configure : r.Runs w (configureArgv w.verified w.verifyBuild) (some w.verifyBuild)

/-- There is a workspace: it has been seen that what is released is what is committed, and the
output directory is there. -/
def Ready (argv : List Path) (past : History Calls) (r : Release) (work : Path) : Prop :=
  ∃ (program directory : Path) (c : Checks) (o : Opening), argv = [program, directory] ∧
    c.Looked r.toSource ∧ o.Opened directory r.output ∧
    (.of (.setenv trustedPath) true :: (c.looks ++ o.calls directory ++
      [.of .mkdtemp (some work)])) <+: past

/-- The commands whose output is captured: they ask for the repository, the time of its commit,
the pinned Common and the one that is checked out. -/
inductive Captures : List Path → Prop where
  | root : Captures rootArgv
  | epoch : Captures epochArgv
  | pin : Captures (pinArgv (bytes "HEAD:" ++ commonRelative))
  | head (common : Path) : Captures (commonHeadArgv common)

/-- To look: commands that compare or ask only, and calls that write nothing. -/
def OnlyLooks : SystemCall → Prop
  | .run _ command => command = diffArgv
  | .capture _ command => Captures command
  | .mkdtemp => False
  | c => c.writes = none

/-- What is allowed in a workspace: its commands, and to write what the builder may write. -/
def AllowedInside (r : Release) (w : Workspace) : SystemCall → Prop
  | .run _ command => ∃ target, r.Runs w command target ∧ ∀ path ∈ target, r.Owns w.work path
  | .attempt (.removeTree _) | .capture _ _ => False
  | c => ∀ path ∈ c.writes, r.Owns w.work path

/-- What each call needs: the output directory and the workspace are made when what is released is
what is committed; anything else is written where the builder may write, and once there is a
workspace. -/
def Allowed (argv : List Path) (past : History Calls) (c : SystemCall) : Prop :=
  OnlyLooks c ∨
    (∃ (program directory : Path) (checks : Checks) (s : Source), argv = [program, directory] ∧
      checks.Looked s ∧ (.of (.setenv trustedPath) true :: checks.looks) <+: past ∧
      (c = .mkdir directory ∨ c = .mkdtemp)) ∨
    ∃ r w, Ready argv past r w.work ∧
      (AllowedInside r w c ∨ c = .attempt (.removeTree w.work))

/-- Commands are run on the trusted path. -/
def OnTrustedPath (c : SystemCall) (env : Option Path) : Prop :=
  ∀ cwd command, c = .run cwd command ∨ c = .capture cwd command → env = some trustedPath

/-- The workspace is removed by the last call and by no other; where there is none, nothing
has been written but directories. -/
def Cleaned (tr : History Calls) : Prop :=
  (∃ (w : Workspace) (start prepared middle : History Calls) (removed : Bool),
    w.Prepared prepared ∧
      tr = start ++ prepared ++ middle ++ [.of (.attempt (.removeTree w.work)) removed] ∧
      ∀ e ∈ start ++ middle, ∀ path, e.cmd ≠ .attempt (.removeTree path)) ∨
  (∀ w : Workspace, ∀ prepared, w.Prepared prepared → ¬ prepared <:+: tr) ∧
    ∀ e ∈ tr, ∀ path ∈ e.cmd.writes, e.cmd = .mkdir path

/-! ## Parts of the builder -/

section Confined

variable {α β : Type} {allow : SystemCall → Prop} {m : BuilderM α} {message : String}

/-- A part of the builder that makes such calls only. -/
def Confined (allow : SystemCall → Prop) (m : BuilderM α) : Prop :=
  ∀ past, (m (some trustedPath)).Guarded (fun _ c env => env = some trustedPath ∧ allow c)
    (fun past' _ env => env = some trustedPath ∧
      ∃ tr, past' = past ++ tr ∧ ∀ e ∈ tr, allow e.cmd) past

theorem confined_pure (a : α) : Confined allow (pure a : BuilderM α) :=
  fun past => ⟨rfl, [], (List.append_nil past).symm, by simp⟩

theorem confined_call {c : SystemCall} (h : allow c) :
    Confined allow (Action.call (S := Calls) c : BuilderM c.Answer) :=
  fun _ => ⟨⟨rfl, h⟩, fun r => ⟨rfl, [.of c r], rfl, by simpa using h⟩⟩

/-- The sequencing rule. -/
theorem Confined.bind {f : α → BuilderM β} (hm : Confined allow m)
    (hf : ∀ a, Confined allow (f a)) : Confined allow (m >>= f) := by
  intro past
  rw [Action.bind_run]
  refine (hm past).bind ?_
  rintro _ a _ ⟨rfl, tr, rfl, htr⟩
  refine (hf a _).mono ?_
  rintro _ b _ ⟨rfl, tr', rfl, htr'⟩
  exact ⟨rfl, tr ++ tr', List.append_assoc .., List.forall_mem_append.mpr ⟨htr, htr'⟩⟩

theorem confined_search {found : BuilderM (Option α)} {next : α → BuilderM (Option β)}
    (hfound : Confined allow found) (hnext : ∀ a, Confined allow (next a)) :
    Confined allow (search found next) := by
  refine hfound.bind fun a => ?_
  cases a with
  | none => exact confined_pure none
  | some a => exact hnext a

theorem confined_need {found : BuilderM (Option α)} {next : α → Stage β}
    (hfound : Confined allow found) (hnext : ∀ a, Confined allow (next a)) :
    Confined allow (need found message next) := by
  refine hfound.bind fun a => ?_
  cases a with
  | none => exact confined_pure _
  | some a => exact hnext a

theorem confined_fitting {text : Option Path} {next : Path → Stage β}
    (hnext : ∀ path, text = some path → Confined allow (next path)) :
    Confined allow (fitting text message next) := by
  cases text with
  | none => exact confined_pure _
  | some path => exact hnext path rfl

theorem confined_ensure {ok : BuilderM Bool} {next : Stage β} (hok : Confined allow ok)
    (hnext : Confined allow next) : Confined allow (ensure ok message next) := by
  refine hok.bind fun ok => ?_
  cases ok with
  | false => exact confined_pure _
  | true => exact hnext

theorem confined_and {ok rest : BuilderM Bool} (hok : Confined allow ok)
    (hrest : Confined allow rest) :
    Confined allow (ok >>= fun ok => if ok = true then rest else pure false) := by
  refine hok.bind fun ok => ?_
  split_ifs
  · exact hrest
  · exact confined_pure false

theorem confined_runCommand {cwd : Option Path} {argv : List Path} (h : allow (.run cwd argv)) :
    Confined allow (runCommand cwd argv) :=
  (confined_call h).bind fun _ => confined_pure _

theorem confined_captureCommand {cwd : Option Path} {argv : List Path} {capacity : ℕ}
    (h : allow (.capture cwd argv)) : Confined allow (captureCommand cwd argv capacity) :=
  (confined_call h).bind fun _ => confined_pure _

theorem confined_mkdirOne {path : Path} (h : allow (.mkdir path)) :
    Confined allow (mkdirOne path) :=
  (confined_call h).bind fun _ => confined_pure _

theorem confined_runAll {commands : List (Option Path × List Path)}
    (h : ∀ command ∈ commands, allow (.run command.1 command.2)) :
    Confined allow (runAll commands) := by
  induction commands with
  | nil => exact confined_pure true
  | cons command commands ih =>
    obtain ⟨hcommand, hcommands⟩ := List.forall_mem_cons.mp h
    exact confined_and (confined_runCommand hcommand) (ih hcommands)

theorem confined_attemptAll {attempts : List Attempt}
    (h : ∀ what ∈ attempts, allow (.attempt what)) : Confined allow (attemptAll attempts) := by
  induction attempts with
  | nil => exact confined_pure true
  | cons what attempts ih =>
    obtain ⟨hwhat, hattempts⟩ := List.forall_mem_cons.mp h
    exact confined_and (confined_call hwhat) (ih hattempts)

theorem confined_makeParents {parent rest : Path}
    (h : ∀ path ∈ parentPaths parent rest, allow (.mkdir path)) :
    Confined allow (makeParents parent rest) := by
  induction rest generalizing parent with
  | nil => exact confined_mkdirOne (h parent List.mem_cons_self)
  | cons b rest ih =>
    unfold parentPaths at h
    unfold makeParents
    split_ifs at h ⊢
    · obtain ⟨hparent, hrest⟩ := List.forall_mem_cons.mp h
      exact confined_and (confined_mkdirOne hparent) (ih hrest)
    · exact ih h

end Confined

/-! ## What the stages write -/

section Stages

variable {β : Type} {r : Release} {w : Workspace}

/-- The paths of a workspace. -/
structure Workspace.Laid (w : Workspace) : Prop where
  sourceRoot : w.sourceRoot = below w.work "source"
  commonExport : w.commonExport = w.sourceRoot ++ separator :: commonRelative

theorem owns_below (r : Release) (work rest : Path) : r.Owns work (work ++ separator :: rest) :=
  .inr (.inr (.inr ⟨rest, rfl⟩))

theorem Workspace.Laid.owns_source (h : w.Laid) (rest : Path) :
    r.Owns w.work (w.sourceRoot ++ separator :: rest) := by
  refine .inr (.inr (.inr ⟨bytes "source" ++ separator :: rest, ?_⟩))
  rw [h.sourceRoot, below, List.append_assoc, List.cons_append]

theorem Workspace.Laid.owns_common (h : w.Laid) (rest : Path) :
    r.Owns w.work (w.commonExport ++ separator :: rest) := by
  rw [h.commonExport, List.append_assoc, List.cons_append]
  exact h.owns_source _

/-- A call that writes nothing. -/
theorem allowedInside_quiet {what : Attempt} (h : (SystemCall.attempt what).writes = none) :
    AllowedInside r w (.attempt what) := by
  cases what with
  | removeTree path => cases h
  | _ =>
    intro path hpath
    rw [h] at hpath
    cases hpath

/-- The directories of the loop over `parent` begin with the first one. -/
theorem prefix_of_mem_parentPaths {parent rest path : Path} (h : path ∈ parentPaths parent rest) :
    ∃ more, path = parent ++ more := by
  induction rest generalizing parent with
  | nil => exact ⟨[], by simpa [parentPaths] using h⟩
  | cons b rest ih =>
    have hlater (h : path ∈ parentPaths (parent ++ [b]) rest) : ∃ more, path = parent ++ more := by
      obtain ⟨more, rfl⟩ := ih h
      exact ⟨b :: more, List.append_assoc ..⟩
    unfold parentPaths at h
    split_ifs at h
    · rcases List.mem_cons.mp h with rfl | h
      · exact ⟨[], (List.append_nil _).symm⟩
      · exact hlater h
    · exact hlater h

theorem confined_exportSources {next : Stage β} (hw : w.Laid)
    (hnext : Confined (AllowedInside r w) next) :
    Confined (AllowedInside r w) (exportSources r w next) := by
  have hparents : ∀ path ∈ parentPaths (w.sourceRoot ++ [separator]) commonRelative,
      AllowedInside r w (.mkdir path) := by
    rintro path hpath _ ⟨⟩
    obtain ⟨more, rfl⟩ := prefix_of_mem_parentPaths hpath
    rw [List.append_assoc]
    exact hw.owns_source more
  have hloop : Confined (AllowedInside r w) (if w.commonExport.length < pathMax then
      makeParents (w.sourceRoot ++ [separator]) commonRelative else pure false) := by
    split_ifs
    · exact confined_makeParents hparents
    · exact confined_pure false
  refine confined_ensure hloop <| confined_fitting fun rootTar hrootTar =>
    confined_fitting fun commonTar hcommonTar => confined_fitting fun rootOutput hrootOutput =>
    confined_fitting fun commonOutput hcommonOutput => confined_ensure (confined_runAll ?_) hnext
  obtain ⟨-, rfl⟩ := pathJoin_eq_some.mp hrootTar
  obtain ⟨-, rfl⟩ := pathJoin_eq_some.mp hcommonTar
  obtain ⟨-, rfl⟩ := printed_eq_some.mp hrootOutput
  obtain ⟨-, rfl⟩ := printed_eq_some.mp hcommonOutput
  simp only [exportArgvs, List.map_cons, List.map_nil, List.forall_mem_cons, List.not_mem_nil,
    false_implies, implies_true, and_true]
  refine ⟨⟨_, .archiveRoot, ?_⟩, ⟨_, .extractRoot, ?_⟩, ⟨_, .archiveCommon, ?_⟩,
    ⟨_, .extractCommon, ?_⟩⟩
  · rintro _ ⟨⟩
    exact owns_below r w.work _
  · rintro _ ⟨⟩
    rw [hw.sourceRoot]
    exact owns_below r w.work _
  · rintro _ ⟨⟩
    exact owns_below r w.work _
  · rintro _ ⟨⟩
    rw [hw.commonExport]
    exact hw.owns_source _

theorem confined_recordProvenance {next : Stage β} (hw : w.Laid)
    (hnext : Confined (AllowedInside r w) next) :
    Confined (AllowedInside r w) (recordProvenance r w next) := by
  refine confined_fitting fun marker hmarker => confined_fitting fun markerText htext =>
    confined_ensure (confined_attemptAll ?_) <| confined_ensure (confined_call ?_) hnext
  · obtain ⟨-, rfl⟩ := pathJoin_eq_some.mp hmarker
    simp only [List.forall_mem_cons, List.not_mem_nil, false_implies, implies_true, and_true]
    constructor
    · rintro _ ⟨⟩
      exact hw.owns_common _
    · rintro _ ⟨⟩
      rw [hw.commonExport]
      exact hw.owns_source _
  · rintro _ ⟨⟩
    rw [hw.sourceRoot]
    exact owns_below r w.work _

theorem confined_packSources {next : Path → Stage β}
    (hnext : ∀ payload, Confined (AllowedInside r w) (next payload)) :
    Confined (AllowedInside r w) (packSources r w next) := by
  refine confined_fitting fun payload hpayload => confined_fitting fun epochArgument hepoch =>
    confined_ensure (confined_runCommand ?_) (hnext payload)
  obtain ⟨-, rfl⟩ := pathJoin_eq_some.mp hpayload
  obtain ⟨-, rfl⟩ := printed_eq_some.mp hepoch
  refine ⟨_, .pack, ?_⟩
  rintro _ ⟨⟩
  exact owns_below r w.work _

/-- What is opened is the installer. -/
theorem confined_writeRun {installerBinary payload : Path} {size : ℤ} :
    Confined (AllowedInside r w) (writeRun r.runPath installerBinary payload size) := by
  refine confined_and (confined_call ?_) (Confined.bind ?_ fun _ => ?_)
  · rintro _ ⟨⟩
    exact .inl rfl
  · refine confined_and (confined_attemptAll ?_) (confined_and ?_ (confined_attemptAll ?_))
    · simpa using ⟨allowedInside_quiet rfl, allowedInside_quiet rfl⟩
    · exact (confined_call fun _ => nofun).bind fun _ => confined_pure _
    · simpa using ⟨allowedInside_quiet rfl, allowedInside_quiet rfl⟩
  · exact (confined_call (allowedInside_quiet rfl)).bind fun _ => confined_pure _

theorem confined_writeInstaller {payload : Path} {next : Path → Stage β}
    (hnext : Confined (AllowedInside r w) (next r.runPath)) :
    Confined (AllowedInside r w) (writeInstaller r w payload next) := by
  refine confined_fitting fun source hsource => confined_fitting fun binary hbinary =>
    confined_ensure (confined_runCommand ?_) <| confined_fitting fun name hname =>
    confined_fitting fun runPath hrun => confined_need ?_ fun size => ?_
  · obtain ⟨-, rfl⟩ := pathJoin_eq_some.mp hsource
    obtain ⟨-, rfl⟩ := pathJoin_eq_some.mp hbinary
    refine ⟨_, .compile, ?_⟩
    rintro _ ⟨⟩
    exact owns_below r w.work _
  · exact confined_search (confined_call fun _ => nofun) fun _ => confined_pure _
  · obtain ⟨-, rfl⟩ := printed_eq_some.mp hname
    obtain ⟨-, rfl⟩ := pathJoin_eq_some.mp hrun
    refine confined_ensure confined_writeRun <| confined_ensure (confined_call ?_) hnext
    rintro _ ⟨⟩
    exact .inl rfl

theorem confined_writeArchive {next : Stage β} (hnext : Confined (AllowedInside r w) next) :
    Confined (AllowedInside r w) (writeArchive r w next) := by
  refine confined_fitting fun name hname => confined_fitting fun zipPath hzip =>
    confined_ensure (confined_runCommand ?_) hnext
  obtain ⟨-, rfl⟩ := printed_eq_some.mp hname
  obtain ⟨-, rfl⟩ := pathJoin_eq_some.mp hzip
  refine ⟨_, .zip, ?_⟩
  rintro _ ⟨⟩
  exact .inr (.inl rfl)

theorem confined_verifyInstaller :
    Confined (AllowedInside r w) (verifyInstaller r w r.runPath) := by
  refine confined_ensure (confined_runAll ?_) <| confined_fitting fun verified hverified =>
    confined_ensure (confined_runCommand ?_) <|
    confined_ensure (confined_call (allowedInside_quiet rfl)) <|
    confined_fitting fun _ _ => confined_fitting fun _ _ => confined_fitting fun _ _ =>
    confined_fitting fun _ _ => confined_ensure (confined_attemptAll ?_) <|
    confined_fitting fun verifyBuild hbuild => confined_ensure (confined_runCommand ?_)
    (confined_pure _)
  · simp only [List.forall_mem_cons, List.not_mem_nil, false_implies, implies_true, and_true]
    exact ⟨⟨none, .readelf, nofun⟩, ⟨none, .help, nofun⟩⟩
  · obtain ⟨-, rfl⟩ := pathJoin_eq_some.mp hverified
    refine ⟨_, .extract, ?_⟩
    rintro _ ⟨⟩
    exact owns_below r w.work _
  · simpa using ⟨allowedInside_quiet rfl, allowedInside_quiet rfl⟩
  · obtain ⟨-, rfl⟩ := pathJoin_eq_some.mp hverified
    obtain ⟨-, rfl⟩ := pathJoin_eq_some.mp hbuild
    refine ⟨_, .configure, ?_⟩
    rintro _ ⟨⟩
    exact owns_below r w.work _

theorem confined_buildAssets (hw : w.Laid) : Confined (AllowedInside r w) (buildAssets r w) :=
  confined_exportSources hw <| confined_recordProvenance hw <| confined_packSources fun _ =>
    confined_writeInstaller <| confined_writeArchive confined_verifyInstaller

end Stages

/-! ## The builder -/

section Builder

theorem confined_resolveOutput {directory : Path} :
    Confined OnlyLooks (resolveOutput directory) := by
  unfold resolveOutput
  by_cases habsolute : isAbsolute directory = true
  · rw [if_pos habsolute]
    exact confined_fitting fun _ _ => confined_pure _
  · rw [if_neg habsolute]
    exact confined_need (confined_call rfl) fun _ => confined_fitting fun _ _ => confined_pure _

theorem confined_lookAtSource : Confined OnlyLooks lookAtSource := by
  refine confined_need (confined_captureCommand .root) fun root =>
    confined_ensure (confined_call rfl) <|
    confined_need (confined_captureCommand .epoch) fun text =>
    confined_need (confined_pure _) fun epoch =>
    confined_ensure (confined_runCommand rfl) <|
    confined_need ?_ fun version => confined_fitting fun common _ =>
    confined_fitting fun revspec hrevspec =>
    confined_need ?_ fun pin => confined_pure _
  · exact confined_search (confined_pure _) fun _ => confined_search
      (confined_search (confined_call rfl) fun _ => confined_pure _) fun _ => confined_pure _
  · obtain ⟨-, rfl⟩ := printed_eq_some.mp hrevspec
    exact confined_search (confined_captureCommand .pin) fun _ =>
      confined_search (confined_captureCommand (.head common)) fun _ => confined_pure _

/-- What every call of the builder is checked for. -/
def Checked (argv : List Path) (past : History Calls) (c : SystemCall) (env : Option Path) : Prop :=
  Allowed argv past c ∧ OnTrustedPath c env

variable {α : Type} {past : History Calls} {m : BuilderM α} {allow : SystemCall → Prop}

/-- A part that makes such calls only, where they are allowed from now on. -/
theorem Confined.guarded (argv : List Path) (h : Confined allow m)
    (hallow : ∀ later c, past <+: later → allow c → Allowed argv later c) :
    (m (some trustedPath)).Guarded (Checked argv) (fun later a env => env = some trustedPath ∧
      ∃ tr, later = past ++ tr ∧ (∀ e ∈ tr, allow e.cmd) ∧
        (m (some trustedPath)).Yields tr a (some trustedPath)) past := by
  refine ((h past).weaken fun later c env hlater hc => ?_).and_yields.mono ?_
  · exact ⟨hallow later c hlater hc.2, fun _ _ _ => hc.1⟩
  · rintro later a env ⟨⟨rfl, tr, rfl, htr⟩, tr', heq, hy⟩
    obtain rfl := List.append_cancel_left heq
    exact ⟨rfl, tr, rfl, htr, hy⟩

/-- Nothing has been written so far but directories, and there is no workspace. -/
def OnlyDirectories (past : History Calls) : Prop :=
  ∀ e ∈ past, e.cmd ≠ .mkdtemp ∧ ∀ path ∈ e.cmd.writes, e.cmd = .mkdir path

theorem OnlyLooks.only {c : SystemCall} (h : OnlyLooks c) :
    c ≠ .mkdtemp ∧ ∀ path ∈ c.writes, c = .mkdir path := by
  cases c with
  | mkdtemp => exact h.elim
  | run | capture => exact ⟨nofun, nofun⟩
  | _ =>
    refine ⟨nofun, fun path hpath => ?_⟩
    rw [show SystemCall.writes _ = none from h] at hpath
    cases hpath

/-- There is an output directory for what is committed, or nothing but a directory. -/
theorem guarded_checkRelease {program directory : Path} :
    (checkRelease directory (some trustedPath)).Guarded (Checked [program, directory])
      (fun past result env => env = some trustedPath ∧ OnlyDirectories past ∧
        ∀ r, result = .ok r → ∃ (c : Checks) (o : Opening),
          c.Looked r.toSource ∧ o.Opened directory r.output ∧
            past = .of (.setenv trustedPath) true :: (c.looks ++ o.calls directory))
      [.of (.setenv trustedPath) true] := by
  have hlooks {α : Type} {m : BuilderM α} {past : History Calls} (h : Confined OnlyLooks m) :=
    h.guarded [program, directory] fun later c (_ : past <+: later) => .inl
  refine (hlooks confined_lookAtSource).bind ?_
  rintro _ result _ ⟨rfl, tr, rfl, htr, hy⟩
  have honly : OnlyDirectories ([.of (.setenv trustedPath) true] ++ tr) := by
    refine List.forall_mem_cons.mpr ⟨by simp [SystemCall.writes], fun e he => (htr e he).only⟩
  cases result with
  | error message => exact ⟨rfl, honly, by simp⟩
  | ok s =>
    obtain ⟨-, c, hlooked, rfl⟩ := (gives_lookAtSource _ _ _).mp hy
    refine ⟨⟨.inr (.inl ⟨program, directory, c, s, rfl, hlooked, List.prefix_refl _, .inl rfl⟩),
      by simp [OnTrustedPath]⟩, fun (answer : Mkdir) => ?_⟩
    have honly' : OnlyDirectories (([.of (.setenv trustedPath) true] ++ c.looks) ++
        [.of (.mkdir directory) answer]) := by
      refine List.forall_mem_append.mpr ⟨honly, List.forall_mem_singleton.mpr ⟨by simp, ?_⟩⟩
      rintro _ ⟨⟩
      rfl
    have hrest (hanswer : answer ≠ .failed) :
        ((andThen (resolveOutput directory) fun output => found ⟨s, output⟩ : Stage Release)
          (some trustedPath)).Guarded (Checked [program, directory]) (fun past result env =>
            env = some trustedPath ∧ OnlyDirectories past ∧ ∀ r, result = .ok r →
              ∃ (c : Checks) (o : Opening), c.Looked r.toSource ∧ o.Opened directory r.output ∧
                past = .of (.setenv trustedPath) true :: (c.looks ++ o.calls directory))
          (([.of (.setenv trustedPath) true] ++ c.looks) ++ [.of (.mkdir directory) answer]) := by
      refine (hlooks confined_resolveOutput).bind ?_
      rintro _ result _ ⟨rfl, tr, rfl, htr, hy⟩
      have hdirectories := List.forall_mem_append.mpr ⟨honly', fun e he => (htr e he).only⟩
      cases result with
      | error message => exact ⟨rfl, hdirectories, by simp⟩
      | ok output =>
        obtain ⟨-, current, rfl, hshort, rfl⟩ := (gives_resolveOutput _ _ _).mp hy
        refine ⟨rfl, hdirectories, ?_⟩
        rintro _ ⟨⟩
        refine ⟨c, ⟨answer, current⟩, hlooked, ⟨hanswer, hshort, rfl⟩, ?_⟩
        simp [Opening.calls]
    cases answer with
    | failed => exact ⟨rfl, honly', by simp⟩
    | made => exact hrest (by simp)
    | present => exact hrest (by simp)

/-- An infix that begins with what is not in the first part is in the second one. -/
theorem infix_of_not_mem {β : Type} {b : β} {l first rest : List β} (hb : b ∉ first)
    (h : (b :: l) <:+: first ++ rest) : (b :: l) <:+: rest := by
  induction first with
  | nil => exact h
  | cons a first ih =>
    rw [List.mem_cons, not_or] at hb
    obtain ⟨hne, hb⟩ := hb
    rcases List.infix_cons_iff.mp h with hprefix | hinfix
    · exact absurd (List.cons_prefix_cons.mp hprefix).1 hne
    · exact ih hb hinfix

/-- No workspace has been prepared. -/
theorem cleaned_of_only {past tail : History Calls} (honly : OnlyDirectories past)
    (hprepared : ∀ w : Workspace, ∀ prepared, w.Prepared prepared → ¬ prepared <:+: tail)
    (hwrites : ∀ e ∈ tail, ∀ path ∈ e.cmd.writes, e.cmd = .mkdir path) :
    Cleaned (past ++ tail) := by
  refine .inr ⟨fun w prepared hw hinfix => ?_, ?_⟩
  · refine hprepared w prepared hw ?_
    rw [hw.calls] at hinfix ⊢
    exact infix_of_not_mem (fun hmem => (honly _ hmem).1 rfl) hinfix
  · exact List.forall_mem_append.mpr ⟨fun e he => (honly e he).2, hwrites⟩

theorem not_infix_singleton {w : Workspace} {prepared : History Calls} (h : w.Prepared prepared)
    (e : Event Calls Unit) : ¬ prepared <:+: [e] := by
  intro hinfix
  have hlength := hinfix.length_le
  rw [h.calls] at hlength
  exact absurd hlength (by simp)

/-- What a prepared workspace has been made of. -/
theorem Workspace.Prepared.pair {w : Workspace} {work path : Path} {answer : Mkdir}
    (h : w.Prepared [.of .mkdtemp (some work), .of (.mkdir path) answer]) :
    w.work = work ∧ w.sourceRoot = path ∧ answer = .made := by
  obtain ⟨hmkdtemp, hmkdir⟩ := List.cons_eq_cons.mp h.calls
  obtain ⟨hmkdir, -⟩ := List.cons_eq_cons.mp hmkdir
  obtain ⟨-, hwork, -⟩ := Event.mk.inj hmkdtemp
  obtain ⟨hpath, hanswer, -⟩ := Event.mk.inj hmkdir
  exact ⟨(Option.some.inj (eq_of_heq hwork)).symm, (SystemCall.mkdir.inj hpath).symm,
    eq_of_heq hanswer⟩

/-- The workspace that is made. -/
theorem guarded_makeWorkspace {program directory : Path} {past : History Calls}
    (honly : OnlyDirectories past) {r : Release} {c : Checks} {o : Opening}
    (hlooked : c.Looked r.toSource) (hopened : o.Opened directory r.output)
    (hpast : past = .of (.setenv trustedPath) true :: (c.looks ++ o.calls directory)) :
    (makeWorkspace (some trustedPath)).Guarded (Checked [program, directory])
      (fun later result env => env = some trustedPath ∧
        (∀ message, result = .error message → Cleaned later) ∧
        ∀ w, result = .ok w → ∃ prepared, w.Prepared prepared ∧ later = past ++ prepared)
      past := by
  have hlooks : (.of (.setenv trustedPath) true :: c.looks) <+: past := by
    rw [hpast, ← List.cons_append]
    exact List.prefix_append _ _
  have hone (e : Event Calls Unit) (he : e.cmd.writes = none) : Cleaned (past ++ [e]) := by
    refine cleaned_of_only honly (fun w prepared h => not_infix_singleton h e) ?_
    refine List.forall_mem_singleton.mpr fun path hpath => ?_
    rw [he] at hpath
    cases hpath
  refine ⟨⟨.inr (.inl ⟨program, directory, c, r.toSource, rfl, hlooked, hlooks, .inr rfl⟩), nofun⟩,
    fun (found : Option Path) => ?_⟩
  cases found with
  | none => exact ⟨rfl, fun _ _ => hone _ rfl, nofun⟩
  | some work =>
    change ((fitting _ _ _ : Stage Workspace) _).Guarded _ _ _
    cases hsource : pathJoin pathMax work (bytes "source") with
    | none => exact ⟨rfl, fun _ _ => hone _ rfl, nofun⟩
    | some sourceRoot =>
      obtain ⟨hfits, rfl⟩ := pathJoin_eq_some.mp hsource
      have hready : Ready [program, directory] (past ++ [.of .mkdtemp (some work)]) r work := by
        refine ⟨program, directory, c, o, rfl, hlooked, hopened, ?_⟩
        rw [hpast, List.cons_append]
      refine ⟨⟨.inr (.inr ⟨r, ⟨work, [], []⟩, hready, .inl ?_⟩), nofun⟩, fun (answer : Mkdir) => ?_⟩
      · rintro _ ⟨⟩
        exact owns_below r work _
      · have htwo (h : ∀ w : Workspace, w.commonExport.length < pathMax → w.commonExport =
            below work "source" ++ separator :: commonRelative → answer ≠ .made) :
            Cleaned ((past ++ [.of .mkdtemp (some work)]) ++
              [.of (.mkdir (below work "source")) answer]) := by
          rw [List.append_assoc]
          refine cleaned_of_only honly (fun w prepared hw hinfix => ?_) ?_
          · obtain rfl := hinfix.eq_of_length (by rw [hw.calls]; rfl)
            obtain ⟨hshort, hcommon⟩ := hw.commonExport
            rw [hw.pair.2.1] at hcommon
            exact h w hshort hcommon hw.pair.2.2
          · refine List.forall_mem_cons.mpr ⟨nofun, List.forall_mem_singleton.mpr ?_⟩
            rintro _ ⟨⟩
            rfl
        cases answer with
        | present => exact ⟨rfl, fun _ _ => htwo nofun, nofun⟩
        | failed => exact ⟨rfl, fun _ _ => htwo nofun, nofun⟩
        | made =>
          change ((fitting _ _ _ : Stage Workspace) _).Guarded _ _ _
          cases hcommon : pathJoin pathMax (work ++ separator :: bytes "source") commonRelative with
          | none =>
            refine ⟨rfl, fun _ _ => htwo fun w hshort heq => ?_, nofun⟩
            have hsome := pathJoin_eq_some.mpr ⟨hshort, heq⟩
            rw [below, hcommon] at hsome
            cases hsome
          | some commonExport =>
            obtain ⟨hshort, heq⟩ := pathJoin_eq_some.mp hcommon
            refine ⟨rfl, nofun, ?_⟩
            rintro _ ⟨⟩
            exact ⟨_, ⟨⟨hfits, rfl⟩, ⟨hshort, heq⟩, rfl⟩, List.append_assoc ..⟩

/-- What a workspace that has been prepared is laid out like. -/
theorem Workspace.Prepared.laid {w : Workspace} {prepared : History Calls}
    (h : w.Prepared prepared) : w.Laid := ⟨h.sourceRoot.2, h.commonExport.2⟩

/-- The part of `main` with a directory for its output. -/
theorem guarded_release {program directory : Path} :
    (release directory (some trustedPath)).Guarded (Checked [program, directory])
      (fun past _ _ => Cleaned past) [.of (.setenv trustedPath) true] := by
  have hnone {past : History Calls} (h : OnlyDirectories past) : Cleaned past := by
    rw [← List.append_nil past]
    refine cleaned_of_only h (fun w prepared hw hinfix => ?_) (by simp)
    rw [hw.calls] at hinfix
    exact absurd hinfix.length_le (by simp)
  refine guarded_checkRelease.bind ?_
  rintro past result _ ⟨rfl, honly, hok⟩
  cases result with
  | error message => exact hnone honly
  | ok r =>
    obtain ⟨c, o, hlooked, hopened, hpast⟩ := hok r rfl
    refine (guarded_makeWorkspace honly hlooked hopened hpast).bind ?_
    rintro later result _ ⟨rfl, herror, hok⟩
    cases result with
    | error message => exact herror message rfl
    | ok w =>
      obtain ⟨prepared, hprepared, rfl⟩ := hok w rfl
      have hready (later : History Calls) (hlater : past ++ prepared <+: later) :
          Ready [program, directory] later r w.work := by
        refine ⟨program, directory, c, o, rfl, hlooked, hopened, List.IsPrefix.trans ?_ hlater⟩
        rw [hpast, hprepared.calls, List.cons_append]
        refine ⟨[.of (.mkdir w.sourceRoot) .made], ?_⟩
        rw [List.cons_append, List.append_assoc]
        rfl
      refine ((confined_buildAssets hprepared.laid).guarded _ fun later c hlater hc =>
        .inr (.inr ⟨r, w, hready later hlater, .inl hc⟩)).bind ?_
      rintro _ result _ ⟨rfl, middle, rfl, hmiddle, -⟩
      refine ⟨⟨.inr (.inr ⟨r, w, hready _ (List.prefix_append _ _), .inr rfl⟩), nofun⟩,
        fun (removed : Bool) => ?_⟩
      refine .inl ⟨w, past, prepared, middle, removed, hprepared, rfl, ?_⟩
      refine List.forall_mem_append.mpr ⟨fun e he path heq => ?_, fun e he path heq => ?_⟩
      · have hmkdir := (honly e he).2 path (by rw [heq]; rfl)
        rw [heq] at hmkdir
        cases hmkdir
      · have hinside := hmiddle e he
        rw [heq] at hinside
        exact hinside

/-- Every call of the builder is allowed. -/
theorem guarded_main (argv : List Path) (env : Option Path) :
    (main argv env).Guarded (Checked argv) (fun past _ _ => Cleaned past) [] := by
  have hnone (ok : Bool) : Cleaned [.of (.setenv trustedPath) ok] := by
    have hempty : OnlyDirectories [] := by simp [OnlyDirectories]
    refine cleaned_of_only hempty (fun w prepared h => not_infix_singleton h _) ?_
    exact List.forall_mem_singleton.mpr nofun
  refine ⟨⟨.inl rfl, nofun⟩, fun (ok : Bool) => ?_⟩
  cases ok with
  | false => exact hnone false
  | true =>
    change (mainOptions argv (some trustedPath)).Guarded _ _ _
    unfold mainOptions
    by_cases hhelp : AsksForHelp argv
    · simp only [if_pos hhelp]
      exact hnone true
    · simp only [if_neg hhelp]
      match argv with
      | [] => exact hnone true
      | [program] => exact hnone true
      | [program, directory] =>
        dsimp only
        split_ifs
        · exact hnone true
        · exact guarded_release
      | program :: directory :: other :: rest => exact hnone true

end Builder

end SourceAssetBuilder

end SystemSettings
