import SystemSettings.NativeInstaller

/-!
# The order of the installer

A package is installed last and once, after everything that it rests on has succeeded, and
it is the only one that was built. Whatever fails, the workspace is removed once, as the
last thing that is done; success is reported only where everything has been done.
-/

namespace SystemSettings

namespace NativeInstaller

/-! ## What has to be done first -/

/-- A check of `build_prerequisites_available` that has found everything. -/
structure PrerequisitesFound (check : History Calls) : Prop where
  /-- each command is in one of the trusted directories -/
  commands : ∀ name ∈ required, ∃ directory ∈ pathParts trustedPath,
    .of (.access (directory ++ separator :: name)) true ∈ check
  /-- GTK is recent enough -/
  gtk : .of (.run none gtkArgv) (0 : ℤ) ∈ check
  /-- the geocoding library is there -/
  geocode : .of (.run none geocodeArgv) (0 : ℤ) ∈ check

/-- What a package is made from. -/
structure Preparation : Type where
  /-- who runs the installer -/
  uid : ℕ
  /-- the check that has found the prerequisites -/
  check : History Calls
  /-- what the compiler says -/
  compiler : ℤ × List UInt8
  /-- the installer -/
  self : Path
  /-- the workspace -/
  work : Path
  /-- its payload -/
  archive : Path
  /-- the number of jobs -/
  jobs : Path
  /-- what is in the build directory -/
  names : List Name

namespace Preparation

variable (p : Preparation)

/-- `build` -/
def build : Path := p.work ++ bytes "/build"

/-- `pgo` -/
def pgo : Path := p.work ++ bytes "/pgo"

/-- The arguments of CMake, in full. -/
def configure (profile flags profileData : Path) : List Path :=
  [bytes "cmake", bytes "-S", p.work, bytes "-B", p.build, bytes "-DCMAKE_BUILD_TYPE=Release",
    bytes "-DSYSTEM_SETTINGS_BUILD_PROFILE=" ++ profile, bytes "-DBUILD_TESTING=ON",
    bytes "-DCMAKE_C_FLAGS_RELEASE=" ++ flags,
    bytes "-DSYSTEM_SETTINGS_NATIVE_PROFILE_DATA_DIR=" ++ profileData]

/-- What is found out before anything is made. -/
def checks : History Calls :=
  [.of (.setenv trustedPath) true, .of .geteuid p.uid] ++ p.check ++
    [.of (.capture compilerArgv) p.compiler]

/-- The extraction of the payload. -/
def extraction : History Calls :=
  [.of .mkdtemp (some p.work), .of (.copyPayload p.self) (some p.archive),
    .of (.run none (tarArgv p.archive p.work)) (0 : ℤ), .of (.mkdir p.pgo) true]

/-- The build that is trained by the tests. -/
def training : History Calls :=
  [.of (.run none (p.configure (bytes "generic") (generateFlags p.pgo) [])) (0 : ℤ),
    .of (.run none (buildArgv p.build p.jobs)) (0 : ℤ), .of (.run none (testArgv p.build)) (0 : ℤ)]

/-- The build that uses the training. -/
def optimised : History Calls :=
  [.of (.run none (p.configure (bytes "native") (finalFlags p.pgo) p.pgo)) (0 : ℤ),
    .of (.run none (buildArgv p.build p.jobs)) (0 : ℤ)]

/-- Its tests. -/
def tests : History Calls := [.of (.run none (testArgv p.build)) (0 : ℤ)]

/-- The package. -/
def packaging : History Calls := [.of (.run (some p.build) cpackArgv) (0 : ℤ)]

/-- Everything, in order. -/
def calls : History Calls :=
  p.checks ++ p.extraction ++ p.training ++ p.optimised ++ p.tests ++ p.packaging ++
    [.of (.readdir p.build) (some p.names)]

/-- What the checks have found. -/
structure Sound : Prop where
  ordinary : p.uid ≠ 0
  prerequisites : PrerequisitesFound p.check
  compiled : p.compiler.1 = 0
  gcc : namesGcc (p.compiler.2.take 1023) = true

end Preparation

/-- The package has been prepared: everything has succeeded in order, and it is the only
one in the build directory. -/
def Prepared (past : History Calls) (deb : Path) : Prop :=
  ∃ p : Preparation, p.Sound ∧ p.calls.Sublist past ∧
    ∃ name, p.names.filter isDebianPackage = [name] ∧ deb = p.build ++ separator :: name

/-! ## The package that is found -/

theorem fitted_eq_some {capacity : ℕ} {text path : Path} :
    fitted capacity text = some path ↔ text.length < capacity - 1 ∧ text = path := by
  unfold fitted
  split_ifs with h <;> simp [h]

/-- Once a package has been found, there may be no other. -/
theorem findPackage_some {directory : Path} {capacity : ℕ} {path deb : Path} {names : List Name} :
    findPackage directory capacity (some path) names = some deb ↔
      names.filter isDebianPackage = [] ∧ path = deb := by
  induction names with
  | nil => simp [findPackage]
  | cons name names ih =>
    cases hname : isDebianPackage name with
    | false => simpa [findPackage, hname] using ih
    | true => simp [findPackage, hname]

/-- A package is found when it is the only one and its path fits. -/
theorem findPackage_eq_some {directory : Path} {capacity : ℕ} {deb : Path} {names : List Name} :
    findPackage directory capacity none names = some deb ↔
      ∃ name, names.filter isDebianPackage = [name] ∧
        fitted capacity (directory ++ separator :: name) = some deb := by
  induction names with
  | nil => simp [findPackage]
  | cons name names ih =>
    cases hname : isDebianPackage name with
    | false => simpa [findPackage, hname] using ih
    | true =>
      unfold findPackage
      rw [if_pos hname, List.filter_cons_of_pos hname]
      cases hfitted : fitted capacity (directory ++ separator :: name) with
      | none =>
        refine iff_of_false (by simp) ?_
        rintro ⟨other, hother, hfits⟩
        obtain ⟨rfl, -⟩ := List.cons_eq_cons.mp hother
        rw [hfitted] at hfits
        cases hfits
      | some path =>
        dsimp only
        rw [findPackage_some]
        constructor
        · rintro ⟨hnone, rfl⟩
          exact ⟨name, by rw [hnone], hfitted⟩
        · rintro ⟨other, hother, hfits⟩
          obtain ⟨rfl, hnone⟩ := List.cons_eq_cons.mp hother
          rw [hfitted] at hfits
          exact ⟨hnone, Option.some.inj hfits⟩

/-! ## What each call needs -/

/-- The call installs a package. -/
def SystemCall.Installs : SystemCall → Prop
  | .run _ argv => ∃ deb, argv = installArgv deb
  | _ => False

/-- The call neither makes nor removes a workspace, and installs no package. -/
def SystemCall.Plain : SystemCall → Prop
  | .mkdtemp | .removeTree _ => False
  | c => ¬ c.Installs

/-- What a call needs: commands are run on the trusted path and before a package is
installed, programs are looked for there or where they are installed, and a package is
prepared before it is installed. -/
def Allowed (argv : List Path) (past : History Calls) : SystemCall → Option Path → Prop
  | .run cwd command, env => env = some trustedPath ∧ (∀ e ∈ past, ¬ e.cmd.Installs) ∧
      ∀ deb, command = installArgv deb → cwd = none ∧ argv.length = 1 ∧ Prepared past deb
  | .capture _, env => env = some trustedPath
  | _, _ => True

theorem SystemCall.Plain.not_installs {c : SystemCall} (h : c.Plain) : ¬ c.Installs := by
  cases c <;> first | exact h | exact id

/-- Only `sudo` installs. -/
theorem not_installs {cwd : Option Path} {argv : List Path}
    (h : argv.take 3 ≠ [bytes "sudo", bytes "apt-get", bytes "install"]) :
    ¬ (SystemCall.run cwd argv).Installs := by
  rintro ⟨deb, rfl⟩
  exact h rfl

/-- Another program installs nothing. -/
theorem not_installs_cons {cwd : Option Path} {program : Path} {argv : List Path}
    (h : program ≠ bytes "sudo") : ¬ (SystemCall.run cwd (program :: argv)).Installs := by
  refine not_installs fun heq => h ?_
  exact List.head_eq_of_cons_eq heq

/-! ## Parts of the installer -/

section Parts

variable {argv : List Path} {α β : Type}

/-- A part of the installer that makes plain calls only, of which `P` holds in the end. -/
def Part (argv : List Path) (m : InstallerM α) (P : History Calls → α → Prop) : Prop :=
  ∀ past, (∀ e ∈ past, ¬ e.cmd.Installs) →
    (m (some trustedPath)).Guarded (Allowed argv) (fun past' a env => env = some trustedPath ∧
      ∃ tr, past' = past ++ tr ∧ (∀ e ∈ tr, e.cmd.Plain) ∧ P tr a) past

variable {m : InstallerM α} {P P' : History Calls → α → Prop}

theorem Part.mono (h : Part argv m P) (hP : ∀ tr a, P tr a → P' tr a) : Part argv m P' := by
  intro past hpast
  refine (h past hpast).mono ?_
  rintro past' a env ⟨henv, tr, htr, hplain, hP'⟩
  exact ⟨henv, tr, htr, hplain, hP tr a hP'⟩

theorem Part.pure {a : α} (h : P [] a) : Part argv (pure a) P := by
  intro past _
  exact ⟨rfl, [], (List.append_nil past).symm, by simp, h⟩

/-- The sequencing rule. -/
theorem Part.bind {f : α → InstallerM β} {R : History Calls → β → Prop} (h : Part argv m P)
    (hf : ∀ tr a, P tr a → Part argv (f a) fun tr' b => R (tr ++ tr') b) :
    Part argv (m >>= f) R := by
  intro past hpast
  rw [Action.bind_run]
  refine (h past hpast).bind ?_
  rintro _ a _ ⟨rfl, tr, rfl, hplain, hP⟩
  have hpast' : ∀ e ∈ past ++ tr, ¬ e.cmd.Installs := by
    intro e he
    rcases List.mem_append.mp he with he | he
    · exact hpast e he
    · exact (hplain e he).not_installs
  refine (hf tr a hP _ hpast').mono ?_
  rintro _ b _ ⟨rfl, tr', rfl, hplain', hR⟩
  refine ⟨rfl, tr ++ tr', List.append_assoc .., ?_, hR⟩
  exact List.forall_mem_append.mpr ⟨hplain, hplain'⟩

/-- One plain call. -/
theorem Part.call {c : SystemCall} {P : History Calls → c.Answer → Prop} (hplain : c.Plain)
    (hP : ∀ r, P [.of c r] r) : Part argv (Action.call (S := Calls) c) P := by
  intro past hpast
  refine ⟨?_, fun r => ⟨rfl, [.of c r], rfl, ?_, hP r⟩⟩
  · cases c with
    | run cwd command =>
      exact ⟨rfl, hpast, fun deb hdeb => absurd ⟨deb, hdeb⟩ hplain⟩
    | capture command => exact rfl
    | _ => exact trivial
  · simpa using hplain

/-- Commands that are run one after the other, up to the first that fails. -/
theorem part_runAll (commands : List (Option Path × List Path))
    (hcommands : ∀ command ∈ commands, (SystemCall.run command.1 command.2).Plain) :
    Part argv (runAll commands) fun tr ok => ok = true →
      tr = commands.map fun command => .of (.run command.1 command.2) (0 : ℤ) := by
  induction commands with
  | nil => exact .pure fun _ => rfl
  | cons command commands ih =>
    obtain ⟨hcommand, hcommands⟩ := List.forall_mem_cons.mp hcommands
    have hrun : Part argv (runCommand command.1 command.2) fun tr status =>
        tr = [.of (.run command.1 command.2) status] := Part.call hcommand fun _ => rfl
    refine hrun.bind ?_
    rintro _ status rfl
    split_ifs with hstatus
    · subst hstatus
      exact (ih hcommands).mono fun tr ok h hok => by rw [h hok]; rfl
    · exact .pure nofun

theorem part_captureCommand (command : List Path) (capacity : ℕ) :
    Part argv (captureCommand command capacity) fun tr out => ∃ answer,
      tr = [.of (.capture command) answer] ∧
        ∀ text, out = some text → answer.1 = 0 ∧ text = answer.2.take (capacity - 1) := by
  refine (Part.call (c := .capture command) id fun _ => rfl :
    Part argv _ fun tr answer => tr = [.of (.capture command) answer]).bind ?_
  rintro _ answer rfl
  refine .pure ⟨answer, rfl, fun text htext => ?_⟩
  obtain ⟨⟨hstatus, -⟩, htext⟩ := Option.ite_none_right_eq_some.mp htext
  exact ⟨hstatus, (Option.some.inj htext).symm⟩

/-- A command that is found is in one of the directories. -/
theorem part_anyExecutable (name : Path) (parts : List Path) :
    Part argv (anyExecutable name parts) fun tr found => found = true →
      ∃ part ∈ parts, .of (.access (part ++ separator :: name)) true ∈ tr := by
  induction parts with
  | nil => exact .pure nofun
  | cons part parts ih =>
    have hrest : Part argv (anyExecutable name parts) fun tr found => found = true →
        ∃ part' ∈ part :: parts, .of (.access (part' ++ separator :: name)) true ∈ tr := by
      refine ih.mono fun tr found h hfound => ?_
      obtain ⟨part', hpart', hmem⟩ := h hfound
      exact ⟨part', List.mem_cons_of_mem _ hpart', hmem⟩
    simp only [anyExecutable]
    split_ifs
    · have haccess : Part argv (access (part ++ separator :: name))
          fun tr found => tr = [.of (.access (part ++ separator :: name)) found] :=
        Part.call id fun _ => rfl
      refine haccess.bind ?_
      rintro _ found rfl
      split_ifs with hfound
      · refine .pure fun _ => ⟨part, List.mem_cons_self, ?_⟩
        rw [show found = true from hfound]
        exact List.mem_cons_self
      · refine hrest.mono fun tr found h hfound => ?_
        obtain ⟨part', hpart', hmem⟩ := h hfound
        exact ⟨part', hpart', List.mem_append_right _ hmem⟩
    · exact hrest

/-- The code looks at its own `PATH`. -/
theorem part_get : Part argv Action.get fun tr env => tr = [] ∧ env = some trustedPath :=
  fun past _ => ⟨rfl, [], (List.append_nil past).symm, by simp, rfl, rfl⟩

theorem part_commandExists (name : Path) :
    Part argv (commandExists name) fun tr found => found = true →
      ∃ directory ∈ pathParts trustedPath,
        .of (.access (directory ++ separator :: name)) true ∈ tr := by
  refine part_get.bind ?_
  rintro _ _ ⟨rfl, rfl⟩
  dsimp only
  split_ifs
  · exact .pure nofun
  · have hcopy : Part argv (strdup trustedPath) fun _ _ => True :=
      Part.call id fun _ => trivial
    refine hcopy.bind fun tr copied _ => ?_
    split_ifs
    · refine (part_anyExecutable name _).mono fun tr' found h hfound => ?_
      obtain ⟨directory, hdirectory, hmem⟩ := h hfound
      exact ⟨directory, hdirectory, List.mem_append_right _ (List.mem_append_right _ hmem)⟩
    · exact .pure nofun

theorem part_allExist (names : List Path) :
    Part argv (allExist names) fun tr ok => ok = true →
      ∀ name ∈ names, ∃ directory ∈ pathParts trustedPath,
        .of (.access (directory ++ separator :: name)) true ∈ tr := by
  induction names with
  | nil => exact .pure fun _ => by simp
  | cons name names ih =>
    refine (part_commandExists name).bind fun tr found hfound => ?_
    split_ifs with h
    · refine ih.mono fun tr' ok hrest hok => ?_
      refine List.forall_mem_cons.mpr ⟨?_, fun other hother => ?_⟩
      · obtain ⟨directory, hdirectory, hmem⟩ := hfound h
        exact ⟨directory, hdirectory, List.mem_append_left _ hmem⟩
      · obtain ⟨directory, hdirectory, hmem⟩ := hrest hok other hother
        exact ⟨directory, hdirectory, List.mem_append_right _ hmem⟩
    · exact .pure nofun

theorem part_buildPrerequisitesAvailable :
    Part argv buildPrerequisitesAvailable fun tr ok => ok = true → PrerequisitesFound tr := by
  refine (part_allExist required).bind fun tr found hfound => ?_
  split_ifs with h
  · refine (part_runAll [(none, gtkArgv), (none, geocodeArgv)] ?_).mono ?_
    · simp only [List.forall_mem_cons, List.not_mem_nil, false_implies, implies_true, and_true]
      exact ⟨not_installs (by decide), not_installs (by decide)⟩
    · rintro tr' ok hrun hok
      obtain rfl := hrun hok
      refine ⟨fun name hname => ?_, by simp, by simp⟩
      obtain ⟨directory, hdirectory, hmem⟩ := hfound h name hname
      exact ⟨directory, hdirectory, List.mem_append_left _ hmem⟩
  · exact .pure nofun

/-- Where nothing is missing in the end, a check has found everything. -/
theorem part_ensurePrerequisites :
    Part argv ensurePrerequisites fun tr message => message = none →
      ∃ check, PrerequisitesFound check ∧ check.Sublist tr := by
  refine part_buildPrerequisitesAvailable.bind fun tr₁ available havailable => ?_
  split_ifs with h
  · exact .pure fun _ => ⟨tr₁, havailable h, by simp⟩
  refine (part_commandExists _).bind fun tr₂ apt _ => ?_
  split_ifs
  · exact .pure nofun
  refine (part_commandExists _).bind fun tr₃ hasSudo _ => ?_
  split_ifs
  · exact .pure nofun
  refine (part_runAll [(none, updateArgv), (none, prerequisitesArgv)] ?_).bind
    fun tr₄ installed _ => ?_
  · simp only [List.forall_mem_cons, List.not_mem_nil, false_implies, implies_true, and_true]
    exact ⟨not_installs (by decide), not_installs (by decide)⟩
  split_ifs
  · exact .pure nofun
  refine part_buildPrerequisitesAvailable.bind fun tr₅ available hfound => ?_
  cases available with
  | false => exact .pure nofun
  | true =>
    refine .pure fun _ => ⟨tr₅, hfound rfl, ?_⟩
    simp only [List.append_nil]
    iterate 3 refine List.Sublist.trans ?_ (List.sublist_append_right _ _)
    exact List.sublist_append_right _ _

theorem part_compilerSupportsGccPgo :
    Part argv compilerSupportsGccPgo fun tr ok => ok = true →
      ∃ answer, tr = [.of (.capture compilerArgv) answer] ∧ answer.1 = 0 ∧
        namesGcc (answer.2.take 1023) = true := by
  refine (part_captureCommand compilerArgv 1024).bind ?_
  rintro tr out ⟨answer, rfl, hout⟩
  cases out with
  | none => exact .pure nofun
  | some output =>
    obtain ⟨hstatus, rfl⟩ := hout output rfl
    exact .pure fun hgcc => ⟨answer, rfl, hstatus, hgcc⟩

theorem part_extractPayload (self destination : Path) :
    Part argv (extractPayload self destination) fun tr ok => ok = true →
      ∃ archive unlinked, tr = [.of (.copyPayload self) (some archive),
        .of (.run none (tarArgv archive destination)) (0 : ℤ), .of (.unlink archive) unlinked] := by
  have hcopy : Part argv (copyPayload self) fun tr copied =>
      tr = [.of (.copyPayload self) copied] := Part.call id fun _ => rfl
  refine hcopy.bind ?_
  rintro _ copied rfl
  cases copied with
  | none => exact .pure nofun
  | some archive =>
    have hrun : Part argv (runCommand none (tarArgv archive destination)) fun tr status =>
        tr = [.of (.run none (tarArgv archive destination)) status] :=
      Part.call (not_installs_cons (by decide)) fun _ => rfl
    refine hrun.bind ?_
    rintro _ status rfl
    have hunlink : Part argv (unlink archive) fun tr unlinked =>
        tr = [.of (.unlink archive) unlinked] := Part.call id fun _ => rfl
    refine hunlink.bind ?_
    rintro _ unlinked rfl
    refine .pure fun hstatus => ⟨archive, unlinked, ?_⟩
    rw [show status = 0 from of_decide_eq_true hstatus]
    rfl

theorem part_executablePath (argv0 : Option Path) (capacity : ℕ) :
    Part argv (executablePath argv0 capacity) fun _ _ => True := by
  have hlink : Part argv readlink fun _ _ => True :=
    Part.call id fun _ => trivial
  refine hlink.bind fun tr link _ => ?_
  cases link with
  | none => cases argv0 <;> exact .pure trivial
  | some out =>
    dsimp only
    split_ifs
    · exact .pure trivial
    · cases argv0 <;> exact .pure trivial

/-- The package that is found is the only one. -/
theorem part_findDebianPackage (directory : Path) (capacity : ℕ) :
    Part argv (findDebianPackage directory capacity) fun tr found => ∀ deb, found = some deb →
      ∃ names name, tr = [.of (.readdir directory) (some names)] ∧
        names.filter isDebianPackage = [name] ∧ deb = directory ++ separator :: name := by
  have hlist : Part argv (readdir directory) fun tr listing =>
      tr = [.of (.readdir directory) listing] := Part.call id fun _ => rfl
  refine hlist.bind ?_
  rintro _ listing rfl
  cases listing with
  | none => exact .pure nofun
  | some names =>
    refine .pure fun deb hdeb => ?_
    obtain ⟨name, hname, hfitted⟩ := findPackage_eq_some.mp hdeb
    exact ⟨names, name, rfl, hname, (fitted_eq_some.mp hfitted).2.symm⟩

end Parts

/-! ## Arguments that are not cut -/

theorem cut_eq {capacity : ℕ} {text : Path} (h : text.length ≤ capacity - 1) :
    cut capacity text = text := List.take_of_length_le h

/-- Flags and paths that fit their own buffers reach CMake in full. -/
theorem configureArgv_eq (p : Preparation) {profile flags profileData : Path}
    (hprofile : profile.length ≤ 31) (hflags : flags.length < pathMax + 128 - 1)
    (hdata : profileData.length < pathMax - 1) :
    configureArgv p.work p.build profile flags profileData =
      p.configure profile flags profileData := by
  have hprofileName : (bytes "-DSYSTEM_SETTINGS_BUILD_PROFILE=").length = 32 := by decide +kernel
  have hflagsName : (bytes "-DCMAKE_C_FLAGS_RELEASE=").length = 24 := by decide +kernel
  have hdataName : (bytes "-DSYSTEM_SETTINGS_NATIVE_PROFILE_DATA_DIR=").length = 42 := by
    decide +kernel
  simp only [pathMax] at hflags hdata
  rw [configureArgv, Preparation.configure, cut_eq, cut_eq, cut_eq]
  · rw [List.length_append, hdataName, pathMax]
    omega
  · rw [List.length_append, hflagsName, pathMax]
    omega
  · rw [List.length_append, hprofileName]
    omega

/-! ## What is prepared stays prepared -/

theorem Prepared.append {past : History Calls} {deb : Path} (h : Prepared past deb)
    (tr : History Calls) : Prepared (past ++ tr) deb := by
  obtain ⟨p, hsound, hcalls, hname⟩ := h
  exact ⟨p, hsound, hcalls.trans (List.sublist_append_left _ _), hname⟩

/-- The package has been installed, and both programs are there. -/
def Installed (past : History Calls) (deb : Path) : Prop :=
  [Event.of (S := Calls) (.run none (installArgv deb)) (0 : ℤ),
    .of (.access programsPath) true, .of (.access commandsPath) true].Sublist past

/-- What was asked for has been done with a package that was prepared. -/
def Delivered (argv : List Path) (past : History Calls) : Prop :=
  ∃ deb, Prepared past deb ∧
    (AsksForBuildOnly argv ∨ argv.length = 1 ∧ Installed past deb)

/-! ## The end of a run -/

section Endings

variable {argv : List Path} {work : Path} {past : History Calls} {P : History Calls → Prop}
  {α : Type}

/-- The call neither makes nor removes a workspace. -/
def SystemCall.Keeps (c : SystemCall) : Prop := c ≠ .mkdtemp ∧ ∀ path, c ≠ .removeTree path

theorem SystemCall.Plain.keeps {c : SystemCall} (h : c.Plain) : c.Keeps := by
  constructor
  · rintro rfl
    exact h
  · rintro path rfl
    exact h

/-- The rest of a run, which removes the workspace once and last. `P` holds before that
when success is reported. -/
def Ending (argv : List Path) (work : Path) (m : InstallerM Exit) (past : History Calls)
    (P : History Calls → Prop) : Prop :=
  (m (some trustedPath)).Guarded (Allowed argv) (fun all exit _ => ∃ tr removed,
    all = past ++ tr ++ [.of (.removeTree work) removed] ∧ (∀ e ∈ tr, e.cmd.Keeps) ∧
      (exit.status = 0 → P (past ++ tr))) past

theorem Ending.append {tr : History Calls} {m : InstallerM Exit}
    (h : Ending argv work m (past ++ tr) P) (hkeeps : ∀ e ∈ tr, e.cmd.Keeps) :
    (m (some trustedPath)).Guarded (Allowed argv) (fun all exit _ => ∃ tr removed,
      all = past ++ tr ++ [.of (.removeTree work) removed] ∧ (∀ e ∈ tr, e.cmd.Keeps) ∧
        (exit.status = 0 → P (past ++ tr))) (past ++ tr) := by
  refine h.mono ?_
  rintro _ exit _ ⟨tr', removed, rfl, hkeeps', hP⟩
  rw [List.append_assoc past] at hP ⊢
  exact ⟨tr ++ tr', removed, rfl, List.forall_mem_append.mpr ⟨hkeeps, hkeeps'⟩, hP⟩

/-- A part comes before the end. -/
theorem Ending.bind {m : InstallerM α} {f : α → InstallerM Exit} {R : History Calls → α → Prop}
    (hm : Part argv m R) (hpast : ∀ e ∈ past, ¬ e.cmd.Installs)
    (hf : ∀ tr a, R tr a → (∀ e ∈ past ++ tr, ¬ e.cmd.Installs) →
      Ending argv work (f a) (past ++ tr) P) : Ending argv work (m >>= f) past P := by
  unfold Ending
  rw [Action.bind_run]
  refine (hm past hpast).bind ?_
  rintro _ a _ ⟨rfl, tr, rfl, hplain, hR⟩
  refine (hf tr a hR ?_).append fun e he => (hplain e he).keeps
  exact List.forall_mem_append.mpr ⟨hpast, fun e he => (hplain e he).not_installs⟩

/-- A call comes before the end. -/
theorem Ending.call {c : SystemCall} {f : c.Answer → InstallerM Exit}
    (hallowed : Allowed argv past c (some trustedPath)) (hkeeps : c.Keeps)
    (hf : ∀ r, Ending argv work (f r) (past ++ [.of c r]) P) :
    Ending argv work (Action.call (S := Calls) c >>= f) past P := by
  refine ⟨hallowed, fun r => (hf r).append ?_⟩
  simpa using hkeeps

/-- A failure removes the workspace and reports no success. -/
theorem ending_discard (message : String) : Ending argv work (discard work message) past P :=
  ⟨trivial, fun removed => ⟨[], removed, by rw [List.append_nil], by simp, nofun⟩⟩

theorem ending_finish (h : P past) : Ending argv work (finish work) past P := by
  refine ⟨trivial, fun removed => ⟨[], removed, by rw [List.append_nil], by simp, fun _ => ?_⟩⟩
  rwa [List.append_nil]

/-- The package is installed when it is prepared. -/
theorem ending_installPackage {deb : Path} (hpast : ∀ e ∈ past, ¬ e.cmd.Installs)
    (hargs : argv.length = 1) (hprepared : Prepared past deb) :
    Ending argv work (installPackage work deb) past (Delivered argv) := by
  refine Ending.call (c := .run none (installArgv deb)) ⟨rfl, hpast, ?_⟩ ⟨nofun, nofun⟩
    fun status => ?_
  · rintro deb' hdeb
    obtain rfl : deb = deb' := by simpa [installArgv] using hdeb
    exact ⟨rfl, hargs, hprepared⟩
  split_ifs with hstatus
  · exact ending_discard _
  obtain rfl : status = (0 : ℤ) := not_not.mp hstatus
  rw [programsInstalled, bind_assoc]
  refine Ending.call (c := .access programsPath) trivial ⟨nofun, nofun⟩ fun programs => ?_
  split_ifs with hprograms
  · obtain rfl : programs = true := hprograms
    refine Ending.call (c := .access commandsPath) trivial ⟨nofun, nofun⟩ fun commands => ?_
    split_ifs with hcommands
    · obtain rfl : commands = true := hcommands
      refine ending_finish ⟨deb, ?_, .inr ⟨hargs, ?_⟩⟩
      · simpa only [List.append_assoc] using hprepared.append _
      · simp only [Installed, List.append_assoc]
        exact List.sublist_append_right _ _
    · exact ending_discard _
  · rw [pure_bind]
    exact ending_discard _

/-- Everything that is built before the package is looked for. -/
theorem ending_buildPackage (p : Preparation) (hsound : p.Sound)
    (hpast : ∀ e ∈ past, ¬ e.cmd.Installs)
    (hdone : (p.checks ++ p.extraction).Sublist past)
    (hpgo : p.pgo.length < pathMax - 1)
    (hgenerate : (generateFlags p.pgo).length < pathMax + 128 - 1)
    (hfinal : (finalFlags p.pgo).length < pathMax + 128 - 1) {buildOnly : Bool}
    (hargs : if buildOnly then AsksForBuildOnly argv else argv.length = 1) :
    Ending argv p.work (buildPackage p.work p.build p.pgo p.jobs buildOnly) past
      (Delivered argv) := by
  have hgeneric : (bytes "generic").length ≤ 31 := by decide
  have hnative : (bytes "native").length ≤ 31 := by decide
  have hnil : ([] : Path).length < pathMax - 1 := by decide
  have hcmake {cwd : Option Path} {rest : List Path} :
      (SystemCall.run cwd (bytes "cmake" :: rest)).Plain := not_installs_cons (by decide)
  have hctest {cwd : Option Path} : (SystemCall.run cwd (testArgv p.build)).Plain :=
    not_installs_cons (by decide)
  have hcpack {cwd : Option Path} : (SystemCall.run cwd cpackArgv).Plain :=
    not_installs_cons (by decide)
  unfold buildPackage
  rw [configureArgv_eq p hgeneric hgenerate hnil, configureArgv_eq p hnative hfinal hpgo]
  refine Ending.bind (part_runAll _ (by simpa using ⟨hcmake, hcmake, hctest⟩)) hpast
    fun tr trained htrained hpast => ?_
  cases trained with
  | false => exact ending_discard _
  | true =>
  obtain rfl : tr = p.training := htrained rfl
  replace hdone := hdone.append (List.Sublist.refl p.training)
  refine Ending.bind (part_runAll _ (by simpa using ⟨hcmake, hcmake⟩)) hpast
    fun tr built hbuilt hpast => ?_
  cases built with
  | false => exact ending_discard _
  | true =>
  obtain rfl : tr = p.optimised := hbuilt rfl
  replace hdone := hdone.append (List.Sublist.refl p.optimised)
  refine Ending.bind (part_runAll _ (by simpa using hctest)) hpast
    fun tr tested htested hpast => ?_
  cases tested with
  | false => exact ending_discard _
  | true =>
  obtain rfl : tr = p.tests := htested rfl
  replace hdone := hdone.append (List.Sublist.refl p.tests)
  refine Ending.bind (part_runAll _ (by simpa using hcpack)) hpast
    fun tr packaged hpackaged hpast => ?_
  cases packaged with
  | false => exact ending_discard _
  | true =>
  obtain rfl : tr = p.packaging := hpackaged rfl
  replace hdone := hdone.append (List.Sublist.refl p.packaging)
  refine Ending.bind (part_findDebianPackage p.build pathMax) hpast fun tr found hfound hpast => ?_
  cases found with
  | none => exact ending_discard _
  | some deb =>
  obtain ⟨names, name, rfl, hname, rfl⟩ := hfound deb rfl
  replace hdone := hdone.append (List.Sublist.refl [.of (.readdir p.build) (some names)])
  have hprepared : Prepared _ (p.build ++ separator :: name) :=
    ⟨{ p with names := names },
      ⟨hsound.ordinary, hsound.prerequisites, hsound.compiled, hsound.gcc⟩, hdone, name, hname, rfl⟩
  cases buildOnly with
  | true => exact ending_finish ⟨_, hprepared, .inl hargs⟩
  | false => exact ending_installPackage hpast hargs hprepared

/-- The rest of a run from the extraction on. -/
theorem ending_inWorkspace (p : Preparation) (hsound : p.Sound)
    (hpast : ∀ e ∈ past, ¬ e.cmd.Installs)
    (hdone : (p.checks ++ ([.of .mkdtemp (some p.work)] : History Calls)).Sublist past)
    {buildOnly : Bool} (hargs : if buildOnly then AsksForBuildOnly argv else argv.length = 1) :
    Ending argv p.work (inWorkspace p.self p.work buildOnly) past (Delivered argv) := by
  refine Ending.bind (part_extractPayload p.self p.work) hpast
    fun tr extracted hextracted hpast => ?_
  cases extracted with
  | false => exact ending_discard _
  | true =>
  obtain ⟨archive, unlinked, rfl⟩ := hextracted rfl
  simp only [Bool.not_true, Bool.false_eq_true, if_false]
  cases hbuild : fitted pathMax (p.work ++ bytes "/build") with
  | none => exact ending_discard _
  | some build =>
  cases hpgo : fitted pathMax (p.work ++ bytes "/pgo") with
  | none => exact ending_discard _
  | some pgo =>
  obtain ⟨-, rfl⟩ := fitted_eq_some.mp hbuild
  obtain ⟨hshort, rfl⟩ := fitted_eq_some.mp hpgo
  refine Ending.call (c := .mkdir (p.work ++ bytes "/pgo")) trivial ⟨nofun, nofun⟩ fun made => ?_
  cases made with
  | false => exact ending_discard _
  | true =>
  simp only [Bool.not_true, Bool.false_eq_true, if_false]
  cases hgenerate : fitted (pathMax + 128) (generateFlags (p.work ++ bytes "/pgo")) with
  | none => exact ending_discard _
  | some generate =>
  cases hfinal : fitted (pathMax + 128) (finalFlags (p.work ++ bytes "/pgo")) with
  | none => exact ending_discard _
  | some final =>
  refine Ending.call (c := .sysconf) trivial ⟨nofun, nofun⟩ fun processors => ?_
  refine ending_buildPackage { p with archive := archive, jobs := jobsText processors }
    ⟨hsound.ordinary, hsound.prerequisites, hsound.compiled, hsound.gcc⟩ ?_ ?_ hshort
    (fitted_eq_some.mp hgenerate).1 (fitted_eq_some.mp hfinal).1 hargs
  · intro e he
    simp only [List.mem_append, List.mem_singleton] at he
    rcases he with (he | rfl) | rfl
    · exact hpast e (List.mem_append.mpr he)
    · exact id
    · exact id
  · have hextraction : List.Sublist
        ([.of (.copyPayload p.self) (some archive),
          .of (.run none (tarArgv archive p.work)) (0 : ℤ),
          .of (.mkdir (p.work ++ bytes "/pgo")) true] : History Calls)
        ([.of (.copyPayload p.self) (some archive),
          .of (.run none (tarArgv archive p.work)) (0 : ℤ), .of (.unlink archive) unlinked,
          .of (.mkdir (p.work ++ bytes "/pgo")) true, .of .sysconf processors]) :=
      .cons_cons _ (.cons_cons _ (.cons _ (.cons_cons _ (.cons _ .slnil))))
    have hall := hdone.append hextraction
    rw [List.append_assoc] at hall
    simp only [List.append_assoc]
    exact hall

end Endings

/-! ## Whole runs -/

/-- The payload has been extracted into a new directory. -/
def Extracted (past : History Calls) (directory : Path) : Prop :=
  ∃ self archive, List.Sublist
    ([.of (.mkdir directory) true, .of (.copyPayload self) (some archive),
      .of (.run none (tarArgv archive directory)) (0 : ℤ)] : History Calls) past

/-- The directory is removed as the last thing that is done, and nothing before it. -/
def RemovedLast (past : History Calls) (directory : Path) : Prop :=
  ∃ before removed, past = before ++ [.of (.removeTree directory) removed] ∧
    ∀ e ∈ before, ∀ path, e.cmd ≠ .removeTree path

/-- How a run ends. -/
structure Finished (argv : List Path) (past : History Calls) (exit : Exit) : Prop where
  /-- a workspace that was made is removed -/
  workspace : ∀ work, Event.of (S := Calls) .mkdtemp (some work) ∈ past → RemovedLast past work
  /-- without one, only the directory that an extraction made and could not fill is removed -/
  otherwise : (∀ work, Event.of (S := Calls) .mkdtemp (some work) ∉ past) →
    ∀ e ∈ past, ∀ path, e.cmd = .removeTree path → AsksForExtraction argv path ∧
      Event.of (S := Calls) (.mkdir path) true ∈ past ∧ RemovedLast past path ∧ exit.status ≠ 0
  /-- success is reported when what was asked for has been done -/
  success : exit.status = 0 → AsksForHelp argv ∨
    (∃ directory, AsksForExtraction argv directory ∧ Extracted past directory) ∨
      Delivered argv past

section Runs

variable {argv : List Path} {past : History Calls} {α : Type}

theorem Delivered.append (h : Delivered argv past) (tr : History Calls) :
    Delivered argv (past ++ tr) := by
  obtain ⟨deb, hprepared, hdone⟩ := h
  refine ⟨deb, hprepared.append tr, ?_⟩
  refine hdone.imp_right ?_
  rintro ⟨hargs, hinstalled⟩
  exact ⟨hargs, hinstalled.trans (List.sublist_append_left _ _)⟩

/-- A run that has neither made nor removed a workspace. -/
theorem Finished.of_keeps {exit : Exit}
    (hpast : ∀ e ∈ past, (∀ work, e ≠ Event.of (S := Calls) .mkdtemp (some work)) ∧
      ∀ path, e.cmd ≠ .removeTree path)
    (hsuccess : exit.status = 0 → AsksForHelp argv ∨
      (∃ directory, AsksForExtraction argv directory ∧ Extracted past directory) ∨
        Delivered argv past) : Finished argv past exit where
  workspace := fun work hwork => absurd rfl ((hpast _ hwork).1 work)
  otherwise := fun _ e he path hpath => absurd hpath ((hpast e he).2 path)
  success := hsuccess

theorem keeps_of_plain {e : Event Calls Unit} (h : e.cmd.Plain) :
    (∀ work, e ≠ Event.of (S := Calls) .mkdtemp (some work)) ∧
      ∀ path, e.cmd ≠ .removeTree path := by
  refine ⟨?_, h.keeps.2⟩
  rintro work rfl
  exact h

/-- A run that has made a workspace and removed it. -/
theorem Finished.of_ending {work : Path} {rest : History Calls} {exit : Exit}
    (hpast : ∀ e ∈ past, e.cmd.Plain) (hrest : ∀ e ∈ rest, e.cmd.Keeps) (removed : Bool)
    (hsuccess : exit.status = 0 → Delivered argv (past ++ [.of .mkdtemp (some work)] ++ rest)) :
    Finished argv (past ++ [.of .mkdtemp (some work)] ++ rest ++
      [.of (.removeTree work) removed]) exit := by
  refine ⟨fun other hother => ?_, fun hnone => ?_, fun hstatus => ?_⟩
  · have hsame : work = other := by
      simp only [List.mem_append, List.mem_singleton] at hother
      rcases hother with ((hother | hother) | hother) | hother
      · exact absurd rfl ((keeps_of_plain (hpast _ hother)).1 other)
      · cases hother
        rfl
      · exact absurd rfl (hrest _ hother).1
      · cases hother
    subst hsame
    refine ⟨_, removed, rfl, fun e he path => ?_⟩
    simp only [List.mem_append, List.mem_singleton] at he
    rcases he with (he | rfl) | he
    · exact (hpast e he).keeps.2 path
    · exact nofun
    · exact (hrest e he).2 path
  · exact absurd (by simp) (hnone work)
  · exact .inr (.inr ((hsuccess hstatus).append _))

/-- A part comes first. -/
theorem Part.guarded {m : InstallerM α} {f : α → InstallerM Exit} {R : History Calls → α → Prop}
    (hm : Part argv m R) (hpast : ∀ e ∈ past, e.cmd.Plain)
    {Q : History Calls → Exit → Option Path → Prop}
    (hf : ∀ tr a, R tr a → (∀ e ∈ past ++ tr, e.cmd.Plain) →
      (f a (some trustedPath)).Guarded (Allowed argv) Q (past ++ tr)) :
    ((m >>= f) (some trustedPath)).Guarded (Allowed argv) Q past := by
  rw [Action.bind_run]
  refine (hm past fun e he => (hpast e he).not_installs).bind ?_
  rintro _ a _ ⟨rfl, tr, rfl, hplain, hR⟩
  exact hf tr a hR (List.forall_mem_append.mpr ⟨hpast, hplain⟩)

/-- A failure before there is a workspace. -/
theorem guarded_fail (hpast : ∀ e ∈ past, e.cmd.Plain) (message : String) :
    ((pure (fail message) : InstallerM Exit) (some trustedPath)).Guarded (Allowed argv)
      (fun all exit _ => Finished argv all exit) past :=
  Finished.of_keeps (fun e he => keeps_of_plain (hpast e he)) nofun

theorem guarded_extractMain {self directory : Path} (hpast : ∀ e ∈ past, e.cmd.Plain)
    (hargs : AsksForExtraction argv directory) :
    (extractMain self directory (some trustedPath)).Guarded (Allowed argv)
      (fun all exit _ => Finished argv all exit) past := by
  unfold extractMain
  split_ifs
  · exact guarded_fail hpast _
  have hmkdir : Part argv (mkdir directory) fun tr made => tr = [.of (.mkdir directory) made] :=
    Part.call id fun _ => rfl
  refine hmkdir.guarded hpast ?_
  rintro _ made rfl hpast
  cases made with
  | false => exact guarded_fail hpast _
  | true =>
  refine (part_extractPayload self directory).guarded hpast fun tr extracted hextracted hpast' => ?_
  cases extracted with
  | true =>
    obtain ⟨archive, unlinked, rfl⟩ := hextracted rfl
    refine Finished.of_keeps (fun e he => keeps_of_plain (hpast' e he)) fun _ => .inr (.inl ?_)
    refine ⟨directory, hargs, self, archive, ?_⟩
    rw [List.append_assoc]
    refine List.Sublist.trans ?_ (List.sublist_append_right past _)
    exact .cons_cons _ (.cons_cons _ (.cons_cons _ (.cons _ .slnil)))
  | false =>
    refine ⟨trivial, fun removed => ?_⟩
    have hlast : RemovedLast (past ++ [.of (.mkdir directory) true] ++ tr ++
        [.of (.removeTree directory) removed]) directory :=
      ⟨_, removed, rfl, fun e he => (hpast' e he).keeps.2⟩
    refine ⟨fun work hwork => ?_, fun _ e he path hpath => ?_, nofun⟩
    · rcases List.mem_append.mp hwork with hwork | hwork
      · exact absurd rfl ((keeps_of_plain (hpast' _ hwork)).1 work)
      · cases List.mem_singleton.mp hwork
    · obtain rfl : directory = path := by
        rcases List.mem_append.mp he with he | he
        · exact absurd hpath ((hpast' e he).keeps.2 path)
        · obtain rfl := List.mem_singleton.mp he
          exact SystemCall.removeTree.inj hpath
      exact ⟨hargs, by simp, hlast, nofun⟩

theorem guarded_buildMain {self : Path} {buildOnly : Bool} (hpast : ∀ e ∈ past, e.cmd.Plain)
    (hset : List.Sublist ([.of (.setenv trustedPath) true] : History Calls) past)
    (hargs : if buildOnly then AsksForBuildOnly argv else argv.length = 1) :
    (buildMain self buildOnly (some trustedPath)).Guarded (Allowed argv)
      (fun all exit _ => Finished argv all exit) past := by
  have hgeteuid : Part argv geteuid fun tr uid => tr = [.of .geteuid uid] :=
    Part.call id fun _ => rfl
  refine hgeteuid.guarded hpast ?_
  rintro _ uid rfl hpast
  split_ifs with hroot
  · exact guarded_fail hpast _
  refine part_ensurePrerequisites.guarded hpast fun tr message hmessage hpast => ?_
  cases message with
  | some message => exact guarded_fail hpast _
  | none =>
  obtain ⟨check, hfound, hcheck⟩ := hmessage rfl
  have hsudo : Part argv (sudoForInstallation buildOnly) fun _ _ => True := by
    unfold sudoForInstallation
    split_ifs
    · exact .pure trivial
    · exact (part_commandExists _).mono fun _ _ _ => trivial
  refine hsudo.guarded hpast fun tr' hasSudo _ hpast => ?_
  cases hasSudo with
  | false => exact guarded_fail hpast _
  | true =>
  refine part_compilerSupportsGccPgo.guarded hpast fun tr'' gcc hgcc hpast => ?_
  cases gcc with
  | false => exact guarded_fail hpast _
  | true =>
  obtain ⟨compiler, rfl, hcompiled, hgcc⟩ := hgcc rfl
  refine ⟨trivial, fun work => ?_⟩
  cases work with
  | none =>
    refine Finished.of_keeps (fun e he => ?_) nofun
    rcases List.mem_append.mp he with he | he
    · exact keeps_of_plain (hpast e he)
    · obtain rfl := List.mem_singleton.mp he
      exact ⟨nofun, nofun⟩
  | some work =>
    let p : Preparation := ⟨uid, check, compiler, self, work, [], [], []⟩
    have hdone : (p.checks ++ ([.of .mkdtemp (some work)] : History Calls)).Sublist
        (past ++ [.of .geteuid uid] ++ tr ++ tr' ++ [.of (.capture compilerArgv) compiler] ++
          [.of .mkdtemp (some work)]) := by
      refine List.Sublist.append ?_ (.refl _)
      refine List.Sublist.append ?_ (.refl _)
      refine List.Sublist.trans ?_ (List.sublist_append_left _ tr')
      exact (hset.append (.refl [.of .geteuid uid])).append hcheck
    have hinstalls : ∀ e ∈ past ++ [.of .geteuid uid] ++ tr ++ tr' ++
        [.of (.capture compilerArgv) compiler] ++ [.of .mkdtemp (some work)],
        ¬ SystemCall.Installs e.cmd := by
      refine List.forall_mem_append.mpr ⟨fun e he => (hpast e he).not_installs, fun e he => ?_⟩
      obtain rfl := List.mem_singleton.mp he
      exact id
    have hending := ending_inWorkspace p ⟨hroot, hfound, hcompiled, hgcc⟩ hinstalls hdone hargs
    refine Prog.Guarded.mono hending ?_
    rintro _ exit _ ⟨rest, removed, rfl, hkeeps, hsuccess⟩
    exact .of_ending hpast hkeeps removed hsuccess

theorem guarded_mainAfterOptions (hpast : ∀ e ∈ past, e.cmd.Plain)
    (hset : List.Sublist ([.of (.setenv trustedPath) true] : History Calls) past)
    (hargs : AsksForBuildOnly argv ∨ argv.length = 1 ∨
      argv.length = 3 ∧ argv[1]? = some (bytes "--extract")) :
    (mainAfterOptions argv (some trustedPath)).Guarded (Allowed argv)
      (fun all exit _ => Finished argv all exit) past := by
  refine (part_executablePath argv.head? pathMax).guarded hpast fun tr self _ hpast => ?_
  replace hset := hset.trans (List.sublist_append_left _ tr)
  cases self with
  | none => exact guarded_fail hpast _
  | some self =>
  rcases hargs with hbuildOnly | hone | ⟨hthree, hextract⟩
  · obtain ⟨argv0, option, rfl⟩ := List.length_eq_two.mp hbuildOnly.1
    refine guarded_buildMain hpast hset ?_
    rw [if_pos (decide_eq_true hbuildOnly)]
    exact hbuildOnly
  · obtain ⟨argv0, rfl⟩ := List.length_eq_one_iff.mp hone
    refine guarded_buildMain hpast hset ?_
    rw [if_neg (fun h => absurd (of_decide_eq_true h).1 (by simp))]
    exact hone
  · obtain ⟨argv0, option, directory, rfl⟩ := List.length_eq_three.mp hthree
    obtain rfl := Option.some.inj hextract
    exact guarded_extractMain hpast ⟨argv0, rfl⟩

theorem guarded_main (argv : List Path) (env : Option Path) :
    (main argv env).Guarded (Allowed argv) (fun past exit _ => Finished argv past exit) [] := by
  refine ⟨trivial, fun ok => ?_⟩
  have hplain : ∀ e ∈ ([.of (.setenv trustedPath) ok] : History Calls), e.cmd.Plain := by
    intro e he
    obtain rfl := List.mem_singleton.mp he
    exact id
  cases ok with
  | false => exact guarded_fail hplain _
  | true =>
  change (mainOptions argv (some trustedPath)).Guarded _ _ [.of (.setenv trustedPath) true]
  unfold mainOptions
  split_ifs with hhelp hargs
  · exact Finished.of_keeps (fun e he => keeps_of_plain (hplain e he)) fun _ => .inl hhelp
  · exact guarded_mainAfterOptions hplain (.refl _) hargs
  · exact Finished.of_keeps (fun e he => keeps_of_plain (hplain e he)) nofun

end Runs

/-! ## When everything goes well -/

/-- A call goes well: it succeeds, the user is not root, the compiler names GCC, the paths are
short enough, and there is exactly one package with a short name. -/
def Favourable : (c : SystemCall) → c.Answer → Prop
  | .setenv _, ok | .strdup _, ok | .access _, ok | .mkdir _, ok | .unlink _, ok
  | .removeTree _, ok => ok = true
  | .run _ _, status => status = (0 : ℤ)
  | .capture _, (status, output) => status = 0 ∧ namesGcc (output.take 1023) = true
  | .readlink, link => ∃ path : Path, link = some path ∧ path ≠ [] ∧ path.length < pathMax
  | .mkdtemp, work => ∃ path : Path, work = some path ∧ path.length < 4000
  | .copyPayload _, archive => archive ≠ none
  | .geteuid, uid => uid ≠ (0 : ℕ)
  | .sysconf, _ => True
  | .readdir _, listing => ∃ (names : List Name) (name : Name), listing = some names ∧
      names.filter isDebianPackage = [name] ∧ name.length < 64

/-- A part that goes well returns what satisfies `P`. -/
abbrev Well {α : Type} (m : InstallerM α) (P : α → Prop) : Prop :=
  (m (some trustedPath)).Under (fun _ => True) Favourable
    fun a env => P a ∧ env = some trustedPath

section Well

variable {α β : Type} {m : InstallerM α} {P : α → Prop}

theorem Well.bind {f : α → InstallerM β} {R : β → Prop} (h : Well m P)
    (hf : ∀ a, P a → Well (f a) R) : Well (m >>= f) R := by
  refine Prog.Under.bind h ?_
  rintro a _ ⟨hP, rfl⟩
  exact hf a hP

theorem well_pure {a : α} (h : P a) : Well (pure a) P := ⟨h, rfl⟩

theorem well_call {c : SystemCall} {P : c.Answer → Prop} (h : ∀ r, Favourable c r → P r) :
    Well (Action.call (S := Calls) c) P := ⟨trivial, fun r hr => ⟨h r hr, rfl⟩⟩

theorem well_runAll (commands : List (Option Path × List Path)) :
    Well (runAll commands) (· = true) := by
  induction commands with
  | nil => exact well_pure rfl
  | cons command commands ih =>
    have hrun : Well (runCommand command.1 command.2) (· = 0) := well_call fun _ hr => hr
    refine hrun.bind ?_
    rintro _ rfl
    exact ih

theorem well_commandExists {name : Path} (hname : name ≠ []) (hshort : name.length < 64) :
    Well (commandExists name) (· = true) := by
  have hparts : pathParts trustedPath =
      bytes "/usr/local/sbin" :: (pathParts trustedPath).tail := by
    decide +kernel
  have hlength : (bytes "/usr/local/sbin").length = 15 := by decide
  have hget : Well Action.get (· = some trustedPath) := ⟨rfl, rfl⟩
  refine hget.bind ?_
  rintro _ rfl
  dsimp only
  rw [if_neg hname]
  have hcopy : Well (strdup trustedPath) (· = true) := well_call fun _ hr => hr
  refine hcopy.bind ?_
  rintro _ rfl
  rw [if_pos rfl, hparts, anyExecutable, if_pos ?_]
  · have haccess : Well (access (bytes "/usr/local/sbin" ++ separator :: name)) (· = true) :=
      well_call fun _ hr => hr
    refine haccess.bind ?_
    rintro _ rfl
    exact well_pure rfl
  · rw [List.length_append, hlength, List.length_cons, pathMax]
    omega

theorem well_allExist {names : List Path}
    (hnames : ∀ name ∈ names, name ≠ [] ∧ name.length < 64) :
    Well (allExist names) (· = true) := by
  induction names with
  | nil => exact well_pure rfl
  | cons name names ih =>
    obtain ⟨⟨hname, hshort⟩, hnames⟩ := List.forall_mem_cons.mp hnames
    refine (well_commandExists hname hshort).bind ?_
    rintro _ rfl
    exact ih hnames

theorem well_ensurePrerequisites : Well ensurePrerequisites (· = none) := by
  have hnames : ∀ name ∈ required, name ≠ [] ∧ name.length < 64 := by decide +kernel
  have havailable : Well buildPrerequisitesAvailable (· = true) := by
    refine (well_allExist hnames).bind ?_
    rintro _ rfl
    exact well_runAll _
  refine havailable.bind ?_
  rintro _ rfl
  exact well_pure rfl

theorem well_compilerSupportsGccPgo : Well compilerSupportsGccPgo (· = true) := by
  have hcapture : Well (capture compilerArgv) fun answer => answer.1 = 0 ∧
      namesGcc (answer.2.take 1023) = true := well_call fun _ hr => hr
  have hempty : namesGcc [] = false := by decide
  have houtput : Well (captureCommand compilerArgv 1024) fun out => ∃ output, out = some output ∧
      namesGcc output = true := by
    refine hcapture.bind ?_
    rintro ⟨status, output⟩ ⟨rfl, hgcc⟩
    refine well_pure ⟨output.take 1023, if_pos ⟨rfl, fun hnil => ?_⟩, hgcc⟩
    rw [show output.take (1024 - 1) = output.take 1023 from rfl] at hnil
    rw [hnil, hempty] at hgcc
    cases hgcc
  refine houtput.bind ?_
  rintro _ ⟨output, rfl, hgcc⟩
  exact well_pure hgcc

theorem well_extractPayload (self destination : Path) :
    Well (extractPayload self destination) (· = true) := by
  have hcopy : Well (copyPayload self) (· ≠ none) := well_call fun _ hr => hr
  refine hcopy.bind fun copied hcopied => ?_
  cases copied with
  | none => exact absurd rfl hcopied
  | some archive =>
    have hrun : Well (runCommand none (tarArgv archive destination)) (· = 0) :=
      well_call fun _ hr => hr
    have hunlink : Well (unlink archive) fun _ => True := well_call fun _ _ => trivial
    refine hrun.bind ?_
    rintro _ rfl
    exact hunlink.bind fun _ _ => well_pure rfl

theorem well_finish (work : Path) : Well (finish work) (·.status = 0) := by
  have hremove : Well (removeTree work) fun _ => True := well_call fun _ _ => trivial
  exact hremove.bind fun _ _ => well_pure rfl

theorem well_installPackage (work deb : Path) :
    Well (installPackage work deb) (·.status = 0) := by
  have hrun : Well (runCommand none (installArgv deb)) (· = 0) := well_call fun _ hr => hr
  have haccess (path : Path) : Well (access path) (· = true) := well_call fun _ hr => hr
  have hinstalled : Well programsInstalled (· = true) := by
    refine (haccess _).bind ?_
    rintro _ rfl
    exact haccess _
  refine hrun.bind ?_
  rintro _ rfl
  refine hinstalled.bind ?_
  rintro _ rfl
  exact well_finish work

theorem well_buildPackage {work pgo jobs : Path} (hwork : work.length < 4000) (buildOnly : Bool) :
    Well (buildPackage work (work ++ bytes "/build") pgo jobs buildOnly) (·.status = 0) := by
  have hbuild : (bytes "/build").length = 6 := by decide
  unfold buildPackage
  iterate 4
    refine (well_runAll _).bind ?_
    rintro _ rfl
    simp only [Bool.not_true, Bool.false_eq_true, if_false]
  have hlist : Well (readdir (work ++ bytes "/build")) fun listing =>
      ∃ (names : List Name) (name : Name), listing = some names ∧
        names.filter isDebianPackage = [name] ∧ name.length < 64 := well_call fun _ hr => hr
  have hfind : Well (findDebianPackage (work ++ bytes "/build") pathMax) fun found =>
      found ≠ none := by
    refine hlist.bind ?_
    rintro _ ⟨names, name, rfl, hname, hshort⟩
    refine well_pure fun hnone => ?_
    have hfitted : fitted pathMax (work ++ bytes "/build" ++ separator :: name) =
        some (work ++ bytes "/build" ++ separator :: name) := by
      refine fitted_eq_some.mpr ⟨?_, rfl⟩
      rw [List.length_append, List.length_append, hbuild, List.length_cons, pathMax]
      omega
    rw [findPackage_eq_some.mpr ⟨name, hname, hfitted⟩] at hnone
    cases hnone
  refine hfind.bind fun found hfound => ?_
  cases found with
  | none => exact absurd rfl hfound
  | some deb =>
    cases buildOnly with
    | true => exact well_finish work
    | false => exact well_installPackage work deb

theorem well_inWorkspace {self work : Path} (hwork : work.length < 4000) (buildOnly : Bool) :
    Well (inWorkspace self work buildOnly) (·.status = 0) := by
  have hbuild : (bytes "/build").length = 6 := by decide
  have hpgo : (bytes "/pgo").length = 4 := by decide
  have hgenerate : (bytes
      "-O3 -DNDEBUG -march=native -mtune=native -flto -fprofile-generate=").length = 66 := by
    decide +kernel
  have hfinal : (bytes
      "-O3 -DNDEBUG -march=native -mtune=native -flto -fprofile-use=").length = 61 := by
    decide +kernel
  have hcorrection : (bytes " -fprofile-correction -Wno-missing-profile").length = 42 := by
    decide +kernel
  have hmkdir (path : Path) : Well (mkdir path) (· = true) := well_call fun _ hr => hr
  have hsysconf : Well sysconf fun _ => True := well_call fun _ _ => trivial
  have hfitted {capacity : ℕ} {text : Path} (h : text.length < capacity - 1) :
      fitted capacity text = some text := fitted_eq_some.mpr ⟨h, rfl⟩
  refine (well_extractPayload self work).bind ?_
  rintro _ rfl
  rw [hfitted, hfitted]
  · refine (hmkdir _).bind ?_
    rintro _ rfl
    rw [hfitted, hfitted]
    · exact hsysconf.bind fun _ _ => well_buildPackage hwork buildOnly
    · simp only [finalFlags, List.length_append, hfinal, hcorrection, hpgo, pathMax]
      omega
    · simp only [generateFlags, List.length_append, hgenerate, hpgo, pathMax]
      omega
  · simp only [List.length_append, hpgo, pathMax]
    omega
  · simp only [List.length_append, hbuild, pathMax]
    omega

theorem well_buildMain (self : Path) (buildOnly : Bool) :
    Well (buildMain self buildOnly) (·.status = 0) := by
  have hgeteuid : Well geteuid (· ≠ 0) := well_call fun _ hr => hr
  have hsudo : Well (sudoForInstallation buildOnly) (· = true) := by
    unfold sudoForInstallation
    split_ifs
    · exact well_pure rfl
    · exact well_commandExists (by decide) (by decide)
  have hmkdtemp : Well mkdtemp fun work => ∃ path : Path, work = some path ∧ path.length < 4000 :=
    well_call fun _ hr => hr
  refine hgeteuid.bind fun uid huid => ?_
  rw [if_neg huid]
  refine well_ensurePrerequisites.bind ?_
  rintro _ rfl
  refine hsudo.bind ?_
  rintro _ rfl
  refine well_compilerSupportsGccPgo.bind ?_
  rintro _ rfl
  refine hmkdtemp.bind ?_
  rintro _ ⟨work, rfl, hwork⟩
  exact well_inWorkspace hwork buildOnly

theorem well_extractMain (self : Path) {directory : Path} (hdirectory : directory ≠ []) :
    Well (extractMain self directory) (·.status = 0) := by
  have hmkdir : Well (mkdir directory) (· = true) := well_call fun _ hr => hr
  unfold extractMain
  rw [if_neg hdirectory]
  refine hmkdir.bind ?_
  rintro _ rfl
  refine (well_extractPayload self directory).bind ?_
  rintro _ rfl
  exact well_pure rfl

/-- The arguments ask for the package, or for the payload in a directory with a name. -/
def AsksForWork (argv : List Path) : Prop :=
  AsksForBuildOnly argv ∨ argv.length = 1 ∨
    ∃ directory, directory ≠ [] ∧ AsksForExtraction argv directory

theorem well_mainAfterOptions {argv : List Path} (h : AsksForWork argv) :
    Well (mainAfterOptions argv) (·.status = 0) := by
  have hlink : Well readlink fun link =>
      ∃ path : Path, link = some path ∧ path ≠ [] ∧ path.length < pathMax :=
    well_call fun _ hr => hr
  have hself : Well (executablePath argv.head? pathMax) fun self => self ≠ none := by
    refine hlink.bind ?_
    rintro _ ⟨path, rfl, hpath, hshort⟩
    dsimp only
    rw [if_pos ⟨List.length_pos_iff.mpr hpath, hshort⟩]
    exact well_pure (Option.some_ne_none path)
  refine hself.bind fun self hself => ?_
  cases self with
  | none => exact absurd rfl hself
  | some self =>
  rcases h with hbuildOnly | hone | ⟨directory, hdirectory, argv0, rfl⟩
  · obtain ⟨argv0, option, rfl⟩ := List.length_eq_two.mp hbuildOnly.1
    exact well_buildMain self _
  · obtain ⟨argv0, rfl⟩ := List.length_eq_one_iff.mp hone
    exact well_buildMain self _
  · exact well_extractMain self hdirectory

/-- Where every call goes well, what is asked for is done. -/
theorem under_main {argv : List Path} (h : AsksForWork argv) (env : Option Path) :
    (main argv env).Under (fun _ => True) Favourable fun exit _ => exit.status = 0 := by
  refine ⟨trivial, fun ok hok => ?_⟩
  obtain rfl : ok = true := hok
  change (mainOptions argv (some trustedPath)).Under _ _ _
  unfold mainOptions
  split_ifs with hhelp hargs
  · exact rfl
  · exact (well_mainAfterOptions h).mono fun _ _ => And.left
  · refine absurd ?_ hargs
    refine h.imp_right (.imp_right ?_)
    rintro ⟨directory, -, argv0, rfl⟩
    exact ⟨rfl, rfl⟩

/-- Every call may go well. -/
theorem exists_favourable (c : SystemCall) : ∃ r, Favourable c r := by
  cases c with
  | setenv | strdup | access | mkdir | unlink | removeTree => exact ⟨true, rfl⟩
  | run => exact ⟨(0 : ℤ), rfl⟩
  | capture => exact ⟨(0, bytes "gcc"), rfl, by decide⟩
  | readlink => exact ⟨_, [separator], rfl, by decide, by decide⟩
  | mkdtemp => exact ⟨_, [separator], rfl, by decide⟩
  | copyPayload => exact ⟨_, Option.some_ne_none [separator]⟩
  | geteuid => exact ⟨_, Nat.one_ne_zero⟩
  | sysconf => exact ⟨(1 : ℤ), trivial⟩
  | readdir =>
    exact ⟨_, [bytes "system-settings_1.deb"], bytes "system-settings_1.deb", rfl,
      by decide +kernel, by decide⟩

end Well

/-! ## The installer -/

/-- In every run of the installer: commands are run, and their output is captured, on the trusted
path. A package is installed once, only where it was asked for, and after everything that it
rests on has succeeded in order. It is the only package in the build directory. -/
theorem package_installed_last (argv : List Path) (env : Option Path) :
    (∀ cwd command env', (main argv env).Calls (.run cwd command) env' →
      env' = some trustedPath) ∧
    (∀ command env', (main argv env).Calls (.capture command) env' → env' = some trustedPath) ∧
    ∀ (before after : History Calls) (cwd : Option Path) (deb : Path) (status : ℤ) (exit : Exit)
      (env' : Option Path),
      (main argv env).Yields
        (before ++ Event.of (S := Calls) (.run cwd (installArgv deb)) status :: after) exit env' →
      cwd = none ∧ argv.length = 1 ∧ Prepared before deb ∧
        ∀ e ∈ before ++ after, ¬ SystemCall.Installs e.cmd := by
  have hguarded := guarded_main argv env
  refine ⟨fun cwd command env' hcalls => ?_, fun command env' hcalls => ?_,
    fun before after cwd deb status exit env' hy => ?_⟩
  · obtain ⟨_, hrun, -⟩ := hguarded.calls hcalls
    exact hrun
  · obtain ⟨_, hcapture⟩ := hguarded.calls hcalls
    exact hcapture
  · obtain ⟨_, -, hfirst, hprepared⟩ := hguarded.before hy
    obtain ⟨hcwd, hargs, hprepared⟩ := hprepared deb rfl
    refine ⟨hcwd, hargs, hprepared, fun e he hinstalls => ?_⟩
    rcases List.mem_append.mp he with he | he
    · exact hfirst e he hinstalls
    · -- a later installation would find this one in its past
      obtain ⟨between, rest, rfl⟩ := List.append_of_mem he
      have hsplit : before ++ Event.of (S := Calls) (.run cwd (installArgv deb)) status ::
          (between ++ e :: rest) = (before ++ Event.of (S := Calls) (.run cwd (installArgv deb))
            status :: between) ++ e :: rest := by simp
      rw [hsplit] at hy
      obtain ⟨_, hguard⟩ := hguarded.before hy
      obtain ⟨c, answer, world⟩ := e
      cases c with
      | run cwd' command =>
        refine hguard.2.1 (.of (.run cwd (installArgv deb)) status) ?_ ⟨deb, rfl⟩
        exact List.mem_append_right _ (List.mem_append_right _ List.mem_cons_self)
      | _ => exact hinstalls

/-- A run in which every call goes well installs a package. -/
theorem package_installed_last_well : ∃ (before : History Calls) (deb : Path),
    Prepared before deb ∧ ∀ e ∈ before, ¬ SystemCall.Installs e.cmd := by
  have hargs : AsksForWork [bytes "installer"] := .inr (.inl rfl)
  obtain ⟨tr, exit, env', hy, -, hstatus⟩ :=
    (under_main hargs none).exists_yields exists_favourable
  have hfinished := (guarded_main [bytes "installer"] none).yields hy
  rcases hfinished.success hstatus with hhelp | ⟨directory, ⟨argv0, hargv⟩, -⟩ |
    ⟨deb, -, hbuildOnly | ⟨-, hinstalled⟩⟩
  · cases hhelp.1
  · cases hargv
  · cases hbuildOnly.1
  · obtain ⟨before, after, rfl⟩ :=
      List.append_of_mem (hinstalled.subset List.mem_cons_self)
    obtain ⟨-, -, hprepared, hfirst⟩ :=
      (package_installed_last [bytes "installer"] none).2.2 _ _ _ _ _ _ _ hy
    exact ⟨before, deb, hprepared, fun e he => hfirst e (List.mem_append_left _ he)⟩

/-- Every run of the installer removes its workspace once and last, and reports success only
where it has done what was asked for; it does so whenever every call goes well. -/
theorem installer_finishes {argv : List Path} {env : Option Path} {tr : History Calls}
    {exit : Exit} {env' : Option Path} (h : (main argv env).Yields tr exit env') :
    Finished argv tr exit ∧
      (AsksForWork argv → (∀ e ∈ tr, Favourable e.cmd e.resp) → exit.status = 0) :=
  ⟨(guarded_main argv env).yields h, fun hargs hwell => (under_main hargs env).yields h hwell⟩

/-- A run in which every call goes well. -/
theorem installer_finishes_well : ∃ (tr : History Calls) (exit : Exit),
    Finished [bytes "installer"] tr exit ∧ exit.status = 0 := by
  have hargs : AsksForWork [bytes "installer"] := .inr (.inl rfl)
  obtain ⟨tr, exit, env', hy, hwell, -⟩ :=
    (under_main hargs none).exists_yields exists_favourable
  obtain ⟨hfinished, hstatus⟩ := installer_finishes hy
  exact ⟨tr, exit, hfinished, hstatus hargs hwell⟩

end NativeInstaller

end SystemSettings
