import Mathlib.Data.Set.Defs
import SystemSettings.SourceAssetBuilder

/-!
# What the builder has done when it succeeds

The builder succeeds exactly when it has made all its calls in order and each has
succeeded: it has found a clean tree with a version and the pinned Common, exported and
packed it, written the installer and the source archive, and found what the installer
extracts to be what was exported.
-/

namespace SystemSettings

namespace SourceAssetBuilder

/-! ## Runs with a given result -/

section Gives

variable {α β : Type} {m : BuilderM α} {a : α} {b : β} {R R' : History Calls → Prop}

/-- The runs that end with `a` leave the memory alone, and their calls are those in `R`. -/
def Gives (m : BuilderM α) (a : α) (R : History Calls → Prop) : Prop :=
  ∀ (env : Option Path) (tr : History Calls) (env' : Option Path),
    (m env).Yields tr a env' ↔ env' = env ∧ R tr

/-- A run that is one in `P` and then one in `R`. -/
def Both (P R : History Calls → Prop) (tr : History Calls) : Prop :=
  ∃ first rest, tr = first ++ rest ∧ P first ∧ R rest

theorem Gives.congr (h : Gives m a R) (hR : ∀ tr, R tr ↔ R' tr) : Gives m a R' :=
  fun env tr env' => (h env tr env').trans (and_congr_right' (hR tr))

theorem gives_pure {a' : α} : Gives (pure a' : BuilderM α) a fun tr => a = a' ∧ tr = [] := by
  intro env tr env'
  constructor
  · rintro ⟨rfl, rfl, rfl⟩
    exact ⟨rfl, rfl, rfl⟩
  · rintro ⟨rfl, rfl, rfl⟩
    exact ⟨rfl, rfl, rfl⟩

theorem gives_call {c : SystemCall} {r : c.Answer} :
    Gives (Action.call (S := Calls) c : BuilderM c.Answer) r fun tr => tr = [.of c r] := by
  intro env tr env'
  constructor
  · rintro ⟨r', _, _, rfl, rfl, rfl, rfl⟩
    exact ⟨rfl, rfl⟩
  · rintro ⟨rfl, rfl⟩
    exact ⟨r, (), [], rfl, rfl, rfl, rfl⟩

/-- The sequencing rule, where only some results of the first part can lead to `b`. -/
theorem gives_bind {f : α → BuilderM β} {S : Set α} {P Q : α → History Calls → Prop}
    (hm : ∀ a ∈ S, Gives m a (P a)) (hf : ∀ a ∈ S, Gives (f a) b (Q a))
    (hother : ∀ a ∉ S, Gives (f a) b fun _ => False) :
    Gives (m >>= f) b fun tr => ∃ a ∈ S, Both (P a) (Q a) tr := by
  intro env tr env'
  rw [Action.bind_run]
  constructor
  · intro h
    obtain ⟨first, a, env₁, rest, hfirst, hrest, rfl⟩ := Prog.yields_bind h
    by_cases ha : a ∈ S
    · obtain ⟨rfl, hP⟩ := (hm a ha env first env₁).mp hfirst
      obtain ⟨rfl, hQ⟩ := (hf a ha _ rest env').mp hrest
      exact ⟨rfl, a, ha, first, rest, rfl, hP, hQ⟩
    · exact ((hother a ha env₁ rest env').mp hrest).2.elim
  · rintro ⟨rfl, a, ha, first, rest, rfl, hP, hQ⟩
    exact Prog.Yields.bind ((hm a ha _ first _).mpr ⟨rfl, hP⟩) ((hf a ha _ rest _).mpr ⟨rfl, hQ⟩)

end Gives

/-! ## The calls of each step -/

section Steps

variable {α β : Type} {a : α} {b : β} {message : String} {P Q : History Calls → Prop}

/-- A stage after a success. -/
theorem gives_ensure {ok : BuilderM Bool} {next : Stage β} (hok : Gives ok true P)
    (hnext : Gives next (.ok b) Q) : Gives (ensure ok message next) (.ok b) (Both P Q) := by
  refine (gives_bind (S := {true}) (P := fun _ => P) (Q := fun _ => Q) ?_ ?_ ?_).congr fun tr => ?_
  · rintro _ rfl
    exact hok
  · rintro _ rfl
    exact hnext
  · intro ok hok
    obtain rfl : ok = false := by simpa using hok
    exact gives_pure.congr fun tr => by simp
  · simp

/-- What has been found is used. -/
theorem gives_option {m : BuilderM (Option α)} {f : Option α → BuilderM β}
    {P Q : α → History Calls → Prop} (hm : ∀ a, Gives m (some a) (P a))
    (hsome : ∀ a, Gives (f (some a)) b (Q a)) (hnone : Gives (f none) b fun _ => False) :
    Gives (m >>= f) b fun tr => ∃ a, Both (P a) (Q a) tr := by
  refine (gives_bind (S := {found | found.isSome})
    (P := fun found tr => ∃ a, found = some a ∧ P a tr)
    (Q := fun found tr => ∃ a, found = some a ∧ Q a tr) ?_ ?_ ?_).congr fun tr => ?_
  · rintro found hfound
    obtain ⟨a, rfl⟩ := Option.isSome_iff_exists.mp hfound
    exact (hm a).congr fun tr => by simp
  · rintro found hfound
    obtain ⟨a, rfl⟩ := Option.isSome_iff_exists.mp hfound
    exact (hsome a).congr fun tr => by simp
  · rintro found hfound
    obtain rfl : found = none := by simpa using hfound
    exact hnone
  · constructor
    · rintro ⟨found, hfound, first, rest, rfl, ⟨a, rfl, hP⟩, a', ha', hQ⟩
      obtain rfl := Option.some.inj ha'
      exact ⟨a, first, rest, rfl, hP, hQ⟩
    · rintro ⟨a, first, rest, rfl, hP, hQ⟩
      exact ⟨some a, rfl, first, rest, rfl, ⟨a, rfl, hP⟩, a, rfl, hQ⟩

/-- A search that uses what another one has found. -/
theorem gives_search {found : BuilderM (Option α)} {next : α → BuilderM (Option β)}
    {P Q : α → History Calls → Prop} (hfound : ∀ a, Gives found (some a) (P a))
    (hnext : ∀ a, Gives (next a) (some b) (Q a)) :
    Gives (search found next) (some b) fun tr => ∃ a, Both (P a) (Q a) tr :=
  gives_option hfound hnext (gives_pure.congr fun tr => by simp)

/-- A stage that uses what has been found. -/
theorem gives_need {found : BuilderM (Option α)} {next : α → Stage β}
    {P Q : α → History Calls → Prop} (hfound : ∀ a, Gives found (some a) (P a))
    (hnext : ∀ a, Gives (next a) (.ok b) (Q a)) :
    Gives (need found message next) (.ok b) fun tr => ∃ a, Both (P a) (Q a) tr :=
  gives_option hfound hnext (gives_pure.congr fun tr => by simp)

/-- What a stage has found is used. -/
theorem gives_except {m : BuilderM (Except String α)} {f : Except String α → BuilderM β}
    {P Q : α → History Calls → Prop} (hm : ∀ a, Gives m (.ok a) (P a))
    (hok : ∀ a, Gives (f (.ok a)) b (Q a))
    (herror : ∀ message, Gives (f (.error message)) b fun _ => False) :
    Gives (m >>= f) b fun tr => ∃ a, Both (P a) (Q a) tr := by
  refine (gives_bind (S := {result | ∃ a, result = .ok a})
    (P := fun result tr => ∃ a, result = .ok a ∧ P a tr)
    (Q := fun result tr => ∃ a, result = .ok a ∧ Q a tr) ?_ ?_ ?_).congr fun tr => ?_
  · rintro _ ⟨a, rfl⟩
    exact (hm a).congr fun tr => by simp
  · rintro _ ⟨a, rfl⟩
    exact (hok a).congr fun tr => by simp
  · rintro result hresult
    cases result with
    | error message => exact herror message
    | ok a => exact absurd ⟨a, rfl⟩ hresult
  · constructor
    · rintro ⟨_, -, first, rest, rfl, ⟨a, rfl, hP⟩, a', ha', hQ⟩
      obtain rfl := Except.ok.inj ha'
      exact ⟨a, first, rest, rfl, hP, hQ⟩
    · rintro ⟨a, first, rest, rfl, hP, hQ⟩
      exact ⟨.ok a, ⟨a, rfl⟩, first, rest, rfl, ⟨a, rfl, hP⟩, a, rfl, hQ⟩

/-- One stage after the other. -/
theorem gives_andThen {stage : BuilderM (Except String α)} {next : α → Stage β}
    {P Q : α → History Calls → Prop} (hstage : ∀ a, Gives stage (.ok a) (P a))
    (hnext : ∀ a, Gives (next a) (.ok b) (Q a)) :
    Gives (andThen stage next) (.ok b) fun tr => ∃ a, Both (P a) (Q a) tr :=
  gives_except hstage hnext fun message => gives_pure.congr fun tr => by simp

/-- A stage that uses a text that fits. -/
theorem gives_fitting {text : Option Path} {next : Path → Stage β}
    {Q : Path → History Calls → Prop} (hnext : ∀ path, Gives (next path) (.ok b) (Q path)) :
    Gives (fitting text message next) (.ok b) fun tr => ∃ path, text = some path ∧ Q path tr := by
  refine (gives_need (P := fun path tr => text = some path ∧ tr = []) (fun path => ?_)
    hnext).congr fun tr => ?_
  · exact gives_pure.congr fun tr => by rw [eq_comm]
  · constructor
    · rintro ⟨path, _, rest, rfl, ⟨htext, rfl⟩, hQ⟩
      exact ⟨path, htext, hQ⟩
    · rintro ⟨path, htext, hQ⟩
      exact ⟨path, [], tr, rfl, ⟨htext, rfl⟩, hQ⟩

theorem gives_found {a' : β} : Gives (found a') (.ok b) fun tr => b = a' ∧ tr = [] :=
  gives_pure.congr fun tr => by simp

theorem gives_attempt (what : Attempt) :
    Gives (attempt what) true fun tr => tr = [.of (.attempt what) true] := gives_call

/-- A command that succeeds. -/
theorem gives_runCommand (cwd : Option Path) (argv : List Path) :
    Gives (runCommand cwd argv) true fun tr => tr = [.of (.run cwd argv) (0 : ℤ)] := by
  intro env tr env'
  constructor
  · rintro ⟨(status : ℤ), _, _, rfl, rfl, hstatus, rfl⟩
    obtain rfl := of_decide_eq_true hstatus.symm
    exact ⟨rfl, rfl⟩
  · rintro ⟨rfl, rfl⟩
    exact ⟨(0 : ℤ), (), [], rfl, rfl, rfl, rfl⟩

/-- A command that says something. -/
theorem gives_captureCommand (cwd : Option Path) (argv : List Path) (capacity : ℕ) (text : Path) :
    Gives (captureCommand cwd argv capacity) (some text) fun tr => ∃ output,
      captureOutput capacity output ≠ [] ∧ cString (captureOutput capacity output) = text ∧
        tr = [.of (.capture cwd argv) ((0 : ℤ), output)] := by
  intro env tr env'
  constructor
  · rintro ⟨⟨status, output⟩, _, _, rfl, rfl, htext, rfl⟩
    obtain ⟨⟨hstatus, hout⟩, htext⟩ := Option.ite_none_right_eq_some.mp htext.symm
    obtain rfl : status = 0 := hstatus
    exact ⟨rfl, output, hout, Option.some.inj htext, rfl⟩
  · rintro ⟨rfl, output, hout, rfl, rfl⟩
    exact ⟨((0 : ℤ), output), (), [], rfl, rfl, (if_pos ⟨rfl, hout⟩).symm, rfl⟩

theorem gives_mkdirOne (path : Path) :
    Gives (mkdirOne path) true fun tr => ∃ answer : Mkdir, answer ≠ .failed ∧
      tr = [.of (.mkdir path) answer] := by
  intro env tr env'
  constructor
  · rintro ⟨(answer : Mkdir), _, _, rfl, rfl, hanswer, rfl⟩
    exact ⟨rfl, answer, of_decide_eq_true hanswer.symm, rfl⟩
  · rintro ⟨rfl, (answer : Mkdir), hanswer, rfl⟩
    exact ⟨answer, (), [], rfl, rfl, (decide_eq_true hanswer).symm, rfl⟩

theorem gives_makeDirectory (path : Path) :
    Gives (makeDirectory path) true fun tr => tr = [.of (.mkdir path) .made] := by
  intro env tr env'
  constructor
  · rintro ⟨(answer : Mkdir), _, _, rfl, rfl, hanswer, rfl⟩
    obtain rfl := of_decide_eq_true hanswer.symm
    exact ⟨rfl, rfl⟩
  · rintro ⟨rfl, rfl⟩
    exact ⟨Mkdir.made, (), [], rfl, rfl, rfl, rfl⟩

/-- Two steps that both succeed. -/
theorem gives_and {ok rest : BuilderM Bool} (hok : Gives ok true P) (hrest : Gives rest true Q) :
    Gives (ok >>= fun ok => if ok = true then rest else pure false) true (Both P Q) := by
  refine (gives_bind (S := {true}) (P := fun _ => P) (Q := fun _ => Q) ?_ ?_ ?_).congr fun tr => ?_
  · rintro _ rfl
    exact hok
  · rintro _ rfl
    exact hrest
  · intro ok hok
    obtain rfl : ok = false := by simpa using hok
    exact gives_pure.congr fun tr => by simp
  · simp

/-- Commands that all succeed. -/
theorem gives_runAll (commands : List (Option Path × List Path)) :
    Gives (runAll commands) true fun tr =>
      tr = commands.map fun command => .of (.run command.1 command.2) (0 : ℤ) := by
  induction commands with
  | nil => exact gives_pure.congr fun tr => by simp
  | cons command commands ih =>
    refine (gives_and (gives_runCommand command.1 command.2) ih).congr fun tr => ?_
    constructor
    · rintro ⟨_, _, rfl, rfl, rfl⟩
      rfl
    · rintro rfl
      exact ⟨_, _, rfl, rfl, rfl⟩

/-- Calls that all succeed. -/
theorem gives_attemptAll (attempts : List Attempt) :
    Gives (attemptAll attempts) true fun tr =>
      tr = attempts.map fun what => .of (.attempt what) true := by
  induction attempts with
  | nil => exact gives_pure.congr fun tr => by simp
  | cons what attempts ih =>
    refine (gives_and (gives_attempt what) ih).congr fun tr => ?_
    constructor
    · rintro ⟨_, _, rfl, rfl, rfl⟩
      rfl
    · rintro rfl
      exact ⟨_, _, rfl, rfl, rfl⟩

/-- The directories of the loop over `parent`. -/
def parentPaths : Path → Path → List Path
  | parent, [] => [parent]
  | parent, b :: rest =>
    if b = separator then parent :: parentPaths (parent ++ [b]) rest
    else parentPaths (parent ++ [b]) rest

/-- The directories are made, or they are there. -/
def Made (paths : List Path) (tr : History Calls) : Prop :=
  List.Forall₂ (fun path e => ∃ answer : Mkdir, answer ≠ .failed ∧ e = .of (.mkdir path) answer)
    paths tr

theorem gives_makeParents (parent rest : Path) :
    Gives (makeParents parent rest) true (Made (parentPaths parent rest)) := by
  have hone (path : Path) : Gives (mkdirOne path) true (Made [path]) := by
    refine (gives_mkdirOne path).congr fun tr => ?_
    constructor
    · rintro ⟨answer, hanswer, rfl⟩
      exact .cons ⟨answer, hanswer, rfl⟩ .nil
    · rintro (_ | ⟨⟨answer, hanswer, rfl⟩, ⟨⟩⟩)
      exact ⟨answer, hanswer, rfl⟩
  induction rest generalizing parent with
  | nil => exact hone parent
  | cons b rest ih =>
    unfold makeParents parentPaths
    split_ifs
    · refine (gives_and (hone parent) (ih (parent ++ [b]))).congr fun tr => ?_
      constructor
      · rintro ⟨first, rest, rfl, _ | ⟨hfirst, ⟨⟩⟩, hrest⟩
        exact .cons hfirst hrest
      · rintro (_ | ⟨hfirst, hrest⟩)
        exact ⟨[_], _, rfl, .cons hfirst .nil, hrest⟩
    · exact ih (parent ++ [b])

/-- A call whose answer is looked at. -/
theorem gives_answer {c : SystemCall} {f : c.Answer → β} {b : β} :
    Gives (Action.call (S := Calls) c >>= fun r => (pure (f r) : BuilderM β)) b fun tr =>
      ∃ r : c.Answer, f r = b ∧ tr = [.of c r] := by
  intro env tr env'
  constructor
  · rintro ⟨r, _, _, rfl, rfl, rfl, rfl⟩
    exact ⟨rfl, r, rfl, rfl⟩
  · rintro ⟨rfl, r, rfl, rfl⟩
    exact ⟨r, (), [], rfl, rfl, rfl, rfl⟩

end Steps

/-! ## What is found out first -/

/-- A file without the blanks at its end. -/
def trimmed (content : List UInt8) : List UInt8 := (content.reverse.dropWhile isSpace).reverse

/-- Three numbers with dots between them. -/
def IsVersion (text : Path) : Prop :=
  ∃ major minor patch : Path, text = major ++ 46 :: (minor ++ 46 :: patch) ∧
    ∀ number ∈ [major, minor, patch], number ≠ [] ∧ ∀ b ∈ number, isDigit b = true

theorem validVersionLoop_cons {dots : ℕ} {digit : Bool} {b : UInt8} {rest : Path} :
    validVersionLoop dots digit (b :: rest) = if b = 46 then
      if !digit || 2 ≤ dots then false else validVersionLoop (dots + 1) false rest
    else if isDigit b then validVersionLoop dots true rest else false := rfl

/-- The digits up to a dot. -/
theorem validVersionLoop_iff {dots : ℕ} {digit : Bool} {text : Path} (hdots : dots < 2) :
    validVersionLoop dots digit text = true ↔ ∃ number rest : Path, text = number ++ 46 :: rest ∧
      (digit = true ∨ number ≠ []) ∧ (∀ b ∈ number, isDigit b = true) ∧
        validVersionLoop (dots + 1) false rest = true := by
  have hdot : isDigit 46 = false := by decide
  induction text generalizing digit with
  | nil => simp [validVersionLoop, Nat.ne_of_lt hdots]
  | cons b text ih =>
    rw [validVersionLoop_cons]
    split_ifs with hb hnone hdigit
    · subst hb
      have hdigit : digit = false := by simpa [Nat.not_le.mpr hdots] using hnone
      refine iff_of_false (by simp) ?_
      rintro ⟨_ | ⟨b, number⟩, rest, htext, hnumber, hdigits, -⟩
      · simp [hdigit] at hnumber
      · obtain ⟨rfl, -⟩ := List.cons_eq_cons.mp htext
        have := hdigits 46 List.mem_cons_self
        rw [hdot] at this
        cases this
    · subst hb
      have hdigit : digit = true := by simpa [Nat.not_le.mpr hdots] using hnone
      constructor
      · exact fun h => ⟨[], text, rfl, .inl hdigit, by simp, h⟩
      · rintro ⟨_ | ⟨b, number⟩, rest, htext, -, hdigits, hrest⟩
        · obtain ⟨-, rfl⟩ := List.cons_eq_cons.mp htext
          exact hrest
        · obtain ⟨rfl, -⟩ := List.cons_eq_cons.mp htext
          have := hdigits 46 List.mem_cons_self
          rw [hdot] at this
          cases this
    · refine ih.trans ?_
      constructor
      · rintro ⟨number, rest, rfl, -, hdigits, hrest⟩
        exact ⟨b :: number, rest, rfl, .inr (by simp), List.forall_mem_cons.mpr ⟨hdigit, hdigits⟩,
          hrest⟩
      · rintro ⟨_ | ⟨b', number⟩, rest, htext, -, hdigits, hrest⟩
        · exact absurd (List.cons_eq_cons.mp htext).1 hb
        · obtain ⟨rfl, rfl⟩ := List.cons_eq_cons.mp htext
          exact ⟨number, rest, rfl, .inl rfl, (List.forall_mem_cons.mp hdigits).2, hrest⟩
    · refine iff_of_false (by simp) ?_
      rintro ⟨_ | ⟨b', number⟩, rest, htext, -, hdigits, -⟩
      · exact hb (List.cons_eq_cons.mp htext).1
      · obtain ⟨rfl, -⟩ := List.cons_eq_cons.mp htext
        exact hdigit (hdigits b List.mem_cons_self)

/-- The digits up to the end. -/
theorem validVersionLoop_two {digit : Bool} {text : Path} :
    validVersionLoop 2 digit text = true ↔
      (digit = true ∨ text ≠ []) ∧ ∀ b ∈ text, isDigit b = true := by
  have hdot : isDigit 46 = false := by decide
  induction text generalizing digit with
  | nil => simp [validVersionLoop]
  | cons b text ih =>
    rw [validVersionLoop_cons]
    split_ifs with hb hnone hdigit
    · subst hb
      simp [hdot]
    · simp at hnone
    · exact ih.trans (by simp [hdigit])
    · simp [hdigit]

theorem validVersion_iff {text : Path} : validVersion text = true ↔ IsVersion text := by
  have hloop : validVersion text = true ↔ validVersionLoop 0 false text = true := by
    cases text with
    | nil => simp [validVersion, validVersionLoop]
    | cons b text => simp [validVersion]
  rw [hloop, validVersionLoop_iff (by decide)]
  constructor
  · rintro ⟨major, rest, rfl, hmajor, hdigits, hrest⟩
    obtain ⟨minor, patch, rfl, hminor, hdigits', hpatch⟩ :=
      (validVersionLoop_iff (by decide)).mp hrest
    obtain ⟨hsome, hdigits''⟩ := validVersionLoop_two.mp hpatch
    refine ⟨major, minor, patch, rfl, ?_⟩
    simp only [List.forall_mem_cons, List.not_mem_nil, false_implies, implies_true, and_true]
    exact ⟨⟨hmajor.resolve_left nofun, hdigits⟩, ⟨hminor.resolve_left nofun, hdigits'⟩,
      hsome.resolve_left nofun, hdigits''⟩
  · rintro ⟨major, minor, patch, rfl, h⟩
    simp only [List.forall_mem_cons, List.not_mem_nil, false_implies, implies_true, and_true] at h
    obtain ⟨⟨hmajor, hdigits⟩, ⟨hminor, hdigits'⟩, hpatch, hdigits''⟩ := h
    refine ⟨major, _, rfl, .inr hmajor, hdigits, (validVersionLoop_iff (by decide)).mpr ?_⟩
    exact ⟨minor, patch, rfl, .inr hminor, hdigits',
      validVersionLoop_two.mpr ⟨.inr hpatch, hdigits''⟩⟩

/-- A version is not empty. -/
theorem IsVersion.ne_nil {text : Path} (h : IsVersion text) : text ≠ [] := by
  obtain ⟨major, minor, patch, rfl, -⟩ := h
  simp

/-- What the checks have been told. -/
structure Checks : Type where
  rootOutput : List UInt8
  epochOutput : List UInt8
  versionContent : List UInt8
  pinOutput : List UInt8
  headOutput : List UInt8

namespace Checks

variable (c : Checks)

/-- `root` -/
def root : Path := cString (captureOutput pathMax c.rootOutput)

/-- `version` -/
def version : Path := cString (trimmed c.versionContent)

/-- `common` -/
def common : Path := c.root ++ separator :: commonRelative

/-- `pin` -/
def pin : Path := cString (captureOutput 80 c.pinOutput)

/-- Everything that is found out before anything is written. -/
def looks : History Calls :=
  [.of (.capture none rootArgv) ((0 : ℤ), c.rootOutput), .of (.attempt (.chdir c.root)) true,
    .of (.capture (some c.root) epochArgv) ((0 : ℤ), c.epochOutput),
    .of (.run (some c.root) diffArgv) (0 : ℤ),
    .of (.fread (c.root ++ separator :: bytes "VERSION")) (some c.versionContent),
    .of (.capture (some c.root) (pinArgv (bytes "HEAD:" ++ commonRelative)))
      ((0 : ℤ), c.pinOutput),
    .of (.capture (some c.root) (commonHeadArgv c.common)) ((0 : ℤ), c.headOutput)]

/-- What is released is what is committed. -/
structure Looked (s : Source) : Prop where
  root : captureOutput pathMax c.rootOutput ≠ [] ∧ s.root = c.root
  epoch : captureOutput 32 c.epochOutput ≠ [] ∧
    parseEpoch (cString (captureOutput 32 c.epochOutput)) = some s.epoch
  version : c.versionContent.length < 63 ∧ IsVersion c.version ∧ s.version = c.version
  common : c.common.length < pathMax ∧ s.common = c.common
  pin : captureOutput 80 c.pinOutput ≠ [] ∧ s.pin = c.pin
  head : captureOutput 80 c.headOutput ≠ [] ∧ cString (captureOutput 80 c.headOutput) = c.pin
  fits : (c.root ++ separator :: bytes "VERSION").length < pathMax

end Checks

/-- What making and finding the output directory has come to. -/
structure Opening : Type where
  made : Mkdir
  /-- the directory that a relative output directory is in -/
  current : Path

namespace Opening

variable (o : Opening) (directory : Path)

/-- `output` -/
def output : Path :=
  if isAbsolute directory then directory else o.current ++ separator :: directory

/-- The output directory is made, and found. -/
def calls : History Calls :=
  .of (.mkdir directory) o.made ::
    if isAbsolute directory then [] else [.of .getcwd (some o.current)]

/-- There is an output directory. -/
structure Opened (output : Path) : Prop where
  made : o.made ≠ .failed
  output : (o.output directory).length < pathMax ∧ output = o.output directory

end Opening

section

variable {path : Path} {capacity : ℕ} {text : Path}

theorem pathJoin_eq_some {left right : Path} :
    pathJoin capacity left right = some path ↔
      path.length < capacity ∧ path = left ++ separator :: right := by
  unfold pathJoin
  rw [Option.ite_none_right_eq_some, Option.some.injEq]
  constructor
  · rintro ⟨hfits, rfl⟩
    exact ⟨hfits, rfl⟩
  · rintro ⟨hfits, rfl⟩
    exact ⟨hfits, rfl⟩

theorem printed_eq_some :
    printed capacity text = some path ↔
      (0 < text.length ∧ text.length < capacity) ∧ path = text := by
  unfold printed
  rw [Option.ite_none_right_eq_some, Option.some.injEq, eq_comm]

theorem gives_readTrimmed :
    Gives (readTrimmed path capacity) (some text) fun tr => ∃ content : List UInt8,
      (content.length < capacity - 1 ∧ trimmed content ≠ []) ∧ text = cString (trimmed content) ∧
        tr = [.of (.fread path) (some content)] := by
  have hread (content : List UInt8) : Gives (fread path) (some content) fun tr =>
      tr = [.of (.fread path) (some content)] := gives_call
  refine (gives_search hread fun content => gives_pure).congr fun tr => ?_
  constructor
  · rintro ⟨content, _, _, rfl, rfl, htext, rfl⟩
    obtain ⟨hout, htext⟩ := Option.ite_none_right_eq_some.mp htext.symm
    exact ⟨content, hout, (Option.some.inj htext).symm, rfl⟩
  · rintro ⟨content, hout, rfl, rfl⟩
    exact ⟨content, _, [], (List.append_nil _).symm, rfl, (if_pos hout).symm, rfl⟩

/-- A text that fits. -/
theorem gives_text {found : Option Path} :
    Gives (pure found : BuilderM (Option Path)) (some text) fun tr => found = some text ∧ tr = [] :=
  gives_pure.congr fun tr => by rw [eq_comm]

/-- `version_path` and `version` -/
theorem gives_readVersion {root version : Path} :
    Gives (readVersion root) (some version) fun tr => ∃ content : List UInt8,
      (root ++ separator :: bytes "VERSION").length < pathMax ∧ content.length < 63 ∧
        IsVersion version ∧ version = cString (trimmed content) ∧
        tr = [.of (.fread (root ++ separator :: bytes "VERSION")) (some content)] := by
  refine (gives_search (fun _ => gives_text) fun path => gives_search (fun _ => gives_readTrimmed)
    fun text => gives_pure).congr fun tr => ?_
  constructor
  · rintro ⟨path, _, _, rfl, ⟨hpath, rfl⟩, text, _, _, rfl, ⟨content, ⟨hshort, -⟩, rfl, rfl⟩,
      hversion, rfl⟩
    obtain ⟨hvalid, hversion⟩ := Option.ite_none_right_eq_some.mp hversion.symm
    obtain ⟨hfits, rfl⟩ := pathJoin_eq_some.mp hpath
    obtain rfl := Option.some.inj hversion
    exact ⟨content, hfits, hshort, validVersion_iff.mp hvalid, rfl, rfl⟩
  · rintro ⟨content, hfits, hshort, hversion, rfl, rfl⟩
    have hout : trimmed content ≠ [] := by
      intro hnil
      refine hversion.ne_nil ?_
      rw [hnil]
      rfl
    exact ⟨_, [], _, rfl, ⟨pathJoin_eq_some.mpr ⟨hfits, rfl⟩, rfl⟩, _, _, [],
      (List.append_nil _).symm, ⟨content, ⟨hshort, hout⟩, rfl, rfl⟩,
      (if_pos (validVersion_iff.mpr hversion)).symm, rfl⟩

/-- `pin` and `common_head` -/
theorem gives_readPin {root common revspec pin : Path} :
    Gives (readPin root common revspec) (some pin) fun tr => ∃ output output' : List UInt8,
      captureOutput 80 output ≠ [] ∧ pin = cString (captureOutput 80 output) ∧
        captureOutput 80 output' ≠ [] ∧ cString (captureOutput 80 output') = pin ∧
        tr = [.of (.capture (some root) (pinArgv revspec)) ((0 : ℤ), output),
          .of (.capture (some root) (commonHeadArgv common)) ((0 : ℤ), output')] := by
  refine (gives_search (fun _ => gives_captureCommand _ _ _ _) fun pin =>
    gives_search (fun _ => gives_captureCommand _ _ _ _) fun head => gives_pure).congr fun tr => ?_
  constructor
  · rintro ⟨_, _, _, rfl, ⟨output, hout, rfl, rfl⟩, _, _, _, rfl, ⟨output', hout', rfl, rfl⟩,
      hpin, rfl⟩
    obtain ⟨hsame, hpin⟩ := Option.ite_none_right_eq_some.mp hpin.symm
    obtain rfl := Option.some.inj hpin
    exact ⟨output, output', hout, rfl, hout', hsame.symm, rfl⟩
  · rintro ⟨output, output', hout, rfl, hout', hsame, rfl⟩
    exact ⟨_, _, [.of (.capture (some root) (commonHeadArgv common)) ((0 : ℤ), output')], rfl,
      ⟨output, hout, rfl, rfl⟩, _, _, [], rfl, ⟨output', hout', rfl, rfl⟩,
      (if_pos hsame.symm).symm, rfl⟩

/-- `output` -/
theorem gives_resolveOutput {directory output : Path} :
    Gives (resolveOutput directory) (.ok output) fun tr => ∃ current : Path,
      output = (if isAbsolute directory then directory else current ++ separator :: directory) ∧
        output.length < pathMax ∧
        tr = if isAbsolute directory then [] else [.of .getcwd (some current)] := by
  have hgetcwd (current : Path) : Gives getcwd (some current) fun tr =>
      tr = [.of .getcwd (some current)] := gives_call
  unfold resolveOutput
  by_cases habsolute : isAbsolute directory = true
  · simp only [if_pos habsolute]
    refine (gives_fitting fun path => gives_found).congr fun tr => ?_
    simp only [Option.ite_none_right_eq_some, Option.some.injEq]
    constructor
    · rintro ⟨_, ⟨hshort, rfl⟩, rfl, rfl⟩
      exact ⟨[], rfl, hshort, rfl⟩
    · rintro ⟨_, rfl, hshort, rfl⟩
      exact ⟨output, ⟨hshort, rfl⟩, rfl, rfl⟩
  · simp only [if_neg habsolute]
    refine (gives_need hgetcwd fun current => gives_fitting fun path => gives_found).congr
      fun tr => ?_
    constructor
    · rintro ⟨current, _, _, rfl, rfl, path, hpath, rfl, rfl⟩
      obtain ⟨hshort, rfl⟩ := pathJoin_eq_some.mp hpath
      exact ⟨current, rfl, hshort, rfl⟩
    · rintro ⟨current, rfl, hshort, rfl⟩
      exact ⟨current, _, [], rfl, rfl, _, pathJoin_eq_some.mpr ⟨hshort, rfl⟩, rfl, rfl⟩

/-- The source can be released when it is what is committed. -/
theorem gives_lookAtSource {s : Source} :
    Gives lookAtSource (.ok s) fun tr => ∃ c : Checks, c.Looked s ∧ tr = c.looks := by
  have hepoch (text : Path) (epoch : ℕ) : Gives (pure (parseEpoch text)) (some epoch)
      fun tr => parseEpoch text = some epoch ∧ tr = [] :=
    gives_pure.congr fun tr => by rw [eq_comm]
  refine (gives_need (fun root => gives_captureCommand _ _ _ root) fun root =>
    gives_ensure (gives_attempt _) <|
    gives_need (fun text => gives_captureCommand _ _ _ text) fun text =>
    gives_need (hepoch text) fun epoch =>
    gives_ensure (gives_runCommand _ _) <|
    gives_need (fun version => gives_readVersion) fun version =>
    gives_fitting fun common => gives_fitting fun revspec =>
    gives_need (fun pin => gives_readPin) fun pin => gives_found).congr fun tr => ?_
  constructor
  · rintro ⟨_, _, _, rfl, ⟨rootOutput, hroot, rfl, rfl⟩, _, _, rfl, rfl, _, _, _, rfl,
      ⟨epochOutput, htext, rfl, rfl⟩, epoch, _, _, rfl, ⟨hepoch, rfl⟩, _, _, rfl, rfl, _, _, _, rfl,
      ⟨content, hfits, hshort, hversion, rfl, rfl⟩, common, hcommon, revspec, hrevspec, _, _, _,
      rfl, ⟨pinOutput, headOutput, hpin, rfl, hhead, hsame, rfl⟩, rfl, rfl⟩
    obtain ⟨hjoined, rfl⟩ := pathJoin_eq_some.mp hcommon
    obtain ⟨-, rfl⟩ := printed_eq_some.mp hrevspec
    refine ⟨⟨rootOutput, epochOutput, content, pinOutput, headOutput⟩, ?_, rfl⟩
    exact ⟨⟨hroot, rfl⟩, ⟨htext, hepoch⟩, ⟨hshort, hversion, rfl⟩, ⟨hjoined, rfl⟩, ⟨hpin, rfl⟩,
      ⟨hhead, hsame⟩, hfits⟩
  · rintro ⟨c, hlooked, rfl⟩
    obtain ⟨root, epoch, version, common, pin⟩ := s
    obtain ⟨⟨hroot, rfl⟩, ⟨htext, hepoch⟩, ⟨hshort, hversion, rfl⟩, ⟨hjoined, rfl⟩, ⟨hpin, rfl⟩,
      ⟨hhead, hsame⟩, hfits⟩ := hlooked
    exact ⟨_, [_], _, rfl, ⟨_, hroot, rfl, rfl⟩, [_], _, rfl, rfl, _, [_], _, rfl,
      ⟨_, htext, rfl, rfl⟩, _, [], _, rfl, ⟨hepoch, rfl⟩, [_], _, rfl, rfl, _, [_], _, rfl,
      ⟨_, hfits, hshort, hversion, rfl, rfl⟩, _, pathJoin_eq_some.mpr ⟨hjoined, rfl⟩, _,
      printed_eq_some.mpr ⟨⟨by decide +kernel, by decide +kernel⟩, rfl⟩, _, [_, _], [], rfl,
      ⟨_, _, hpin, rfl, hhead, hsame, rfl⟩, rfl, rfl⟩

/-- The checks succeed when there is an output directory as well. -/
theorem gives_checkRelease {directory : Path} {r : Release} :
    Gives (checkRelease directory) (.ok r) fun tr => ∃ (c : Checks) (o : Opening),
      c.Looked r.toSource ∧ o.Opened directory r.output ∧ tr = c.looks ++ o.calls directory := by
  refine (gives_andThen (fun source => gives_lookAtSource) fun source =>
    gives_ensure (gives_mkdirOne _) <|
    gives_andThen (fun output => gives_resolveOutput) fun output => gives_found).congr fun tr => ?_
  constructor
  · rintro ⟨source, _, _, rfl, ⟨c, hlooked, rfl⟩, _, _, rfl, ⟨answer, hanswer, rfl⟩, _, _, _, rfl,
      ⟨current, rfl, houtput, rfl⟩, rfl, rfl⟩
    refine ⟨c, ⟨answer, current⟩, hlooked, ⟨hanswer, houtput, rfl⟩, ?_⟩
    simp [Opening.calls]
  · rintro ⟨c, o, hlooked, ⟨hanswer, houtput, houtput⟩, rfl⟩
    obtain ⟨source, output⟩ := r
    obtain rfl : output = o.output directory := houtput
    exact ⟨source, c.looks, _, rfl, ⟨c, hlooked, rfl⟩, [_], _, rfl, ⟨_, hanswer, rfl⟩, _, _, [],
      (List.append_nil _).symm, ⟨_, rfl, houtput, rfl⟩, rfl, rfl⟩

end

/-! ## What is made from it -/

/-- A path below another one. -/
def below (path : Path) (name : String) : Path := path ++ separator :: bytes name

namespace Workspace

variable (w : Workspace)

/-- `root_tar` -/
def rootTar : Path := below w.work "root.tar"

/-- `common_tar` -/
def commonTar : Path := below w.work "common.tar"

/-- `payload` -/
def payload : Path := below w.work "source.tar.gz"

/-- `installer_binary` -/
def installerBinary : Path := below w.work "native-installer"

/-- `installer_source` -/
def installerSource : Path := below w.sourceRoot "packaging/native-installer.c"

/-- `verified` -/
def verified : Path := below w.work "verified"

/-- `verify_build` -/
def verifyBuild : Path := below w.work "verify-build"

/-- `marker` -/
def marker : Path := w.commonExport ++ separator :: commitName

/-- The workspace is made. -/
structure Prepared (tr : History Calls) : Prop where
  sourceRoot : w.sourceRoot.length < pathMax ∧ w.sourceRoot = below w.work "source"
  commonExport : w.commonExport.length < pathMax ∧
    w.commonExport = w.sourceRoot ++ separator :: commonRelative
  calls : tr = [.of .mkdtemp (some w.work), .of (.mkdir w.sourceRoot) .made]

end Workspace

/-- `run_path` -/
def Release.runPath (r : Release) : Path :=
  r.output ++ separator :: (bytes "System-Settings-" ++ r.version ++ bytes "-native.run")

/-- `zip_path` -/
def Release.zipPath (r : Release) : Path :=
  r.output ++ separator :: (bytes "System-Settings-" ++ r.version ++ bytes "-source.zip")

/-- Commands in the repository that have succeeded. -/
def commands (r : Release) (argvs : List (List Path)) : History Calls :=
  argvs.map fun argv => .of (.run (some r.root) argv) (0 : ℤ)

/-- Calls that have succeeded. -/
def attempts (attempts : List Attempt) : History Calls :=
  attempts.map fun what => .of (.attempt what) true

section

variable (r : Release) (w : Workspace)

/-- What is committed is exported: the directories are made, and both archives are unpacked. -/
structure Exported (tr : History Calls) : Prop where
  fits : w.commonExport.length < pathMax ∧
    ∀ tar ∈ [w.rootTar, w.commonTar], (bytes "--output=" ++ tar).length < pathMax
  calls : ∃ made, Made (parentPaths (w.sourceRoot ++ [separator]) commonRelative) made ∧
    tr = made ++ commands r (exportArgvs r w w.rootTar w.commonTar (bytes "--output=" ++ w.rootTar)
      (bytes "--output=" ++ w.commonTar))

/-- The exported Common says which commit it is and what is in it, and everything is as old as
the commit. -/
structure Recorded (tr : History Calls) : Prop where
  fits : w.marker.length < pathMax ∧ (r.pin ++ [10]).length < 128
  calls : tr = attempts [.writeText w.marker (r.pin ++ [10]), .writeCommonManifest w.commonExport,
    .normalizeTreeTimes w.sourceRoot r.epoch]

/-- It is packed. -/
structure Packed (tr : History Calls) : Prop where
  fits : w.payload.length < pathMax ∧ (bytes "--mtime=@" ++ bytes (toString r.epoch)).length < 64
  calls : tr = commands r [tarArgv w (bytes "--mtime=@" ++ bytes (toString r.epoch)) w.payload]

/-- The installer is written: the program, the payload and its size. -/
structure Installed (payload : Path) (tr : History Calls) : Prop where
  fits : w.installerSource.length < pathMax ∧ w.installerBinary.length < pathMax ∧
    (bytes "System-Settings-" ++ r.version ++ bytes "-native.run").length < pathMax ∧
    r.runPath.length < pathMax
  calls : ∃ size : ℤ, 0 < size ∧
    tr = commands r [compileArgv w.installerSource w.installerBinary] ++
      [.of (.stat payload) (some size)] ++
      attempts [.fopen r.runPath, .appendFile w.installerBinary, .appendFile payload] ++
      [.of (.fprintf (payloadFooter size.toNat)) (32 : ℤ)] ++
      attempts [.fflush, .fsync, .fclose, .chmod r.runPath]

/-- The source archive is written. -/
structure Archived (tr : History Calls) : Prop where
  fits : (bytes "System-Settings-" ++ r.version ++ bytes "-source.zip").length < pathMax ∧
    r.zipPath.length < pathMax
  calls : tr = [.of (.run (some w.sourceRoot) (zipArgv r.zipPath)) (0 : ℤ)]

/-- What the installer extracts is what was exported, and can be configured. -/
structure Verified (runPath : Path) (tr : History Calls) : Prop where
  fits : ∀ path ∈ [w.verified, below w.sourceRoot "VERSION", below w.verified "VERSION",
    below w.commonExport "VERSION", below w.verified "src/vendor/infiltratr-common/VERSION",
    w.verifyBuild], path.length < pathMax
  calls : tr = commands r [[bytes "readelf", bytes "-h", runPath], [runPath, bytes "--help"],
      [runPath, bytes "--extract", w.verified]] ++
    attempts [.treesEqual w.sourceRoot w.verified,
      .filesEqual (below w.sourceRoot "VERSION") (below w.verified "VERSION"),
      .filesEqual (below w.commonExport "VERSION")
        (below w.verified "src/vendor/infiltratr-common/VERSION")] ++
    commands r [configureArgv w.verified w.verifyBuild]

end

section

variable {β : Type} {r : Release} {w : Workspace} {b : β} {Q : History Calls → Prop}

theorem gives_makeWorkspace : Gives makeWorkspace (.ok w) w.Prepared := by
  have hmkdtemp (work : Path) : Gives mkdtemp (some work) fun tr =>
      tr = [.of .mkdtemp (some work)] := gives_call
  refine (gives_need hmkdtemp fun work => gives_fitting fun sourceRoot =>
    gives_ensure (gives_makeDirectory _) <| gives_fitting fun commonExport =>
    gives_found).congr fun tr => ?_
  constructor
  · rintro ⟨work, _, _, rfl, rfl, sourceRoot, hsource, _, _, rfl, rfl, commonExport, hcommon, rfl,
      rfl⟩
    exact ⟨pathJoin_eq_some.mp hsource, pathJoin_eq_some.mp hcommon, rfl⟩
  · rintro ⟨hsource, hcommon, rfl⟩
    exact ⟨w.work, [_], _, rfl, rfl, w.sourceRoot, pathJoin_eq_some.mpr hsource, [_], [], rfl, rfl,
      w.commonExport, pathJoin_eq_some.mpr hcommon, rfl, rfl⟩

theorem gives_exportSources {next : Stage β} (hnext : Gives next (.ok b) Q) :
    Gives (exportSources r w next) (.ok b) (Both (Exported r w) Q) := by
  have hparents : Gives (if w.commonExport.length < pathMax then
      makeParents (w.sourceRoot ++ [separator]) commonRelative else pure false) true
      fun tr => w.commonExport.length < pathMax ∧
        Made (parentPaths (w.sourceRoot ++ [separator]) commonRelative) tr := by
    split_ifs with hfits
    · exact (gives_makeParents _ _).congr fun tr => by simp [hfits]
    · exact gives_pure.congr fun tr => by simp [hfits]
  refine (gives_ensure hparents <| gives_fitting fun rootTar => gives_fitting fun commonTar =>
    gives_fitting fun rootOutput => gives_fitting fun commonOutput =>
    gives_ensure (gives_runAll _) hnext).congr fun tr => ?_
  constructor
  · rintro ⟨made, _, rfl, ⟨hfits, hmade⟩, rootTar, hrootTar, commonTar, hcommonTar, rootOutput,
      hrootOutput, commonOutput, hcommonOutput, _, rest, rfl, rfl, hrest⟩
    obtain ⟨-, rfl⟩ := pathJoin_eq_some.mp hrootTar
    obtain ⟨-, rfl⟩ := pathJoin_eq_some.mp hcommonTar
    obtain ⟨⟨-, hroot⟩, rfl⟩ := printed_eq_some.mp hrootOutput
    obtain ⟨⟨-, hcommon⟩, rfl⟩ := printed_eq_some.mp hcommonOutput
    refine ⟨_, rest, (List.append_assoc ..).symm, ⟨⟨hfits, ?_⟩, made, hmade, rfl⟩, hrest⟩
    exact List.forall_mem_cons.mpr ⟨hroot, List.forall_mem_singleton.mpr hcommon⟩
  · rintro ⟨_, rest, rfl, ⟨⟨hfits, htars⟩, made, hmade, rfl⟩, hrest⟩
    obtain ⟨hroot, htars⟩ := List.forall_mem_cons.mp htars
    have hcommon := List.forall_mem_singleton.mp htars
    refine ⟨made, _, List.append_assoc .., ⟨hfits, hmade⟩, w.rootTar, ?_, w.commonTar, ?_, _,
      printed_eq_some.mpr ⟨⟨?_, hroot⟩, rfl⟩, _, printed_eq_some.mpr ⟨⟨?_, hcommon⟩, rfl⟩, _,
      rest, rfl, rfl, hrest⟩
    · rw [List.length_append] at hroot
      exact pathJoin_eq_some.mpr ⟨lt_of_le_of_lt (Nat.le_add_left ..) hroot, rfl⟩
    · rw [List.length_append] at hcommon
      exact pathJoin_eq_some.mpr ⟨lt_of_le_of_lt (Nat.le_add_left ..) hcommon, rfl⟩
    · rw [List.length_append]
      exact Nat.add_pos_left (by decide) _
    · rw [List.length_append]
      exact Nat.add_pos_left (by decide) _

theorem gives_recordProvenance {next : Stage β} (hnext : Gives next (.ok b) Q) :
    Gives (recordProvenance r w next) (.ok b) (Both (Recorded r w) Q) := by
  refine (gives_fitting fun marker => gives_fitting fun markerText =>
    gives_ensure (gives_attemptAll _) <| gives_ensure (gives_attempt _) hnext).congr fun tr => ?_
  constructor
  · rintro ⟨marker, hmarker, markerText, htext, _, _, rfl, rfl, _, rest, rfl, rfl, hrest⟩
    obtain ⟨hfits, rfl⟩ := pathJoin_eq_some.mp hmarker
    obtain ⟨⟨-, hshort⟩, rfl⟩ := printed_eq_some.mp htext
    exact ⟨_, rest, rfl, ⟨⟨hfits, hshort⟩, rfl⟩, hrest⟩
  · rintro ⟨_, rest, rfl, ⟨⟨hfits, hshort⟩, rfl⟩, hrest⟩
    exact ⟨_, pathJoin_eq_some.mpr ⟨hfits, rfl⟩, _,
      printed_eq_some.mpr ⟨⟨by simp, hshort⟩, rfl⟩, [_, _], _, rfl, rfl, [_], rest, rfl, rfl, hrest⟩

theorem gives_packSources {next : Path → Stage β} {Q : Path → History Calls → Prop}
    (hnext : ∀ payload, Gives (next payload) (.ok b) (Q payload)) :
    Gives (packSources r w next) (.ok b) (Both (Packed r w) (Q w.payload)) := by
  refine (gives_fitting fun payload => gives_fitting fun epochArgument =>
    gives_ensure (gives_runCommand _ _) (hnext payload)).congr fun tr => ?_
  constructor
  · rintro ⟨payload, hpayload, epochArgument, hepoch, _, rest, rfl, rfl, hrest⟩
    obtain ⟨hfits, rfl⟩ := pathJoin_eq_some.mp hpayload
    obtain ⟨⟨-, hshort⟩, rfl⟩ := printed_eq_some.mp hepoch
    exact ⟨_, rest, rfl, ⟨⟨hfits, hshort⟩, rfl⟩, hrest⟩
  · rintro ⟨_, rest, rfl, ⟨⟨hfits, hshort⟩, rfl⟩, hrest⟩
    refine ⟨w.payload, pathJoin_eq_some.mpr ⟨hfits, rfl⟩, _,
      printed_eq_some.mpr ⟨⟨?_, hshort⟩, rfl⟩, [_], rest, rfl, rfl, hrest⟩
    rw [List.length_append]
    exact Nat.add_pos_left (by decide) _

theorem gives_statPayload {payload : Path} {size : ℤ} :
    Gives (statPayload payload) (some size) fun tr => 0 < size ∧
      tr = [.of (.stat payload) (some size)] := by
  have hstat (size : ℤ) : Gives (stat payload) (some size) fun tr =>
      tr = [.of (.stat payload) (some size)] := gives_call
  refine (gives_search hstat fun size => gives_pure).congr fun tr => ?_
  constructor
  · rintro ⟨_, _, _, rfl, rfl, hsize, rfl⟩
    obtain ⟨hpos, hsize⟩ := Option.ite_none_left_eq_some.mp hsize.symm
    obtain rfl := Option.some.inj hsize
    exact ⟨not_le.mp hpos, rfl⟩
  · rintro ⟨hpos, rfl⟩
    exact ⟨size, _, [], rfl, rfl, (if_neg (not_le.mpr hpos)).symm, rfl⟩

theorem gives_writeRun {runPath installerBinary payload : Path} {size : ℤ} :
    Gives (writeRun runPath installerBinary payload size) true fun tr =>
      tr = attempts [.fopen runPath, .appendFile installerBinary, .appendFile payload] ++
        [.of (.fprintf (payloadFooter size.toNat)) (32 : ℤ)] ++
        attempts [.fflush, .fsync, .fclose] := by
  have hfooter : Gives (printFooter size) true fun tr =>
      tr = [.of (.fprintf (payloadFooter size.toNat)) (32 : ℤ)] := by
    refine gives_answer.congr fun tr => ?_
    constructor
    · rintro ⟨(count : ℤ), hcount, rfl⟩
      obtain rfl := of_decide_eq_true hcount
      rfl
    · rintro rfl
      exact ⟨(32 : ℤ), rfl, rfl⟩
  have hclosing {written : BuilderM Bool} {P : History Calls → Prop} (h : Gives written true P) :
      Gives (closing written) true (Both P fun tr => tr = [.of (.attempt .fclose) true]) := by
    refine (gives_bind (S := {true}) (P := fun _ => P)
      (Q := fun _ tr => tr = [.of (.attempt .fclose) true]) ?_ ?_ ?_).congr fun tr => by simp
    · rintro _ rfl
      exact h
    · rintro _ rfl
      refine gives_answer.congr fun tr => ?_
      constructor
      · rintro ⟨(closed : Bool), hclosed, rfl⟩
        obtain rfl : closed = true := hclosed
        rfl
      · rintro rfl
        exact ⟨true, rfl, rfl⟩
    · intro written hwritten
      obtain rfl : written = false := by simpa using hwritten
      refine gives_answer.congr fun tr => ⟨?_, False.elim⟩
      rintro ⟨_, hfalse, -⟩
      cases hfalse
  refine (gives_and (gives_attempt _) <| hclosing <| gives_and (gives_attemptAll _) <|
    gives_and hfooter (gives_attemptAll _)).congr fun tr => ?_
  constructor
  · rintro ⟨_, _, rfl, rfl, _, _, rfl, ⟨_, _, rfl, rfl, _, _, rfl, rfl, rfl⟩, rfl⟩
    rfl
  · rintro rfl
    exact ⟨[_], _, rfl, rfl, [_, _, _, _, _], _, rfl,
      ⟨[_, _], _, rfl, rfl, [_], _, rfl, rfl, rfl⟩, rfl⟩

theorem gives_writeInstaller {payload : Path} {next : Path → Stage β}
    {Q : Path → History Calls → Prop}
    (hnext : ∀ runPath, Gives (next runPath) (.ok b) (Q runPath)) :
    Gives (writeInstaller r w payload next) (.ok b)
      (Both (Installed r w payload) (Q r.runPath)) := by
  refine (gives_fitting fun installerSource => gives_fitting fun installerBinary =>
    gives_ensure (gives_runCommand _ _) <| gives_fitting fun name => gives_fitting fun runPath =>
    gives_need (fun size => gives_statPayload) fun size => gives_ensure gives_writeRun <|
    gives_ensure (gives_attempt _) (hnext runPath)).congr fun tr => ?_
  constructor
  · rintro ⟨_, hsource, _, hbinary, _, _, rfl, rfl, _, hname, _, hrun, size, _, _, rfl,
      ⟨hsize, rfl⟩, _, _, rfl, rfl, _, rest, rfl, rfl, hrest⟩
    obtain ⟨hsource, rfl⟩ := pathJoin_eq_some.mp hsource
    obtain ⟨hbinary, rfl⟩ := pathJoin_eq_some.mp hbinary
    obtain ⟨⟨-, hshort⟩, rfl⟩ := printed_eq_some.mp hname
    obtain ⟨hrun, rfl⟩ := pathJoin_eq_some.mp hrun
    exact ⟨_, rest, rfl, ⟨⟨hsource, hbinary, hshort, hrun⟩, size, hsize, rfl⟩, hrest⟩
  · rintro ⟨_, rest, rfl, ⟨⟨hsource, hbinary, hname, hrun⟩, size, hsize, rfl⟩, hrest⟩
    refine ⟨_, pathJoin_eq_some.mpr ⟨hsource, rfl⟩, _, pathJoin_eq_some.mpr ⟨hbinary, rfl⟩, [_],
      _, rfl, rfl, _, printed_eq_some.mpr ⟨⟨?_, hname⟩, rfl⟩, _,
      pathJoin_eq_some.mpr ⟨hrun, rfl⟩, size, [_], _, rfl, ⟨hsize, rfl⟩, [_, _, _, _, _, _, _],
      _, rfl, rfl, [_], rest, rfl, rfl, hrest⟩
    rw [List.append_assoc, List.length_append]
    exact Nat.add_pos_left (by decide) _

theorem gives_writeArchive {next : Stage β} (hnext : Gives next (.ok b) Q) :
    Gives (writeArchive r w next) (.ok b) (Both (Archived r w) Q) := by
  refine (gives_fitting fun name => gives_fitting fun zipPath =>
    gives_ensure (gives_runCommand _ _) hnext).congr fun tr => ?_
  constructor
  · rintro ⟨_, hname, _, hzip, _, rest, rfl, rfl, hrest⟩
    obtain ⟨⟨-, hshort⟩, rfl⟩ := printed_eq_some.mp hname
    obtain ⟨hzip, rfl⟩ := pathJoin_eq_some.mp hzip
    exact ⟨_, rest, rfl, ⟨⟨hshort, hzip⟩, rfl⟩, hrest⟩
  · rintro ⟨_, rest, rfl, ⟨⟨hname, hzip⟩, rfl⟩, hrest⟩
    refine ⟨_, printed_eq_some.mpr ⟨⟨?_, hname⟩, rfl⟩, _, pathJoin_eq_some.mpr ⟨hzip, rfl⟩, [_],
      rest, rfl, rfl, hrest⟩
    rw [List.append_assoc, List.length_append]
    exact Nat.add_pos_left (by decide) _

theorem gives_verifyInstaller {runPath : Path} :
    Gives (verifyInstaller r w runPath) (.ok ()) (Verified r w runPath) := by
  refine (gives_ensure (gives_runAll _) <| gives_fitting fun verified =>
    gives_ensure (gives_runCommand _ _) <| gives_ensure (gives_attempt _) <|
    gives_fitting fun sourceVersion => gives_fitting fun verifiedVersion =>
    gives_fitting fun sourceCommonVersion => gives_fitting fun verifiedCommonVersion =>
    gives_ensure (gives_attemptAll _) <| gives_fitting fun verifyBuild =>
    gives_ensure (gives_runCommand _ _) gives_found).congr fun tr => ?_
  constructor
  · rintro ⟨_, _, rfl, rfl, _, hverified, _, _, rfl, rfl, _, _, rfl, rfl, _, hsource, _, hextracted,
      _, hsourceCommon, _, hextractedCommon, _, _, rfl, rfl, _, hbuild, _, _, rfl, rfl, -, rfl⟩
    obtain ⟨hverified, rfl⟩ := pathJoin_eq_some.mp hverified
    obtain ⟨hsource, rfl⟩ := pathJoin_eq_some.mp hsource
    obtain ⟨hextracted, rfl⟩ := pathJoin_eq_some.mp hextracted
    obtain ⟨hsourceCommon, rfl⟩ := pathJoin_eq_some.mp hsourceCommon
    obtain ⟨hextractedCommon, rfl⟩ := pathJoin_eq_some.mp hextractedCommon
    obtain ⟨hbuild, rfl⟩ := pathJoin_eq_some.mp hbuild
    refine ⟨?_, rfl⟩
    simp only [List.forall_mem_cons, List.not_mem_nil, false_implies, implies_true, and_true]
    exact ⟨hverified, hsource, hextracted, hsourceCommon, hextractedCommon, hbuild⟩
  · rintro ⟨hfits, rfl⟩
    simp only [List.forall_mem_cons, List.not_mem_nil, false_implies, implies_true, and_true]
      at hfits
    obtain ⟨hverified, hsource, hextracted, hsourceCommon, hextractedCommon, hbuild⟩ := hfits
    exact ⟨[_, _], _, rfl, rfl, _, pathJoin_eq_some.mpr ⟨hverified, rfl⟩, [_], _, rfl, rfl, [_], _,
      rfl, rfl, _, pathJoin_eq_some.mpr ⟨hsource, rfl⟩, _,
      pathJoin_eq_some.mpr ⟨hextracted, rfl⟩, _,
      pathJoin_eq_some.mpr ⟨hsourceCommon, rfl⟩, _, pathJoin_eq_some.mpr ⟨hextractedCommon, rfl⟩,
      [_, _], _, rfl, rfl, _, pathJoin_eq_some.mpr ⟨hbuild, rfl⟩, [_], [], rfl, rfl, rfl, rfl⟩

theorem gives_buildAssets :
    Gives (buildAssets r w) (.ok ()) (Both (Exported r w) <| Both (Recorded r w) <|
      Both (Packed r w) <| Both (Installed r w w.payload) <| Both (Archived r w)
      (Verified r w r.runPath)) :=
  gives_exportSources <| gives_recordProvenance <| gives_packSources fun _ =>
    gives_writeInstaller fun _ => gives_writeArchive gives_verifyInstaller

end

/-! ## The builder -/

/-- A release: what was found out first, and everything that was made from it, in order. -/
structure Assets : Type where
  checks : Checks
  opening : Opening
  release : Release
  workspace : Workspace
  prepared : History Calls
  exported : History Calls
  recorded : History Calls
  packed : History Calls
  installed : History Calls
  archived : History Calls
  verified : History Calls
  /-- whether the workspace could be removed -/
  removed : Bool

namespace Assets

variable (a : Assets) (directory : Path)

/-- Everything in order. -/
def calls : History Calls :=
  a.checks.looks ++ a.opening.calls directory ++ a.prepared ++ a.exported ++ a.recorded ++
    a.packed ++ a.installed ++ a.archived ++ a.verified ++
    [.of (.attempt (.removeTree a.workspace.work)) a.removed]

/-- Each part has succeeded. -/
structure Sound : Prop where
  looked : a.checks.Looked a.release.toSource
  opened : a.opening.Opened directory a.release.output
  prepared : a.workspace.Prepared a.prepared
  exported : Exported a.release a.workspace a.exported
  recorded : Recorded a.release a.workspace a.recorded
  packed : Packed a.release a.workspace a.packed
  installed : Installed a.release a.workspace a.workspace.payload a.installed
  archived : Archived a.release a.workspace a.archived
  verified : Verified a.release a.workspace a.release.runPath a.verified

end Assets

/-- A release succeeds when each of its parts does, in order. -/
theorem gives_release {directory : Path} {stderr : List UInt8} :
    Gives (release directory) ⟨0, stderr⟩ fun tr => ∃ a : Assets, a.Sound directory ∧
      tr = a.calls directory ∧ stderr = warning a.workspace.work a.removed := by
  have hfail (message : String) : Gives (pure (fail message)) (⟨0, stderr⟩ : Exit) fun _ => False :=
    gives_pure.congr fun tr => by simp [fail]
  have hok (w : Workspace) : Gives (cleanup w.work (.ok ())) ⟨0, stderr⟩ fun tr =>
      ∃ removed : Bool, stderr = warning w.work removed ∧
        tr = [.of (.attempt (.removeTree w.work)) removed] := by
    refine gives_answer.congr fun tr => ?_
    simp only [ending, Exit.mk.injEq, true_and]
    exact exists_congr fun removed => and_congr_left' eq_comm
  have herror (w : Workspace) (message : String) :
      Gives (cleanup w.work (.error message)) ⟨0, stderr⟩ fun _ => False := by
    refine gives_answer.congr fun tr => ⟨?_, False.elim⟩
    rintro ⟨_, hexit, -⟩
    cases hexit
  refine (gives_except (fun r => gives_checkRelease) (fun r => gives_except
    (fun w => gives_makeWorkspace) (fun w => gives_except (fun _ => gives_buildAssets)
      (fun _ => hok w) (herror w)) hfail) hfail).congr fun tr => ?_
  constructor
  · rintro ⟨r, _, _, rfl, ⟨c, o, hlooked, hopened, rfl⟩, w, prepared, _, rfl, hprepared, _, _,
      _, rfl, ⟨exported, _, rfl, hexported, recorded, _, rfl, hrecorded, packed, _, rfl, hpacked,
      installed, _, rfl, hinstalled, archived, verified, rfl, harchived, hverified⟩, removed, rfl,
      rfl⟩
    refine ⟨⟨c, o, r, w, prepared, exported, recorded, packed, installed, archived, verified,
      removed⟩, ⟨hlooked, hopened, hprepared, hexported, hrecorded, hpacked, hinstalled, harchived,
        hverified⟩, ?_, rfl⟩
    simp [Assets.calls]
  · rintro ⟨a, h, rfl, rfl⟩
    refine ⟨a.release, _, _, ?_, ⟨a.checks, a.opening, h.looked, h.opened, rfl⟩, a.workspace,
      a.prepared, _, rfl, h.prepared, (), _, _, rfl, ⟨a.exported, _, rfl, h.exported, a.recorded,
      _, rfl, h.recorded, a.packed, _, rfl, h.packed, a.installed, _, rfl, h.installed, a.archived,
      a.verified, rfl, h.archived, h.verified⟩, a.removed, rfl, rfl⟩
    simp [Assets.calls]

theorem gives_mainOptions {argv : List Path} {stderr : List UInt8} :
    Gives (mainOptions argv) ⟨0, stderr⟩ fun tr =>
      AsksForHelp argv ∧ tr = [] ∧ stderr = [] ∨
        ¬ AsksForHelp argv ∧ ∃ program directory, argv = [program, directory] ∧ directory ≠ [] ∧
          ∃ a : Assets, a.Sound directory ∧ tr = a.calls directory ∧
            stderr = warning a.workspace.work a.removed := by
  have hrefuse : Gives (pure ⟨2, []⟩) (⟨0, stderr⟩ : Exit) fun _ => False :=
    gives_pure.congr fun tr => by simp
  unfold mainOptions
  by_cases hhelp : AsksForHelp argv
  · simp only [if_pos hhelp]
    refine gives_pure.congr fun tr => ?_
    simp [hhelp, and_comm]
  · simp only [if_neg hhelp]
    match argv with
    | [] => exact hrefuse.congr fun tr => by simp [hhelp]
    | [program] => exact hrefuse.congr fun tr => by simp [hhelp]
    | [program, directory] =>
      dsimp only
      split_ifs with hempty
      · subst hempty
        exact hrefuse.congr fun tr => by simp [hhelp]
      · exact gives_release.congr fun tr => by simp [hempty, hhelp]
    | program :: directory :: other :: rest => exact hrefuse.congr fun tr => by simp [hhelp]

/-- The builder succeeds exactly when it is asked for help, or when everything has been done in
order, each call has succeeded and all texts have fitted their buffers. -/
theorem builder_succeeds_iff (argv : List Path) (env : Option Path) (tr : History Calls) :
    (∃ stderr env', (main argv env).Yields tr ⟨0, stderr⟩ env') ↔
      AsksForHelp argv ∧ tr = [.of (.setenv trustedPath) true] ∨
        ¬ AsksForHelp argv ∧ ∃ program directory, argv = [program, directory] ∧ directory ≠ [] ∧
          ∃ a : Assets, a.Sound directory ∧
            tr = .of (.setenv trustedPath) true :: a.calls directory := by
  have hmain (stderr : List UInt8) (env' : Option Path) :
      (main argv env).Yields tr ⟨0, stderr⟩ env' ↔
        ∃ tr', tr = .of (.setenv trustedPath) true :: tr' ∧
        (mainOptions argv (some trustedPath)).Yields tr' ⟨0, stderr⟩ env' := by
    constructor
    · rintro ⟨(ok : Bool), _, tr', rfl, h⟩
      cases ok with
      | false => cases h.2.1
      | true => exact ⟨tr', rfl, h⟩
    · rintro ⟨tr', rfl, h⟩
      exact ⟨true, (), tr', rfl, h⟩
  simp only [hmain]
  constructor
  · rintro ⟨stderr, env', tr', rfl, h⟩
    obtain ⟨-, ⟨hhelp, rfl, -⟩ | ⟨hhelp, program, directory, hargv, hdirectory, a, ha, rfl, -⟩⟩ :=
      (gives_mainOptions _ _ _).mp h
    · exact .inl ⟨hhelp, rfl⟩
    · exact .inr ⟨hhelp, program, directory, hargv, hdirectory, a, ha, rfl⟩
  · rintro (⟨hhelp, rfl⟩ | ⟨hhelp, program, directory, hargv, hdirectory, a, ha, rfl⟩)
    · exact ⟨[], some trustedPath, [], rfl,
        (gives_mainOptions _ _ _).mpr ⟨rfl, .inl ⟨hhelp, rfl, rfl⟩⟩⟩
    · exact ⟨_, some trustedPath, _, rfl, (gives_mainOptions _ _ _).mpr
        ⟨rfl, .inr ⟨hhelp, program, directory, hargv, hdirectory, a, ha, rfl, rfl⟩⟩⟩

end SourceAssetBuilder

end SystemSettings
