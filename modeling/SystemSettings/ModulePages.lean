import Mathlib.Data.List.Induction
import Mathlib.Logic.Function.Basic

/-!
# Pages of built-in modules

What happens when a module's page is opened: `linux-builtin-module-host.c` keeps a table of
the modules that were created, and `shell-window.c` a scrolled container for each page.

Whether a module can be created, and whether it then has a widget, is the answer of its
callbacks to an attempt. Null arguments, a window that has been closed, and what is visible
or selected are left out.
-/

namespace SystemSettings

/-- What a page's container shows. -/
inductive PageChild : Type where
  /-- the widget of a module's controller -/
  | panel (pageId : String) (controller : ℕ)
  /-- `build_unavailable_panel` -/
  | unavailable (title message : String)
  deriving DecidableEq

/-- How a module's callbacks answer when its page is opened. -/
structure Attempt : Type where
  /-- `create` gives a controller -/
  create : Bool
  /-- the error that `create` sets otherwise -/
  error : Option String
  /-- `widget` gives a panel -/
  widget : Bool
  deriving DecidableEq

/-- The callbacks do what they are asked for. -/
def Attempt.success : Attempt := ⟨true, none, true⟩

/-- `SsBuiltinModuleHost`. Controllers are numbered as they are created. -/
structure ModuleHost : Type where
  /-- the registry -/
  modules : List String
  /-- the controller of each module that was created -/
  instances : String → Option ℕ
  /-- how many controllers were created -/
  created : ℕ

namespace ModuleHost

/-- `find_module_descriptor` -/
def findModuleDescriptor (host : ModuleHost) (pageId : String) : Option String :=
  if pageId = "" then none else host.modules.find? (· = pageId)

/-- The lookup in the table and, when it finds nothing, `create`. -/
def ensureInstance (host : ModuleHost) (pageId : String) (attempt : Attempt) :
    Except (Option String) ℕ × ModuleHost :=
  match host.instances pageId with
  | some controller => (.ok controller, host)
  | none =>
    if attempt.create then
      (.ok host.created,
        { host with
          instances := Function.update host.instances pageId (some host.created)
          created := host.created + 1 })
    else (.error attempt.error, host)

/-- `ss_builtin_module_host_ensure_page`: what the container is to show, or the error. -/
def ensurePage (host : ModuleHost) (pageId : String) (attempt : Attempt) :
    Except (Option String) PageChild × ModuleHost :=
  match host.findModuleDescriptor pageId with
  | none => (.error (some ("Unknown built-in System Settings page: " ++ pageId)), host)
  | some pageId =>
    match host.ensureInstance pageId attempt with
    | (.error error, host) => (.error error, host)
    | (.ok controller, host) =>
      if attempt.widget then (.ok (.panel pageId controller), host)
      else (.error (some ("The built-in " ++ pageId ++ " module did not provide a panel.")), host)

/-- `ss_builtin_module_host_is_loaded` -/
def isLoaded (host : ModuleHost) (pageId : String) : Bool := (host.instances pageId).isSome

end ModuleHost

/-- `ShellModulePage`. The container is there from the start. -/
structure ShellModulePage : Type where
  /-- the title -/
  title : String
  /-- the child of the container -/
  child : Option PageChild
  deriving DecidableEq

/-- `ShellSearchState`, as far as it is about modules. -/
structure Shell : Type where
  /-- `module_host` -/
  moduleHost : ModuleHost
  /-- `module_pages` -/
  modulePages : String → Option ShellModulePage

namespace Shell

/-- `append_builtin_module_rows`: a page for every module. The titles come from the
manifests. -/
def new (modules : List String) (title : String → String) : Shell where
  moduleHost := ⟨modules, fun _ => none, 0⟩
  modulePages pageId :=
    if pageId ∈ modules ∧ pageId ≠ "" then some ⟨title pageId, none⟩ else none

/-- `gtk_scrolled_window_set_child` on the container of a page. -/
def setChild (shell : Shell) (pageId : String) (child : PageChild) : Shell :=
  { shell with
    modulePages := Function.update shell.modulePages pageId
      ((shell.modulePages pageId).map fun page => { page with child := some child }) }

/-- `ensure_module_page` -/
def ensureModulePage (shell : Shell) (pageId : String) (attempt : Attempt) : Bool × Shell :=
  match shell.modulePages pageId with
  | none => (false, shell)
  | some page =>
    if shell.moduleHost.isLoaded pageId then (true, shell)
    else
      match shell.moduleHost.ensurePage pageId attempt with
      | (.ok child, host) => (true, { shell with moduleHost := host }.setChild pageId child)
      | (.error error, host) =>
        (false, { shell with moduleHost := host }.setChild pageId (.unavailable page.title
          (error.getD "Unable to initialise this settings module.")))

/-- `shell_open_page`. A page that is not a module's is always ready. -/
def openPage (shell : Shell) (pageId : String) (attempt : Attempt) : Bool × Shell :=
  if pageId = "" then (false, shell)
  else
    match shell.modulePages pageId with
    | none => (true, shell)
    | some _ => shell.ensureModulePage pageId attempt

/-- A request to open a page, with the answers of the module's callbacks. -/
structure Request : Type where
  /-- the page -/
  pageId : String
  /-- the answers -/
  attempt : Attempt
  deriving DecidableEq

/-- The shell after these requests. -/
def run (shell : Shell) (requests : List Request) : Shell :=
  requests.foldl (fun shell request => (shell.openPage request.pageId request.attempt).2) shell

/-! ## What a request does -/

/-- The host considers the module loaded. -/
def isLoaded (shell : Shell) (pageId : String) : Bool := shell.moduleHost.isLoaded pageId

/-- The container of the page shows the panel of the module that the host keeps for it. -/
def Holds (shell : Shell) (pageId : String) : Prop :=
  ∃ page controller, shell.modulePages pageId = some page ∧
    page.child = some (.panel pageId controller) ∧
    shell.moduleHost.instances pageId = some controller

/-- The host with one controller more. -/
def addInstance (shell : Shell) (pageId : String) : Shell :=
  { shell with
    moduleHost :=
      { shell.moduleHost with
        instances :=
          Function.update shell.moduleHost.instances pageId (some shell.moduleHost.created)
        created := shell.moduleHost.created + 1 } }

/-- Every module has a page. -/
structure Registered (modules : List String) (shell : Shell) : Prop where
  /-- the registry -/
  modules_eq : shell.moduleHost.modules = modules
  /-- the page -/
  exists_page : ∀ pageId ∈ modules, pageId ≠ "" → ∃ page, shell.modulePages pageId = some page

variable {modules : List String} {shell : Shell} {pageId : String}

theorem registered_new (modules : List String) (title : String → String) :
    Registered modules (new modules title) :=
  ⟨rfl, fun _ hmem hne => ⟨_, if_pos ⟨hmem, hne⟩⟩⟩

theorem eq_of_find?_eq_some {l : List String} {found : String}
    (h : l.find? (· = pageId) = some found) : found = pageId := by
  have hfound := List.find?_some h
  exact of_decide_eq_true hfound

theorem setChild_self {page : ShellModulePage} (h : shell.modulePages pageId = some page)
    (child : PageChild) :
    (shell.setChild pageId child).modulePages pageId = some { page with child := some child } := by
  simp [setChild, h]

@[simp] theorem isLoaded_addInstance (shell : Shell) (pageId : String) (child : PageChild) :
    ((shell.addInstance pageId).setChild pageId child).isLoaded pageId = true := by
  simp [isLoaded, ModuleHost.isLoaded, addInstance, setChild]

/-- Opening the page of a module. -/
theorem openPage_eq (h : Registered modules shell) (hmem : pageId ∈ modules) (hne : pageId ≠ "")
    (attempt : Attempt) :
    ∃ page, shell.modulePages pageId = some page ∧ shell.openPage pageId attempt =
      if shell.isLoaded pageId then (true, shell)
      else if attempt.create then
        if attempt.widget then
          (true, (shell.addInstance pageId).setChild pageId
            (.panel pageId shell.moduleHost.created))
        else
          (false, (shell.addInstance pageId).setChild pageId (.unavailable page.title
            ("The built-in " ++ pageId ++ " module did not provide a panel.")))
      else
        (false, shell.setChild pageId (.unavailable page.title
          (attempt.error.getD "Unable to initialise this settings module."))) := by
  obtain ⟨page, hpage⟩ := h.exists_page pageId hmem hne
  refine ⟨page, hpage, ?_⟩
  have hfind : shell.moduleHost.findModuleDescriptor pageId = some pageId := by
    rw [ModuleHost.findModuleDescriptor, if_neg hne, h.modules_eq]
    cases hfind : modules.find? (· = pageId) with
    | none => exact absurd (decide_eq_true rfl) (List.find?_eq_none.mp hfind pageId hmem)
    | some other => rw [eq_of_find?_eq_some hfind]
  cases hloaded : shell.moduleHost.instances pageId with
  | some controller =>
    simp [openPage, hne, hpage, ensureModulePage, isLoaded, ModuleHost.isLoaded, hloaded]
  | none =>
    cases hcreate : attempt.create <;> cases hwidget : attempt.widget <;>
    simp [openPage, hne, hpage, ensureModulePage, isLoaded, ModuleHost.isLoaded, hloaded,
      ModuleHost.ensurePage, hfind, ModuleHost.ensureInstance, hcreate, hwidget, addInstance]

theorem ensureInstance_frame (host : ModuleHost) (pageId : String) (attempt : Attempt) :
    (host.ensureInstance pageId attempt).2.modules = host.modules ∧
      ∀ other, other ≠ pageId →
        (host.ensureInstance pageId attempt).2.instances other = host.instances other := by
  rw [ModuleHost.ensureInstance]
  split
  · exact ⟨rfl, fun _ _ => rfl⟩
  · split
    · exact ⟨rfl, fun other hother => Function.update_of_ne hother ..⟩
    · exact ⟨rfl, fun _ _ => rfl⟩

theorem ensurePage_frame (host : ModuleHost) (pageId : String) (attempt : Attempt) :
    (host.ensurePage pageId attempt).2.modules = host.modules ∧
      ∀ other, other ≠ pageId →
        (host.ensurePage pageId attempt).2.instances other = host.instances other := by
  rw [ModuleHost.ensurePage]
  split
  · exact ⟨rfl, fun _ _ => rfl⟩
  · next found hfound =>
    have heq : found = pageId := by
      rw [ModuleHost.findModuleDescriptor, Option.ite_none_left_eq_some] at hfound
      exact eq_of_find?_eq_some hfound.2
    have hframe := ensureInstance_frame host found attempt
    rw [heq] at hframe ⊢
    split
    · next heq => rwa [heq] at hframe
    · next heq =>
      rw [heq] at hframe
      split
      · exact hframe
      · exact hframe

/-- A request leaves the registry and the pages of other modules alone. -/
theorem openPage_frame (shell : Shell) (pageId : String) (attempt : Attempt) :
    (shell.openPage pageId attempt).2.moduleHost.modules = shell.moduleHost.modules ∧
      ∀ other, other ≠ pageId →
        (shell.openPage pageId attempt).2.modulePages other = shell.modulePages other ∧
        (shell.openPage pageId attempt).2.moduleHost.instances other =
          shell.moduleHost.instances other := by
  have hframe := ensurePage_frame shell.moduleHost pageId attempt
  rw [openPage]
  split
  · exact ⟨rfl, fun _ _ => ⟨rfl, rfl⟩⟩
  · split
    · exact ⟨rfl, fun _ _ => ⟨rfl, rfl⟩⟩
    · rw [ensureModulePage]
      split
      · exact ⟨rfl, fun _ _ => ⟨rfl, rfl⟩⟩
      · split
        · exact ⟨rfl, fun _ _ => ⟨rfl, rfl⟩⟩
        · split
          · next heq =>
            rw [heq] at hframe
            exact ⟨hframe.1, fun other hother =>
              ⟨Function.update_of_ne hother .., hframe.2 other hother⟩⟩
          · next heq =>
            rw [heq] at hframe
            exact ⟨hframe.1, fun other hother =>
              ⟨Function.update_of_ne hother .., hframe.2 other hother⟩⟩

/-- Requests keep a page for every module. -/
theorem Registered.openPage (h : Registered modules shell) (pageId : String) (attempt : Attempt) :
    Registered modules (shell.openPage pageId attempt).2 := by
  have hframe := openPage_frame shell pageId attempt
  refine ⟨hframe.1.trans h.modules_eq, fun other hmem hne => ?_⟩
  by_cases hother : other = pageId
  · subst hother
    obtain ⟨page, hpage, heq⟩ := openPage_eq h hmem hne attempt
    rw [heq]
    split_ifs
    · exact ⟨page, hpage⟩
    · exact ⟨_, (shell.addInstance other).setChild_self hpage _⟩
    · exact ⟨_, (shell.addInstance other).setChild_self hpage _⟩
    · exact ⟨_, setChild_self hpage _⟩
  · rw [(hframe.2 other hother).1]
    exact h.exists_page other hmem hne

theorem Registered.run (h : Registered modules shell) (requests : List Request) :
    Registered modules (shell.run requests) := by
  induction requests generalizing shell with
  | nil => exact h
  | cons request requests ih => exact ih (h.openPage request.pageId request.attempt)

/-! ## Retrying -/

/-- The request gets its module created, if it was not. -/
def Request.Creates (pageId : String) (request : Request) : Prop :=
  request.pageId = pageId ∧ request.attempt.create = true

/-- A module is loaded once an attempt has created it, whether or not it had a widget. -/
theorem isLoaded_run_iff (h : Registered modules shell) (hmem : pageId ∈ modules)
    (hne : pageId ≠ "") (requests : List Request) :
    (shell.run requests).isLoaded pageId = true ↔
      shell.isLoaded pageId = true ∨ ∃ request ∈ requests, request.Creates pageId := by
  induction requests generalizing shell with
  | nil => simp [Shell.run]
  | cons request requests ih =>
    have hstep : (shell.openPage request.pageId request.attempt).2.isLoaded pageId = true ↔
        shell.isLoaded pageId = true ∨ request.Creates pageId := by
      by_cases hother : request.pageId = pageId
      · subst hother
        obtain ⟨page, -, heq⟩ := openPage_eq h hmem hne request.attempt
        rw [heq]
        split_ifs with hloaded hcreate hwidget
        · exact ⟨fun _ => .inl hloaded, fun _ => hloaded⟩
        · exact ⟨fun _ => .inr ⟨rfl, hcreate⟩, fun _ => isLoaded_addInstance ..⟩
        · exact ⟨fun _ => .inr ⟨rfl, hcreate⟩, fun _ => isLoaded_addInstance ..⟩
        · exact ⟨.inl, fun hor => hor.resolve_right fun hcreates => hcreate hcreates.2⟩
      · have hframe := (openPage_frame shell request.pageId request.attempt).2 pageId
          (Ne.symm hother)
        rw [isLoaded, ModuleHost.isLoaded, hframe.2]
        exact ⟨.inl, fun hor => hor.resolve_right fun hcreates => hother hcreates.1⟩
    rw [show shell.run (request :: requests) =
        (shell.openPage request.pageId request.attempt).2.run requests from rfl,
      ih (h.openPage _ _), hstep, or_assoc]
    simp only [List.mem_cons, exists_eq_or_imp]

/-- The first attempt that creates a module also gets its widget. -/
def WidgetsProvided (modules : List String) (requests : List Request) : Prop :=
  ∀ before request after, requests = before ++ request :: after →
    request.pageId ∈ modules → request.pageId ≠ "" → request.attempt.create = true →
    (∀ earlier ∈ before, ¬ earlier.Creates request.pageId) → request.attempt.widget = true

theorem run_append_singleton (shell : Shell) (requests : List Request) (request : Request) :
    shell.run (requests ++ [request]) =
      ((shell.run requests).openPage request.pageId request.attempt).2 := by
  rw [run, List.foldl_append]
  rfl

theorem WidgetsProvided.widget {title : String → String} {requests before after : List Request}
    {request : Request} (hprovided : WidgetsProvided modules requests)
    (hsplit : requests = before ++ request :: after) (hmem : request.pageId ∈ modules)
    (hne : request.pageId ≠ "")
    (hnot : ((new modules title).run before).isLoaded request.pageId = false)
    (hcreate : request.attempt.create = true) : request.attempt.widget = true := by
  refine hprovided before request after hsplit hmem hne hcreate fun earlier hmem' hcreates => ?_
  exact absurd ((isLoaded_run_iff (registered_new modules title) hmem hne before).mpr
    (.inr ⟨earlier, hmem', hcreates⟩)) (Bool.eq_false_iff.mp hnot)

end Shell

end SystemSettings
