import Mathlib.Data.Finset.Card
import Mathlib.Order.Interval.Finset.Nat
import SystemSettings.SearchPanel

/-!
# Only the newest search is shown

What holds of the searches of a panel at every moment, whatever completes when: the rows are
those of the newest search, an older one changes nothing, nothing happens to a panel that is
being freed, and what was handed over is given back once.
-/

namespace SystemSettings

/-! ## What is counted -/

namespace SearchSession

/-- The numbers of the searches in flight. -/
def waiting (s : SearchSession) : List ℕ := s.pending.map LocationSearchUiRequest.number

/-- The numbers of the searches whose backend is being called. -/
def starting (s : SearchSession) : List ℕ :=
  s.stack.filterMap fun
    | .starting number => some number
    | _ => none

/-- The panel and the searches in flight: each has a reference to the lifetime. -/
def holders (s : SearchSession) : ℕ := s.panel.isSome.toNat + s.pending.length

/-- Whether a search has been completed, as a count. Those that are `owed` have not. -/
def completions (s : SearchSession) (owed : List ℕ) (n : ℕ) : ℕ :=
  if n < s.started ∧ n ∉ s.waiting ∧ n ∉ owed then 1 else 0

/-- The lifetime leads to the panel. -/
def Open (s : SearchSession) : Prop := ∃ references, s.lifetime = .live references true

/-- From the start of a search to its completion fewer than `2 ^ 32` are started. -/
def Countable (s : SearchSession) : Prop :=
  ∀ request ∈ s.pending, s.started - request.number < 2 ^ 32

instance (s : SearchSession) : Decidable s.Countable :=
  inferInstanceAs (Decidable (∀ request ∈ s.pending, _))

/-- The rows of the panel are none, or what the newest search was answered with. -/
def Shows (s : SearchSession) (panel : SearchPanel) : Prop :=
  panel.resultsVisible = !panel.results.isEmpty ∧
    (panel.results = [] ∨
      ∃ n, s.started = n + 1 ∧ s.handed n = 1 ∧ panel.results = s.answers n)

end SearchSession

/-- What holds at every moment. -/
structure NewestSearch (utf8Validate : Text → Bool) (s : SearchSession) : Prop where
  /-- the rows are none, or those of the newest search -/
  shown : ∀ panel, s.panel = some panel → s.Shows panel
  /-- an older search changes nothing when it completes -/
  older : ∀ request places error s',
    searchStep utf8Validate s (.complete request places error) = some s' →
    request.number + 1 ≠ s.started → s'.panel = s.panel
  /-- from its free on nothing is done to the panel but to give it back -/
  disposed : ¬ s.Open → ∀ action s', searchStep utf8Validate s action = some s' →
    ¬ s'.Open ∧ (s'.panel = s.panel ∨ s'.panel = none)
  /-- a search that has completed was handed one list and given back list and request
  once, and one in flight nothing yet -/
  released : ∀ n, s.handed n = s.completions [] n ∧ s.listsReleased n = s.completions [] n ∧
    s.requestsFreed n = s.completions [] n
  /-- the backend has one request for a search at most, until it completes it -/
  calls : ∀ n, s.callsMade n ≤ 1 ∧ s.callsMade n = s.callsFreed n + s.waiting.count n
  /-- and no object but those in use -/
  forwards : ∀ n, s.forwards.count n = s.waiting.count n + s.starting.count n
  /-- the lifetime goes with its last user -/
  lifetime : s.lifetime = .released ↔ s.panel = none ∧ s.pending = []
  untouched : s.touched = false

/-! ## The invariant -/

/-- The panel and the requests. Those that are `owed` are in the hands of a completion. -/
structure SearchInvariant (owed : List ℕ) (s : SearchSession) : Prop where
  untouched : s.touched = false
  references : ∀ references panel, s.lifetime = .live references panel →
    references = UInt32.ofNat (s.holders + owed.length) ∧ 0 < s.holders + owed.length ∧
      (panel = true → s.panel.isSome = true)
  released : s.lifetime = .released → s.holders + owed.length = 0
  generation : ∀ panel, s.panel = some panel →
    panel.searchGeneration = UInt32.ofNat s.started
  numbered : ∀ request ∈ s.pending, request.number < s.started ∧
    request.generation = UInt32.ofNat (request.number + 1)
  distinct : s.waiting.Nodup
  shown : ∀ panel, s.panel = some panel → s.Shows panel
  handed : ∀ n, s.handed n = s.completions owed n
  listsReleased : ∀ n, s.listsReleased n = s.completions owed n
  requestsFreed : ∀ n, s.requestsFreed n = s.completions owed n

/-- The requests and objects of the backend. -/
structure BackendBooks (s : SearchSession) : Prop where
  once : ∀ n, s.callsMade n ≤ 1
  fresh : ∀ n, s.started ≤ n → s.callsMade n = 0
  calls : ∀ n, s.callsMade n = s.callsFreed n + s.waiting.count n
  forwards : ∀ n, s.forwards.count n = s.waiting.count n + s.starting.count n

/-- The frames, against panel and lifetime. -/
def FramesFit (s : SearchSession) : Prop :=
  s.stack = [] ∧ (s.panel.isSome = true → s.Open) ∨
    ∃ frame, s.stack = [frame] ∧ s.panel.isSome = true ∧ (s.Open ↔ frame ≠ .freeing)

/-- A completion leaves the books of the backend alone. -/
structure SameBackend (s s' : SearchSession) : Prop where
  pending : s'.pending = s.pending
  started : s'.started = s.started
  stack : s'.stack = s.stack
  forwards : s'.forwards = s.forwards
  callsMade : s'.callsMade = s.callsMade
  callsFreed : s'.callsFreed = s.callsFreed

/-! ## References -/

/-- A lifetime that is released with its last holder. -/
theorem released_or_live {holders : ℕ} {leads : Bool} {lifetime : LifetimeMemory}
    (h : (if holders = 0 then .released else .live (UInt32.ofNat holders) leads) = lifetime) :
    holders = 0 ∧ lifetime = .released ∨
      0 < holders ∧ lifetime = .live (UInt32.ofNat holders) leads := by
  split at h
  · next hzero => exact .inl ⟨hzero, h.symm⟩
  · next hpositive => exact .inr ⟨Nat.pos_of_ne_zero hpositive, h.symm⟩

theorem countUp_self (count : ℕ → ℕ) (n : ℕ) : countUp count n n = count n + 1 :=
  Function.update_self ..

theorem countUp_of_ne (count : ℕ → ℕ) {m n : ℕ} (h : m ≠ n) : countUp count n m = count m :=
  Function.update_of_ne h ..

/-- A reference is dropped, the last one or not. -/
theorem lifetimeUnref_eq {s : SearchSession} {k : ℕ} {panel : Bool}
    (hlifetime : s.lifetime = .live (UInt32.ofNat (k + 1)) panel) (hk : k < 2 ^ 32) :
    lifetimeUnref s =
      { s with lifetime := if k = 0 then .released else .live (UInt32.ofNat k) panel } := by
  have hminus : UInt32.ofNat (k + 1) - 1 = UInt32.ofNat k := by
    rw [UInt32.ofNat_add]
    exact UInt32.add_sub_cancel _ _
  have hzero : UInt32.ofNat k = 0 ↔ k = 0 := by
    rw [← UInt32.toNat_inj, UInt32.toNat_ofNat', Nat.mod_eq_of_lt hk]
    rfl
  simp only [lifetimeUnref, hlifetime, hminus, hzero]
  split <;> rfl

theorem releaseResults_eq {s : SearchSession} {request : LocationSearchUiRequest} {k : ℕ}
    {panel : Bool} (hlifetime : s.lifetime = .live (UInt32.ofNat (k + 1)) panel)
    (hk : k < 2 ^ 32) :
    releaseResults request s = { s with
      lifetime := if k = 0 then .released else .live (UInt32.ofNat k) panel
      listsReleased := countUp s.listsReleased request.number
      requestsFreed := countUp s.requestsFreed request.number } := by
  have hunref : lifetimeUnref { s with listsReleased := countUp s.listsReleased request.number } =
      { s with
        lifetime := if k = 0 then .released else .live (UInt32.ofNat k) panel
        listsReleased := countUp s.listsReleased request.number } := lifetimeUnref_eq hlifetime hk
  simp only [releaseResults, locationSearchRequestFree, hunref]

/-- Distinct numbers that are not long ago are few. -/
theorem length_lt_of_recent {numbers : List ℕ} (hdistinct : numbers.Nodup) {next limit : ℕ}
    (hlimit : 0 < limit) (h : ∀ n ∈ numbers, n < next ∧ next - n < limit) :
    numbers.length < limit := by
  have hsub : numbers.toFinset ⊆ Finset.Ico (next - (limit - 1)) next := by
    intro n hn
    obtain ⟨hlt, hrecent⟩ := h n (List.mem_toFinset.mp hn)
    exact Finset.mem_Ico.mpr ⟨by omega, hlt⟩
  have hcard := Finset.card_le_card hsub
  rw [List.toFinset_card_of_nodup hdistinct, Nat.card_Ico] at hcard
  omega

/-! ## A completion -/

section Complete

variable {s : SearchSession} {request : LocationSearchUiRequest}

/-- What is owed has not been completed. -/
theorem SearchSession.completions_owed {n : ℕ} : s.completions [n] n = 0 := by
  rw [SearchSession.completions, if_neg]
  simp

/-- What was owed and is completed counts from now on. -/
theorem SearchSession.completions_done {n : ℕ} (hstarted : n < s.started) (hnot : n ∉ s.waiting)
    {count : ℕ → ℕ} (h : ∀ m, count m = s.completions [n] m) (m : ℕ) :
    countUp count n m = s.completions [] m := by
  rcases eq_or_ne m n with rfl | hne
  · rw [countUp_self, h, SearchSession.completions_owed, SearchSession.completions,
      if_pos ⟨hstarted, hnot, List.not_mem_nil⟩]
  · rw [countUp_of_ne _ hne, h]
    simp [SearchSession.completions, hne]

/-- The state after a completion: what the panel shows then, and everything given back. -/
def SearchSession.settle (s : SearchSession) (panel : Option SearchPanel) (leads : Bool) (n : ℕ)
    (results : List LocationSearchResult) : SearchSession :=
  { s with
    panel := panel
    lifetime := if s.holders = 0 then .released else .live (UInt32.ofNat s.holders) leads
    handed := countUp s.handed n
    answers := Function.update s.answers n results
    listsReleased := countUp s.listsReleased n
    requestsFreed := countUp s.requestsFreed n }

/-- What a panel shows stays what it shows when another search completes. -/
theorem SearchInvariant.shows_settle {n : ℕ} (h : SearchInvariant [n] s) {panel : SearchPanel}
    (hshows : s.Shows panel) (other : Option SearchPanel) (leads : Bool)
    (results : List LocationSearchResult) : (s.settle other leads n results).Shows panel := by
  obtain ⟨hvisible, hempty | ⟨m, hstarted, hhanded, hanswers⟩⟩ := hshows
  · exact ⟨hvisible, .inl hempty⟩
  · have hne : m ≠ n := by
      rintro rfl
      rw [h.handed, SearchSession.completions_owed] at hhanded
      cases hhanded
    refine ⟨hvisible, .inr ⟨m, hstarted, (countUp_of_ne _ hne).trans hhanded, ?_⟩⟩
    exact hanswers.trans (Function.update_of_ne hne ..).symm

theorem SearchInvariant.settle {n : ℕ} (h : SearchInvariant [n] s) (hstarted : n < s.started)
    (hnot : n ∉ s.waiting) {references : UInt32} {leads : Bool}
    (hlifetime : s.lifetime = .live references leads) {panel : Option SearchPanel}
    (hsome : panel.isSome = s.panel.isSome)
    (hgeneration : ∀ p, panel = some p → p.searchGeneration = UInt32.ofNat s.started)
    {results : List LocationSearchResult}
    (hshows : ∀ p, panel = some p → (s.settle panel leads n results).Shows p) :
    SearchInvariant [] (s.settle panel leads n results) := by
  have hholders : (s.settle panel leads n results).holders = s.holders := by
    change panel.isSome.toNat + s.pending.length = s.holders
    rw [hsome]
    rfl
  refine ⟨h.untouched, fun references' leads' hlive => ?_, fun hreleased => ?_, hgeneration,
    h.numbered, h.distinct, hshows, ?_, ?_, ?_⟩
  · rw [hholders, List.length_nil, Nat.add_zero]
    rcases released_or_live hlive with ⟨-, ⟨⟩⟩ | ⟨hpositive, ⟨⟩⟩
    refine ⟨rfl, hpositive, fun hleads => ?_⟩
    exact hsome.trans ((h.references _ _ hlifetime).2.2 hleads)
  · rw [hholders, List.length_nil, Nat.add_zero]
    rcases released_or_live hreleased with ⟨hzero, -⟩ | ⟨-, ⟨⟩⟩
    exact hzero
  · exact SearchSession.completions_done hstarted hnot h.handed
  · exact SearchSession.completions_done hstarted hnot h.listsReleased
  · exact SearchSession.completions_done hstarted hnot h.requestsFreed

/-- What a completion leaves. -/
structure SearchCompleted (s : SearchSession) (n : ℕ) (s' : SearchSession) : Prop where
  invariant : SearchInvariant [] s'
  backend : SameBackend s s'
  isOpen : s'.Open ↔ s.Open
  isSome : s'.panel.isSome = s.panel.isSome
  older : n + 1 ≠ s.started → s'.panel = s.panel
  closed : ¬ s.Open → s'.panel = s.panel

theorem SearchCompleted.of_settle {n : ℕ} (h : SearchInvariant [n] s) (hstarted : n < s.started)
    (hnot : n ∉ s.waiting) {references : UInt32} {leads : Bool}
    (hlifetime : s.lifetime = .live references leads) {panel : Option SearchPanel}
    (hsome : panel.isSome = s.panel.isSome)
    (hgeneration : ∀ p, panel = some p → p.searchGeneration = UInt32.ofNat s.started)
    {results : List LocationSearchResult}
    (hshows : ∀ p, panel = some p → (s.settle panel leads n results).Shows p)
    (holder : n + 1 ≠ s.started → panel = s.panel) (hclosed : ¬ s.Open → panel = s.panel) :
    SearchCompleted s n (s.settle panel leads n results) := by
  refine ⟨h.settle hstarted hnot hlifetime hsome hgeneration hshows, ⟨rfl, rfl, rfl, rfl, rfl, rfl⟩,
    ?_, hsome, holder, hclosed⟩
  constructor
  · rintro ⟨references', hlive⟩
    rcases released_or_live hlive with ⟨-, ⟨⟩⟩ | ⟨-, ⟨⟩⟩
    exact ⟨references, hlifetime⟩
  · rintro ⟨references', hlive⟩
    have hleads : leads = true := by
      rw [hlifetime] at hlive
      cases hlive
      rfl
    have hpanel := (h.references _ _ hlifetime).2.2 hleads
    have hpositive : s.holders ≠ 0 := by
      rw [SearchSession.holders, hpanel]
      simp
    subst hleads
    exact ⟨_, if_neg hpositive⟩

theorem SearchInvariant.complete (h : SearchInvariant [request.number] s)
    (hstarted : request.number < s.started) (hnot : request.number ∉ s.waiting)
    (hgeneration : request.generation = UInt32.ofNat (request.number + 1))
    (hfit : s.holders < 2 ^ 32) (hrecent : s.started - (request.number + 1) < 2 ^ 32)
    (results : List LocationSearchResult) (error : Option Text) :
    SearchCompleted s request.number (locationSearchComplete results error request s) := by
  cases hlifetime : s.lifetime with
  | released => exact absurd (h.released hlifetime) (by simp)
  | live references leads =>
    obtain ⟨hreferences, -, hpanel⟩ := h.references references leads hlifetime
    rw [List.length_singleton] at hreferences
    subst hreferences
    have hrelease : ∀ panel, releaseResults request { s with
        panel := panel
        lifetime := .live (UInt32.ofNat (s.holders + 1)) leads
        handed := countUp s.handed request.number
        answers := Function.update s.answers request.number results } =
        s.settle panel leads request.number results := fun panel =>
      releaseResults_eq rfl hfit
    have hsame : SearchCompleted s request.number (s.settle s.panel leads request.number results) :=
      .of_settle h hstarted hnot hlifetime rfl h.generation
        (fun p hp => h.shows_settle (h.shown p hp) _ _ _) (fun _ => rfl) fun _ => rfl
    cases leads with
    | false =>
      simp only [locationSearchComplete, hlifetime]
      rw [hrelease]
      exact hsame
    | true =>
      obtain ⟨panel, hsome⟩ := Option.isSome_iff_exists.mp (hpanel rfl)
      simp only [locationSearchComplete, hlifetime, hsome]
      have hpanelGeneration := h.generation panel hsome
      have hiff : request.generation = panel.searchGeneration ↔ request.number + 1 = s.started := by
        rw [hgeneration, hpanelGeneration, ← UInt32.toNat_inj, UInt32.toNat_ofNat',
          UInt32.toNat_ofNat']
        omega
      split
      · rw [hrelease, ← hsome]
        exact hsame
      · next hnewest =>
        have hequal : request.number + 1 = s.started := hiff.mp (not_not.mp hnewest)
        rw [hrelease]
        have hopen : s.Open := ⟨_, hlifetime⟩
        refine .of_settle h hstarted hnot hlifetime (hsome ▸ rfl) ?_ ?_
          (fun hne => absurd hequal hne) fun hclosed => absurd hopen hclosed
        · rintro _ ⟨⟩
          rw [← hpanelGeneration]
          simp only [showResults]
          split <;> rfl
        · rintro _ ⟨⟩
          have hhanded : countUp s.handed request.number request.number = 1 := by
            rw [countUp_self, h.handed, SearchSession.completions_owed]
          have hanswers : Function.update s.answers request.number results request.number =
              results := Function.update_self ..
          simp only [showResults]
          split
          · exact ⟨rfl, .inl rfl⟩
          · next hsome =>
            refine ⟨?_, .inr ⟨request.number, hequal.symm, hhanded, hanswers.symm⟩⟩
            cases results with
            | nil => exact absurd rfl hsome
            | cons result results => rfl

end Complete

/-! ## The steps -/

section Steps

variable {s : SearchSession} {owed : List ℕ}

/-- The panel and the requests do not depend on the books of the backend or the stack. -/
theorem SearchInvariant.of_backend (h : SearchInvariant owed s) (forwards : List ℕ)
    (stack : List SearchFrame) (callsMade callsFreed : ℕ → ℕ) :
    SearchInvariant owed { s with
      forwards := forwards
      stack := stack
      callsMade := callsMade
      callsFreed := callsFreed } :=
  ⟨h.untouched, h.references, h.released, h.generation, h.numbered, h.distinct, h.shown, h.handed,
    h.listsReleased, h.requestsFreed⟩

/-- A change of the panel that keeps the generation. -/
theorem SearchInvariant.of_panel (h : SearchInvariant owed s) {panel panel' : SearchPanel}
    (hpanel : s.panel = some panel) (hgeneration : panel'.searchGeneration = panel.searchGeneration)
    (hshows : s.Shows panel → s.Shows panel') :
    SearchInvariant owed { s with panel := some panel' } := by
  have hholders : ({ s with panel := some panel' } : SearchSession).holders = s.holders := by
    rw [SearchSession.holders, SearchSession.holders, hpanel]
    rfl
  refine ⟨h.untouched, fun references leads hlive => ?_, fun hreleased => ?_, ?_, h.numbered,
    h.distinct, ?_, h.handed, h.listsReleased, h.requestsFreed⟩
  · rw [hholders]
    exact ⟨(h.references _ _ hlive).1, (h.references _ _ hlive).2.1, fun _ => rfl⟩
  · rw [hholders]
    exact h.released hreleased
  · rintro _ ⟨⟩
    exact hgeneration.trans (h.generation panel hpanel)
  · rintro _ ⟨⟩
    exact hshows (h.shown panel hpanel)

/-- Searches that are as far as before. -/
theorem SearchSession.completions_congr {s' : SearchSession} {owed' : List ℕ} {n : ℕ}
    (h : (n < s'.started ∧ n ∉ s'.waiting ∧ n ∉ owed') ↔
      (n < s.started ∧ n ∉ s.waiting ∧ n ∉ owed)) :
    s'.completions owed' n = s.completions owed n := by
  rw [SearchSession.completions, SearchSession.completions, if_congr h rfl rfl]

/-- The request of a search that completes is in the hands of the completion. -/
theorem SearchInvariant.take (h : SearchInvariant [] s) {request : LocationSearchUiRequest}
    (hrequest : request ∈ s.pending) :
    SearchInvariant [request.number] { s with pending := s.pending.erase request } ∧
      s.waiting.Perm (request.number ::
        ({ s with pending := s.pending.erase request } : SearchSession).waiting) := by
  let taken : SearchSession := { s with pending := s.pending.erase request }
  have hperm : s.waiting.Perm (request.number :: taken.waiting) :=
    (List.perm_cons_erase hrequest).map LocationSearchUiRequest.number
  have hdistinct : (request.number :: taken.waiting).Nodup := hperm.nodup_iff.mp h.distinct
  have hholders : taken.holders + 1 = s.holders := by
    have hlength : (s.pending.erase request).length + 1 = s.pending.length := by
      have hpositive := List.length_pos_of_mem hrequest
      rw [List.length_erase_of_mem hrequest]
      omega
    change s.panel.isSome.toNat + (s.pending.erase request).length + 1 = _
    rw [Nat.add_assoc, hlength]
    rfl
  have hcompletions : ∀ n, s.completions [] n = taken.completions [request.number] n := by
    intro n
    refine SearchSession.completions_congr ?_
    rw [hperm.mem_iff]
    simp [taken, and_comm, not_or]
  refine ⟨⟨h.untouched, fun references leads hlive => ?_, fun hreleased => ?_, h.generation,
    fun r hr => h.numbered r (List.mem_of_mem_erase hr), (List.nodup_cons.mp hdistinct).2, h.shown,
    fun n => (h.handed n).trans (hcompletions n),
    fun n => (h.listsReleased n).trans (hcompletions n),
    fun n => (h.requestsFreed n).trans (hcompletions n)⟩, hperm⟩
  · change references = UInt32.ofNat (taken.holders + 1) ∧ 0 < taken.holders + 1 ∧ _
    rw [hholders]
    exact h.references references leads hlive
  · change taken.holders + 1 = 0
    rw [hholders]
    exact h.released hreleased

/-- In a run that can be counted the searches in flight fit the counter. -/
theorem SearchInvariant.length_lt (h : SearchInvariant owed s) {limit : ℕ} (hlimit : 0 < limit)
    (hfit : ∀ request ∈ s.pending, s.started - request.number < limit) :
    s.pending.length < limit := by
  have hlength : s.waiting.length < limit := by
    have hrecent : ∀ n ∈ s.waiting, n < s.started ∧ s.started - n < limit := by
      intro n hn
      obtain ⟨request, hrequest, rfl⟩ := List.mem_map.mp hn
      exact ⟨(h.numbered request hrequest).1, hfit request hrequest⟩
    exact length_lt_of_recent h.distinct hlimit hrecent
  rwa [SearchSession.waiting, List.length_map] at hlength

/-- What holds between two calls. -/
structure SearchState (s : SearchSession) : Prop where
  invariant : SearchInvariant [] s
  backend : BackendBooks s
  frames : FramesFit s

/-- The books are about what is in flight and being started, and about the objects of the
backend. -/
theorem BackendBooks.of_eq (h : BackendBooks s) {s' : SearchSession}
    (hpending : s'.pending = s.pending) (hstarted : s.started ≤ s'.started)
    (hstarting : s'.starting = s.starting) (hforwards : s'.forwards = s.forwards)
    (hcallsMade : s'.callsMade = s.callsMade) (hcallsFreed : s'.callsFreed = s.callsFreed) :
    BackendBooks s' := by
  have hwaiting : s'.waiting = s.waiting :=
    congrArg (List.map LocationSearchUiRequest.number) hpending
  refine ⟨fun n => ?_, fun n hn => ?_, fun n => ?_, fun n => ?_⟩
  · rw [hcallsMade]
    exact h.once n
  · rw [hcallsMade]
    exact h.fresh n (hstarted.trans hn)
  · rw [hcallsMade, hcallsFreed, hwaiting]
    exact h.calls n
  · rw [hforwards, hwaiting, hstarting]
    exact h.forwards n

theorem BackendBooks.congr (h : BackendBooks s) {s' : SearchSession} (hsame : SameBackend s s') :
    BackendBooks s' :=
  h.of_eq hsame.pending hsame.started.ge (congrArg (List.filterMap _) hsame.stack)
    hsame.forwards hsame.callsMade hsame.callsFreed

/-- The backend is called for a search. -/
theorem BackendBooks.accept (h : BackendBooks s) {request : LocationSearchUiRequest}
    (hnone : s.callsMade request.number = 0) (hstarted : request.number < s.started) :
    BackendBooks { s with
      callsMade := countUp s.callsMade request.number
      forwards := request.number :: request.number :: s.forwards
      pending := request :: s.pending
      stack := .starting request.number :: s.stack } := by
  refine ⟨fun n => ?_, fun n hn => ?_, fun n => ?_, fun n => ?_⟩
  · dsimp only
    rcases eq_or_ne n request.number with rfl | hne
    · rw [countUp_self, hnone]
    · rw [countUp_of_ne _ hne]
      exact h.once n
  · dsimp only at hn ⊢
    rw [countUp_of_ne _ (by omega)]
    exact h.fresh n hn
  · change countUp s.callsMade request.number n =
      s.callsFreed n + (request.number :: s.waiting).count n
    have hcalls := h.calls n
    rcases eq_or_ne n request.number with rfl | hne
    · rw [countUp_self, List.count_cons_self]
      omega
    · rw [countUp_of_ne _ hne, List.count_cons_of_ne hne.symm]
      exact hcalls
  · change (request.number :: request.number :: s.forwards).count n =
      (request.number :: s.waiting).count n + (request.number :: s.starting).count n
    have hforwards := h.forwards n
    rcases eq_or_ne n request.number with rfl | hne
    · simp only [List.count_cons_self]
      omega
    · simp only [List.count_cons_of_ne hne.symm]
      exact hforwards

/-- The frames only look at panel and lifetime. -/
theorem FramesFit.congr (h : FramesFit s) {s' : SearchSession} (hstack : s'.stack = s.stack)
    (hsome : s'.panel.isSome = s.panel.isSome) (hopen : s'.Open ↔ s.Open) : FramesFit s' := by
  unfold FramesFit at h ⊢
  rw [hstack, hsome, hopen]
  exact h

/-- A completion of a search in flight. -/
theorem SearchState.complete (h : SearchState s) (hfit : s.Countable)
    {request : LocationSearchUiRequest} (hrequest : request ∈ s.pending)
    (places : Option (List (Option GeocodePlace))) (error : Option Text) :
    let s' := searchFinishedCallback request places error s
    SearchState s' ∧ (s'.Open ↔ s.Open) ∧
      (request.number + 1 ≠ s.started ∨ ¬ s.Open → s'.panel = s.panel) := by
  let taken : SearchSession := { s with pending := s.pending.erase request }
  obtain ⟨htaken, hperm⟩ := h.invariant.take hrequest
  obtain ⟨hstarted, hgeneration⟩ := h.invariant.numbered request hrequest
  have hnot : request.number ∉ taken.waiting :=
    (List.nodup_cons.mp (hperm.nodup_iff.mp h.invariant.distinct)).1
  have hholders : taken.holders < 2 ^ 32 := by
    have hlength := h.invariant.length_lt (by decide) hfit
    have hless : (s.pending.erase request).length + 1 = s.pending.length := by
      have hpositive := List.length_pos_of_mem hrequest
      rw [List.length_erase_of_mem hrequest]
      omega
    have hpanel : s.panel.isSome.toNat ≤ 1 := Bool.toNat_le _
    change s.panel.isSome.toNat + (s.pending.erase request).length < 2 ^ 32
    omega
  have hrecent : s.started - (request.number + 1) < 2 ^ 32 := by
    have hcount := hfit request hrequest
    omega
  have hdone := htaken.complete (s := taken) hstarted hnot hgeneration hholders hrecent
    (searchFinished (places.getD [])) error
  let done := locationSearchComplete (searchFinished (places.getD [])) error request taken
  have hwaiting : done.waiting = taken.waiting :=
    congrArg (List.map LocationSearchUiRequest.number) hdone.backend.pending
  have hcount : ∀ n,
      s.waiting.count n = done.waiting.count n + if request.number = n then 1 else 0 := by
    intro n
    rw [hperm.count_eq, hwaiting, List.count_cons]
    simp only [beq_iff_eq]
    rfl
  refine ⟨⟨hdone.invariant.of_backend _ _ _ _,
    ⟨fun n => ?_, fun n hn => ?_, fun n => ?_, fun n => ?_⟩,
    h.frames.congr hdone.backend.stack hdone.isSome hdone.isOpen⟩, hdone.isOpen, ?_⟩
  · change done.callsMade n ≤ 1
    rw [hdone.backend.callsMade]
    exact h.backend.once n
  · change done.started ≤ n at hn
    rw [hdone.backend.started] at hn
    change done.callsMade n = 0
    rw [hdone.backend.callsMade]
    exact h.backend.fresh n hn
  · change done.callsMade n = countUp done.callsFreed request.number n + done.waiting.count n
    rw [hdone.backend.callsMade, hdone.backend.callsFreed]
    have hcalls := h.backend.calls n
    rw [hcount] at hcalls
    change s.callsMade n = countUp s.callsFreed request.number n + _
    rcases eq_or_ne n request.number with rfl | hne
    · rw [countUp_self]
      simp at hcalls
      omega
    · rw [countUp_of_ne _ hne]
      rw [if_neg hne.symm] at hcalls
      omega
  · change (done.forwards.erase request.number).count n =
      done.waiting.count n + done.starting.count n
    have hstarting : done.starting = s.starting := by
      unfold SearchSession.starting
      rw [hdone.backend.stack]
    rw [hdone.backend.forwards, hstarting]
    have hforwards := h.backend.forwards n
    rw [hcount] at hforwards
    change (s.forwards.erase request.number).count n = _
    rcases eq_or_ne n request.number with rfl | hne
    · rw [List.count_erase_self]
      simp at hforwards
      omega
    · rw [List.count_erase_of_ne hne]
      rw [if_neg hne.symm] at hforwards
      omega
  · rintro (holder | hclosed)
    · exact hdone.older holder
    · exact hdone.closed hclosed

/-- Somebody uses the lifetime, so it is there. -/
theorem SearchInvariant.isLive (h : SearchInvariant owed s)
    (hpositive : 0 < s.holders + owed.length) :
    ∃ leads, s.lifetime = .live (UInt32.ofNat (s.holders + owed.length)) leads := by
  cases hlifetime : s.lifetime with
  | live references leads =>
    obtain ⟨rfl, -⟩ := h.references references leads hlifetime
    exact ⟨leads, rfl⟩
  | released => exact absurd (h.released hlifetime) (by omega)

theorem SearchSession.holders_pos {panel : SearchPanel} (hpanel : s.panel = some panel) :
    0 < s.holders := by
  rw [SearchSession.holders, hpanel]
  simp

/-- A request is made: it is owed until the backend has it or it has been completed. -/
theorem SearchInvariant.begin (h : SearchInvariant [] s) {panel : SearchPanel}
    (panel' : SearchPanel) (hpanel : s.panel = some panel)
    (hgeneration : panel'.searchGeneration = panel.searchGeneration + 1)
    (hempty : panel'.results = [] ∧ panel'.resultsVisible = false) :
    let s' := lifetimeRef { s with panel := some panel', started := s.started + 1 }
    SearchInvariant [s.started] s' ∧ s'.pending = s.pending ∧ s'.started = s.started + 1 ∧
      s'.stack = s.stack ∧ s'.forwards = s.forwards ∧ s'.callsMade = s.callsMade ∧
      s'.callsFreed = s.callsFreed ∧ s'.panel = some panel' ∧ (s'.Open ↔ s.Open) := by
  have hsome : s.panel.isSome = true := by rw [hpanel]; rfl
  obtain ⟨leads, hlifetime⟩ := h.isLive (SearchSession.holders_pos hpanel)
  rw [List.length_nil, Nat.add_zero] at hlifetime
  have hfresh : s.started ∉ s.waiting := by
    intro hmem
    obtain ⟨request, hrequest, heq⟩ := List.mem_map.mp hmem
    have hlt := (h.numbered request hrequest).1
    omega
  let made : SearchSession := { s with
    panel := some panel'
    lifetime := .live (UInt32.ofNat s.holders + 1) leads
    started := s.started + 1 }
  have hmade : lifetimeRef { s with panel := some panel', started := s.started + 1 } = made := by
    simp only [lifetimeRef, hlifetime]
    rfl
  have hholders : made.holders = s.holders := by
    rw [SearchSession.holders, SearchSession.holders, hsome]
    rfl
  have hcompletions : ∀ n, s.completions [] n = made.completions [s.started] n := by
    intro n
    refine SearchSession.completions_congr ?_
    change _ ↔ n < s.started + 1 ∧ n ∉ s.waiting ∧ n ∉ [s.started]
    rw [List.mem_singleton]
    constructor
    · rintro ⟨hlt, hnot, -⟩
      exact ⟨by omega, hnot, by omega⟩
    · rintro ⟨hlt, hnot, hne⟩
      exact ⟨by omega, hnot, List.not_mem_nil⟩
  dsimp only
  rw [hmade]
  refine ⟨⟨h.untouched, ?_, nofun, ?_, fun r hr => ?_, h.distinct, ?_,
    fun n => (h.handed n).trans (hcompletions n),
    fun n => (h.listsReleased n).trans (hcompletions n),
    fun n => (h.requestsFreed n).trans (hcompletions n)⟩, rfl, rfl, rfl, rfl, rfl, rfl, rfl, ?_⟩
  · rintro _ _ ⟨⟩
    rw [hholders, List.length_singleton, UInt32.ofNat_add]
    exact ⟨rfl, Nat.succ_pos _, fun _ => rfl⟩
  · rintro _ ⟨⟩
    rw [hgeneration, h.generation panel hpanel]
    change _ = UInt32.ofNat (s.started + 1)
    rw [UInt32.ofNat_add]
    rfl
  · exact ⟨Nat.lt_succ_of_lt (h.numbered r hr).1, (h.numbered r hr).2⟩
  · rintro _ ⟨⟩
    exact ⟨by rw [hempty.1, hempty.2]; rfl, .inl hempty.1⟩
  · constructor
    · rintro ⟨_, ⟨⟩⟩
      exact ⟨_, hlifetime⟩
    · rintro ⟨_, hlive⟩
      rw [hlifetime] at hlive
      cases hlive
      exact ⟨_, rfl⟩

/-- The backend takes a request that is owed. -/
theorem SearchInvariant.accept {request : LocationSearchUiRequest}
    (h : SearchInvariant [request.number] s) (hstarted : request.number < s.started)
    (hnot : request.number ∉ s.waiting)
    (hgeneration : request.generation = UInt32.ofNat (request.number + 1)) :
    SearchInvariant [] { s with pending := request :: s.pending } := by
  let sent : SearchSession := { s with pending := request :: s.pending }
  have hholders : sent.holders = s.holders + 1 := by
    exact (Nat.add_assoc ..).symm
  have hcompletions : ∀ n, s.completions [request.number] n = sent.completions [] n := by
    intro n
    refine SearchSession.completions_congr ?_
    change _ ↔ n < s.started ∧ n ∉ request.number :: s.waiting ∧ n ∉ []
    simp [and_comm, not_or]
  refine ⟨h.untouched, fun references leads hlive => ?_, fun hreleased => ?_, h.generation, ?_,
    List.nodup_cons.mpr ⟨hnot, h.distinct⟩, h.shown, fun n => (h.handed n).trans (hcompletions n),
    fun n => (h.listsReleased n).trans (hcompletions n),
    fun n => (h.requestsFreed n).trans (hcompletions n)⟩
  · change references = UInt32.ofNat (sent.holders + 0) ∧ 0 < sent.holders + 0 ∧ _
    rw [hholders]
    exact h.references references leads hlive
  · exact absurd (h.released hreleased) (Nat.succ_ne_zero _)
  · intro r hr
    rcases List.mem_cons.mp hr with rfl | hr
    · exact ⟨hstarted, hgeneration⟩
    · exact h.numbered r hr

theorem lifetimeUnref_pending (s : SearchSession) :
    (lifetimeUnref s).pending = s.pending ∧ (lifetimeUnref s).started = s.started := by
  unfold lifetimeUnref
  split
  · split <;> exact ⟨rfl, rfl⟩
  · exact ⟨rfl, rfl⟩

/-- A completion neither sends nor starts. -/
theorem locationSearchComplete_pending (results : List LocationSearchResult) (error : Option Text)
    (request : LocationSearchUiRequest) (s : SearchSession) :
    (locationSearchComplete results error request s).pending = s.pending ∧
      (locationSearchComplete results error request s).started = s.started := by
  have hrelease : ∀ s' : SearchSession, (releaseResults request s').pending = s'.pending ∧
      (releaseResults request s').started = s'.started := fun s' =>
    lifetimeUnref_pending { s' with listsReleased := countUp s'.listsReleased request.number }
  unfold locationSearchComplete
  dsimp only
  split
  · split
    · split
      · exact hrelease _
      · exact hrelease _
    · exact ⟨rfl, rfl⟩
  · exact hrelease _
  · exact ⟨rfl, rfl⟩

/-- What a search does when it is begun: it is completed on the spot or it is in flight. -/
theorem SearchState.beginRequest (utf8Validate : Text → Bool) (h : SearchState s)
    (hframe : s.stack = []) (hopen : s.Open) {panel : SearchPanel} (hpanel : s.panel = some panel)
    (query : Text) (forward : Bool)
    (hfit : (beginSearchRequest utf8Validate query forward panel s).Countable) :
    SearchState (beginSearchRequest utf8Validate query forward panel s) := by
  let shown : SearchPanel := (clearLocationResults { panel with
    searchCancellable := true
    searchGeneration := panel.searchGeneration + 1 }).setStatus
      (bytes "Searching for matching localities…") false
  let made := lifetimeRef { s with panel := some shown, started := s.started + 1 }
  let request : LocationSearchUiRequest := ⟨s.started, shown.searchGeneration⟩
  obtain ⟨hmade, hpending, hstarted, hstack, hforwards, hcallsMade, hcallsFreed, hshown,
    hmadeOpen⟩ := h.invariant.begin shown hpanel rfl ⟨rfl, rfl⟩
  change SearchInvariant [request.number] made at hmade
  change made.pending = s.pending at hpending
  change made.started = s.started + 1 at hstarted
  change made.stack = s.stack at hstack
  change made.forwards = s.forwards at hforwards
  change made.callsMade = s.callsMade at hcallsMade
  change made.callsFreed = s.callsFreed at hcallsFreed
  change made.panel = some shown at hshown
  change made.Open ↔ s.Open at hmadeOpen
  have hwaiting : made.waiting = s.waiting :=
    congrArg (List.map LocationSearchUiRequest.number) hpending
  have hnot : request.number ∉ made.waiting := by
    rw [hwaiting]
    intro hmem
    obtain ⟨r, hr, heq⟩ := List.mem_map.mp hmem
    have hlt := (h.invariant.numbered r hr).1
    change r.number = s.started at heq
    omega
  have hgeneration : request.generation = UInt32.ofNat (request.number + 1) := by
    change panel.searchGeneration + 1 = _
    rw [h.invariant.generation panel hpanel, UInt32.ofNat_add]
    rfl
  have hlt : request.number < made.started := by
    rw [hstarted]
    exact Nat.lt_succ_self _
  have hbackend : BackendBooks made :=
    h.backend.of_eq hpending (by omega) (congrArg (List.filterMap _) hstack) hforwards hcallsMade
      hcallsFreed
  have hframes : FramesFit made := .inl ⟨hstack.trans hframe, fun _ => hmadeOpen.mpr hopen⟩
  -- what is completed on the spot was never in flight
  have hspot : ∀ error, (locationSearchComplete [] error request made).Countable →
      SearchState (locationSearchComplete [] error request made) := by
    intro error hcountable
    obtain ⟨hsame, hsameStarted⟩ := locationSearchComplete_pending [] error request made
    have hlength : s.pending.length < 2 ^ 32 - 1 := by
      refine h.invariant.length_lt (by decide) fun r hr => ?_
      have hcount := hcountable r (by rw [hsame, hpending]; exact hr)
      have hless := (h.invariant.numbered r hr).1
      rw [hsameStarted, hstarted] at hcount
      omega
    have hholders : made.holders < 2 ^ 32 := by
      rw [SearchSession.holders, hshown, hpending]
      change 1 + s.pending.length < 2 ^ 32
      omega
    have hrecent : made.started - (request.number + 1) < 2 ^ 32 := by
      rw [hstarted]
      change s.started + 1 - (s.started + 1) < 2 ^ 32
      omega
    have hdone := hmade.complete hlt hnot hgeneration hholders hrecent [] error
    refine ⟨hdone.invariant, hbackend.congr hdone.backend, ?_⟩
    exact hframes.congr hdone.backend.stack hdone.isSome hdone.isOpen
  change SearchState (locationSearchAsync utf8Validate query forward request made)
  change (locationSearchAsync utf8Validate query forward request made).Countable at hfit
  unfold locationSearchAsync at hfit ⊢
  split at hfit
  · next hinvalid =>
    rw [if_pos hinvalid]
    exact hspot _ hfit
  next hvalid =>
  rw [if_neg hvalid]
  split at hfit
  · next hnone =>
    rw [if_pos hnone]
    exact hspot _ hfit
  next hforward =>
  rw [if_neg hforward]
  refine ⟨(hmade.accept hlt hnot hgeneration).of_backend _ _ _ _, ?_, ?_⟩
  · refine hbackend.accept ?_ hlt
    rw [hcallsMade]
    exact h.backend.fresh _ le_rfl
  · refine .inr ⟨_, congrArg _ (hstack.trans hframe), ?_, iff_of_true (hmadeOpen.mpr hopen) nofun⟩
    exact congrArg Option.isSome hshown

/-- A panel that is not open any more is given back, and its reference with it. -/
theorem SearchState.finish (h : SearchInvariant [] s) (hbackend : BackendBooks s)
    (hframe : s.stack = []) (hclosed : ¬ s.Open) {panel : SearchPanel}
    (hpanel : s.panel = some panel) (hfit : s.Countable) : SearchState (finishPanelFree s) := by
  have hholders : s.holders = s.pending.length + 1 := by
    rw [SearchSession.holders, hpanel]
    exact Nat.add_comm ..
  obtain ⟨leads, hlifetime⟩ := h.isLive (SearchSession.holders_pos hpanel)
  have hleads : leads = false := by
    cases leads with
    | false => rfl
    | true => exact absurd ⟨_, hlifetime⟩ hclosed
  rw [List.length_nil, Nat.add_zero, hholders, hleads] at hlifetime
  have hlength : s.pending.length < 2 ^ 32 := h.length_lt (by decide) hfit
  let freed : SearchSession := { s with
    lifetime := if s.pending.length = 0 then .released
      else .live (UInt32.ofNat s.pending.length) false
    panel := none }
  have hfreed : finishPanelFree s = freed := by
    rw [finishPanelFree, lifetimeUnref_eq hlifetime hlength]
  rw [hfreed]
  refine ⟨⟨h.untouched, fun references leads hlive => ?_, fun hreleased => ?_, nofun, h.numbered,
    h.distinct, nofun, h.handed, h.listsReleased, h.requestsFreed⟩,
    hbackend.of_eq rfl le_rfl rfl rfl rfl rfl, .inl ⟨hframe, nofun⟩⟩
  · change references = UInt32.ofNat (0 + s.pending.length + 0) ∧
      0 < 0 + s.pending.length + 0 ∧ _
    rw [Nat.zero_add, Nat.add_zero]
    rcases released_or_live hlive with ⟨-, ⟨⟩⟩ | ⟨hpositive, ⟨⟩⟩
    exact ⟨rfl, hpositive, nofun⟩
  · change 0 + s.pending.length + 0 = 0
    rw [Nat.zero_add, Nat.add_zero]
    rcases released_or_live hreleased with ⟨hzero, -⟩ | ⟨-, ⟨⟩⟩
    exact hzero

/-- The panel is freed: its lifetime leads nowhere before anything else happens. -/
theorem SearchState.free (h : SearchState s) (hframe : s.stack = []) {panel : SearchPanel}
    (hpanel : s.panel = some panel) (hfit : s.Countable) : SearchState (panelFree panel s) := by
  obtain ⟨leads, hlifetime⟩ := h.invariant.isLive (SearchSession.holders_pos hpanel)
  have hclosing : SearchInvariant [] { s with
      lifetime := .live (UInt32.ofNat (s.holders + ([] : List ℕ).length)) false } := by
    refine ⟨h.invariant.untouched, ?_, nofun, h.invariant.generation, h.invariant.numbered,
      h.invariant.distinct, h.invariant.shown, h.invariant.handed, h.invariant.listsReleased,
      h.invariant.requestsFreed⟩
    rintro _ _ ⟨⟩
    exact ⟨rfl, SearchSession.holders_pos hpanel, nofun⟩
  have hclosed : ¬ ({ s with
      lifetime := .live (UInt32.ofNat (s.holders + ([] : List ℕ).length)) false } :
      SearchSession).Open := by
    rintro ⟨_, ⟨⟩⟩
  have hbackend : BackendBooks { s with
      lifetime := .live (UInt32.ofNat (s.holders + ([] : List ℕ).length)) false } :=
    h.backend.of_eq rfl le_rfl rfl rfl rfl rfl
  simp only [panelFree, hlifetime]
  split
  · refine ⟨hclosing.of_backend _ _ _ _, hbackend.of_eq rfl le_rfl rfl rfl rfl rfl,
      .inr ⟨.freeing, congrArg _ hframe, congrArg Option.isSome hpanel, ?_⟩⟩
    exact iff_of_false (by rintro ⟨_, ⟨⟩⟩) fun hne => hne rfl
  · exact .finish hclosing hbackend hframe hclosed hpanel hfit

/-- Every step keeps the state, in a run that can be counted. -/
theorem SearchState.step (utf8Validate : Text → Bool) (h : SearchState s) (hfit : s.Countable)
    {action : SearchAction} {s' : SearchSession}
    (hstep : searchStep utf8Validate s action = some s') (hfit' : s'.Countable) :
    SearchState s' := by
  cases action with
  | search query forward =>
    rw [searchStep] at hstep
    split at hstep
    · next panel hframe hpanel =>
      cases hstep
      have hopen : s.Open := by
        rcases h.frames with ⟨-, hopen⟩ | ⟨frame, hstack, -⟩
        · exact hopen (congrArg Option.isSome hpanel)
        · rw [hframe] at hstack
          cases hstack
      unfold beginLocationSearch at hfit' ⊢
      split at hfit'
      · next hempty =>
        rw [if_pos hempty]
        refine ⟨h.invariant.of_panel hpanel rfl id, h.backend.of_eq rfl le_rfl rfl rfl rfl rfl, ?_⟩
        exact h.frames.congr rfl (congrArg Option.isSome hpanel).symm Iff.rfl
      next hquery =>
      rw [if_neg hquery]
      split at hfit'
      · next hcancellable =>
        rw [if_pos hcancellable]
        refine ⟨h.invariant.of_backend _ _ _ _, h.backend.of_eq rfl le_rfl rfl rfl rfl rfl,
          .inr ⟨_, congrArg _ hframe, congrArg Option.isSome hpanel, ?_⟩⟩
        exact iff_of_true hopen nofun
      next hcancellable =>
      rw [if_neg hcancellable]
      exact h.beginRequest utf8Validate hframe hopen hpanel query forward hfit'
    · cases hstep
  | complete request places error =>
    rw [searchStep] at hstep
    split at hstep
    · next hrequest =>
      cases hstep
      exact (h.complete hfit hrequest places error).1
    · cases hstep
  | returns =>
    rcases h.frames with ⟨hframe, -⟩ | ⟨frame, hframe, hsome, hiff⟩
    · simp only [searchStep, hframe] at hstep
      cases hstep
    obtain ⟨panel, hpanel⟩ := Option.isSome_iff_exists.mp hsome
    have hreturned : SearchInvariant [] { s with stack := [] } := h.invariant.of_backend _ _ _ _
    cases frame with
    | cancelling query forward =>
      have hopen : s.Open := hiff.mpr nofun
      simp only [searchStep, hframe, hpanel] at hstep
      cases hstep
      have hstarting : [] = s.starting := by
        rw [SearchSession.starting, hframe]
        rfl
      have hidle : SearchState { s with stack := [] } :=
        ⟨hreturned, h.backend.of_eq rfl le_rfl hstarting rfl rfl rfl,
          .inl ⟨rfl, fun _ => hopen⟩⟩
      rw [← hpanel] at hfit' ⊢
      exact hidle.beginRequest utf8Validate rfl hopen hpanel query forward hfit'
    | starting number =>
      simp only [searchStep, hframe] at hstep
      cases hstep
      refine ⟨h.invariant.of_backend _ _ _ _, ⟨h.backend.once, h.backend.fresh, h.backend.calls,
        fun n => ?_⟩, .inl ⟨rfl, fun _ => hiff.mpr nofun⟩⟩
      have hforwards := h.backend.forwards n
      have hstarting : s.starting = [number] := by
        unfold SearchSession.starting
        rw [hframe]
        rfl
      rw [hstarting] at hforwards
      change (s.forwards.erase number).count n = s.waiting.count n + ([] : List ℕ).count n
      rcases eq_or_ne n number with rfl | hne
      · rw [List.count_erase_self]
        simp at hforwards ⊢
        omega
      · rw [List.count_erase_of_ne hne]
        simpa [List.count_cons_of_ne hne.symm] using hforwards
    | freeing =>
      have hclosed : ¬ s.Open := fun hopen => hiff.mp hopen rfl
      simp only [searchStep, hframe] at hstep
      cases hstep
      have hstarting : [] = s.starting := by
        rw [SearchSession.starting, hframe]
        rfl
      exact .finish hreturned (h.backend.of_eq rfl le_rfl hstarting rfl rfl rfl) rfl hclosed
        hpanel hfit
  | activate =>
    rw [searchStep] at hstep
    split at hstep
    · next panel hframe hpanel =>
      cases hstep
      refine ⟨h.invariant.of_panel hpanel rfl fun _ => ⟨rfl, .inl rfl⟩,
        h.backend.of_eq rfl le_rfl rfl rfl rfl rfl, ?_⟩
      exact h.frames.congr rfl (congrArg Option.isSome hpanel).symm Iff.rfl
    · cases hstep
  | free =>
    rw [searchStep] at hstep
    split at hstep
    · next panel hframe hpanel =>
      cases hstep
      exact h.free hframe hpanel hfit
    · cases hstep

end Steps

/-! ## Every moment -/

/-- To drop a reference does not make the lifetime lead anywhere. -/
theorem SearchSession.open_of_lifetimeUnref {s : SearchSession} (h : (lifetimeUnref s).Open) :
    s.Open := by
  obtain ⟨references, hlive⟩ := h
  unfold lifetimeUnref at hlive
  split at hlive
  · next references' panel hlifetime =>
    split at hlive
    · cases hlive
    · cases hlive
      exact ⟨_, hlifetime⟩
  · next hlifetime =>
    rw [hlifetime] at hlive
    cases hlive

/-- Once the panel is being freed only completions and the end of the free are left. -/
theorem SearchState.disposed {utf8Validate : Text → Bool} {s : SearchSession} (h : SearchState s)
    (hfit : s.Countable) (hclosed : ¬ s.Open) {action : SearchAction} {s' : SearchSession}
    (hstep : searchStep utf8Validate s action = some s') :
    ¬ s'.Open ∧ (s'.panel = s.panel ∨ s'.panel = none) := by
  have hbusy : s.stack = [] → ∀ panel, s.panel ≠ some panel := by
    intro hframe panel hpanel
    rcases h.frames with ⟨-, hopen⟩ | ⟨frame, hstack, -⟩
    · exact hclosed (hopen (congrArg Option.isSome hpanel))
    · rw [hframe] at hstack
      cases hstack
  cases action with
  | search query forward =>
    rw [searchStep] at hstep
    split at hstep
    · next panel hframe hpanel => exact absurd hpanel (hbusy hframe panel)
    · cases hstep
  | complete request places error =>
    rw [searchStep] at hstep
    split at hstep
    · next hrequest =>
      cases hstep
      obtain ⟨-, hopen, hpanel⟩ := h.complete hfit hrequest places error
      exact ⟨hopen.not.mpr hclosed, .inl (hpanel (.inr hclosed))⟩
    · cases hstep
  | returns =>
    rcases h.frames with ⟨hframe, -⟩ | ⟨frame, hframe, -, hiff⟩
    · simp only [searchStep, hframe] at hstep
      cases hstep
    · have hfreeing : frame = .freeing := by
        by_contra hne
        exact hclosed (hiff.mpr hne)
      subst hfreeing
      simp only [searchStep, hframe] at hstep
      cases hstep
      refine ⟨fun hopen => hclosed ?_, .inr rfl⟩
      have hunref : (lifetimeUnref { s with stack := [] }).Open := hopen
      have hbefore : ({ s with stack := [] } : SearchSession).Open :=
        SearchSession.open_of_lifetimeUnref hunref
      exact hbefore
  | activate =>
    rw [searchStep] at hstep
    split at hstep
    · next panel hframe hpanel => exact absurd hpanel (hbusy hframe panel)
    · cases hstep
  | free =>
    rw [searchStep] at hstep
    split at hstep
    · next panel hframe hpanel => exact absurd hpanel (hbusy hframe panel)
    · cases hstep

theorem SearchState.start : SearchState .start := by
  refine ⟨⟨rfl, ?_, nofun, ?_, nofun, .nil, ?_, fun _ => rfl, fun _ => rfl, fun _ => rfl⟩,
    ⟨fun _ => Nat.zero_le 1, fun _ _ => rfl, fun _ => rfl, fun _ => rfl⟩,
    .inl ⟨rfl, fun _ => ⟨1, rfl⟩⟩⟩
  · rintro _ _ ⟨⟩
    exact ⟨rfl, by decide, fun _ => rfl⟩
  · rintro _ ⟨⟩
    rfl
  · rintro _ ⟨⟩
    exact ⟨rfl, .inl rfl⟩

/-- Only the newest search is shown, nothing is shown once the panel is being freed, and
every request and every result list is given back once. -/
theorem newestSearch (utf8Validate : Text → Bool) {s : SearchSession}
    (h : Visits (searchStep utf8Validate) (· = SearchSession.start) SearchSession.Countable s) :
    NewestSearch utf8Validate s := by
  have hstate : SearchState s := by
    refine h.invariant (I := SearchState) ?_ fun s a s' hfit hs hstep hfit' =>
      hs.step utf8Validate hfit hstep hfit'
    rintro _ rfl
    exact .start
  have hfit := h.holds
  refine ⟨hstate.invariant.shown, fun request places error s' hstep holder => ?_,
    fun hclosed action s' hstep => hstate.disposed hfit hclosed hstep, fun n => ?_, fun n => ?_,
    hstate.backend.forwards, ?_, hstate.invariant.untouched⟩
  · rw [searchStep] at hstep
    split at hstep
    · next hrequest =>
      cases hstep
      exact (hstate.complete hfit hrequest places error).2.2 (.inl holder)
    · cases hstep
  · exact ⟨hstate.invariant.handed n, hstate.invariant.listsReleased n,
      hstate.invariant.requestsFreed n⟩
  · exact ⟨hstate.backend.once n, hstate.backend.calls n⟩
  · constructor
    · intro hreleased
      have hnone : s.panel.isSome.toNat + s.pending.length + 0 = 0 :=
        hstate.invariant.released hreleased
      have hpanel : s.panel.isSome = false := by
        cases hsome : s.panel.isSome with
        | false => rfl
        | true =>
          rw [hsome, Bool.toNat_true] at hnone
          omega
      exact ⟨Option.isSome_eq_false_iff.mp hpanel |> Option.isNone_iff_eq_none.mp,
        List.length_eq_zero_iff.mp (by omega)⟩
    · rintro ⟨hpanel, hpending⟩
      cases hlifetime : s.lifetime with
      | released => rfl
      | live references leads =>
        have hpositive := (hstate.invariant.references _ _ hlifetime).2.1
        rw [SearchSession.holders, hpanel, hpending] at hpositive
        exact absurd hpositive (by decide)

/-- A search that is overtaken completes inside the cancel of the next one, which completes
inside its own start with this place. -/
def overtakenSearch (place : GeocodePlace) : List SearchAction :=
  [.search [65] true, .returns, .search [66] true, .complete ⟨0, 1⟩ none (some [67]), .returns,
    .complete ⟨1, 2⟩ (some [some place]) none, .returns]

theorem newestSearch_overtaken :
    let place : GeocodePlace := ⟨some ⟨.finite 52, .finite 0, some [65]⟩, none, none, none, none⟩
    ∃ s, Visits.run (searchStep fun _ => true) SearchSession.Countable .start
        (overtakenSearch place) = some s ∧
      s.panel.map SearchPanel.results = some [⟨[65], [], .finite 52, .finite 0⟩] ∧
      NewestSearch (fun _ => true) s := by
  intro place
  have hstart : Visits (searchStep fun _ => true) (· = SearchSession.start)
      SearchSession.Countable .start := .start rfl (by decide)
  have hrun : (Visits.run (searchStep fun _ => true) SearchSession.Countable .start
      (overtakenSearch place)).map (fun s => s.panel.map SearchPanel.results) =
        some (some [⟨[65], [], .finite 52, .finite 0⟩]) := by decide +kernel
  obtain ⟨s, hs, hpanel⟩ := Option.map_eq_some_iff.mp hrun
  exact ⟨s, hs, hpanel, newestSearch _ (hstart.of_run _ hs)⟩

end SystemSettings
