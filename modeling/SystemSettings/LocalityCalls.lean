import SystemSettings.Automaton
import SystemSettings.CliCommit
import SystemSettings.LocalityProtocol

/-!
# Calls as steps of the locality protocol

What each call of a run does to the durable state of the locality, with the others
keeping off it. `Locality.Effect` says it in terms of that state alone, and
`World.locality_effect` that the world does nothing else.
-/

namespace SystemSettings

variable {P B α : Type} {K : Common} {F : PolicyFormat P} {G : GLib B} {p : Pid}
  {round : Double → Double}

/-! ## The machine -/

/-- Whether the removal of the journal has been tried, after this call. -/
def spentAfter (spent : Bool) : (c : Call B) → c.Answer → Bool
  | .writeFile .locationPending _, ok => if ok then false else spent
  | .unlinkFile .locationPending, _ => true
  | _, _ => spent

variable (K F G) in
/-- The durable state of the locality in a world. -/
def World.locality (x : World (FileState P) B × Bool) : Locality where
  place := policyLocation K F x.1.document
  ini := metadataLoad G x.1.locationIni
  pending := metadataLoad G x.1.locationPending
  spent := x.2

variable (G round) in
/-- The condition `allowed` on the calls of a run. -/
def MoveAllowed (allowed : Locality → LocalityMove → Prop) (kind : RunKind) (d : Locality) :
    (c : Call B) → c.Answer → Prop
  | .writeFile .locationPending data, ok => kind = .transaction → ok = true →
    ∀ record, metadataParse G data = some record → allowed d (.stage record)
  | .unlinkFile .locationPending, ok => kind = .transaction → ok = false → allowed d .keepJournal
  | .writeFile .locationIni data, ok => kind = .reconciliation → ok = true →
    ∀ record, metadataParse G data = some record → allowed d (.rewrite record)
  | .save policy, ok =>
    (kind = .transaction → ok = true → policy.location = none → allowed d .clear) ∧
      (kind = .reconciliation → ok = true →
        ∀ c, policy.location = some c → allowed d (.relocate (c.rounded round)))
  | _, _ => True

instance {allowed : Locality → LocalityMove → Prop} [∀ d move, Decidable (allowed d move)]
    (kind : RunKind) (d : Locality) :
    (c : Call B) → (r : c.Answer) → Decidable (MoveAllowed G round allowed kind d c r)
  | .writeFile .locationPending data, (ok : Bool) =>
    inferInstanceAs (Decidable (kind = .transaction → ok = true →
      ∀ record ∈ metadataParse G data, allowed d (.stage record)))
  | .writeFile .locationIni data, (ok : Bool) =>
    inferInstanceAs (Decidable (kind = .reconciliation → ok = true →
      ∀ record ∈ metadataParse G data, allowed d (.rewrite record)))
  | .unlinkFile .locationPending, (ok : Bool) =>
    inferInstanceAs (Decidable (kind = .transaction → ok = false → allowed d .keepJournal))
  | .save policy, (ok : Bool) =>
    inferInstanceAs (Decidable ((kind = .transaction → ok = true → policy.location = none →
      allowed d .clear) ∧ (kind = .reconciliation → ok = true →
        ∀ c ∈ policy.location, allowed d (.relocate (c.rounded round)))))
  | .unlinkFile .locationIni, _ | .load, _ | .clear, _ | .beginUpdate, _ | .endUpdate, _
  | .compatibilityMatches _, _ | .calloc, _ | .transactionBegin, _ | .transactionEnd, _
  | .readFile _, _ | .clockUse24h, _ | .clockShowSeconds, _ | .readSystemTime, _
  | .detectRegional, _ => inferInstanceAs (Decidable True)

/-- Process `p` among processes that spare the locality. Every call meets the condition
`guard`. -/
abbrev journalMachine (K : Common) (F : PolicyFormat P) (G : GLib B) (p : Pid)
    (guard : Locality → (c : Call B) → c.Answer → Prop) :
    Machine (Sys B) Memory (World (FileState P) B × Bool) :=
  Prog.quiet fun x e =>
    World.Step (platformStorage K F) p (World.SparesLocality K F) x.1 ⟨e.cmd, e.resp, e.world.1⟩ ∧
      e.world.2 = spentAfter x.2 e.cmd e.resp ∧ guard (World.locality K F G x) e.cmd e.resp

/-! ## The same in terms of the locality -/

/-- What a locality file says. -/
def Locality.file (d : Locality) : LocalityFile → FileView
  | .locationIni => d.ini
  | .locationPending => d.pending

/-- A locality file is replaced. -/
def Locality.write (d : Locality) : LocalityFile → FileView → Locality
  | .locationIni, view => { d with ini := view }
  | .locationPending, view => { d with pending := view, spent := false }

variable (K F round) in
/-- A policy that is loaded at this place. -/
structure LoadedAt (loaded : TemporalPolicyV3 × Bool) (place : Option (Option Coordinates)) :
    Prop where
  /-- it says the place -/
  shown : place = some loaded.1.location
  /-- to save it again keeps the place -/
  rounded : loaded.1.location.map (Coordinates.rounded round) = loaded.1.location
  /-- and so does to remove the document when there was no valid one -/
  absent : loaded.2 = false → policyLocation K F .absent = place

variable (K F G round) in
/-- What a call does to the locality. -/
def Locality.Effect (d : Locality) : (c : Call B) → c.Answer → Locality → Prop
  | .load, answer, d' => d' = d ∧ ∀ loaded, answer = some loaded → LoadedAt K F round loaded d.place
  | .save policy, ok, d' =>
    d' = if ok then { d with place := some (policy.location.map (Coordinates.rounded round)) }
      else d
  | .clear, ok, d' => d' = if ok then { d with place := policyLocation K F .absent } else d
  | .readFile f, answer, d' => d' = d ∧
    (metadataLoad G answer = d.file f ∨ metadataLoad G answer = (.ioError, .zero))
  | .writeFile f data, ok, d' => d' = if ok then d.write f (metadataLoad G (.contents data)) else d
  | .unlinkFile .locationIni, ok, d' => d' = if ok then { d with ini := FileView.missing } else d
  | .unlinkFile .locationPending, ok, d' => d' = d.unlinkPending ok
  | _, _, d' => d' = d

/-- A policy is loaded at the place that the document says. -/
theorem loadedAt_of_load (hF : F.SixDecimals round)
    (hdefault : ∀ policy, K.policyDefault = some policy → policy.locationConfigured = false)
    {native : Option Native} {document : FileState P} {loaded : TemporalPolicyV3 × Bool}
    (h : platformLoad K F native document = some loaded) :
    LoadedAt K F round loaded (policyLocation K F document) := by
  have hplace := policyLocation_of_load h
  -- without a valid document the default is loaded, and it has no location
  have hnone (policy : TemporalPolicyV3) (hpolicy : K.policyDefault = some policy)
      (hloaded : loaded = (loadCinnamonDefaults K native policy, false)) :
      LoadedAt K F round loaded (policyLocation K F document) := by
    have hlocation : loaded.1.location = none := by
      rw [hloaded, location_loadCinnamonDefaults]
      exact TemporalPolicyV3.location_eq_none.mpr (hdefault policy hpolicy)
    refine ⟨hplace, by rw [hlocation]; rfl, fun _ => ?_⟩
    rw [hplace, hlocation]
    have habsent : policyLocation K F .absent = some policy.location := by
      simp [policyLocation, platformLoad, hpolicy]
    rw [habsent, TemporalPolicyV3.location_eq_none.mpr (hdefault policy hpolicy)]
  cases document with
  | absent =>
    obtain ⟨policy, hpolicy, hloaded⟩ := Option.map_eq_some_iff.mp h
    exact hnone policy hpolicy hloaded.symm
  | unreadable => cases h
  | contents data =>
    cases hparse : F.parse data with
    | ok policy =>
      simp only [platformLoad, hparse, Option.some.injEq] at h
      subst h
      exact ⟨hplace, hF.parse data policy hparse, fun h => absurd h.symm Bool.false_ne_true⟩
    | error damage =>
      cases damage <;>
      · simp only [platformLoad, hparse] at h
        obtain ⟨policy, hpolicy, hloaded⟩ := Option.map_eq_some_iff.mp h
        exact hnone policy hpolicy hloaded.symm

theorem World.SparesLocality.locality {w w' : World (FileState P) B}
    (h : w.SparesLocality K F w') (spent : Bool) :
    World.locality K F G (w', spent) = World.locality K F G (w, spent) := by
  simp only [World.locality, h.location, h.ini, h.pending]

/-- A policy that is saved is found rounded. -/
theorem respond_save_effect (hF : F.SixDecimals round) (ok spent : Bool)
    (policy : TemporalPolicyV3) (w : World (FileState P) B) :
    (World.locality K F G (w, spent)).Effect K F G round (.save policy)
      (World.respond (platformStorage K F) p ok w (.save policy)).1
      (World.locality K F G
        ((World.respond (platformStorage K F) p ok w (.save policy)).2, spent)) := by
  cases hsave : if ok then (platformStorage K F).save policy else none with
  | none =>
    simp only [World.respond, hsave]
    rfl
  | some document =>
    obtain ⟨data, hdata, rfl⟩ := Option.map_eq_some_iff.mp (Storage.saved hsave).2
    have hplace : policyLocation K F (.contents data) =
        some (policy.location.map (Coordinates.rounded round)) := policyLocation_save hF hdata
    simp only [World.respond, hsave, Locality.Effect, if_true, ← hplace]
    rfl

/-- What the world does on a call. -/
theorem respond_effect (hF : F.SixDecimals round)
    (hdefault : ∀ policy, K.policyDefault = some policy → policy.locationConfigured = false)
    (c : Call B) (ok spent : Bool) (w : World (FileState P) B) :
    (World.locality K F G (w, spent)).Effect K F G round c
      (World.respond (platformStorage K F) p ok w c).1
      (World.locality K F G ((World.respond (platformStorage K F) p ok w c).2,
        spentAfter spent c (World.respond (platformStorage K F) p ok w c).1)) := by
  cases c with
  | load =>
    refine ⟨rfl, fun loaded h => ?_⟩
    cases ok with
    | false => cases h
    | true => exact loadedAt_of_load hF hdefault h
  | save policy => exact respond_save_effect hF ok spent policy w
  | clear => cases ok <;> rfl
  | readFile f =>
    refine ⟨rfl, ?_⟩
    cases ok with
    | false => exact .inr rfl
    | true => cases f <;> exact .inl rfl
  | writeFile f data | unlinkFile f => cases f <;> cases ok <;> rfl
  | beginUpdate | endUpdate | transactionBegin | transactionEnd =>
    simp only [World.respond]
    split <;> rfl
  | _ => rfl

variable (K F G round) in
/-- The calls of a run in terms of the locality. -/
abbrev protocolMachine (guard : Locality → (c : Call B) → c.Answer → Prop) :
    Machine (Sys B) Memory Locality :=
  Prog.quiet fun d e => d.Effect K F G round e.cmd e.resp e.world ∧ guard d e.cmd e.resp

section Connect

variable {guard : Locality → (c : Call B) → c.Answer → Prop}

/-- A step of the world is one of the locality. -/
theorem journalMachine_effect (hF : F.SixDecimals round)
    (hdefault : ∀ policy, K.policyDefault = some policy → policy.locationConfigured = false)
    (x : World (FileState P) B × Bool) (e : Event (Sys B) (World (FileState P) B × Bool))
    (h : World.Step (platformStorage K F) p (World.SparesLocality K F) x.1
        ⟨e.cmd, e.resp, e.world.1⟩ ∧
      e.world.2 = spentAfter x.2 e.cmd e.resp ∧ guard (World.locality K F G x) e.cmd e.resp) :
    (World.locality K F G x).Effect K F G round e.cmd e.resp (World.locality K F G e.world) ∧
      guard (World.locality K F G x) e.cmd e.resp := by
  obtain ⟨⟨w₁, ok, hspares, hresp, hworld⟩, hspent, hguard⟩ := h
  refine ⟨?_, hguard⟩
  have heffect := respond_effect (G := G) (p := p) hF hdefault e.cmd ok x.2 w₁
  rw [hspares.locality] at heffect
  simp only at hresp hworld
  rw [← hresp, ← hworld, ← hspent] at heffect
  exact heffect

end Connect

/-! ## Rules -/

section Rules

variable {A : Type} {guard : Locality → (c : Call B) → c.Answer → Prop}
  {next : A → Locality → A → Locality → Prop} {Q : α → Memory → A → Locality → Prop} {q : A}
  {d d' : Locality} {s : Memory}

theorem Locality.Effect.eq_of_not_write {c : Call B} {r : c.Answer} (hc : ¬ c.IsWrite)
    (h : d.Effect K F G round c r d') : d' = d := by
  cases c with
  | save | clear | writeFile | unlinkFile => exact absurd trivial hc
  | load | readFile => exact h.1
  | _ => exact h

/-- A program that only reads, by the answers it can get. -/
theorem follows_of_under {m : Prog (Sys B) Memory α}
    (h : m.Under (fun c : Call B => ¬ c.IsWrite)
      (fun (c : Call B) (r : c.Answer) => d.Effect K F G round c r d) fun a s => Q a s q d) :
    m.Follows (protocolMachine K F G round guard) next Q q d := by
  refine .of_under (fun s c r s₁ d₁ hc hstep => ?_) h
  obtain ⟨rfl, heffect, -⟩ := hstep
  obtain rfl := heffect.eq_of_not_write hc
  exact ⟨rfl, rfl, heffect⟩

/-- A call that writes nothing. -/
theorem follows_skip {c : Call B} {k : c.Answer → Memory → Prog (Sys B) Memory α}
    (hc : ¬ c.IsWrite)
    (h : ∀ r, (k r s).Follows (protocolMachine K F G round guard) next Q q d) :
    (Prog.call (S := Sys B) c s k).Follows (protocolMachine K F G round guard) next Q q d := by
  rintro r s₁ d₁ ⟨rfl, heffect, -⟩
  obtain rfl := heffect.eq_of_not_write hc
  exact ⟨q, .inr ⟨rfl, rfl⟩, h r⟩

theorem follows_load {k : Option (TemporalPolicyV3 × Bool) → Memory → Prog (Sys B) Memory α}
    (hnone : (k none s).Follows (protocolMachine K F G round guard) next Q q d)
    (h : ∀ loaded, LoadedAt K F round loaded d.place →
      (k (some loaded) s).Follows (protocolMachine K F G round guard) next Q q d) :
    (Prog.call (S := Sys B) .load s k).Follows (protocolMachine K F G round guard) next Q q d := by
  rintro r s₁ d₁ ⟨rfl, ⟨heq, hloaded⟩, -⟩
  obtain rfl : d₁ = d := heq
  refine ⟨q, .inr ⟨rfl, rfl⟩, ?_⟩
  cases r with
  | none => exact hnone
  | some loaded => exact h loaded (hloaded loaded rfl)

/-- A locality file is read, or cannot be. -/
theorem follows_load_path {f : LocalityFile} {k : FileView → Memory → Prog (Sys B) Memory α}
    (hview : (k (d.file f) s).Follows (protocolMachine K F G round guard) next Q q d)
    (hunreadable : (k (.ioError, .zero) s).Follows (protocolMachine K F G round guard) next Q q d) :
    ((metadataLoadPath G f s).bind k).Follows (protocolMachine K F G round guard) next Q q d := by
  rintro r s₁ d₁ ⟨rfl, ⟨heq, hread⟩, -⟩
  obtain rfl : d₁ = d := heq
  refine ⟨q, .inr ⟨rfl, rfl⟩, ?_⟩
  simp only [Action.pure_run, Prog.ret_bind]
  rcases hread with hread | hread
  · rw [hread]
    exact hview
  · rw [hread]
    exact hunreadable

/-- A call that changes the locality when it succeeds. -/
theorem follows_write {c : Call B} {k : c.Answer → Memory → Prog (Sys B) Memory α}
    (h : ∀ r d₁, d.Effect K F G round c r d₁ → guard d c r →
      ∃ q', (next q d q' d₁ ∨ q' = q ∧ d₁ = d) ∧
        (k r s).Follows (protocolMachine K F G round guard) next Q q' d₁) :
    (Prog.call (S := Sys B) c s k).Follows (protocolMachine K F G round guard) next Q q d := by
  rintro r s₁ d₁ ⟨rfl, heffect, hguard⟩
  exact h r d₁ heffect hguard

theorem follows_save {policy : TemporalPolicyV3} {k : Bool → Memory → Prog (Sys B) Memory α}
    (hfailed : (k false s).Follows (protocolMachine K F G round guard) next Q q d)
    (hsaved : guard d (.save policy) true → ∃ q',
      (next q d q' { d with place := some (policy.location.map (Coordinates.rounded round)) } ∨
        q' = q ∧ some (policy.location.map (Coordinates.rounded round)) = d.place) ∧
      (k true s).Follows (protocolMachine K F G round guard) next Q q'
        { d with place := some (policy.location.map (Coordinates.rounded round)) }) :
    (Prog.call (S := Sys B) (.save policy) s k).Follows (protocolMachine K F G round guard) next
      Q q d := by
  refine follows_write fun ok d₁ heffect hguard => ?_
  cases ok with
  | false =>
    obtain rfl : d₁ = d := heffect
    exact ⟨q, .inr ⟨rfl, rfl⟩, hfailed⟩
  | true =>
    obtain rfl : d₁ = { d with place := _ } := heffect
    obtain ⟨q', hnext, hk⟩ := hsaved hguard
    refine ⟨q', hnext.imp_right fun ⟨hq, hplace⟩ => ⟨hq, ?_⟩, hk⟩
    rw [hplace]

end Rules

end SystemSettings
