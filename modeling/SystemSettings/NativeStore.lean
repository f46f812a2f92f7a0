import SystemSettings.PolicySection

/-!
# The policy store of the desktop

The callbacks that `temporal-policy-store.c` puts behind `SsTemporalPolicyStore` on Linux,
down to the calls of GSettings and of Common, with the helpers of `cinnamon-interface.c`
that they go through. A save is mirrored to the two keys of the desktop that have an exact
representation in a policy.

* `NativeCall`: the calls. `StoreM`: code over them.
* `Desk`: the policy document and the desktop's keys. Besides the world itself it records
  for each key what a panel would have to know to trust it.
* `Desk.Drift`: what can change there without a write of this process.
* `platformSave_wp`, `platformClear_wp`, `platformLoad_wp` and
  `platformCompatibilityMatches_wp`: what each callback makes of it.
-/

namespace SystemSettings

namespace NativeStore

/-! ## Calls -/

/-- The keys of `org.cinnamon.desktop.interface` that a policy is mirrored to. -/
inductive Key : Type where
  /-- `clock-use-24h` -/
  | clockUse24h
  /-- `clock-show-seconds` -/
  | clockShowSeconds
  deriving DecidableEq

/-- What `infiltratr_temporal_posix_policy_load` reports. -/
inductive PolicyRead : Type where
  /-- `INFILTRATR_IO_OK`: the policy, and whether there was a document -/
  | ok (policy : TemporalPolicyV3) (found : Bool)
  /-- `INFILTRATR_IO_INVALID_VALUE` or `INFILTRATR_IO_EMPTY` -/
  | invalid
  /-- any other result -/
  | failed
  deriving DecidableEq

/-- What the callbacks call out to. -/
inductive NativeCall : Type where
  /-- `ss_cinnamon_interface_settings_new`: whether there are settings -/
  | settingsNew
  /-- `ss_cinnamon_interface_has_key` -/
  | hasKey (key : Key)
  /-- `g_settings_get_value`, for a value of Boolean type -/
  | getValue (key : Key)
  /-- `g_settings_get_boolean` -/
  | getBoolean (key : Key)
  /-- `g_settings_set_boolean` -/
  | setBoolean (key : Key) (value : Bool)
  /-- the lookup of GNOME's schema, and whether that has the key `clock-format` -/
  | gnomeSchema
  /-- `g_settings_set_string` on `clock-format` -/
  | setClockFormat (format : String)
  /-- `g_settings_sync` -/
  | sync
  /-- `infiltratr_temporal_posix_policy_load` -/
  | policyLoad
  /-- `infiltratr_temporal_posix_policy_save` -/
  | policySave (policy : TemporalPolicyV3)
  /-- `infiltratr_unlink_durable` on the policy -/
  | unlinkPolicy
  deriving DecidableEq

/-- What each call answers. -/
@[reducible] def NativeCall.Answer : NativeCall → Type
  | getValue _ => Option Bool
  | gnomeSchema => Option Bool
  | sync => Unit
  | policyLoad => PolicyRead
  | _ => Bool

/-- The calls as a signature. -/
abbrev NativeSys : Signature := ⟨NativeCall, NativeCall.Answer⟩

/-- Code of the store; it keeps nothing in memory. -/
abbrev StoreM : Type → Type := Action NativeSys Unit

/-- `ss_cinnamon_interface_settings_new` -/
def cinnamonInterfaceSettingsNew : StoreM Bool := Action.call (S := NativeSys) .settingsNew

/-- `ss_cinnamon_interface_has_key` -/
def cinnamonInterfaceHasKey (key : Key) : StoreM Bool := Action.call (S := NativeSys) (.hasKey key)

/-- `g_settings_get_value` -/
def settingsGetValue (key : Key) : StoreM (Option Bool) :=
  Action.call (S := NativeSys) (.getValue key)

/-- `g_settings_get_boolean` -/
def settingsGetBoolean (key : Key) : StoreM Bool := Action.call (S := NativeSys) (.getBoolean key)

/-- `g_settings_set_boolean` -/
def settingsSetBoolean (key : Key) (value : Bool) : StoreM Bool :=
  Action.call (S := NativeSys) (.setBoolean key value)

/-- `g_settings_schema_source_lookup` for GNOME -/
def gnomeSchema : StoreM (Option Bool) := Action.call (S := NativeSys) .gnomeSchema

/-- `g_settings_set_string` -/
def settingsSetClockFormat (format : String) : StoreM Bool :=
  Action.call (S := NativeSys) (.setClockFormat format)

/-- `g_settings_sync` -/
def settingsSync : StoreM Unit := Action.call (S := NativeSys) .sync

/-- `infiltratr_temporal_posix_policy_load` -/
def posixPolicyLoad : StoreM PolicyRead := Action.call (S := NativeSys) .policyLoad

/-- `infiltratr_temporal_posix_policy_save` -/
def posixPolicySave (policy : TemporalPolicyV3) : StoreM Bool :=
  Action.call (S := NativeSys) (.policySave policy)

/-- `infiltratr_unlink_durable` -/
def unlinkDurable : StoreM Bool := Action.call (S := NativeSys) .unlinkPolicy

/-! ## The desktop's keys -/

/-- `ss_cinnamon_interface_get_boolean` on settings that exist. -/
def cinnamonInterfaceGetBoolean (key : Key) : StoreM (Option Bool) := do
  if ← cinnamonInterfaceHasKey key then settingsGetValue key
  else pure none

/-- `ss_cinnamon_interface_set_boolean` -/
def cinnamonInterfaceSetBoolean (key : Key) (value : Bool) : StoreM Bool := do
  match ← cinnamonInterfaceGetBoolean key with
  | none => pure false
  | some _ => settingsSetBoolean key value

/-- GNOME's copy of the setting, where its schema has one. -/
def setGnomeClockFormat (hasFormat use24h : Bool) : StoreM Bool :=
  if hasFormat then settingsSetClockFormat (if use24h then "24h" else "12h") else pure true

/-- `ss_cinnamon_interface_set_clock_use_24h` -/
def cinnamonInterfaceSetClockUse24h (use24h : Bool) : StoreM Bool := do
  let ok ← cinnamonInterfaceSetBoolean .clockUse24h use24h
  match ← gnomeSchema with
  | none => pure ok
  | some hasFormat =>
    let formatOk ← setGnomeClockFormat hasFormat use24h
    settingsSync
    pure (formatOk && ok)

/-- What the panel reads of a key, with the settings it got when it started. -/
def panelGetBoolean (key : Key) : StoreM (Option Bool) := do
  if ← cinnamonInterfaceSettingsNew then cinnamonInterfaceGetBoolean key
  else pure none

/-! ## The callbacks -/

variable (K : Common)

/-- `load_cinnamon_defaults` -/
def cinnamonDefaults (policy : TemporalPolicyV3) : StoreM TemporalPolicyV3 := do
  if ← cinnamonInterfaceSettingsNew then
    let use24h ← settingsGetBoolean .clockUse24h
    let showSeconds ← settingsGetBoolean .clockShowSeconds
    pure (loadCinnamonDefaults K (some ⟨use24h, showSeconds⟩) policy)
  else pure (loadCinnamonDefaults K none policy)

/-- The part of `mirror_cinnamon_compatibility` about the clock. -/
def mirrorClock (clockMode : String) : StoreM Bool :=
  if clockMode = "standard-24" then cinnamonInterfaceSetClockUse24h true
  else if clockMode = "standard-12" then cinnamonInterfaceSetClockUse24h false
  else pure true

/-- `mirror_cinnamon_compatibility` -/
def mirrorCinnamonCompatibility (policy : TemporalPolicyV3) : StoreM Bool := do
  if ← cinnamonInterfaceSettingsNew then
    let clockOk ← mirrorClock policy.clockMode
    let secondsOk ← settingsSetBoolean .clockShowSeconds policy.showSeconds
    settingsSync
    pure (secondsOk && clockOk)
  else pure true

/-- Whether a key has this value. -/
def keyMatches (key : Key) (expected : Bool) : StoreM Bool := do
  match ← cinnamonInterfaceGetBoolean key with
  | none => pure false
  | some value => pure (value == expected)

/-- The part of `platform_compatibility_matches` about the clock. -/
def clockMatches (clockMode : String) : StoreM Bool :=
  if clockMode = "standard-24" ∨ clockMode = "standard-12" then
    keyMatches .clockUse24h (clockMode == "standard-24")
  else pure true

/-- `platform_compatibility_matches` -/
def platformCompatibilityMatches (policy : TemporalPolicyV3) : StoreM Bool := do
  if ← cinnamonInterfaceSettingsNew then
    let clockOk ← clockMatches policy.clockMode
    if clockOk then keyMatches .clockShowSeconds policy.showSeconds
    else pure false
  else pure true

/-- `platform_load` -/
def platformLoad : StoreM (Option (TemporalPolicyV3 × Bool)) := do
  match ← posixPolicyLoad with
  | .ok policy true => pure (some (policy, true))
  | .ok policy false => do
    let policy ← cinnamonDefaults K policy
    pure (some (policy, false))
  | .invalid =>
    match K.policyDefault with
    | none => pure none
    | some policy => do
      let policy ← cinnamonDefaults K policy
      pure (some (policy, false))
  | .failed => pure none

/-- `platform_save`. A mirror that fails does not fail the save. -/
def platformSave (policy : TemporalPolicyV3) : StoreM Bool := do
  if ← posixPolicySave policy then
    let _ ← mirrorCinnamonCompatibility policy
    pure true
  else pure false

/-- `platform_clear` -/
def platformClear : StoreM Bool := unlinkDurable

/-! ## The desk -/

/-- What the path of the policy holds. -/
inductive Document : Type where
  /-- no file -/
  | missing
  /-- a file that is no policy, or an empty one -/
  | invalid
  /-- a policy -/
  | policy (policy : TemporalPolicyV3)
  deriving DecidableEq

/-- The policy document and the desktop's keys. The last three fields are ghosts: what has
happened to a key that the policy of a panel may not show yet. -/
structure Desk : Type where
  /-- the policy document -/
  document : Document
  /-- the desktop's keys, when that schema is installed -/
  native : Option Native
  /-- GNOME's schema, when installed: whether it has `clock-format` -/
  gnome : Option Bool
  /-- a change of the key has not been delivered to the panel -/
  outstanding : Key → Bool
  /-- the key was not brought into line: a read or a write of it has failed, or a
  reconciliation has, since the panel last wrote it -/
  unsettled : Key → Bool
  /-- since the panel last saved its policy another program has written a document with
  another value for the key -/
  foreign : Key → Bool

namespace Key

/-- The value of a key. -/
def read (native : Native) : Key → Bool
  | clockUse24h => native.clockUse24h
  | clockShowSeconds => native.clockShowSeconds

/-- Write a key. -/
def write (native : Native) (value : Bool) : Key → Native
  | clockUse24h => { native with clockUse24h := value }
  | clockShowSeconds => { native with clockShowSeconds := value }

@[simp] theorem read_write_self (native : Native) (value : Bool) (key : Key) :
    key.read (key.write native value) = value := by
  cases key <;> rfl

@[simp] theorem read_write_of_ne (native : Native) (value : Bool) {key other : Key}
    (h : key ≠ other) : key.read (other.write native value) = key.read native := by
  cases key <;> cases other <;> first | rfl | exact absurd rfl h

/-- The policy allows this value of the key. An extended clock allows every value. -/
def Allows (policy : TemporalPolicyV3) (value : Bool) : Key → Prop
  | clockUse24h => (policy.clockMode = "standard-24" → value = true) ∧
      (policy.clockMode = "standard-12" → value = false)
  | clockShowSeconds => value = policy.showSeconds

/-- The two policies say the same about the key. -/
def Same (x y : TemporalPolicyV3) : Key → Prop
  | clockUse24h => x.clockMode = y.clockMode
  | clockShowSeconds => x.showSeconds = y.showSeconds

theorem Allows.same {x y : TemporalPolicyV3} {value : Bool} {key : Key} (h : key.Allows x value)
    (hxy : key.Same x y) : key.Allows y value := by
  cases key with
  | clockUse24h => exact ⟨fun hy => h.1 (hxy.trans hy), fun hy => h.2 (hxy.trans hy)⟩
  | clockShowSeconds => exact h.trans hxy

theorem Same.refl (x : TemporalPolicyV3) (key : Key) : key.Same x x := by
  cases key <;> rfl

theorem Same.trans {x y z : TemporalPolicyV3} {key : Key} (h : key.Same x y) (h' : key.Same y z) :
    key.Same x z := by
  cases key <;> exact Eq.trans h h'

theorem Same.symm {x y : TemporalPolicyV3} {key : Key} (h : key.Same x y) : key.Same y x := by
  cases key <;> exact Eq.symm h

/-- The desktop agrees with the policy, or has no such key. -/
def Agrees (policy : TemporalPolicyV3) (native : Option Native) (key : Key) : Prop :=
  ∀ keys, native = some keys → key.Allows policy (key.read keys)

end Key

namespace Desk

/-- The key could not be read or written. -/
def disturb (d : Desk) (key : Key) : Desk :=
  { d with unsettled := Function.update d.unsettled key true }

/-- The key has been written. -/
def write (d : Desk) (key : Key) (value : Bool) : Desk :=
  { d with
    native := d.native.map fun native => key.write native value
    unsettled := Function.update d.unsettled key false }

/-- The notification of the key is delivered. -/
def deliver (d : Desk) (key : Key) : Desk :=
  { d with outstanding := Function.update d.outstanding key false }

/-- The policy has been saved. -/
def save (d : Desk) (policy : TemporalPolicyV3) : Desk :=
  { d with document := .policy policy, foreign := fun _ => false }

/-- The answer to a call, and the desk after it. With `ok = false` a call that may fail does. -/
def respond (ok : Bool) (d : Desk) : (c : NativeCall) → c.Answer × Desk
  | .settingsNew => (d.native.isSome, d)
  | .hasKey key => if ok = true ∧ d.native.isSome then (true, d) else (false, d.disturb key)
  | .getValue key => if ok then (d.native.map key.read, d) else (none, d.disturb key)
  | .getBoolean key => ((d.native.map key.read).getD false, d)
  | .setBoolean key value => if ok then (true, d.write key value) else (false, d.disturb key)
  | .gnomeSchema => (d.gnome, d)
  | .setClockFormat _ => (ok, d)
  | .sync => ((), d)
  | .policyLoad =>
    match ok, d.document with
    | false, _ => (.failed, d)
    | true, .missing => (.ok (K.policyDefault.getD default) false, d)
    | true, .invalid => (.invalid, d)
    | true, .policy policy => (.ok policy true, d)
  | .policySave policy => if ok then (true, d.save policy) else (false, d)
  | .unlinkPolicy => if ok then (true, { d with document := .missing }) else (false, d)

/-- What can happen to one key without a write of this process: its value changes, and then
the change is outstanding; or the document does, and then it is another program's. -/
structure KeyDrift (d d' : Desk) (key : Key) : Prop where
  outstanding : d.outstanding key = true → d'.outstanding key = true
  unsettled : d.unsettled key = true → d'.unsettled key = true
  foreign : d.foreign key = true → d'.foreign key = true
  native : d'.native.map key.read = d.native.map key.read ∨ d'.outstanding key = true
  document : d'.foreign key = true ∨ ∀ y, d'.document = .policy y →
    ∃ x, d.document = .policy x ∧ key.Same x y

/-- What can happen to the desk without a write of this process. -/
structure Drift (d d' : Desk) : Prop where
  /-- schemas are not installed or removed -/
  native : d'.native.isSome = d.native.isSome
  /-- nor is GNOME's -/
  gnome : d'.gnome = d.gnome
  /-- each key drifts on its own -/
  key : ∀ key, KeyDrift d d' key

theorem KeyDrift.refl (d : Desk) (key : Key) : KeyDrift d d key :=
  ⟨id, id, id, .inl rfl, .inr fun y hy => ⟨y, hy, .refl y key⟩⟩

theorem KeyDrift.trans {d d₁ d₂ : Desk} {key : Key} (h : KeyDrift d d₁ key)
    (h' : KeyDrift d₁ d₂ key) : KeyDrift d d₂ key where
  outstanding ho := h'.outstanding (h.outstanding ho)
  unsettled hu := h'.unsettled (h.unsettled hu)
  foreign hf := h'.foreign (h.foreign hf)
  native := by
    rcases h'.native with heq | ho
    · exact h.native.imp (fun heq' => heq.trans heq') fun ho => h'.outstanding ho
    · exact .inr ho
  document := by
    rcases h'.document with hf | hdoc'
    · exact .inl hf
    rcases h.document with hf | hdoc
    · exact .inl (h'.foreign hf)
    refine .inr fun z hz => ?_
    obtain ⟨y, hy, hyz⟩ := hdoc' z hz
    obtain ⟨x, hx, hxy⟩ := hdoc y hy
    exact ⟨x, hx, hxy.trans hyz⟩

theorem Drift.refl (d : Desk) : Drift d d := ⟨rfl, rfl, KeyDrift.refl d⟩

theorem Drift.trans {d d₁ d₂ : Desk} (h : Drift d d₁) (h' : Drift d₁ d₂) : Drift d d₂ :=
  ⟨h'.native.trans h.native, h'.gnome.trans h.gnome, fun key => (h.key key).trans (h'.key key)⟩

@[simp] theorem unsettled_disturb (d : Desk) (key : Key) :
    (d.disturb key).unsettled key = true := Function.update_self ..

/-- A key that could not be read or written. -/
theorem Drift.disturb (d : Desk) (key : Key) : Drift d (d.disturb key) where
  native := rfl
  gnome := rfl
  key other := by
    refine ⟨id, fun hu => ?_, id, .inl rfl, .inr fun y hy => ⟨y, hy, .refl y other⟩⟩
    by_cases h : other = key
    · subst h
      simp [Desk.disturb]
    · simpa [Desk.disturb, h] using hu

variable {K}

/-- A call that is no successful write. -/
theorem drift_respond {ok : Bool} {d : Desk} {c : NativeCall}
    (hc : match c with
      | .setBoolean _ _ | .policySave _ | .unlinkPolicy => ok = false
      | _ => True) : Drift d (respond K ok d c).2 := by
  cases c with
  | hasKey key =>
    simp only [respond]
    split
    · exact .refl d
    · exact .disturb d key
  | getValue key =>
    simp only [respond]
    split
    · exact .refl d
    · exact .disturb d key
  | setBoolean key value =>
    obtain rfl : ok = false := hc
    exact .disturb d key
  | policySave policy =>
    obtain rfl : ok = false := hc
    exact .refl d
  | unlinkPolicy =>
    obtain rfl : ok = false := hc
    exact .refl d
  | policyLoad =>
    simp only [respond]
    split <;> exact .refl d
  | _ => exact .refl d

/-! ## What a desk shows -/

/-- There is a reason for the key not to agree with the policy of the panel. -/
def Excused (d : Desk) (key : Key) : Prop :=
  d.outstanding key = true ∨ d.unsettled key = true ∨ d.foreign key = true

instance (d : Desk) (key : Key) : Decidable (d.Excused key) :=
  inferInstanceAs (Decidable (_ ∨ _ ∨ _))

/-- The key agrees with the policy, or there is a reason why it does not. -/
def Settled (d : Desk) (policy : TemporalPolicyV3) (key : Key) : Prop :=
  d.Excused key ∨ key.Agrees policy d.native

/-- A document says of the key what the policy says, and the policy is known to be
persisted, or another program wrote the document. -/
def Documented (d : Desk) (policy : TemporalPolicyV3) (persisted : Bool) (key : Key) : Prop :=
  d.foreign key = true ∨ ∀ y, d.document = .policy y → persisted = true ∧ key.Same policy y

/-- A policy that can be trusted as far as the key goes. -/
structure Fits (d : Desk) (policy : TemporalPolicyV3) (persisted : Bool) (key : Key) : Prop where
  settled : d.Settled policy key
  documented : d.Documented policy persisted key

section Fits

variable {x y : TemporalPolicyV3} {p : Bool} {d d' : Desk} {key : Key}

/-- Reasons stay. -/
theorem Excused.drift (h : d.Excused key) (hd : KeyDrift d d' key) : d'.Excused key :=
  h.imp hd.outstanding (Or.imp hd.unsettled hd.foreign)

theorem Settled.drift (h : d.Settled x key) (hd : KeyDrift d d' key) : d'.Settled x key := by
  rcases h with hexcused | hagrees
  · exact .inl (hexcused.drift hd)
  rcases hd.native with heq | ho
  · refine .inr fun keys hkeys => ?_
    rw [hkeys, Option.map_some] at heq
    obtain ⟨keys', hkeys', hread⟩ := Option.map_eq_some_iff.mp heq.symm
    exact hread ▸ hagrees keys' hkeys'
  · exact .inl (.inl ho)

theorem Settled.of_none (h : d.native = none) : d.Settled x key := by
  refine .inr fun keys hkeys => ?_
  rw [h] at hkeys
  cases hkeys

theorem Documented.drift (h : d.Documented x p key) (hd : KeyDrift d d' key) :
    d'.Documented x p key := by
  rcases h with hf | hdoc
  · exact .inl (hd.foreign hf)
  rcases hd.document with hf | hdoc'
  · exact .inl hf
  refine .inr fun z hz => ?_
  obtain ⟨y, hy, hyz⟩ := hdoc' z hz
  exact (hdoc y hy).imp_right fun hxy => hxy.trans hyz

theorem Fits.drift (h : d.Fits x p key) (hd : KeyDrift d d' key) : d'.Fits x p key :=
  ⟨h.settled.drift hd, h.documented.drift hd⟩

theorem Settled.same (h : d.Settled x key) (hxy : key.Same x y) : d.Settled y key :=
  h.imp_right fun h keys hkeys => (h keys hkeys).same hxy

theorem Fits.same (h : d.Fits x p key) (hxy : key.Same x y) : d.Fits y p key where
  settled := h.settled.same hxy
  documented := h.documented.imp_right fun hdoc z hz =>
    (hdoc z hz).imp_right fun hxz => hxy.symm.trans hxz

end Fits

end Desk

/-! ## The store at work -/

section Makes

variable {K : Common} {α β : Type}

variable (K) in
/-- One call of the store. Before it the desk may drift. -/
def Desk.Step (d : Desk) (e : Event NativeSys Desk) : Prop :=
  ∃ d₁ ok, d.Drift d₁ ∧ e.resp = (Desk.respond K ok d₁ e.cmd).1 ∧
    e.world = (Desk.respond K ok d₁ e.cmd).2

variable (K) in
/-- Every run of the code from the desk `d` ends in `Q`. -/
def Makes (m : StoreM α) (Q : α → Desk → Prop) (d : Desk) : Prop :=
  (m ()).Leads (Prog.quiet (Desk.Step K)) (fun a _ d' => Q a d') d

section Rules

variable {m : StoreM α} {f : α → StoreM β} {Q Q' : α → Desk → Prop} {R : β → Desk → Prop}
  {d : Desk}

theorem Makes.pure {a : α} (h : Q a d) : Makes K (Pure.pure a) Q d := h

theorem Makes.bind (hm : Makes K m Q d) (hf : ∀ a d', Q a d' → Makes K (f a) R d') :
    Makes K (m >>= f) R d :=
  Prog.Leads.bind hm fun a _ d' h => hf a d' h

theorem Makes.mono (hm : Makes K m Q d) (hQ : ∀ a d', Q a d' → Q' a d') : Makes K m Q' d :=
  Prog.Leads.mono hm fun a _ d' h => hQ a d' h

/-- A call makes of a desk what it makes of one it may have drifted to. -/
theorem Makes.call {c : NativeCall} {Q : c.Answer → Desk → Prop}
    (h : ∀ d₁ ok, d.Drift d₁ → Q (Desk.respond K ok d₁ c).1 (Desk.respond K ok d₁ c).2) :
    Makes K (Action.call (S := NativeSys) c) Q d := by
  refine Prog.Leads.call ?_
  rintro r d' ⟨d₁, ok, hdrift, hr, hd'⟩
  simp only at hr hd'
  subst hr hd'
  exact h d₁ ok hdrift

/-- What a run of the code did. -/
theorem Makes.exec (h : Makes K m Q d) {tr : List (Event NativeSys Desk)} {a : α} {u : Unit}
    {d' : Desk} (hx : (m ()).Exec (Prog.quiet (Desk.Step K)) d tr a u d') : Q a d' :=
  Prog.Leads.exec h hx

end Rules

/-! ### Reads -/

/-- What a read of the key says of the desk after it. -/
def ReadsKey (key : Key) (d : Desk) : Option Bool → Prop
  | some value => d.native.map key.read = some value
  | none => d.unsettled key = true ∨ d.native = none

theorem settingsNew_makes (d : Desk) : Makes K cinnamonInterfaceSettingsNew
    (fun installed d' => d.Drift d' ∧ installed = d'.native.isSome) d :=
  Makes.call fun _ _ hdrift => ⟨hdrift, rfl⟩

theorem getBoolean_makes (key : Key) (d : Desk) : Makes K (cinnamonInterfaceGetBoolean key)
    (fun value d' => d.Drift d' ∧ ReadsKey key d' value) d := by
  refine Makes.bind (Q := fun has d' => d.Drift d' ∧ (has = false → d'.unsettled key = true))
    (Makes.call fun d₁ ok hdrift => ⟨hdrift.trans (Desk.drift_respond trivial), ?_⟩) ?_
  · simp only [Desk.respond]
    split
    · exact nofun
    · exact fun _ => d₁.unsettled_disturb key
  rintro has d₁ ⟨hdrift, hhas⟩
  cases has with
  | false => exact Makes.pure ⟨hdrift, .inl (hhas rfl)⟩
  | true =>
    refine Makes.call fun d₂ ok hdrift' =>
      ⟨(hdrift.trans hdrift').trans (Desk.drift_respond trivial), ?_⟩
    simp only [Desk.respond]
    split
    · cases hnative : d₂.native with
      | none => exact .inr hnative
      | some native => exact congrArg (Option.map key.read) hnative
    · exact .inl (d₂.unsettled_disturb key)

theorem panelGetBoolean_makes (key : Key) (d : Desk) : Makes K (panelGetBoolean key)
    (fun value d' => d.Drift d' ∧ ReadsKey key d' value) d := by
  refine (settingsNew_makes d).bind ?_
  rintro installed d₁ ⟨hdrift, rfl⟩
  cases hnative : d₁.native with
  | none => exact Makes.pure ⟨hdrift, .inr hnative⟩
  | some native =>
    refine (getBoolean_makes key d₁).mono ?_
    rintro value d₂ ⟨hdrift', hreads⟩
    exact ⟨hdrift.trans hdrift', hreads⟩

/-! ### Writes -/

/-- A write of the key: it settles the key for the policies that allow the value, and
nothing else. -/
structure Wrote (key : Key) (value : Bool) (d d' : Desk) : Prop where
  settled : ∀ x, key.Allows x value → d'.Settled x key
  others : ∀ x other, other ≠ key → d.Settled x other → d'.Settled x other
  documented : ∀ x p other, d.Documented x p other → d'.Documented x p other

section Wrote

variable {key : Key} {value : Bool} {d d₁ d₂ : Desk}

theorem Wrote.before (hdrift : d.Drift d₁) (h : Wrote key value d₁ d₂) : Wrote key value d d₂ where
  settled := h.settled
  others x other hne hsettled := h.others x other hne (hsettled.drift (hdrift.key other))
  documented x p other hdoc := h.documented x p other (hdoc.drift (hdrift.key other))

theorem Wrote.after (h : Wrote key value d d₁) (hdrift : d₁.Drift d₂) : Wrote key value d d₂ where
  settled x hx := (h.settled x hx).drift (hdrift.key key)
  others x other hne hsettled := (h.others x other hne hsettled).drift (hdrift.key other)
  documented x p other hdoc := (h.documented x p other hdoc).drift (hdrift.key other)

/-- A drift after which nothing is said about the key. -/
theorem Wrote.of_drift (hdrift : d.Drift d₁) (h : d₁.unsettled key = true ∨ d₁.native = none) :
    Wrote key value d d₁ where
  settled _ _ := h.elim (fun hu => .inl (.inr (.inl hu))) .of_none
  others _ other _ hsettled := hsettled.drift (hdrift.key other)
  documented _ _ other hdoc := hdoc.drift (hdrift.key other)

theorem Wrote.write (d : Desk) (key : Key) (value : Bool) :
    Wrote key value d (d.write key value) where
  settled x hx := by
    refine .inr fun keys hkeys => ?_
    obtain ⟨native, -, rfl⟩ := Option.map_eq_some_iff.mp hkeys
    rw [Key.read_write_self]
    exact hx
  others x other hne hsettled := by
    rcases hsettled with hexcused | hagrees
    · exact .inl (hexcused.imp_right (Or.imp_left fun hu => by simpa [Desk.write, hne] using hu))
    refine .inr fun keys hkeys => ?_
    obtain ⟨native, hnative, rfl⟩ := Option.map_eq_some_iff.mp hkeys
    rw [Key.read_write_of_ne native value hne]
    exact hagrees native hnative
  documented _ _ _ hdoc := hdoc

end Wrote

/-- `g_settings_set_boolean` -/
theorem settingsSetBoolean_makes (key : Key) (value : Bool) (d : Desk) :
    Makes K (settingsSetBoolean key value) (fun _ d' => Wrote key value d d') d := by
  refine Makes.call fun d₁ ok hdrift => ?_
  cases ok with
  | true => exact (Wrote.write d₁ key value).before hdrift
  | false => exact .of_drift (hdrift.trans (.disturb d₁ key)) (.inl (d₁.unsettled_disturb key))

theorem setBoolean_makes (key : Key) (value : Bool) (d : Desk) :
    Makes K (cinnamonInterfaceSetBoolean key value) (fun _ d' => Wrote key value d d') d := by
  refine (getBoolean_makes key d).bind ?_
  rintro current d₁ ⟨hdrift, hreads⟩
  cases current with
  | none => exact Makes.pure (.of_drift hdrift hreads)
  | some current =>
    refine (settingsSetBoolean_makes key value d₁).mono ?_
    intro _ d₂ hwrote
    exact hwrote.before hdrift

/-- GNOME's copy of the setting is no key of the policy. -/
theorem setClockUse24h_makes (use24h : Bool) (d : Desk) :
    Makes K (cinnamonInterfaceSetClockUse24h use24h)
      (fun _ d' => Wrote .clockUse24h use24h d d') d := by
  refine (setBoolean_makes .clockUse24h use24h d).bind ?_
  intro ok d₁ hwrote
  have silent : ∀ (c : NativeCall) (d₂ : Desk), Wrote .clockUse24h use24h d d₂ →
      (match c with
        | .setBoolean _ _ | .policySave _ | .unlinkPolicy => False
        | _ => True) →
      Makes K (Action.call (S := NativeSys) c) (fun _ d' => Wrote .clockUse24h use24h d d') d₂ := by
    intro c d₂ hwrote hc
    refine Makes.call fun d₃ ok hdrift => hwrote.after (hdrift.trans (Desk.drift_respond ?_))
    cases c <;> first | exact hc | exact hc.elim
  refine (silent .gnomeSchema d₁ hwrote trivial).bind ?_
  intro schema d₂ hwrote
  cases schema with
  | none => exact Makes.pure hwrote
  | some hasFormat =>
    refine Makes.bind (m := setGnomeClockFormat hasFormat use24h)
      (Q := fun _ d' => Wrote .clockUse24h use24h d d') ?_ ?_
    · cases hasFormat with
      | false => exact Makes.pure hwrote
      | true => exact silent (.setClockFormat _) d₂ hwrote trivial
    intro formatOk d₃ hwrote
    refine (silent .sync d₃ hwrote trivial).bind ?_
    intro _ d₄ hwrote
    exact Makes.pure hwrote

/-! ### The mirror -/

/-- After the clock is mirrored its key is settled, for a policy with this clock. -/
theorem mirrorClock_makes (clockMode : String) (d : Desk) : Makes K (mirrorClock clockMode)
    (fun _ d' => (∀ x, x.clockMode = clockMode → d'.Settled x .clockUse24h) ∧
      ∀ x p key, d.Documented x p key → d'.Documented x p key) d := by
  unfold mirrorClock
  split_ifs with h24 h12
  · refine (setClockUse24h_makes true d).mono ?_
    intro _ d' hwrote
    refine ⟨fun x hx => hwrote.settled x ⟨fun _ => rfl, fun h => ?_⟩, hwrote.documented⟩
    exact absurd (h.symm.trans (hx.trans h24)) (by decide)
  · refine (setClockUse24h_makes false d).mono ?_
    intro _ d' hwrote
    refine ⟨fun x hx => hwrote.settled x ⟨fun h => ?_, fun _ => rfl⟩, hwrote.documented⟩
    exact absurd (h.symm.trans (hx.trans h12)) (by decide)
  · -- an extended clock: every value will do
    refine Makes.pure ⟨fun x hx => .inr fun keys _ => ?_, fun _ _ _ hdoc => hdoc⟩
    exact ⟨fun h => absurd (hx.symm.trans h) h24, fun h => absurd (hx.symm.trans h) h12⟩

theorem mirrorCinnamonCompatibility_makes {policy : TemporalPolicyV3} {d : Desk}
    (hdoc : ∀ key, d.Documented policy true key) :
    Makes K (mirrorCinnamonCompatibility policy)
      (fun _ d' => ∀ key, d'.Fits policy true key) d := by
  refine (settingsNew_makes d).bind ?_
  rintro installed d₁ ⟨hdrift, rfl⟩
  have hdoc₁ : ∀ key, d₁.Documented policy true key := fun key => (hdoc key).drift (hdrift.key key)
  cases hnative : d₁.native with
  | none => exact Makes.pure fun key => ⟨.of_none hnative, hdoc₁ key⟩
  | some native =>
    refine (mirrorClock_makes policy.clockMode d₁).bind ?_
    rintro clockOk d₂ ⟨hclock, hkept⟩
    refine (settingsSetBoolean_makes .clockShowSeconds policy.showSeconds d₂).bind ?_
    intro secondsOk d₃ hwrote
    have fits : ∀ key, d₃.Fits policy true key := by
      intro key
      refine ⟨?_, hwrote.documented policy true key (hkept policy true key (hdoc₁ key))⟩
      cases key with
      | clockUse24h => exact hwrote.others policy _ (by decide) (hclock policy rfl)
      | clockShowSeconds => exact hwrote.settled policy rfl
    refine Makes.bind (Q := fun _ d' => ∀ key, d'.Fits policy true key) ?_ ?_
    · exact Makes.call fun d₄ _ hdrift key => (fits key).drift (hdrift.key key)
    · exact fun _ d₄ hfits => Makes.pure hfits

/-! ### The callbacks -/

/-- What a save makes of the desk: the policy can be trusted, or nothing happened. -/
theorem platformSave_makes (policy : TemporalPolicyV3) (d : Desk) :
    Makes K (platformSave policy)
      (fun saved d' => if saved then ∀ key, d'.Fits policy true key else d.Drift d') d := by
  refine Makes.bind
    (Q := fun saved d' => if saved then ∀ key, d'.Documented policy true key else d.Drift d') ?_ ?_
  · refine Makes.call fun d₁ ok hdrift => ?_
    cases ok with
    | false => exact hdrift
    | true =>
      intro key
      refine .inr fun y hy => ⟨rfl, ?_⟩
      obtain rfl := Document.policy.inj hy
      exact .refl _ key
  intro saved d₁ hsaved
  cases saved with
  | false => exact Makes.pure hsaved
  | true =>
    refine (mirrorCinnamonCompatibility_makes hsaved).bind ?_
    exact fun _ d₂ hfits => Makes.pure hfits

/-- Without the document, a policy of no document can be trusted like the last one. -/
theorem platformClear_makes (d : Desk) : Makes K platformClear
    (fun cleared d' => if cleared then ∀ x p key, d.Fits x p key → d'.Fits x false key
      else d.Drift d') d := by
  refine Makes.call fun d₁ ok hdrift => ?_
  cases ok with
  | false => exact hdrift
  | true =>
    intro x p key hfits
    exact ⟨(hfits.drift (hdrift.key key)).settled, .inr fun y hy => by cases hy⟩

theorem settingsGetBoolean_makes (key : Key) (d : Desk) : Makes K (settingsGetBoolean key)
    (fun value d' => d.Drift d' ∧ ∀ keys, d'.native = some keys → value = key.read keys) d := by
  refine Makes.call fun d₁ ok hdrift => ⟨hdrift, fun keys hkeys => ?_⟩
  change d₁.native = some keys at hkeys
  simp [Desk.respond, hkeys]

/-- The defaults agree with the desktop they were read from. -/
theorem cinnamonDefaults_makes
    (hcopy : ∀ use24h, K.copyClockMode (nativeClockModeId use24h) = nativeClockModeId use24h)
    (policy : TemporalPolicyV3) (d : Desk) : Makes K (cinnamonDefaults K policy)
      (fun x d' => d.Drift d' ∧ ∀ key, d'.Settled x key) d := by
  refine (settingsNew_makes d).bind ?_
  rintro installed d₁ ⟨hdrift, rfl⟩
  cases hnative : d₁.native with
  | none => exact Makes.pure ⟨hdrift, fun key => .of_none hnative⟩
  | some native =>
    refine (settingsGetBoolean_makes .clockUse24h d₁).bind ?_
    rintro use24h d₂ ⟨hdrift₂, huse24h⟩
    refine (settingsGetBoolean_makes .clockShowSeconds d₂).bind ?_
    rintro showSeconds d₃ ⟨hdrift₃, hshowSeconds⟩
    refine Makes.pure ⟨(hdrift.trans hdrift₂).trans hdrift₃, fun key => ?_⟩
    cases key with
    | clockUse24h =>
      -- the clock was read before the seconds were
      refine Desk.Settled.drift (.inr fun keys hkeys => ?_) (hdrift₃.key .clockUse24h)
      have hmode : (loadCinnamonDefaults K (some ⟨use24h, showSeconds⟩) policy).clockMode =
          nativeClockModeId (keys.clockUse24h) := by
        rw [show keys.clockUse24h = use24h from (huse24h keys hkeys).symm]
        exact hcopy use24h
      constructor <;> intro h <;> rw [hmode] at h <;> revert h <;>
        cases hkey : keys.clockUse24h <;> simp [nativeClockModeId, Key.read, hkey]
    | clockShowSeconds => exact .inr fun keys hkeys => (hshowSeconds keys hkeys).symm

/-- A policy that is loaded can be trusted like the one the panel had. -/
theorem platformLoad_makes
    (hcopy : ∀ use24h, K.copyClockMode (nativeClockModeId use24h) = nativeClockModeId use24h)
    (d : Desk) : Makes K (platformLoad K)
      (fun loaded d' => d.Drift d' ∧ ∀ x p, loaded = some (x, p) →
        ∀ y q key, d.Fits y q key → d'.Fits x p key) d := by
  -- without a policy in the document the defaults are read from the desktop
  have defaults : ∀ (policy : TemporalPolicyV3) (d₁ : Desk), d.Drift d₁ →
      (∀ y, d₁.document ≠ .policy y) →
      Makes K (do
        let policy ← cinnamonDefaults K policy
        pure (some (policy, false)))
      (fun loaded d' => d.Drift d' ∧ ∀ x p, loaded = some (x, p) →
        ∀ y q key, d.Fits y q key → d'.Fits x p key) d₁ := by
    intro policy d₁ hdrift hdoc
    refine (cinnamonDefaults_makes hcopy policy d₁).bind ?_
    rintro x d₂ ⟨hdrift₂, hsettled⟩
    refine Makes.pure ⟨hdrift.trans hdrift₂, ?_⟩
    rintro _ _ ⟨rfl, rfl⟩ y q key -
    have hdocumented : d₁.Documented x false key := .inr fun y hy => absurd hy (hdoc y)
    exact ⟨hsettled key, hdocumented.drift (hdrift₂.key key)⟩
  refine Makes.bind (Q := fun read d' => d.Drift d' ∧ match read with
    | .ok policy true => d'.document = .policy policy
    | .ok _ false | .invalid => ∀ y, d'.document ≠ .policy y
    | .failed => True) ?_ ?_
  · refine Makes.call fun d₁ ok hdrift =>
      ⟨hdrift.trans (Desk.drift_respond (c := .policyLoad) trivial), ?_⟩
    cases ok with
    | false => trivial
    | true => cases hdoc : d₁.document <;> simp [Desk.respond, hdoc]
  rintro read d₁ ⟨hdrift, hread⟩
  cases read with
  | ok policy found =>
    cases found with
    | false => exact defaults policy d₁ hdrift hread
    | true =>
      refine Makes.pure ⟨hdrift, ?_⟩
      rintro _ _ ⟨rfl, rfl⟩ y q key hfits
      obtain ⟨hsettled, hdocumented⟩ := hfits.drift (hdrift.key key)
      refine ⟨?_, .inr fun z hz => ⟨rfl, ?_⟩⟩
      · rcases hdocumented with hf | hdoc
        · exact .inl (.inr (.inr hf))
        · exact hsettled.same (hdoc policy hread).2
      · obtain rfl := Document.policy.inj (hread.symm.trans hz)
        exact .refl policy key
  | invalid =>
    change Makes K (match K.policyDefault with
      | none => pure none
      | some policy => do
        let policy ← cinnamonDefaults K policy
        pure (some (policy, false))) _ d₁
    cases K.policyDefault with
    | none => exact Makes.pure ⟨hdrift, nofun⟩
    | some policy => exact defaults policy d₁ hdrift hread
  | failed => exact Makes.pure ⟨hdrift, nofun⟩

/-- A key that should have a value and is not found to have it. -/
theorem keyMatches_makes (policy : TemporalPolicyV3) (key : Key) {expected : Bool}
    (hexpected : ∀ value, key.Allows policy value → value = expected) {d : Desk}
    (hnative : d.native.isSome = true) :
    Makes K (keyMatches key expected) (fun matched d' => d.Drift d' ∧
      (matched = false → d.Settled policy key → d'.Excused key)) d := by
  refine (getBoolean_makes key d).bind ?_
  rintro value d₁ ⟨hdrift, hreads⟩
  rw [← hdrift.native] at hnative
  obtain ⟨native, hkeys⟩ := Option.isSome_iff_exists.mp hnative
  cases value with
  | none =>
    refine Makes.pure ⟨hdrift, fun _ _ => ?_⟩
    rcases hreads with hu | hnone
    · exact .inr (.inl hu)
    · rw [hnone] at hkeys
      cases hkeys
  | some value =>
    refine Makes.pure ⟨hdrift, fun hne hsettled => ?_⟩
    rcases hsettled.drift (hdrift.key key) with hexcused | hagrees
    · exact hexcused
    · have hread : key.read native = value := by
        simpa [ReadsKey, hkeys] using hreads
      have heq : value = expected := hread ▸ hexpected _ (hagrees native hkeys)
      simp [heq] at hne

/-- When the comparison fails there is a reason. -/
theorem platformCompatibilityMatches_makes (policy : TemporalPolicyV3) (d : Desk) :
    Makes K (platformCompatibilityMatches policy) (fun matched d' => d.Drift d' ∧
      (matched = false → (∀ key, d.Settled policy key) → ∃ key, d'.Excused key)) d := by
  refine (settingsNew_makes d).bind ?_
  rintro installed d₁ ⟨hdrift, rfl⟩
  cases hnative : d₁.native.isSome with
  | false => exact Makes.pure ⟨hdrift, nofun⟩
  | true =>
    refine Makes.bind (Q := fun matched d' => d₁.Drift d' ∧ (matched = false →
      d₁.Settled policy .clockUse24h → d'.Excused .clockUse24h)) ?_ ?_
    · unfold clockMatches
      split_ifs with hmode
      · refine keyMatches_makes policy .clockUse24h (fun value hvalue => ?_) hnative
        rcases hmode with h24 | h12
        · rw [hvalue.1 h24, h24]
          rfl
        · rw [hvalue.2 h12, h12]
          decide
      · exact Makes.pure ⟨.refl d₁, nofun⟩
    rintro matched d₂ ⟨hdrift₂, hclock⟩
    have hdrift' := hdrift.trans hdrift₂
    cases matched with
    | false =>
      refine Makes.pure ⟨hdrift', fun _ hsettled => ⟨.clockUse24h, ?_⟩⟩
      exact hclock rfl ((hsettled .clockUse24h).drift (hdrift.key .clockUse24h))
    | true =>
      refine (keyMatches_makes policy .clockShowSeconds (fun _ hvalue => hvalue) ?_).mono ?_
      · exact hdrift₂.native.trans hnative
      · rintro matched d₃ ⟨hdrift₃, hseconds⟩
        refine ⟨hdrift'.trans hdrift₃, fun h hsettled => ⟨.clockShowSeconds, ?_⟩⟩
        exact hseconds h ((hsettled .clockShowSeconds).drift (hdrift'.key .clockShowSeconds))

end Makes

end NativeStore

end SystemSettings
