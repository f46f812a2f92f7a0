import SystemSettings.LocationMetadata

/-!
# The policy file

`platform_load` and `platform_save` of the Linux policy store over the policy
file. The format of that file belongs to the Common library; what the code uses
of it is the record `PolicyFormat`.
-/

namespace SystemSettings

variable {P : Type}

/-- Why Common refuses the contents of a policy file. -/
inductive PolicyDamage : Type where
  /-- `INFILTRATR_IO_INVALID_VALUE` -/
  | invalidValue
  /-- `INFILTRATR_IO_EMPTY` -/
  | empty
  deriving DecidableEq

/-- What the code uses of Common's policy files. -/
structure PolicyFormat (P : Type) where
  /-- `infiltratr_temporal_posix_policy_load` on these contents -/
  parse : P → Except PolicyDamage TemporalPolicyV3
  /-- what `infiltratr_temporal_posix_policy_save` writes; `none` when it refuses -/
  format : TemporalPolicyV3 → Option P

/-- A small format for concrete runs: a policy file holds its policy, or nothing. -/
def PolicyFormat.small : PolicyFormat (Option TemporalPolicyV3) where
  parse
    | some policy => .ok policy
    | none => .error .empty
  format policy := some (some policy)

variable (K : Common) (F : PolicyFormat P)

/-- `platform_load`, given the desktop's settings: the policy and `found`. -/
def platformLoad (native : Option Native) : FileState P → Option (TemporalPolicyV3 × Bool)
  | .absent => K.policyDefault.map fun policy => (loadCinnamonDefaults K native policy, false)
  | .unreadable => none
  | .contents data =>
    match F.parse data with
    | .ok policy => some (policy, true)
    -- a damaged policy must not brick Settings: it counts as none
    | .error .invalidValue | .error .empty =>
      K.policyDefault.map fun policy => (loadCinnamonDefaults K native policy, false)

/-- The Linux policy store. -/
def platformStorage : Storage (FileState P) where
  absent := .absent
  load := platformLoad K F
  save policy := (F.format policy).map .contents

/-- There is a policy to go by: the file is valid, or there is none. -/
def Authoritative : FileState P → Prop
  | .absent => True
  | .unreadable => False
  | .contents data => ∃ policy, F.parse data = .ok policy

@[simp] theorem loadCinnamonDefaults_locationConfigured (native : Option Native)
    (policy : TemporalPolicyV3) :
    (loadCinnamonDefaults K native policy).locationConfigured = policy.locationConfigured := by
  cases native <;> rfl

end SystemSettings
