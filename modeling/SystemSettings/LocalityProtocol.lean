import Mathlib.Data.Set.Basic
import SystemSettings.LocalityState

/-!
# The locality protocol

What the transactions on a place, the recovery and the reconciliation with the system
time zone do to the durable state, as an automaton: a step is one durable write or
removal, and the control state says how far a run has come. A run may stop anywhere.

Two invariants of the automaton: `Recoverable`, from which recovery can always make the
policy and `location.ini` agree again, and `Spent`, under which a journal that is of no
more use does no harm.
-/

namespace SystemSettings

/-! ## The durable state -/

/-- What reading a locality file says. -/
abbrev FileView : Type := LoadStatus × LocationMetadata

/-- There is no file. -/
abbrev FileView.missing : FileView := (.missing, .zero)

/-- The coordinates of a record. -/
def LocationMetadata.coordinates (record : LocationMetadata) : Coordinates :=
  (record.latitude, record.longitude)

/-- The durable state of the locality. -/
structure Locality : Type where
  /-- the location of the policy; `none` when the policy cannot be read -/
  place : Option (Option Coordinates)
  /-- `location.ini` -/
  ini : FileView
  /-- `location.pending`, the journal -/
  pending : FileView
  /-- a removal of this journal has been tried -/
  spent : Bool

namespace Locality

/-- The journal after an attempt to remove it. -/
def unlinkPending (d : Locality) (ok : Bool) : Locality :=
  { d with pending := if ok then FileView.missing else d.pending, spent := true }

/-- The journal holds this record, and it is about this place of the policy. -/
structure Journals (d : Locality) (record : LocationMetadata) (c : Coordinates) : Prop where
  pending : d.pending = (.ok, record)
  place : d.place = some (some c)
  close : record.coordinates.Close c

/-- What holds of every journal holds of the one that is there. -/
theorem forall_journals {d : Locality} {Q : LocationMetadata → Coordinates → Prop} :
    (∀ record c, d.Journals record c → Q record c) ↔ ∀ c ∈ d.place.join,
      d.pending.1 = .ok → d.pending.2.coordinates.Close c → Q d.pending.2 c := by
  constructor
  · intro h c hplace hok hclose
    exact h _ c ⟨Prod.ext hok rfl, Option.join_eq_some_iff.mp hplace, hclose⟩
  · intro h record c hjournals
    have hpending := hjournals.pending
    have hrecord : d.pending.2 = record := congrArg Prod.snd hpending
    have hplace : d.place.join = some c := Option.join_eq_some_iff.mpr hjournals.place
    rw [← hrecord]
    exact h c hplace (congrArg Prod.fst hpending) (hrecord ▸ hjournals.close)

instance {d : Locality} {Q : LocationMetadata → Coordinates → Prop}
    [∀ record c, Decidable (Q record c)] :
    Decidable (∀ record c, d.Journals record c → Q record c) :=
  decidable_of_iff' _ forall_journals

/-- The policy and `location.ini` agree. -/
def Agrees (d : Locality) : Prop :=
  d.ini = FileView.missing ∨ ∃ record c, d.ini = (.ok, record) ∧ d.place = some (some c) ∧
    record.coordinates.Close c

/-- Consistent: no journal, and the policy and `location.ini` agree. -/
structure Consistent (d : Locality) : Prop where
  pending : d.pending = FileView.missing
  agrees : d.Agrees

end Locality

/-- The location of a policy with a `location.ini`. -/
abbrev LocalityPair : Type := Option (Option Coordinates) × FileView

/-- The pair that a committed record leaves. -/
def LocationMetadata.pair (round : Double → Double) (record : LocationMetadata) : LocalityPair :=
  (some (some (record.coordinates.rounded round)), (.ok, record))

/-- The pair that a cleared location leaves. -/
def LocalityPair.cleared : LocalityPair := (some none, FileView.missing)

/-- The policy is where the pair says, and so is its record: in `location.ini`, or in a
journal that nobody has tried to remove. -/
def Locality.Holds (d : Locality) (pair : LocalityPair) : Prop :=
  d.place = pair.1 ∧
    (pair = .cleared ∨ d.ini = pair.2 ∨ d.pending = pair.2 ∧ d.spent = false)

/-! ## The automaton -/

/-- The three kinds of runs. -/
inductive RunKind : Type where
  | transaction
  | recovery
  | reconciliation
  deriving DecidableEq

/-- How far a run has come. -/
inductive RunState : Type where
  /-- nothing is half done -/
  | idle
  /-- the journal holds the record; the policy was at `before` -/
  | staged (record : LocationMetadata) (before : Option (Option Coordinates))
  /-- the policy is at the record -/
  | saved (record : LocationMetadata) (before : Option (Option Coordinates))
  /-- `location.ini` holds the record -/
  | published (record : LocationMetadata)
  /-- the policy is restored -/
  | undone (record : LocationMetadata) (before : Option (Option Coordinates))
  /-- the policy is cleared; it was at `before` -/
  | cleared (before : Option (Option Coordinates))
  /-- the policy is cleared, and `location.ini` is gone -/
  | removed

/-- The moves that a condition may be put on. -/
inductive LocalityMove : Type where
  /-- a transaction writes the journal -/
  | stage (record : LocationMetadata)
  /-- a transaction clears the location of the policy -/
  | clear
  /-- a transaction fails, and so does the removal of its journal -/
  | keepJournal
  /-- the reconciliation writes `location.ini` -/
  | rewrite (record : LocationMetadata)
  /-- the reconciliation moves the policy -/
  | relocate (c : Coordinates)

/-- One durable step of a run that may commit the pairs in `offers`. -/
inductive LocalityStep (round : Double → Double) (allowed : Locality → LocalityMove → Prop)
    (offers : Set LocalityPair) :
    RunKind → RunState → Locality → RunState → Locality → Prop where
  | stage {d : Locality} (record : LocationMetadata) : record.pair round ∈ offers →
      validLocation record.latitude record.longitude = true → allowed d (.stage record) →
      LocalityStep round allowed offers .transaction .idle d (.staged record d.place)
        { d with pending := (.ok, record), spent := false }
  | save {d : Locality} {record : LocationMetadata} {before : Option (Option Coordinates)} :
      LocalityStep round allowed offers .transaction (.staged record before) d
        (.saved record before) { d with place := (record.pair round).1 }
  | publish {d : Locality} {record : LocationMetadata} {before : Option (Option Coordinates)} :
      LocalityStep round allowed offers .transaction (.saved record before) d (.published record)
        { d with ini := (.ok, record) }
  | retire {kind : RunKind} {d : Locality} {record : LocationMetadata} (ok : Bool) :
      LocalityStep round allowed offers kind (.published record) d (.published record)
        (d.unlinkPending ok)
  | undo {d : Locality} {record : LocationMetadata} {before : Option (Option Coordinates)} :
      LocalityStep round allowed offers .transaction (.saved record before) d
        (.undone record before) { d with place := before }
  | giveUp {d : Locality} {record : LocationMetadata} {before : Option (Option Coordinates)}
      {q : RunState} (ok : Bool) : q = .staged record before ∨ q = .undone record before →
      (ok = false → allowed d .keepJournal) →
      LocalityStep round allowed offers .transaction q d .idle (d.unlinkPending ok)
  | clear {d : Locality} : LocalityPair.cleared ∈ offers → allowed d .clear →
      LocalityStep round allowed offers .transaction .idle d (.cleared d.place)
        { d with place := some none }
  | remove {d : Locality} {before : Option (Option Coordinates)} :
      LocalityStep round allowed offers .transaction (.cleared before) d .removed
        { d with ini := FileView.missing }
  | restore {d : Locality} {before : Option (Option Coordinates)} :
      LocalityStep round allowed offers .transaction (.cleared before) d .idle
        { d with place := before }
  | replay {d : Locality} {record : LocationMetadata} {c : Coordinates} : d.Journals record c →
      LocalityStep round allowed offers .recovery .idle d (.published record)
        { d with ini := (.ok, record) }
  | discard {d : Locality} (ok : Bool) : (∀ record c, ¬ d.Journals record c) →
      LocalityStep round allowed offers .recovery .idle d .idle (d.unlinkPending ok)
  | drop {d : Locality} : d.place = some none →
      LocalityStep round allowed offers .recovery .idle d .idle
        { d with ini := FileView.missing }
  | rewrite {d : Locality} (record : LocationMetadata) : allowed d (.rewrite record) →
      LocalityStep round allowed offers .reconciliation .idle d .idle
        { d with ini := (.ok, record) }
  | relocate {d : Locality} (c : Coordinates) : allowed d (.relocate c) →
      LocalityStep round allowed offers .reconciliation .idle d .idle
        { d with place := some (some c) }

variable {round : Double → Double} {offers pairs : Set LocalityPair} {kind : RunKind}
  {q q' : RunState} {d d' : Locality}

/-! ## Recovery can always finish -/

/-- The condition on the journal. When it is written, a journal that is about the place of
the policy has been published, and the new record is not almost at that place. A transaction
that fails leaves no journal about the place of the policy that is yet to be published. -/
def StageAllowed (round : Double → Double) (d : Locality) : LocalityMove → Prop
  | .stage record =>
    (∀ old c, d.Journals old c → d.ini = (.ok, old)) ∧
      ∀ c, d.place = some (some c) → record.coordinates.Close c →
        record.coordinates.rounded round = c
  | .keepJournal => ∀ record c, d.Journals record c → d.ini = (.ok, record)
  | .rewrite _ | .relocate _ => False
  | .clear => True

instance (round : Double → Double) (d : Locality) :
    (move : LocalityMove) → Decidable (StageAllowed round d move)
  | .stage record =>
    have : Decidable (∀ c, d.place = some (some c) → record.coordinates.Close c →
        record.coordinates.rounded round = c) :=
      decidable_of_iff (∀ c ∈ d.place.join, record.coordinates.Close c →
        record.coordinates.rounded round = c)
        (forall_congr' fun _ => imp_congr_left Option.join_eq_some_iff)
    inferInstanceAs (Decidable (_ ∧ _))
  | .keepJournal =>
    inferInstanceAs (Decidable (∀ record c, d.Journals record c → d.ini = (.ok, record)))
  | .rewrite _ | .relocate _ => inferInstanceAs (Decidable False)
  | .clear => inferInstanceAs (Decidable True)

/-- The condition `allowed`, and what a transaction stages is among these pairs. -/
def Staging (round : Double → Double) (among : Set LocalityPair)
    (allowed : Locality → LocalityMove → Prop) (d : Locality) : LocalityMove → Prop
  | .stage record => allowed d (.stage record) ∧ record.pair round ∈ among
  | .clear => allowed d .clear ∧ LocalityPair.cleared ∈ among
  | move => allowed d move

/-- Whatever the journal says, the policy and `location.ini` are one of the pairs, or the
policy has no location any more. -/
def Locality.Based (pairs : Set LocalityPair) (d : Locality) : Prop :=
  d.place = some none ∧ LocalityPair.cleared ∈ pairs ∨ (d.place, d.ini) ∈ pairs ∧ d.Agrees

/-- To publish the journal leaves one of the pairs. -/
def Locality.JournalsPair (pairs : Set LocalityPair) (d : Locality) : Prop :=
  ∀ record c, d.Journals record c → (d.place, (LoadStatus.ok, record)) ∈ pairs

/-- Recovery leaves one of the pairs. -/
structure Locality.Recoverable (pairs : Set LocalityPair) (d : Locality) : Prop where
  journal : d.JournalsPair pairs
  based : d.Based pairs ∨ ∃ record c, d.Journals record c

/-- The journal holds the record of a transaction, and the policy was at `before`. -/
structure Locality.Staged (round : Double → Double) (pairs offers : Set LocalityPair)
    (record : LocationMetadata) (before : Option (Option Coordinates)) (d : Locality) :
    Prop where
  pending : d.pending = (.ok, record)
  unspent : d.spent = false
  based : { d with place := before }.Based pairs
  /-- the record is not almost at the place before -/
  apart : ∀ c, before = some (some c) → record.coordinates.Close c →
    record.coordinates.rounded round = c
  offer : record.pair round ∈ offers
  valid : validLocation record.latitude record.longitude = true

/-- Recoverable, by how far a run has come that may commit the pairs in `offers`. -/
def RecoverableIn (round : Double → Double) (pairs offers : Set LocalityPair) :
    RunState → Locality → Prop
  | .idle, d => d.Recoverable pairs
  | .staged record before, d | .undone record before, d =>
    d.Staged round pairs offers record before ∧ d.place = before
  | .saved record before, d =>
    d.Staged round pairs offers record before ∧ d.place = (record.pair round).1
  | .published record, d => d.ini = (.ok, record) ∧ (d.place, d.ini) ∈ pairs ∪ offers ∧ d.Agrees ∧
      ∀ record', d.pending = (.ok, record') → record = record'
  | .cleared before, d => d.place = some none ∧ LocalityPair.cleared ∈ offers ∧
      { d with place := before }.Recoverable pairs
  | .removed, d => d.place = some none ∧ LocalityPair.cleared ∈ offers

/-- A policy without a location has no journal. -/
theorem Locality.Journals.place_ne {record : LocationMetadata} {c : Coordinates}
    (h : d.Journals record c) : d.place ≠ some none :=
  fun hplace => Option.some_ne_none c (Option.some.inj (h.place.symm.trans hplace))

/-- No file is no journal. -/
theorem Locality.Journals.pending_ne {record : LocationMetadata} {c : Coordinates}
    (h : d.Journals record c) : d.pending ≠ FileView.missing :=
  fun hpending => LoadStatus.noConfusion (congrArg Prod.fst (hpending.symm.trans h.pending))

theorem Locality.Based.of_same (h : d.Based pairs) (hplace : d'.place = d.place)
    (hini : d'.ini = d.ini) : d'.Based pairs := by
  simpa only [Locality.Based, Locality.Agrees, hplace, hini] using h

theorem Locality.JournalsPair.of_same (h : d.JournalsPair pairs) (hplace : d'.place = d.place)
    (hpending : d'.pending = d.pending) : d'.JournalsPair pairs := by
  intro record c hjournals
  rw [hplace]
  exact h record c ⟨hpending ▸ hjournals.pending, hplace ▸ hjournals.place, hjournals.close⟩

theorem Locality.JournalsPair.unlinkPending (h : d.JournalsPair pairs) (ok : Bool) :
    (d.unlinkPending ok).JournalsPair pairs := by
  cases ok with
  | false => exact h.of_same rfl rfl
  | true => exact fun record c hjournals =>
      absurd rfl hjournals.pending_ne

/-- The journal and the place say what the journal is about. -/
theorem Locality.Journals.unique {record record' : LocationMetadata} {c c' : Coordinates}
    (h : d.Journals record c) (h' : d.Journals record' c') : record = record' ∧ c = c' := by
  constructor
  · exact congrArg Prod.snd (h.pending.symm.trans h'.pending)
  · exact Option.some.inj (Option.some.inj (h.place.symm.trans h'.place))

/-- A policy without a location was cleared. -/
theorem Locality.Recoverable.cleared (h : d.Recoverable pairs) (hplace : d.place = some none) :
    LocalityPair.cleared ∈ pairs := by
  rcases h.based with (⟨-, hpair⟩ | ⟨hpair, hagrees⟩) | ⟨record, c, hjournals⟩
  · exact hpair
  · rcases hagrees with hini | ⟨record, c, -, hplace', -⟩
    · rw [hplace, hini] at hpair
      exact hpair
    · exact absurd (hplace.symm.trans hplace') nofun
  · exact absurd hplace hjournals.place_ne

theorem Locality.Based.mono {pairs' : Set LocalityPair} (h : d.Based pairs)
    (hpairs : pairs ⊆ pairs') : d.Based pairs' :=
  h.imp (And.imp_right fun hpair => hpairs hpair) (And.imp_left fun hpair => hpairs hpair)

theorem Locality.Recoverable.mono {pairs' : Set LocalityPair} (h : d.Recoverable pairs)
    (hpairs : pairs ⊆ pairs') : d.Recoverable pairs' := by
  refine ⟨fun record c hjournals => hpairs (h.journal record c hjournals), ?_⟩
  exact h.based.imp_left fun hbased => hbased.mono hpairs

theorem Locality.Consistent.recoverable (h : d.Consistent) (hpair : (d.place, d.ini) ∈ pairs) :
    d.Recoverable pairs := by
  refine ⟨fun record c hjournals => ?_, .inl (.inr ⟨hpair, h.agrees⟩)⟩
  exact absurd h.pending hjournals.pending_ne

/-- Without a journal, and without `location.ini` where the policy has no location, it is
consistent again, and one of the pairs. -/
theorem Locality.Recoverable.consistent (h : d.Recoverable pairs)
    (hpending : d.pending = FileView.missing)
    (hini : d.place = some none → d.ini = FileView.missing) :
    d.Consistent ∧ (d.place, d.ini) ∈ pairs := by
  rcases h.based with (⟨hplace, hpair⟩ | ⟨hpair, hagrees⟩) | ⟨record, c, hjournals⟩
  · refine ⟨⟨hpending, .inl (hini hplace)⟩, ?_⟩
    rw [hplace, hini hplace]
    exact hpair
  · exact ⟨⟨hpending, hagrees⟩, hpair⟩
  · exact absurd hpending hjournals.pending_ne

/-- To publish the journal at the place of its record leaves a pair that the run offers and
that the state holds. -/
theorem Locality.Staged.journalsPair {record : LocationMetadata}
    {before : Option (Option Coordinates)} (h : d.Staged round pairs offers record before)
    (hplace : ∀ c, d.Journals record c → d.place = (record.pair round).1) :
    d.JournalsPair (pairs ∪ { pair ∈ offers | d.Holds pair }) := by
  intro record' c hjournals
  obtain rfl : record = record' := congrArg Prod.snd (h.pending.symm.trans hjournals.pending)
  -- a run that stops here has committed its pair: the journal is going to be published
  have hpair : (d.place, (LoadStatus.ok, record)) = record.pair round := by
    rw [hplace c hjournals]
    rfl
  refine .inr ⟨hpair ▸ h.offer, rfl, .inr (.inr ⟨h.pending, h.unspent⟩)⟩

/-- Where the policy was before, a journal about its place is at the place of its record. -/
theorem Locality.Staged.place_eq {record : LocationMetadata}
    {before : Option (Option Coordinates)} (h : d.Staged round pairs offers record before)
    (hplace : d.place = before) (c : Coordinates) (hjournals : d.Journals record c) :
    d.place = (record.pair round).1 := by
  have hrounded := h.apart c (hplace.symm.trans hjournals.place) hjournals.close
  rw [hjournals.place, ← hrounded]
  rfl

theorem Locality.Staged.based_of_place {record : LocationMetadata}
    {before : Option (Option Coordinates)} (h : d.Staged round pairs offers record before)
    (hplace : d.place = before) : d.Based pairs := by
  subst hplace
  exact h.based

/-- Where the policy is cleared, recovery can finish once that is one of the pairs. -/
theorem Locality.Recoverable.of_cleared (hplace : d.place = some none)
    (hpair : LocalityPair.cleared ∈ pairs) : d.Recoverable pairs := by
  refine ⟨fun record c hjournals => ?_, .inl (.inl ⟨hplace, hpair⟩)⟩
  exact absurd hplace hjournals.place_ne

/-- A run that stops here is recoverable, to one of the pairs before or to one that it has
offered and that the state holds. -/
theorem RecoverableIn.recoverable
    (hclose : ∀ c : Coordinates, validLocation c.1 c.2 = true → c.Close (c.rounded round))
    (h : RecoverableIn round pairs offers q d) :
    d.Recoverable (pairs ∪ { pair ∈ offers | d.Holds pair }) := by
  cases q with
  | idle => exact h.mono Set.subset_union_left
  | staged record before | undone record before =>
    obtain ⟨hstaged, hplace⟩ := h
    refine ⟨hstaged.journalsPair (hstaged.place_eq hplace), .inl ?_⟩
    exact (hstaged.based_of_place hplace).mono Set.subset_union_left
  | saved record before =>
    obtain ⟨hstaged, hplace⟩ := h
    refine ⟨hstaged.journalsPair fun _ _ => hplace, .inr ⟨record, ?_⟩⟩
    exact ⟨record.coordinates.rounded round, hstaged.pending, hplace, hclose _ hstaged.valid⟩
  | published record =>
    obtain ⟨hini, hpair, hagrees, hpending⟩ := h
    have hpair : (d.place, d.ini) ∈ pairs ∪ { pair ∈ offers | d.Holds pair } :=
      hpair.imp_right fun hoffer => ⟨hoffer, rfl, .inr (.inl rfl)⟩
    refine ⟨fun record' c hjournals => ?_, .inl (.inr ⟨hpair, hagrees⟩)⟩
    rw [← hpending record' hjournals.pending, ← hini]
    exact hpair
  | cleared before => exact .of_cleared h.1 (.inr ⟨h.2.1, h.1, .inl rfl⟩)
  | removed => exact .of_cleared h.1 (.inr ⟨h.2, h.1, .inl rfl⟩)

/-- A journal that is left behind has been published already. -/
theorem Locality.Staged.giveUp {record : LocationMetadata}
    {before : Option (Option Coordinates)} (h : d.Staged round pairs offers record before)
    (hplace : d.place = before) (ok : Bool)
    (hkept : ok = false → ∀ record c, d.Journals record c → d.ini = (.ok, record)) :
    (d.unlinkPending ok).Recoverable pairs := by
  have hbased := h.based_of_place hplace
  refine ⟨fun record' c hjournals => ?_, .inl (hbased.of_same rfl rfl)⟩
  cases ok with
  | true => exact absurd rfl hjournals.pending_ne
  | false =>
    have hjournals' : d.Journals record' c :=
      ⟨hjournals.pending, hjournals.place, hjournals.close⟩
    rcases hbased with ⟨hnone, -⟩ | ⟨hpair, -⟩
    · exact absurd hnone hjournals'.place_ne
    · rw [hkept rfl record' c hjournals'] at hpair
      exact hpair

/-- A step keeps it recoverable. -/
theorem LocalityStep.recoverable {among : Set LocalityPair}
    (hclose : ∀ c : Coordinates, validLocation c.1 c.2 = true → c.Close (c.rounded round))
    (h : RecoverableIn round pairs (offers ∩ among) q d)
    (hstep : LocalityStep round (Staging round among (StageAllowed round)) offers kind q d q' d') :
    RecoverableIn round pairs (offers ∩ among) q' d' := by
  cases hstep with
  | stage record hoffer hvalid hallowed =>
    obtain ⟨⟨hold, hapart⟩, hamong⟩ := hallowed
    -- an older journal about the place has been published, so it may be overwritten
    have hbased : d.Based pairs := by
      refine h.based.elim id fun ⟨old, c, hjournals⟩ => .inr ?_
      have hini := hold old c hjournals
      refine ⟨?_, .inr ⟨old, c, hini, hjournals.place, hjournals.close⟩⟩
      rw [hini]
      exact h.journal old c hjournals
    exact ⟨⟨rfl, rfl, hbased.of_same rfl rfl, hapart, ⟨hoffer, hamong⟩, hvalid⟩, rfl⟩
  | save | undo =>
    obtain ⟨⟨hpending, hunspent, hbased, hapart, hoffer, hvalid⟩, -⟩ := h
    exact ⟨⟨hpending, hunspent, hbased, hapart, hoffer, hvalid⟩, rfl⟩
  | publish =>
    rename_i record before
    obtain ⟨hstaged, hplace⟩ := h
    refine ⟨rfl, .inr ?_, .inr ⟨record, _, rfl, hplace, hclose _ hstaged.valid⟩, ?_⟩
    · have hpair : (d.place, (LoadStatus.ok, record)) = record.pair round := by
        rw [hplace]
        rfl
      exact hpair ▸ hstaged.offer
    · exact fun record' hpending => congrArg Prod.snd (hstaged.pending.symm.trans hpending)
  | retire ok =>
    obtain ⟨hini, hpair, hagrees, hpending⟩ := h
    refine ⟨hini, hpair, hagrees, fun record' hpending' => ?_⟩
    cases ok with
    | false => exact hpending record' hpending'
    | true => exact absurd hpending' nofun
  | giveUp ok hq hallowed =>
    rcases hq with rfl | rfl
    · exact h.1.giveUp h.2 ok hallowed
    · exact h.1.giveUp h.2 ok hallowed
  | clear hoffer hallowed => exact ⟨rfl, ⟨hoffer, hallowed.2⟩, h⟩
  | remove => exact ⟨h.1, h.2.1⟩
  | restore => exact h.2.2
  | replay hjournals =>
    rename_i record c
    refine ⟨rfl, .inl (h.journal record c hjournals),
      .inr ⟨record, c, rfl, hjournals.place, hjournals.close⟩, fun record' hpending => ?_⟩
    exact congrArg Prod.snd (hjournals.pending.symm.trans hpending)
  | discard ok hnone =>
    refine ⟨h.journal.unlinkPending ok, .inl ?_⟩
    exact (h.based.resolve_right fun ⟨record, c, hjournals⟩ => hnone record c hjournals).of_same
      rfl rfl
  | drop hplace =>
    exact ⟨h.journal.of_same rfl rfl, .inl (.inl ⟨hplace, h.cleared hplace⟩)⟩
  | rewrite _ hallowed | relocate _ hallowed => exact hallowed.elim

/-! ## A spent journal does no harm -/

/-- The condition on the moves: none makes a spent journal one that recovery would publish
over another record. -/
def SpentAllowed (d : Locality) : LocalityMove → Prop
  | .stage _ | .clear => True
  | .keepJournal => ∀ record c, d.Journals record c → d.ini = (.ok, record)
  | .rewrite record' => d.spent = true → ∀ record c, d.Journals record c → record = record'
  | .relocate c => d.spent = true → ∀ record, d.pending = (.ok, record) →
      record.coordinates.Close c → d.ini = (.ok, record)

instance (d : Locality) : (move : LocalityMove) → Decidable (SpentAllowed d move)
  | .stage _ | .clear => inferInstanceAs (Decidable True)
  | .keepJournal =>
    inferInstanceAs (Decidable (∀ record c, d.Journals record c → d.ini = (.ok, record)))
  | .rewrite record' => inferInstanceAs
    (Decidable (d.spent = true → ∀ record c, d.Journals record c → record = record'))
  | .relocate c =>
    have : Decidable (∀ record, d.pending = (.ok, record) → record.coordinates.Close c →
        d.ini = (.ok, record)) :=
      decidable_of_iff (d.pending.1 = .ok → d.pending.2.coordinates.Close c →
        d.ini = (.ok, d.pending.2)) <| by
        constructor
        · rintro h record hpending
          rw [hpending] at h
          exact h rfl
        · exact fun h hok => h _ (Prod.ext hok rfl)
    inferInstanceAs (Decidable (d.spent = true → _))

/-- A spent journal that is about the place of the policy holds what `location.ini` holds. -/
def Locality.Spent (d : Locality) : Prop :=
  d.spent = true → ∀ record c, d.Journals record c → d.ini = (.ok, record)

/-- The same by how far the run has come. -/
def SpentIn : RunState → Locality → Prop
  | .idle, d => d.Spent
  | .staged record _, d | .saved record _, d | .undone record _, d =>
    d.pending = (.ok, record) ∧ d.spent = false
  | .published record, d => d.ini = (.ok, record) ∧
      ∀ record', d.pending = (.ok, record') → record = record'
  | .cleared before, d => d.place = some none ∧ { d with place := before }.Spent
  | .removed, d => d.place = some none

theorem Locality.Spent.of_not_journals (h : ∀ record c, ¬ d.Journals record c) : d.Spent :=
  fun _ record c hjournals => absurd hjournals (h record c)

theorem Locality.not_journals_unlinkPending (h : ∀ record c, ¬ d.Journals record c) (ok : Bool)
    (record : LocationMetadata) (c : Coordinates) : ¬ (d.unlinkPending ok).Journals record c := by
  intro hjournals
  cases ok with
  | false => exact h record c ⟨hjournals.pending, hjournals.place, hjournals.close⟩
  | true => exact hjournals.pending_ne rfl

/-- A run may stop anywhere. -/
theorem SpentIn.spent (h : SpentIn q d) : d.Spent := by
  cases q with
  | idle => exact h
  | staged | saved | undone => exact fun hspent => absurd (h.2.symm.trans hspent) Bool.false_ne_true
  | published record =>
    intro _ record' c hjournals
    rw [h.2 record' hjournals.pending] at h
    exact h.1
  | cleared before => exact .of_not_journals fun record c hjournals => hjournals.place_ne h.1
  | removed => exact .of_not_journals fun record c hjournals => hjournals.place_ne h

/-- A step keeps it so. -/
theorem LocalityStep.spent (h : SpentIn q d)
    (hstep : LocalityStep round SpentAllowed offers kind q d q' d') : SpentIn q' d' := by
  cases hstep with
  | stage record => exact ⟨rfl, rfl⟩
  | save | undo => exact h
  | publish =>
    refine ⟨rfl, fun record' hpending => ?_⟩
    exact congrArg Prod.snd (h.1.symm.trans hpending)
  | retire ok =>
    refine ⟨h.1, fun record' hpending => ?_⟩
    cases ok with
    | false => exact h.2 record' hpending
    | true => exact absurd hpending nofun
  | giveUp ok hq hallowed =>
    cases ok with
    | false => exact fun _ record c hjournals =>
        hallowed rfl record c ⟨hjournals.pending, hjournals.place, hjournals.close⟩
    | true => exact .of_not_journals fun record c hjournals => hjournals.pending_ne rfl
  | clear => exact ⟨rfl, h⟩
  | remove => exact h.1
  | restore => exact h.2
  | replay hjournals =>
    exact ⟨rfl, fun record' hpending => congrArg Prod.snd (hjournals.pending.symm.trans hpending)⟩
  | discard ok hnone => exact .of_not_journals (Locality.not_journals_unlinkPending hnone ok)
  | drop hplace => exact .of_not_journals fun record c hjournals => hjournals.place_ne hplace
  | rewrite record hallowed =>
    intro hspent record' c hjournals
    rw [hallowed hspent record' c ⟨hjournals.pending, hjournals.place, hjournals.close⟩]
  | relocate c hallowed =>
    intro hspent record' c' hjournals
    obtain rfl : c = c' := Option.some.inj (Option.some.inj hjournals.place)
    exact hallowed hspent record' hjournals.pending hjournals.close

/-- A recovery that finds a spent journal leaves the record in `location.ini`, or removes it
because the policy has no location. -/
theorem LocalityStep.keeps_ini {ini : FileView}
    (h : SpentIn q d ∧ d.spent = true ∧
      (d.ini = ini ∨ d.place = some none ∧ d.ini = FileView.missing))
    (hstep : LocalityStep round SpentAllowed offers .recovery q d q' d') :
    SpentIn q' d' ∧ d'.spent = true ∧
      (d'.ini = ini ∨ d'.place = some none ∧ d'.ini = FileView.missing) := by
  refine ⟨hstep.spent h.1, ?_⟩
  obtain ⟨hspent, htrue, hini⟩ := h
  cases hstep with
  | retire ok | discard ok _ => exact ⟨rfl, hini⟩
  | replay hjournals =>
    refine ⟨htrue, hini.imp (fun hini => ?_) fun hcleared => ?_⟩
    · exact (hspent htrue _ _ hjournals).symm.trans hini
    · exact absurd hcleared.1 hjournals.place_ne
  | drop hplace => exact ⟨htrue, .inr ⟨hplace, rfl⟩⟩

end SystemSettings
