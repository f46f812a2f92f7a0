import SystemSettings.SystemTimeService

/-!
# The lifetime of the timedated service

The reference count of the service is the number of its owners plus the number
of its unfinished calls, as long as that number fits the counter. From this it
follows that a call is finished exactly once, before the memory of the service
is given back, and that nothing is touched after that.

A request is counted by its number, which is never used again; the history says
what has become of it.
-/

namespace SystemSettings

/-! ## What is counted -/

/-- The calls whose completion is running. -/
def ServiceFrame.call : ServiceFrame → Option ℕ
  | completion number => some number
  | _ => none

/-- The request that an event is about. -/
def ServiceEvent.number : ServiceEvent → Option ℕ
  | accepted number | refused number | completed number _ | returned number => some number
  | changed | freed | released | touched => none

/-- Whether an event is the completion of this request. -/
def ServiceEvent.completes (n : ℕ) : ServiceEvent → Bool
  | completed number _ => number == n
  | _ => false

namespace ServiceSession

/-- The accepted calls that are not answered. -/
def waiting (s : ServiceSession) : List ℕ := s.pending.map SystemTimeCall.number

/-- The accepted calls whose completion is running. -/
def completing (s : ServiceSession) : List ℕ := s.stack.filterMap ServiceFrame.call

/-- The number of accepted calls whose completion has not returned. -/
def outstanding (s : ServiceSession) : ℕ := s.waiting.length + s.completing.length

/-- An owner and the outstanding calls. -/
def holders (s : ServiceSession) : ℕ := s.owned.toNat + s.outstanding

/-- The number of times that the completion of a request has run. -/
def completions (s : ServiceSession) (n : ℕ) : ℕ := s.history.countP (ServiceEvent.completes n)

/-- The holders fit the counter. -/
def Countable (s : ServiceSession) : Prop := s.holders < 2 ^ 32

instance (s : ServiceSession) : Decidable s.Countable := Nat.decLt ..

end ServiceSession

/-- What holds of a service at every moment. -/
structure ServiceLifetime (s : ServiceSession) : Prop where
  /-- the count is right -/
  counted : ∀ service, s.memory = .live service → service.references.toNat = s.holders
  /-- a call is completed once, when it has been answered -/
  completed : ∀ n, .accepted n ∈ s.history →
    s.completions n = if n ∈ s.waiting then 0 else 1
  /-- a refusal completes on the spot -/
  refused : ∀ n, .refused n ∈ s.history → s.completions n = 1
  /-- when the memory is given back every call has been completed -/
  beforeRelease : ∀ late early, s.history = late ++ .released :: early →
    ∀ n, .accepted n ∈ s.history → .returned n ∈ early ∧
      early.countP (ServiceEvent.completes n) = 1
  /-- and it is not touched again -/
  untouched : .touched ∉ s.history
  /-- the owner hears of no change after its free -/
  quiet : ∀ late early, s.history = late ++ .freed :: early → .changed ∉ late

/-! ## The numbers of the requests -/

/-- The history says what has become of every request. -/
structure Numbered (s : ServiceSession) : Prop where
  fresh : ∀ e ∈ s.history, ∀ n, e.number = some n → n < s.nextNumber
  distinct : (s.waiting ++ s.completing).Nodup
  asked : ∀ n ∈ s.waiting ++ s.completing, .accepted n ∈ s.history
  once : ∀ n, .accepted n ∈ s.history → s.completions n = if n ∈ s.waiting then 0 else 1
  ends : ∀ n, .accepted n ∈ s.history → n ∈ s.waiting ++ s.completing ∨ .returned n ∈ s.history
  refused : ∀ n, .refused n ∈ s.history → s.completions n = 1

/-- A request that has not been made has no completions. -/
theorem Numbered.completions_next {s : ServiceSession} (h : Numbered s) :
    s.completions s.nextNumber = 0 := by
  refine List.countP_eq_zero.mpr fun e he hcompletes => ?_
  cases e with
  | completed number result =>
    have hnumber : number = s.nextNumber := by simpa [ServiceEvent.completes] using hcompletes
    have hfresh := h.fresh _ he number rfl
    omega
  | _ => cases hcompletes

/-- An event that is about no request changes nothing of this. -/
theorem Numbered.mark {s s' : ServiceSession} (h : Numbered s) (hwaiting : s'.waiting = s.waiting)
    (hcompleting : s'.completing = s.completing) (hnext : s'.nextNumber = s.nextNumber)
    (marks : List ServiceEvent) (hhistory : s'.history = marks ++ s.history)
    (hmarks : ∀ e ∈ marks, e.number = none) : Numbered s' := by
  have old (e : ServiceEvent) (n : ℕ) (he : e.number = some n) :
      e ∈ s'.history ↔ e ∈ s.history := by
    rw [hhistory, List.mem_append, or_iff_right]
    intro hmark
    rw [hmarks e hmark] at he
    cases he
  have hcompletions (n : ℕ) : s'.completions n = s.completions n := by
    have hnone : marks.countP (ServiceEvent.completes n) = 0 := by
      refine List.countP_eq_zero.mpr fun e he hcompletes => ?_
      have hmark := hmarks e he
      cases e <;> simp_all [ServiceEvent.completes, ServiceEvent.number]
    rw [ServiceSession.completions, hhistory, List.countP_append, hnone, Nat.zero_add]
    rfl
  constructor
  · intro e he n hn
    rw [hnext]
    exact h.fresh e ((old e n hn).mp he) n hn
  · rw [hwaiting, hcompleting]
    exact h.distinct
  · intro n hn
    rw [hwaiting, hcompleting] at hn
    exact (old _ n rfl).mpr (h.asked n hn)
  · intro n hn
    rw [hcompletions, hwaiting]
    exact h.once n ((old _ n rfl).mp hn)
  · intro n hn
    rw [hwaiting, hcompleting, old _ n rfl]
    exact h.ends n ((old _ n rfl).mp hn)
  · intro n hn
    rw [hcompletions]
    exact h.refused n ((old _ n rfl).mp hn)

theorem ServiceEvent.completes_completed {number n : ℕ} {result : SystemTimeResult} :
    (completed number result).completes n = true ↔ n = number := by
  simp only [completes, beq_iff_eq]
  exact eq_comm

/-- The number of completions after one more event. -/
theorem completions_cons {s s' : ServiceSession} {e : ServiceEvent}
    (hhistory : s'.history = e :: s.history) (n : ℕ) :
    s'.completions n = s.completions n + if e.completes n then 1 else 0 := by
  rw [ServiceSession.completions, hhistory, List.countP_cons]
  rfl

/-- A call that timedated is asked for waits for its answer. -/
theorem Numbered.accept {s s' : ServiceSession} (h : Numbered s)
    (hwaiting : s'.waiting = s.nextNumber :: s.waiting) (hcompleting : s'.completing = s.completing)
    (hnext : s'.nextNumber = s.nextNumber + 1)
    (hhistory : s'.history = .accepted s.nextNumber :: s.history) : Numbered s' := by
  have hcompletions (n : ℕ) : s'.completions n = s.completions n := completions_cons hhistory n
  have new {n : ℕ} (hn : n ∈ s.waiting ++ s.completing) : n < s.nextNumber :=
    h.fresh _ (h.asked n hn) n rfl
  constructor
  · intro e he n hn
    rw [hnext]
    rw [hhistory, List.mem_cons] at he
    rcases he with rfl | he
    · cases hn
      omega
    · exact Nat.lt_succ_of_lt (h.fresh e he n hn)
  · rw [hwaiting, hcompleting, List.cons_append, List.nodup_cons]
    exact ⟨fun hn => Nat.lt_irrefl _ (new hn), h.distinct⟩
  · intro n hn
    rw [hwaiting, hcompleting, List.cons_append, List.mem_cons] at hn
    rw [hhistory]
    rcases hn with rfl | hn
    · exact List.mem_cons_self
    · exact List.mem_cons_of_mem _ (h.asked n hn)
  · intro n hn
    rw [hcompletions, hwaiting]
    rw [hhistory, List.mem_cons] at hn
    rcases hn with hn | hn
    · cases hn
      rw [h.completions_next, if_pos List.mem_cons_self]
    · have hlt := h.fresh _ hn n rfl
      rw [h.once n hn]
      congr 1
      rw [List.mem_cons, eq_iff_iff, or_iff_right]
      omega
  · intro n hn
    rw [hwaiting, hcompleting, List.cons_append, List.mem_cons]
    rw [hhistory, List.mem_cons] at hn
    rcases hn with hn | hn
    · cases hn
      exact .inl (.inl rfl)
    · rw [hhistory]
      exact (h.ends n hn).imp .inr (List.mem_cons_of_mem _)
  · intro n hn
    rw [hcompletions]
    rw [hhistory, List.mem_cons] at hn
    rcases hn with hn | hn
    · cases hn
    · exact h.refused n hn

/-- A request that is refused is completed on the spot. -/
theorem Numbered.refuse {s s' : ServiceSession} (h : Numbered s) {result : SystemTimeResult}
    (hwaiting : s'.waiting = s.waiting) (hcompleting : s'.completing = s.completing)
    (hnext : s'.nextNumber = s.nextNumber + 1)
    (hhistory : s'.history =
      .completed s.nextNumber result :: .refused s.nextNumber :: s.history) : Numbered s' := by
  have hcompletions (n : ℕ) : s'.completions n =
      s.completions n + if n = s.nextNumber then 1 else 0 := by
    rw [ServiceSession.completions, hhistory, List.countP_cons, List.countP_cons]
    simp only [ServiceEvent.completes_completed]
    rfl
  have old (n : ℕ) : .accepted n ∈ s'.history ↔ .accepted n ∈ s.history := by simp [hhistory]
  constructor
  · intro e he n hn
    rw [hnext]
    rw [hhistory, List.mem_cons, List.mem_cons] at he
    rcases he with rfl | rfl | he
    · cases hn
      omega
    · cases hn
      omega
    · exact Nat.lt_succ_of_lt (h.fresh e he n hn)
  · rw [hwaiting, hcompleting]
    exact h.distinct
  · intro n hn
    rw [hwaiting, hcompleting] at hn
    exact (old n).mpr (h.asked n hn)
  · intro n hn
    have hlt := h.fresh _ ((old n).mp hn) n rfl
    rw [hcompletions, hwaiting, if_neg (by omega), Nat.add_zero]
    exact h.once n ((old n).mp hn)
  · intro n hn
    rw [hwaiting, hcompleting, hhistory]
    refine (h.ends n ((old n).mp hn)).imp_right fun hreturned => ?_
    exact List.mem_cons_of_mem _ (List.mem_cons_of_mem _ hreturned)
  · intro n hn
    rw [hcompletions]
    by_cases hnew : n = s.nextNumber
    · rw [if_pos hnew, hnew, h.completions_next]
    · rw [if_neg hnew, Nat.add_zero]
      refine h.refused n ?_
      simpa [hhistory, hnew] using hn

/-- A call that is answered goes into its completion. -/
theorem Numbered.answer {s s' : ServiceSession} (h : Numbered s) {number : ℕ}
    {result : SystemTimeResult} (hwaiting : s.waiting.Perm (number :: s'.waiting))
    (hcompleting : s'.completing = number :: s.completing) (hnext : s'.nextNumber = s.nextNumber)
    (hhistory : s'.history = .completed number result :: s.history) : Numbered s' := by
  have hcompletions (n : ℕ) : s'.completions n = s.completions n + if n = number then 1 else 0 := by
    simp only [completions_cons hhistory, ServiceEvent.completes_completed]
  have old (n : ℕ) : .accepted n ∈ s'.history ↔ .accepted n ∈ s.history := by simp [hhistory]
  have hactive : (s'.waiting ++ s'.completing).Perm (s.waiting ++ s.completing) := by
    rw [hcompleting]
    exact List.perm_middle.trans (hwaiting.symm.append_right _)
  have hdistinct : number ∉ s'.waiting :=
    (List.nodup_cons.mp (hwaiting.nodup_iff.mp (List.nodup_append.mp h.distinct).1)).1
  have hasked : .accepted number ∈ s.history :=
    h.asked number (List.mem_append_left _ (hwaiting.mem_iff.mpr List.mem_cons_self))
  constructor
  · intro e he n hn
    rw [hnext]
    rw [hhistory, List.mem_cons] at he
    rcases he with rfl | he
    · cases hn
      exact h.fresh _ hasked number rfl
    · exact h.fresh e he n hn
  · exact hactive.nodup_iff.mpr h.distinct
  · intro n hn
    exact (old n).mpr (h.asked n (hactive.mem_iff.mp hn))
  · intro n hn
    rw [hcompletions, h.once n ((old n).mp hn)]
    by_cases hnumber : n = number
    · subst hnumber
      rw [if_pos (hwaiting.mem_iff.mpr List.mem_cons_self), if_pos rfl, if_neg hdistinct]
    · have hmem : n ∈ s.waiting ↔ n ∈ s'.waiting := by
        rw [hwaiting.mem_iff, List.mem_cons, or_iff_right hnumber]
      simp only [hmem, if_neg hnumber, Nat.add_zero]
  · intro n hn
    rw [hactive.mem_iff, hhistory]
    exact (h.ends n ((old n).mp hn)).imp_right (List.mem_cons_of_mem _)
  · intro n hn
    have hrefused : .refused n ∈ s.history := by simpa [hhistory] using hn
    have hone := h.refused n hrefused
    rw [hcompletions]
    by_cases hnumber : n = number
    · -- a refused request is not accepted as well
      subst hnumber
      rw [h.once n hasked, if_pos (hwaiting.mem_iff.mpr List.mem_cons_self)] at hone
      cases hone
    · rw [if_neg hnumber, Nat.add_zero, hone]

/-- A completion that returns ends its call. -/
theorem Numbered.finish {s s' : ServiceSession} (h : Numbered s) {number : ℕ}
    (hwaiting : s'.waiting = s.waiting) (hcompleting : s.completing = number :: s'.completing)
    (hnext : s'.nextNumber = s.nextNumber)
    (hhistory : s'.history = .returned number :: s.history) : Numbered s' := by
  have hcompletions (n : ℕ) : s'.completions n = s.completions n := completions_cons hhistory n
  have old (n : ℕ) : .accepted n ∈ s'.history ↔ .accepted n ∈ s.history := by simp [hhistory]
  have hactive : (s.waiting ++ s.completing).Perm (number :: (s'.waiting ++ s'.completing)) := by
    rw [hcompleting, hwaiting]
    exact List.perm_middle
  constructor
  · intro e he n hn
    rw [hnext]
    rw [hhistory, List.mem_cons] at he
    rcases he with rfl | he
    · cases hn
      exact h.fresh _ (h.asked number (hactive.mem_iff.mpr List.mem_cons_self)) number rfl
    · exact h.fresh e he n hn
  · exact (List.nodup_cons.mp (hactive.nodup_iff.mp h.distinct)).2
  · intro n hn
    exact (old n).mpr (h.asked n (hactive.mem_iff.mpr (List.mem_cons_of_mem _ hn)))
  · intro n hn
    rw [hcompletions, hwaiting]
    exact h.once n ((old n).mp hn)
  · intro n hn
    rw [hhistory]
    rcases h.ends n ((old n).mp hn) with hopen | hreturned
    · rcases List.mem_cons.mp (hactive.mem_iff.mp hopen) with rfl | hopen
      · exact .inr List.mem_cons_self
      · exact .inl hopen
    · exact .inr (List.mem_cons_of_mem _ hreturned)
  · intro n hn
    rw [hcompletions]
    exact h.refused n (by simpa [hhistory] using hn)

/-! ## The count and the order of events -/

/-- The references are the holders and `extra` more that are about to be dropped. -/
structure Counted (extra : ℕ) (s : ServiceSession) : Prop where
  absent : s.memory = .absent → s.holders + extra = 0
  released : s.memory = .released → s.holders + extra = 0
  live : ∀ service, s.memory = .live service →
    service.references = UInt32.ofNat (s.holders + extra) ∧ 0 < s.holders + extra ∧
      service.proxy = true ∧ (service.changedCallback = true → s.owned = true)

/-- The order of the events. -/
structure Recorded (s : ServiceSession) : Prop where
  untouched : .touched ∉ s.history
  released : .released ∈ s.history → s.memory = .released
  releasedLast : ∀ late early, s.history = late ++ .released :: early → late = []
  freed : .freed ∈ s.history → s.owned = false ∧ s.memory ≠ .absent
  quiet : ∀ late early, s.history = late ++ .freed :: early → .changed ∉ late

/-- The invariant of the service. -/
structure ServiceInvariant (extra : ℕ) (s : ServiceSession) : Prop where
  numbered : Numbered s
  counted : Counted extra s
  recorded : Recorded s

/-- One event more, while the memory is not given back. -/
theorem Recorded.log {s s' : ServiceSession} (h : Recorded s) {e : ServiceEvent}
    (hhistory : s'.history = e :: s.history) (hmemory : s.memory ≠ .released)
    (htouched : e ≠ .touched) (hreleased : e = .released → s'.memory = .released)
    (hfreed : e = .freed → s'.owned = false ∧ s'.memory ≠ .absent)
    (hchanged : e = .changed → s.owned = true)
    (hkeep : s.owned = false → s.memory ≠ .absent → s'.owned = false ∧ s'.memory ≠ .absent) :
    Recorded s' := by
  have hnot : .released ∉ s.history := fun hin => hmemory (h.released hin)
  constructor
  · rw [hhistory, List.mem_cons, not_or]
    exact ⟨Ne.symm htouched, h.untouched⟩
  · intro hin
    rw [hhistory, List.mem_cons, or_iff_left hnot] at hin
    exact hreleased hin.symm
  · intro late early hsplit
    rw [hhistory] at hsplit
    cases late with
    | nil => rfl
    | cons e' late =>
      have hrest : s.history = late ++ .released :: early := (List.cons.inj hsplit).2
      exact absurd (by simp [hrest]) hnot
  · intro hin
    rw [hhistory, List.mem_cons] at hin
    rcases hin with hin | hin
    · exact hfreed hin.symm
    · exact hkeep (h.freed hin).1 (h.freed hin).2
  · intro late early hsplit
    rw [hhistory] at hsplit
    cases late with
    | nil => exact List.not_mem_nil
    | cons e' late =>
      obtain ⟨rfl, hrest⟩ := List.cons.inj hsplit
      rw [List.mem_cons, not_or]
      refine ⟨fun hin => ?_, h.quiet late early hrest⟩
      have howned := hchanged hin.symm
      rw [(h.freed (by simp [hrest])).1] at howned
      cases howned

/-- A step that logs nothing. -/
theorem Recorded.still {s s' : ServiceSession} (h : Recorded s) (hhistory : s'.history = s.history)
    (hmemory : s.memory = .released → s'.memory = .released)
    (hkeep : s.owned = false → s.memory ≠ .absent → s'.owned = false ∧ s'.memory ≠ .absent) :
    Recorded s' where
  untouched := by rw [hhistory]; exact h.untouched
  released hin := hmemory (h.released (hhistory ▸ hin))
  releasedLast late early hsplit := h.releasedLast late early (hhistory ▸ hsplit)
  freed hin := hkeep (h.freed (hhistory ▸ hin)).1 (h.freed (hhistory ▸ hin)).2
  quiet late early hsplit := h.quiet late early (hhistory ▸ hsplit)

/-- Something is held, so the memory is there. -/
theorem Counted.isLive {extra : ℕ} {s : ServiceSession} (h : Counted extra s)
    (hpos : 0 < s.holders + extra) : ∃ service, s.memory = .live service := by
  cases hmemory : s.memory with
  | absent => exact absurd (h.absent hmemory) (by omega)
  | live service => exact ⟨service, rfl⟩
  | released => exact absurd (h.released hmemory) (by omega)

/-- Dropping a reference, the last one or not. -/
theorem serviceUnref_cases {s : ServiceSession} (h : Counted 1 s) (hfit : s.holders + 1 < 2 ^ 32) :
    (s.holders = 0 ∧
        serviceUnref s = { s with memory := .released, history := .released :: s.history }) ∨
      (0 < s.holders ∧ ∃ service, s.memory = .live service ∧
        serviceUnref s =
          { s with memory := .live { service with references := UInt32.ofNat s.holders } }) := by
  obtain ⟨service, hmemory⟩ := h.isLive (Nat.succ_pos _)
  have hreferences := (h.live service hmemory).1
  have hminus : service.references - 1 = UInt32.ofNat s.holders := by
    rw [hreferences, UInt32.ofNat_add]
    exact UInt32.add_sub_cancel _ _
  have hzero : UInt32.ofNat s.holders ≠ 0 ↔ 0 < s.holders := by
    rw [Nat.pos_iff_ne_zero, not_iff_not, ← UInt32.toNat_inj, UInt32.toNat_ofNat']
    rw [Nat.mod_eq_of_lt (by omega)]
    rfl
  simp only [serviceUnref, hmemory, hminus]
  by_cases hpos : 0 < s.holders
  · exact .inr ⟨hpos, service, rfl, by rw [if_pos (hzero.mpr hpos)]⟩
  · exact .inl ⟨Nat.eq_zero_of_not_pos hpos, by rw [if_neg (mt hzero.mp hpos)]⟩

/-- And the invariant without it. -/
theorem ServiceInvariant.unref {s : ServiceSession} (h : ServiceInvariant 1 s)
    (hfit : s.holders + 1 < 2 ^ 32) : ServiceInvariant 0 (serviceUnref s) := by
  obtain ⟨service, hmemory⟩ := h.counted.isLive (Nat.succ_pos _)
  obtain ⟨-, -, hproxy, hchanged⟩ := h.counted.live service hmemory
  rcases serviceUnref_cases h.counted hfit with ⟨hzero, heq⟩ | ⟨hpos, service', hmemory', heq⟩
  · rw [heq]
    refine ⟨h.numbered.mark rfl rfl rfl [.released] rfl (by simp [ServiceEvent.number]),
      ⟨nofun, fun _ => hzero, nofun⟩, h.recorded.log rfl ?_ nofun (fun _ => rfl) nofun nofun ?_⟩
    · rw [hmemory]
      nofun
    · exact fun howned _ => ⟨howned, nofun⟩
  · obtain rfl : service = service' := by
      rw [hmemory] at hmemory'
      exact ServiceMemory.live.inj hmemory'
    rw [heq]
    refine ⟨h.numbered.mark rfl rfl rfl [] rfl nofun, ⟨nofun, nofun, ?_⟩,
      h.recorded.still rfl ?_ ?_⟩
    · rintro _ ⟨⟩
      exact ⟨rfl, hpos, hproxy, hchanged⟩
    · rw [hmemory]
      nofun
    · exact fun howned _ => ⟨howned, nofun⟩

/-! ## One lemma for each action -/

/-- An owner gives its reference back. -/
theorem ServiceInvariant.free {s : ServiceSession} (h : ServiceInvariant 0 s)
    (howned : s.owned = true) (hfit : s.Countable) : ServiceInvariant 0 (serviceFree s) := by
  have hholders : s.holders = 1 + s.outstanding := by
    rw [ServiceSession.holders, howned]
    rfl
  obtain ⟨service, hmemory⟩ := h.counted.isLive (by omega)
  obtain ⟨hreferences, -, hproxy, -⟩ := h.counted.live service hmemory
  have hrest (s' : ServiceSession) (hs' : s' = { s with
      memory := .live { service with changedCallback := false }
      owned := false
      history := .freed :: s.history }) : s'.holders = s.outstanding := by
    rw [hs']
    simp [ServiceSession.holders, ServiceSession.outstanding, ServiceSession.waiting,
      ServiceSession.completing]
  simp only [serviceFree, hmemory]
  refine ServiceInvariant.unref ⟨?_, ⟨nofun, nofun, ?_⟩, ?_⟩ ?_
  · exact h.numbered.mark rfl rfl rfl [.freed] rfl (by simp [ServiceEvent.number])
  · rintro _ ⟨⟩
    rw [hrest _ rfl]
    refine ⟨?_, Nat.succ_pos _, hproxy, nofun⟩
    rw [hreferences, hholders, Nat.add_comm 1]
  · refine h.recorded.log rfl ?_ nofun nofun (fun _ => ⟨rfl, nofun⟩) nofun fun _ _ => ⟨rfl, nofun⟩
    rw [hmemory]
    nofun
  · rw [hrest _ rfl]
    have hlt : s.holders < 2 ^ 32 := hfit
    omega

/-- A service is made and handed out. -/
theorem ServiceInvariant.proxyReady {s : ServiceSession} (h : ServiceInvariant 0 s)
    (hmemory : s.memory = .absent) (callback : Bool) :
    ServiceInvariant 0 (newProxyFinished callback s) := by
  have hzero : s.owned.toNat + s.outstanding + 0 = 0 := h.counted.absent hmemory
  have hfreed : .freed ∉ s.history := fun hin => (h.recorded.freed hin).2 hmemory
  have hmade (stack : List ServiceFrame)
      (hstack : stack.filterMap ServiceFrame.call = s.completing) :
      ServiceInvariant 0 { s with
        memory := .live ⟨1, true, false⟩, owned := true, stack := stack } ∧
      ServiceSession.holders { s with
        memory := .live ⟨1, true, false⟩, owned := true, stack := stack } = 1 := by
    have hholders : ServiceSession.holders { s with
        memory := .live ⟨1, true, false⟩, owned := true, stack := stack } = 1 + s.outstanding := by
      simp only [ServiceSession.holders, ServiceSession.outstanding, ServiceSession.completing, hstack,
        Bool.toNat_true]
      rfl
    refine ⟨⟨h.numbered.mark rfl hstack rfl [] rfl nofun, ⟨nofun, nofun, ?_⟩, ?_⟩, by omega⟩
    · rintro _ ⟨⟩
      rw [hholders]
      have hnone : s.outstanding = 0 := by omega
      rw [hnone]
      exact ⟨rfl, Nat.one_pos, rfl, nofun⟩
    · exact ⟨h.recorded.untouched, fun hin => absurd (h.recorded.released hin) (by rw [hmemory]; nofun),
        h.recorded.releasedLast, fun hin => absurd hin hfreed, h.recorded.quiet⟩
  cases callback with
  | true => exact (hmade (.ready :: s.stack) rfl).1
  | false =>
    obtain ⟨hinv, hone⟩ := hmade s.stack rfl
    refine hinv.free rfl ?_
    rw [ServiceSession.Countable, hone]
    decide

/-- A request that is refused. -/
theorem ServiceInvariant.refuse {s : ServiceSession} (h : ServiceInvariant 0 s)
    (hmemory : s.memory ≠ .released) (result : SystemTimeResult) (callback : Bool) :
    ServiceInvariant 0 (completeImmediately s.nextNumber result callback
      { s with nextNumber := s.nextNumber + 1 }) := by
  have hstack : (if callback then ServiceFrame.refusal s.nextNumber :: s.stack
      else s.stack).filterMap ServiceFrame.call = s.completing := by
    cases callback <;> rfl
  have hholders : (completeImmediately s.nextNumber result callback
      { s with nextNumber := s.nextNumber + 1 }).holders = s.holders := by
    simp only [ServiceSession.holders, ServiceSession.outstanding, ServiceSession.completing,
      completeImmediately, hstack]
    rfl
  refine ⟨h.numbered.refuse rfl hstack rfl rfl, ?_, ?_⟩
  · constructor
    · rw [hholders]
      exact h.counted.absent
    · rw [hholders]
      exact h.counted.released
    · rw [hholders]
      exact h.counted.live
  · have hrefused : Recorded { s with history := .refused s.nextNumber :: s.history } :=
      h.recorded.log rfl hmemory nofun nofun nofun nofun fun howned habsent => ⟨howned, habsent⟩
    exact hrefused.log rfl hmemory nofun nofun nofun nofun fun howned habsent => ⟨howned, habsent⟩

/-- A request that timedated is asked for. -/
theorem ServiceInvariant.accept {s : ServiceSession} (h : ServiceInvariant 0 s)
    {service : SystemTimeService} (hmemory : s.memory = .live service) (callback : Bool) :
    ServiceInvariant 0 { s with
      nextNumber := s.nextNumber + 1
      memory := .live { service with references := service.references + 1 }
      pending := ⟨s.nextNumber, callback⟩ :: s.pending
      history := .accepted s.nextNumber :: s.history } := by
  obtain ⟨hreferences, -, hproxy, hchanged⟩ := h.counted.live service hmemory
  refine ⟨h.numbered.accept rfl rfl rfl rfl, ⟨nofun, nofun, ?_⟩, ?_⟩
  · rintro _ ⟨⟩
    have hholders (s' : ServiceSession) (hs' : s' = { s with
        nextNumber := s.nextNumber + 1
        memory := .live { service with references := service.references + 1 }
        pending := ⟨s.nextNumber, callback⟩ :: s.pending
        history := .accepted s.nextNumber :: s.history }) : s'.holders = s.holders + 1 := by
      rw [hs']
      simp only [ServiceSession.holders, ServiceSession.outstanding, ServiceSession.waiting,
        ServiceSession.completing, List.map_cons, List.length_cons]
      omega
    rw [hholders _ rfl]
    refine ⟨?_, Nat.succ_pos _, hproxy, hchanged⟩
    simp only [hreferences, Nat.add_zero, UInt32.ofNat_add]
    rfl
  · refine h.recorded.log rfl ?_ nofun nofun nofun nofun fun howned _ => ⟨howned, nofun⟩
    rw [hmemory]
    nofun

/-- Whoever may use the service holds it. -/
theorem holders_pos_of_usable {s : ServiceSession} (h : s.usable = true) : 0 < s.holders := by
  simp only [ServiceSession.usable, Bool.or_eq_true] at h
  rcases h with howned | hcompleting
  · rw [ServiceSession.holders, howned, Bool.toNat_true]
    omega
  · obtain ⟨frame, hframe, hcall⟩ := List.any_eq_true.mp hcompleting
    cases frame with
    | completion number =>
      have hin : number ∈ s.completing := List.mem_filterMap.mpr ⟨_, hframe, rfl⟩
      have hlength := List.length_pos_of_mem hin
      simp only [ServiceSession.holders, ServiceSession.outstanding]
      omega
    | _ => cases hcall

theorem ServiceInvariant.request {s : ServiceSession} (h : ServiceInvariant 0 s)
    (hmemory : s.memory ≠ .released) (valid callback : Bool) :
    ServiceInvariant 0 (beginCall valid callback s) := by
  cases valid with
  | false => exact h.refuse hmemory _ _
  | true =>
    cases hcase : s.memory with
    | absent =>
      have hrefused : beginCall true callback s = completeImmediately s.nextNumber .unavailable
          callback { s with nextNumber := s.nextNumber + 1 } := by
        simp only [beginCall, if_true, hcase]
      rw [hrefused]
      exact h.refuse hmemory _ _
    | live service =>
      have haccepted := h.accept hcase callback
      simp only [beginCall, if_true, hcase]
      rwa [if_pos (h.counted.live service hcase).2.2.1]
    | released => exact absurd hcase hmemory

/-- The completion of a call returns: `s'` is `s` without it, and with its reference. -/
theorem ServiceInvariant.callReturns {s s' : ServiceSession} (h : ServiceInvariant 0 s)
    {number : ℕ} (hwaiting : s'.waiting = s.waiting)
    (hcompleting : s.completing = number :: s'.completing) (hnext : s'.nextNumber = s.nextNumber)
    (hhistory : s'.history = s.history) (hmemory : s'.memory = s.memory)
    (howned : s'.owned = s.owned) (hfit : s.Countable) :
    ServiceInvariant 0 (callReturns number s') := by
  have hholders : s.holders = s'.holders + 1 := by
    simp only [ServiceSession.holders, ServiceSession.outstanding, hcompleting, hwaiting, howned,
      List.length_cons]
    omega
  have hlogged : ServiceSession.holders { s' with history := .returned number :: s'.history } =
      s'.holders := rfl
  have hlive := h.counted.isLive (by omega)
  have hlt : s.holders < 2 ^ 32 := hfit
  refine ServiceInvariant.unref ⟨?_, ⟨?_, ?_, ?_⟩, ?_⟩ (by rw [hlogged]; omega)
  · exact h.numbered.finish hwaiting hcompleting hnext (by rw [hhistory])
  · intro habsent
    have hzero := h.counted.absent (hmemory ▸ habsent)
    omega
  · intro hreleased
    have hzero := h.counted.released (hmemory ▸ hreleased)
    omega
  · intro service hservice
    have hcount := h.counted.live service (hmemory ▸ hservice)
    rw [hholders, ← howned] at hcount
    exact hcount
  · refine h.recorded.log (e := .returned number) (by rw [hhistory]) ?_ nofun nofun nofun nofun ?_
    · obtain ⟨service, hservice⟩ := hlive
      rw [hservice]
      nofun
    · intro hnone habsent
      exact ⟨howned.trans hnone, by rw [hmemory]; exact habsent⟩

/-- A call that goes from waiting into its completion is held all the time. -/
theorem holders_answer {s : ServiceSession} {call : SystemTimeCall} (hcall : call ∈ s.pending)
    (history : List ServiceEvent) :
    ServiceSession.holders { s with
      pending := s.pending.erase call
      stack := .completion call.number :: s.stack
      history := history } = s.holders := by
  have hwaiting := ((List.perm_cons_erase hcall).map SystemTimeCall.number).length_eq
  have hpushed : (ServiceFrame.completion call.number :: s.stack).filterMap ServiceFrame.call =
      call.number :: s.completing := rfl
  rw [List.map_cons, List.length_cons] at hwaiting
  simp only [ServiceSession.holders, ServiceSession.outstanding, ServiceSession.waiting,
    ServiceSession.completing, hwaiting, hpushed, List.length_cons]
  omega

/-- The completion of a call begins. -/
theorem ServiceInvariant.answer {s : ServiceSession} (h : ServiceInvariant 0 s)
    {call : SystemTimeCall} (hcall : call ∈ s.pending) (result : SystemTimeResult) :
    ServiceInvariant 0 { s with
      pending := s.pending.erase call
      stack := .completion call.number :: s.stack
      history := .completed call.number result :: s.history } := by
  have hwaiting :
      s.waiting.Perm (call.number :: (s.pending.erase call).map SystemTimeCall.number) :=
    (List.perm_cons_erase hcall).map SystemTimeCall.number
  have hholders := holders_answer hcall (.completed call.number result :: s.history)
  have hlive : ∃ service, s.memory = .live service := by
    refine h.counted.isLive ?_
    have hlength := hwaiting.length_eq
    simp only [List.length_cons] at hlength
    simp only [ServiceSession.holders, ServiceSession.outstanding]
    omega
  refine ⟨h.numbered.answer hwaiting rfl rfl rfl, ⟨?_, ?_, ?_⟩, ?_⟩
  · rw [hholders]
    exact h.counted.absent
  · rw [hholders]
    exact h.counted.released
  · rw [hholders]
    exact h.counted.live
  · refine h.recorded.log rfl ?_ nofun nofun nofun nofun fun hnone habsent => ⟨hnone, habsent⟩
    obtain ⟨service, hservice⟩ := hlive
    rw [hservice]
    nofun

theorem ServiceInvariant.reply {s : ServiceSession} (h : ServiceInvariant 0 s)
    {call : SystemTimeCall} (hcall : call ∈ s.pending) (result : SystemTimeResult)
    (hfit : s.Countable) : ServiceInvariant 0 (callFinished call result s) := by
  have hanswer := h.answer hcall result
  cases hcallback : call.callback with
  | true =>
    simp only [callFinished, hcallback, if_true]
    exact hanswer
  | false =>
    simp only [callFinished, hcallback]
    refine hanswer.callReturns rfl rfl rfl rfl rfl rfl ?_
    rw [ServiceSession.Countable, holders_answer hcall]
    exact hfit

/-- A step that leaves the requests, the memory and the history alone. -/
theorem ServiceInvariant.still {s s' : ServiceSession} (h : ServiceInvariant 0 s)
    (hpending : s'.pending = s.pending) (hcompleting : s'.completing = s.completing)
    (hnext : s'.nextNumber = s.nextNumber) (hhistory : s'.history = s.history)
    (hmemory : s'.memory = s.memory) (howned : s'.owned = s.owned) : ServiceInvariant 0 s' := by
  have hwaiting : s'.waiting = s.waiting := congrArg (List.map SystemTimeCall.number) hpending
  have hholders : s'.holders = s.holders := by
    simp only [ServiceSession.holders, ServiceSession.outstanding, hwaiting, hcompleting, howned]
  refine ⟨h.numbered.mark hwaiting hcompleting hnext [] hhistory nofun, ⟨?_, ?_, ?_⟩, ?_⟩
  · rw [hmemory, hholders]
    exact h.counted.absent
  · rw [hmemory, hholders]
    exact h.counted.released
  · rw [hmemory, hholders, howned]
    exact h.counted.live
  · refine h.recorded.still hhistory (fun hreleased => hmemory.trans hreleased) ?_
    rw [hmemory, howned]
    exact fun hnone habsent => ⟨hnone, habsent⟩

theorem ServiceInvariant.signal {s : ServiceSession} (h : ServiceInvariant 0 s)
    {service : SystemTimeService} (hmemory : s.memory = .live service) :
    ServiceInvariant 0 (emitChanged service s) := by
  simp only [emitChanged]
  split
  · next hchanged =>
    have howned := (h.counted.live service hmemory).2.2.2 hchanged
    have hpushed : ServiceInvariant 0 { s with stack := .changed :: s.stack } :=
      h.still rfl rfl rfl rfl rfl rfl
    refine ⟨hpushed.numbered.mark rfl rfl rfl [.changed] rfl (by simp [ServiceEvent.number]),
      ⟨hpushed.counted.absent, hpushed.counted.released, hpushed.counted.live⟩, ?_⟩
    refine hpushed.recorded.log rfl ?_ nofun nofun nofun (fun _ => howned)
      fun hnone habsent => ⟨hnone, habsent⟩
    rw [hmemory]
    nofun
  · exact h

theorem ServiceInvariant.setChangedCallback {s : ServiceSession} (h : ServiceInvariant 0 s)
    {service : SystemTimeService} (hmemory : s.memory = .live service) (howned : s.owned = true)
    (callback : Bool) : ServiceInvariant 0
      { s with memory := .live { service with changedCallback := callback } } := by
  obtain ⟨hreferences, hpos, hproxy, -⟩ := h.counted.live service hmemory
  refine ⟨h.numbered.mark rfl rfl rfl [] rfl nofun, ⟨nofun, nofun, ?_⟩, ?_⟩
  · rintro _ ⟨⟩
    exact ⟨hreferences, hpos, hproxy, fun _ => howned⟩
  · refine h.recorded.still rfl ?_ fun hnone _ => ⟨hnone, nofun⟩
    rw [hmemory]
    nofun

/-! ## Runs -/

/-- One action keeps the invariant, while the holders fit the counter. -/
theorem ServiceInvariant.step {s s' : ServiceSession} {a : ServiceAction} (hfit : s.Countable)
    (h : ServiceInvariant 0 s) (hstep : serviceStep s a = some s') : ServiceInvariant 0 s' := by
  cases a with
  | proxyReady callback =>
    simp only [serviceStep] at hstep
    split at hstep
    · next hmemory =>
      cases hstep
      exact h.proxyReady hmemory callback
    · cases hstep
  | request valid callback =>
    simp only [serviceStep] at hstep
    split at hstep
    · next hmemory =>
      cases hstep
      exact h.request (by rw [hmemory]; nofun) valid callback
    · split at hstep
      · next husable =>
        cases hstep
        obtain ⟨service, hmemory⟩ := h.counted.isLive (holders_pos_of_usable husable)
        exact h.request (by rw [hmemory]; nofun) valid callback
      · cases hstep
  | reply call result =>
    simp only [serviceStep] at hstep
    split at hstep
    · next hcall =>
      cases hstep
      exact h.reply hcall result hfit
    · cases hstep
  | signal =>
    simp only [serviceStep] at hstep
    split at hstep
    · next service hmemory =>
      cases hstep
      exact h.signal hmemory
    · cases hstep
  | setChangedCallback callback =>
    simp only [serviceStep] at hstep
    split at hstep
    · next howned =>
      have hpos : 0 < s.holders := holders_pos_of_usable (by rw [ServiceSession.usable, howned]; rfl)
      obtain ⟨service, hmemory⟩ := h.counted.isLive hpos
      simp only [hmemory] at hstep
      cases hstep
      exact h.setChangedCallback hmemory howned callback
    · cases hstep
  | free =>
    simp only [serviceStep] at hstep
    split at hstep
    · next howned =>
      cases hstep
      exact h.free howned hfit
    · cases hstep
  | callbackReturns =>
    simp only [serviceStep] at hstep
    split at hstep
    · cases hstep
    · next number stack hstack =>
      cases hstep
      refine h.callReturns rfl ?_ rfl rfl rfl rfl hfit
      rw [ServiceSession.completing, hstack]
      rfl
    · next frame stack hother hstack =>
      cases hstep
      refine h.still rfl ?_ rfl rfl rfl rfl
      simp only [ServiceSession.completing, hstack]
      cases frame with
      | completion number => exact (hother number rfl).elim
      | _ => rfl

theorem serviceInvariant_start : ServiceInvariant 0 .start :=
  ⟨⟨nofun, List.nodup_nil, nofun, nofun, nofun, nofun⟩, ⟨fun _ => rfl, nofun, nofun⟩,
    ⟨nofun, nofun, by simp [ServiceSession.start], nofun, by simp [ServiceSession.start]⟩⟩

/-- The states of the runs in which the holders always fit the counter. -/
abbrev ServiceReached : ServiceSession → Prop :=
  Visits serviceStep (· = ServiceSession.start) ServiceSession.Countable

theorem ServiceReached.invariant {s : ServiceSession} (h : ServiceReached s) :
    ServiceInvariant 0 s := by
  refine Visits.invariant ?_ ?_ h
  · rintro s rfl
    exact serviceInvariant_start
  · exact fun s a s' hfit hs hstep _ => hs.step hfit hstep

/-- Whatever the owner, its callbacks and timedated do, in whatever order. -/
theorem serviceLifetime {s : ServiceSession} (h : ServiceReached s) : ServiceLifetime s := by
  have hinv := ServiceReached.invariant h
  constructor
  · intro service hmemory
    rw [(hinv.counted.live service hmemory).1, Nat.add_zero, UInt32.toNat_ofNat']
    exact Nat.mod_eq_of_lt h.holds
  · exact hinv.numbered.once
  · exact hinv.numbered.refused
  · intro late early hsplit n hn
    obtain rfl := hinv.recorded.releasedLast late early hsplit
    rw [List.nil_append] at hsplit
    have hreleased := hinv.recorded.released (by simp [hsplit])
    have hholders : s.owned.toNat + (s.waiting.length + s.completing.length) + 0 = 0 :=
      hinv.counted.released hreleased
    have hwaiting : s.waiting = [] := List.length_eq_zero_iff.mp (by omega)
    have hcompleting : s.completing = [] := List.length_eq_zero_iff.mp (by omega)
    have hends := hinv.numbered.ends n hn
    have honce := hinv.numbered.once n hn
    rw [hwaiting, hcompleting] at hends
    rw [ServiceSession.completions, hsplit, hwaiting] at honce
    rw [hsplit] at hends
    exact ⟨by simpa using hends, by simpa [ServiceEvent.completes] using honce⟩
  · exact hinv.recorded.untouched
  · exact hinv.recorded.quiet

/-- A completion that sends another request and frees the service: the memory
stays until the second completion has returned. -/
theorem serviceLifetime_freed_in_completion : ServiceLifetime
    ⟨.released, false, [], [], 2,
      [.released, .returned 1, .completed 1 .cancelled, .returned 0, .freed, .accepted 1,
        .completed 0 .ok, .accepted 0]⟩ := by
  have hstart : ServiceReached .start := .start rfl (by decide)
  exact serviceLifetime (hstart.of_run [.proxyReady true, .callbackReturns,
    .request true true, .reply ⟨0, true⟩ .ok, .request true true, .free, .callbackReturns,
    .signal, .reply ⟨1, true⟩ .cancelled, .callbackReturns] rfl)

/-! ### A counter of 32 bits -/

/-- Nothing bounds the number of requests that wait for an answer. -/
theorem visits_requests (n : ℕ) : ∃ s, Visits serviceStep (· = ServiceSession.start)
    (fun _ => True) s ∧ s.owned = true ∧ s.waiting.length = n ∧
      ∃ service, s.memory = .live service ∧ service.proxy = true := by
  induction n with
  | zero =>
    have hstart : Visits serviceStep (· = ServiceSession.start) (fun _ => True) .start :=
      .start rfl trivial
    exact ⟨_, hstart.next (.proxyReady true) rfl trivial, rfl, rfl, _, rfl, rfl⟩
  | succ n ih =>
    obtain ⟨s, hs, howned, hlength, service, hmemory, hproxy⟩ := ih
    have hstep : serviceStep s (.request true true) = some { s with
        nextNumber := s.nextNumber + 1
        memory := .live { service with references := service.references + 1 }
        pending := ⟨s.nextNumber, true⟩ :: s.pending
        history := .accepted s.nextNumber :: s.history } := by
      simp [serviceStep, beginCall, ServiceSession.usable, howned, hmemory, hproxy]
    refine ⟨_, hs.next _ hstep trivial, howned, ?_, _, rfl, hproxy⟩
    rw [← hlength]
    rfl

/-- With `2 ^ 32` unanswered calls the count is not right any more. -/
theorem serviceLifetime_counterexample :
    ¬ ∀ s, Visits serviceStep (· = ServiceSession.start) (fun _ => True) s → ServiceLifetime s := by
  intro h
  obtain ⟨s, hs, howned, hlength, service, hmemory, -⟩ := visits_requests (2 ^ 32)
  have hcounted := (h s hs).counted service hmemory
  have hlt := service.references.toNat_lt
  rw [hcounted, ServiceSession.holders, ServiceSession.outstanding, hlength] at hlt
  omega

end SystemSettings
