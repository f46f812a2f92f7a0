import SystemSettings.PayloadBounds

/-!
# The installer's round trip

`source-asset-builder.c` writes a stub, a payload and the footer into one file;
`native-installer.c` finds the payload in its own file and copies it out to an
archive under `/tmp`.

Every call that transfers bytes may transfer fewer than it was asked for, or
report an error. How the `i`-th call of a kind comes out is a function of `i`.
-/

namespace SystemSettings

/-- `sizeof(buffer)`, the same on both sides -/
def bufferSize : ℕ := 64 * 1024

/-! ## The builder -/

/-- How the calls on one source file come out. -/
structure AppendCalls where
  fopen : Bool
  /-- `some n` is a read error after `n` bytes -/
  fread : ℕ → Option ℕ
  fwrite : ℕ → Bool
  fclose : Bool

/-- `copy_stream`: what the destination holds then, and whether the copy is complete. -/
def copyStream (calls : AppendCalls) (call : ℕ) (destination source : List UInt8) :
    List UInt8 × Bool :=
  let buffer :=
    match calls.fread call with
    | none => source.take bufferSize
    | some n => (source.take bufferSize).take n
  if buffer ≠ [] ∧ calls.fwrite call = false then (destination, false)
  else if buffer.length < bufferSize then
    (destination ++ buffer, (calls.fread call).isNone)
  else copyStream calls (call + 1) (destination ++ buffer) (source.drop bufferSize)
termination_by source.length
decreasing_by
  next hfull =>
    have hbuffer : buffer.length ≤ source.length := by
      simp only [buffer]
      split <;> simp
    simp only [bufferSize] at hfull ⊢
    rw [List.length_drop]
    omega

/-- `append_file` -/
def appendFile (calls : AppendCalls) (destination source : List UInt8) : List UInt8 × Bool :=
  if calls.fopen then
    let (destination, ok) := copyStream calls 0 destination source
    (destination, ok && calls.fclose)
  else (destination, false)

/-- How the calls that write the `.run` file come out. -/
structure RunCalls where
  stat : Bool
  fopen : Bool
  stub : AppendCalls
  payload : AppendCalls
  fprintf : Bool
  fflush : Bool
  fsync : Bool
  fclose : Bool
  chmod : Bool

/-- The part of `main` that writes the `.run` file; `none` where it goes to its cleanup. -/
def writeRun (calls : RunCalls) (stub payload : List UInt8) : Option (List UInt8) :=
  if calls.stat = false ∨ payload.length = 0 then none
  else if calls.fopen then
    let (run, stubOk) := appendFile calls.stub [] stub
    if stubOk then
      let (run, payloadOk) := appendFile calls.payload run payload
      if payloadOk && calls.fprintf && calls.fflush && calls.fsync && calls.fclose && calls.chmod
      then some (run ++ payloadFooter payload.length)
      else none
    else none
  else none

/-! ## The installer -/

/-- How the calls of `copy_payload` come out. A transfer is `none` when the call
reports an error, and moves at most `n + 1` bytes when it is `some n`. -/
structure CopyCalls where
  opens : Bool
  fstat : Bool
  pread : Option ℕ
  mkstemp : Bool
  fchmod : Bool
  lseek : Bool
  read : ℕ → Option ℕ
  write : ℕ → Option ℕ
  fsync : Bool
  unlink : Bool

/-- The copy under way: the calls made so far and what the archive holds. -/
structure Copying where
  reads : ℕ
  writes : ℕ
  archive : List UInt8

/-- `payload_bounds` with its own two calls: it takes nothing but a whole footer. -/
def scanPayload (calls : CopyCalls) (file : List UInt8) : Option (ℤ × ℕ) :=
  if calls.fstat then
    match calls.pread with
    | none => none
    | some n => if n + 1 < footerSize then none else payloadBounds file
  else none

/-- The inner loop, while `written < count`. -/
def writeBuffer (calls : CopyCalls) (c : Copying) : List UInt8 → Copying × Bool
  | [] => (c, true)
  | b :: rest =>
    match calls.write c.writes with
    | none => ({ c with writes := c.writes + 1 }, false)
    | some n =>
      writeBuffer calls
        { c with writes := c.writes + 1, archive := c.archive ++ (b :: rest).take (n + 1) }
        (rest.drop n)
termination_by buffer => buffer.length
decreasing_by
  rw [List.length_drop, List.length_cons]
  omega

/-- The outer loop, while `remaining > 0`; `input` is the file from its offset on. -/
def copyLoop (calls : CopyCalls) (c : Copying) (input : List UInt8) (remaining : ℕ) :
    Copying × Bool :=
  if remaining = 0 then (c, true)
  else
    match calls.read c.reads with
    | none => ({ c with reads := c.reads + 1 }, false)
    | some n =>
      let buffer := input.take (min (min remaining bufferSize) (n + 1))
      -- the end of the file
      if buffer = [] then ({ c with reads := c.reads + 1 }, false)
      else
        match writeBuffer calls { c with reads := c.reads + 1 } buffer with
        | (c, false) => (c, false)
        | (c, true) =>
          copyLoop calls c (input.drop buffer.length) (remaining - buffer.length)
termination_by remaining
decreasing_by
  next hmore hbuffer =>
    have hlength : 0 < buffer.length := List.length_pos_iff.mpr hbuffer
    exact Nat.sub_lt (Nat.pos_of_ne_zero hmore) hlength

/-- The length of `temporary` -/
def temporaryLength : ℕ := 35

/-- `PATH_MAX`, the capacity that `extract_payload` passes -/
def archiveCapacity : ℕ := 4096

/-- `copy_payload`: its result, and the archive that it leaves. -/
def copyPayload (calls : CopyCalls) (file : List UInt8) : Bool × Option (List UInt8) :=
  if calls.opens then
    match scanPayload calls file with
    | none => (false, none)
    | some (start, size) =>
      if calls.mkstemp then
        let cleanup (archive : List UInt8) : Bool × Option (List UInt8) :=
          (false, if calls.unlink then none else some archive)
        if calls.fchmod && calls.lseek then
          match copyLoop calls ⟨0, 0, []⟩ (file.drop start.toNat) size with
          | (c, false) => cleanup c.archive
          | (c, true) =>
            if calls.fsync = false ∨ archiveCapacity ≤ temporaryLength then cleanup c.archive
            else (true, some c.archive)
        else cleanup []
      else (false, none)
  else (false, none)

/-! ## What is written -/

/-- A copy that is complete is the source. -/
theorem copyStream_complete {calls : AppendCalls} {call : ℕ} {destination source : List UInt8}
    (h : (copyStream calls call destination source).2 = true) :
    (copyStream calls call destination source).1 = destination ++ source := by
  fun_induction copyStream calls call destination source with
  | case1 call destination source buffer hwrite => cases h
  | case2 call destination source buffer hwrite hlast =>
    have hbuffer : buffer = source.take bufferSize := by
      simp only [buffer]
      rw [Option.isNone_iff_eq_none.mp h]
    have hsource : source.take bufferSize = source := by
      rw [hbuffer, List.length_take] at hlast
      exact List.take_of_length_le (by omega)
    rw [hbuffer, hsource]
  | case3 call destination source buffer hwrite hfull ih =>
    have hbuffer : buffer = source.take bufferSize := by
      simp only [buffer] at hfull ⊢
      split
      · rfl
      · next n hn =>
        rw [hn] at hfull
        simp only [List.length_take] at hfull
        rw [List.take_take]
        congr 1
        omega
    rw [ih h, hbuffer, List.append_assoc, List.take_append_drop]

/-- Without a failing call the copy is complete. -/
theorem copyStream_succeeds {calls : AppendCalls} (hread : ∀ i, calls.fread i = none)
    (hwrite : ∀ i, calls.fwrite i = true) (call : ℕ) (destination source : List UInt8) :
    (copyStream calls call destination source).2 = true := by
  fun_induction copyStream calls call destination source with
  | case1 call destination source buffer hfailed =>
    rw [hwrite] at hfailed
    cases hfailed.2
  | case2 call destination source buffer hwritten hlast => simp [hread]
  | case3 call destination source buffer hwritten hfull ih => exact ih

theorem appendFile_complete {calls : AppendCalls} {destination source : List UInt8}
    (h : (appendFile calls destination source).2 = true) :
    (appendFile calls destination source).1 = destination ++ source := by
  cases hopen : calls.fopen with
  | false => simp [appendFile, hopen] at h
  | true =>
    simp only [appendFile, hopen, if_true, Bool.and_eq_true] at h ⊢
    exact copyStream_complete h.1

theorem appendFile_succeeds {calls : AppendCalls} (hopen : calls.fopen = true)
    (hread : ∀ i, calls.fread i = none) (hwrite : ∀ i, calls.fwrite i = true)
    (hclose : calls.fclose = true) (destination source : List UInt8) :
    appendFile calls destination source = (destination ++ source, true) := by
  have hok : (appendFile calls destination source).2 = true := by
    simp [appendFile, hopen, hclose, copyStream_succeeds hread hwrite]
  exact Prod.ext (appendFile_complete hok) hok

/-- What the builder writes when it goes on. -/
theorem writeRun_eq {calls : RunCalls} {stub payload file : List UInt8}
    (h : writeRun calls stub payload = some file) :
    file = stub ++ payload ++ payloadFooter payload.length := by
  simp only [writeRun] at h
  split at h
  · cases h
  split at h
  · split at h
    · next hstub =>
      split at h
      · next hpayload =>
        simp only [Bool.and_eq_true] at hpayload
        rw [appendFile_complete hpayload.1.1.1.1.1, appendFile_complete hstub] at h
        exact (Option.some.inj h).symm
      · cases h
    · cases h
  · cases h

/-! ## What is copied -/

/-- The inner loop writes the buffer, or stops at an error. -/
theorem writeBuffer_complete {calls : CopyCalls} {c : Copying} {buffer : List UInt8}
    (h : (writeBuffer calls c buffer).2 = true) :
    (writeBuffer calls c buffer).1.archive = c.archive ++ buffer := by
  fun_induction writeBuffer calls c buffer with
  | case1 c => rw [List.append_nil]
  | case2 c b rest hwrite => cases h
  | case3 c b rest n hwrite ih =>
    rw [ih h, List.append_assoc, List.take_succ_cons, List.cons_append, List.take_append_drop]

theorem writeBuffer_succeeds {calls : CopyCalls} (hwrite : ∀ i, calls.write i ≠ none) (c : Copying)
    (buffer : List UInt8) : (writeBuffer calls c buffer).2 = true := by
  fun_induction writeBuffer calls c buffer with
  | case1 c => rfl
  | case2 c b rest hnone => exact absurd hnone (hwrite _)
  | case3 c b rest n hsome ih => exact ih

/-- The outer loop appends what remains to be read, or stops at an error. -/
theorem copyLoop_complete {calls : CopyCalls} {c : Copying} {input : List UInt8} {remaining : ℕ}
    (h : (copyLoop calls c input remaining).2 = true) :
    (copyLoop calls c input remaining).1.archive = c.archive ++ input.take remaining := by
  fun_induction copyLoop calls c input remaining with
  | case1 c input => simp
  | case2 c input remaining hmore hread => cases h
  | case3 c input remaining hmore n hread buffer hempty => cases h
  | case4 c input remaining hmore n hread buffer hbuffer c' hwrite => cases h
  | case5 c input remaining hmore n hread buffer hbuffer c' hwrite ih =>
    have harchive : c'.archive = c.archive ++ buffer := by
      have hcomplete := writeBuffer_complete (congrArg Prod.snd hwrite)
      rwa [hwrite] at hcomplete
    have hlength : buffer.length ≤ remaining := by
      simp only [buffer, List.length_take]
      omega
    have htake : buffer = input.take buffer.length :=
      List.prefix_iff_eq_take.mp (List.take_prefix _ _)
    calc (copyLoop calls c' (input.drop buffer.length) (remaining - buffer.length)).1.archive
        = c.archive ++ buffer ++ (input.drop buffer.length).take (remaining - buffer.length) := by
          rw [ih h, harchive]
      _ = c.archive ++ (input.take buffer.length ++
            (input.drop buffer.length).take (remaining - buffer.length)) := by
          rw [List.append_assoc, ← htake]
      _ = c.archive ++ input.take remaining := by
          rw [← List.take_add, Nat.add_sub_cancel' hlength]

/-- Without a failing call, what the input has is copied. -/
theorem copyLoop_succeeds {calls : CopyCalls} (hread : ∀ i, calls.read i ≠ none)
    (hwrite : ∀ i, calls.write i ≠ none) (c : Copying) {input : List UInt8} {remaining : ℕ}
    (h : remaining ≤ input.length) : (copyLoop calls c input remaining).2 = true := by
  fun_induction copyLoop calls c input remaining with
  | case1 c input => rfl
  | case2 c input remaining hmore hnone => exact absurd hnone (hread _)
  | case3 c input remaining hmore n hsome buffer hempty =>
    have hlength : buffer.length = 0 := by rw [hempty, List.length_nil]
    simp only [buffer, List.length_take, bufferSize] at hlength
    omega
  | case4 c input remaining hmore n hsome buffer hbuffer c' hfailed =>
    have hwritten := writeBuffer_succeeds hwrite { c with reads := c.reads + 1 } buffer
    rw [hfailed] at hwritten
    cases hwritten
  | case5 c input remaining hmore n hsome buffer hbuffer c' hwritten ih =>
    refine ih ?_
    rw [List.length_drop]
    omega

/-! ## The round trip -/

/-- No call reports an error. -/
structure CopyCalls.NoError (calls : CopyCalls) : Prop where
  opens : calls.opens = true
  fstat : calls.fstat = true
  pread : calls.pread ≠ none
  mkstemp : calls.mkstemp = true
  fchmod : calls.fchmod = true
  lseek : calls.lseek = true
  read : ∀ i, calls.read i ≠ none
  write : ∀ i, calls.write i ≠ none
  fsync : calls.fsync = true
  unlink : calls.unlink = true

/-- The one read of the footer brings all of it. -/
def CopyCalls.WholeFooter (calls : CopyCalls) : Prop := ∀ n ∈ calls.pread, footerSize ≤ n + 1

/-- `copy_payload` leaves this payload, or reports failure and leaves nothing; an
unlink that fails itself is the only way to leave anything else. -/
def CopiesOrReports (calls : CopyCalls) (file payload : List UInt8) : Prop :=
  copyPayload calls file = (true, some payload) ∨
    (copyPayload calls file).1 = false ∧
      (calls.unlink = true → (copyPayload calls file).2 = none)

/-- The scan finds the payload of a file that the builder writes. -/
theorem payloadBounds_built {stub payload : List UInt8} (hstub : stub ≠ [])
    (hpayload : payload ≠ [])
    (hfits : stub.length + payload.length + footerSize < 2 ^ 63) :
    payloadBounds (stub ++ payload ++ payloadFooter payload.length) =
      some ((stub.length : ℤ), payload.length) := by
  have hstub := List.length_pos_iff.mpr hstub
  have hpayload := List.length_pos_iff.mpr hpayload
  simp only [footerSize] at hfits
  have hlength : (stub ++ payload).length = stub.length + payload.length := List.length_append
  rw [payloadBounds_of_fits (by omega) (by omega), if_pos ⟨hpayload, by omega⟩, hlength]
  congr 2
  omega

/-- The scan of the installer reads what the builder wrote, or reads nothing. -/
theorem scanPayload_cases (calls : CopyCalls) (file : List UInt8) :
    scanPayload calls file = none ∨ scanPayload calls file = payloadBounds file := by
  simp only [scanPayload]
  repeat' split
  all_goals simp

/-- Whatever the calls do, the archive is the payload or there is none. -/
theorem copiesOrReports_of_bounds (calls : CopyCalls) {file payload : List UInt8} {start : ℤ}
    {size : ℕ} (hbounds : payloadBounds file = some (start, size))
    (hpayload : (file.drop start.toNat).take size = payload) :
    CopiesOrReports calls file payload := by
  have reports : ∀ archive : List UInt8, calls.unlink = true →
      (if calls.unlink then none else some archive) = none := fun _ h => if_pos h
  simp only [CopiesOrReports, copyPayload]
  split
  · rcases scanPayload_cases calls file with hscan | hscan
    · simp [hscan]
    · rw [hscan, hbounds]
      simp only
      split
      · split
        · generalize hcopy : copyLoop calls ⟨0, 0, []⟩ (file.drop start.toNat) size = copy
          obtain ⟨c, ok⟩ := copy
          cases ok with
          | false => exact .inr ⟨rfl, reports c.archive⟩
          | true =>
            have harchive := copyLoop_complete (congrArg Prod.snd hcopy)
            rw [hcopy, hpayload, List.nil_append] at harchive
            simp only
            split
            · exact .inr ⟨rfl, reports c.archive⟩
            · exact .inl (by rw [← harchive])
        · exact .inr ⟨rfl, reports []⟩
      · exact .inr ⟨rfl, fun _ => rfl⟩
  · exact .inr ⟨rfl, fun _ => rfl⟩

/-- When no call fails, it is the payload. -/
theorem copyPayload_succeeds {calls : CopyCalls} (h : calls.NoError) (hfooter : calls.WholeFooter)
    {file payload : List UInt8} {start : ℤ} {size : ℕ}
    (hbounds : payloadBounds file = some (start, size))
    (hpayload : (file.drop start.toNat).take size = payload)
    (hinside : size ≤ (file.drop start.toNat).length) :
    copyPayload calls file = (true, some payload) := by
  have hscan : scanPayload calls file = some (start, size) := by
    simp only [scanPayload, h.fstat, if_true]
    cases hpread : calls.pread with
    | none => exact absurd hpread h.pread
    | some n =>
      have hwhole := hfooter n hpread
      simp only
      rw [if_neg (Nat.not_lt.mpr hwhole), hbounds]
  have hcopy := copyLoop_succeeds h.read h.write ⟨0, 0, []⟩ hinside
  have harchive := copyLoop_complete hcopy
  rw [hpayload, List.nil_append] at harchive
  generalize hloop : copyLoop calls ⟨0, 0, []⟩ (file.drop start.toNat) size = copy at hcopy harchive
  obtain ⟨c, ok⟩ := copy
  cases hcopy
  simp [copyPayload, h.opens, hscan, h.mkstemp, h.fchmod, h.lseek, hloop, h.fsync, ← harchive,
    archiveCapacity, temporaryLength]

/-- The file that the builder writes is read back, however its bytes are transferred. -/
theorem installer_round_trip {run : RunCalls} {stub payload file : List UInt8} (hstub : stub ≠ [])
    (hpayload : payload ≠ []) (hfits : stub.length + payload.length + footerSize < 2 ^ 63)
    (hbuilt : writeRun run stub payload = some file) :
    payloadBounds file = some ((stub.length : ℤ), payload.length) ∧
      ∀ calls : CopyCalls, CopiesOrReports calls file payload ∧
        (calls.NoError → calls.WholeFooter → copyPayload calls file = (true, some payload)) := by
  have hfile := writeRun_eq hbuilt
  have hbounds := payloadBounds_built hstub hpayload hfits
  rw [← hfile] at hbounds
  have hdrop : file.drop (stub.length : ℤ).toNat = payload ++ payloadFooter payload.length := by
    rw [hfile, List.append_assoc, Int.toNat_natCast, List.drop_left]
  have htake : (file.drop (stub.length : ℤ).toNat).take payload.length = payload := by
    rw [hdrop, List.take_left]
  refine ⟨hbounds, fun calls => ⟨copiesOrReports_of_bounds calls hbounds htake, ?_⟩⟩
  intro hcalls hfooter
  refine copyPayload_succeeds hcalls hfooter hbounds htake ?_
  rw [hdrop, List.length_append]
  omega

/-! ### One file -/

/-- Calls that never fail, on a source file of the builder. -/
def AppendCalls.good : AppendCalls := ⟨true, fun _ => none, fun _ => true, true⟩

/-- Calls that never fail, on the `.run` file. -/
def RunCalls.good : RunCalls := ⟨true, true, .good, .good, true, true, true, true, true⟩

/-- Calls that never fail and read or write one byte at a time, the footer apart. -/
def CopyCalls.bytewise : CopyCalls :=
  ⟨true, true, some 31, true, true, true, fun _ => some 0, fun _ => some 0, true, true⟩

theorem writeRun_good (stub : List UInt8) {payload : List UInt8} (hpayload : payload ≠ []) :
    writeRun .good stub payload = some (stub ++ payload ++ payloadFooter payload.length) := by
  have happend : ∀ destination source : List UInt8,
      appendFile .good destination source = (destination ++ source, true) :=
    appendFile_succeeds rfl (fun _ => rfl) (fun _ => rfl) rfl
  have hlength : payload.length ≠ 0 := mt List.length_eq_zero_iff.mp hpayload
  simp [writeRun, RunCalls.good, happend, hlength]

theorem CopyCalls.bytewise_noError : CopyCalls.bytewise.NoError where
  opens := rfl
  fstat := rfl
  pread := nofun
  mkstemp := rfl
  fchmod := rfl
  lseek := rfl
  read := nofun
  write := nofun
  fsync := rfl
  unlink := rfl

/-- A payload that is itself a footer, copied byte by byte. -/
theorem installer_round_trip_footer :
    payloadBounds ([127, 69] ++ payloadFooter 3 ++ payloadFooter 32) = some (2, 32) ∧
      copyPayload .bytewise ([127, 69] ++ payloadFooter 3 ++ payloadFooter 32) =
        (true, some (payloadFooter 3)) := by
  have hpayload : payloadFooter 3 ≠ [] := by decide
  have hbuilt := writeRun_good [127, 69] hpayload
  have h := installer_round_trip (by decide) hpayload (by simp [footerSize]) hbuilt
  rw [length_payloadFooter] at h
  refine ⟨h.1, (h.2 .bytewise).2 CopyCalls.bytewise_noError ?_⟩
  rintro n ⟨⟩
  decide

/-- The footer is read with one call: cut short, it is not a footer. -/
theorem installer_round_trip_counterexample :
    ¬ ∀ (run : RunCalls) (stub payload file : List UInt8), stub ≠ [] → payload ≠ [] →
      stub.length + payload.length + footerSize < 2 ^ 63 →
      writeRun run stub payload = some file →
      payloadBounds file = some ((stub.length : ℤ), payload.length) ∧
        ∀ calls : CopyCalls, CopiesOrReports calls file payload ∧
          (calls.NoError → copyPayload calls file = (true, some payload)) := by
  intro h
  have hfile := (h .good [127] [1] _ nofun nofun (by decide) (writeRun_good [127] nofun)).2
    { CopyCalls.bytewise with pread := some 15 }
  have hcopy := hfile.2 { CopyCalls.bytewise_noError with pread := nofun }
  simp [copyPayload, scanPayload, CopyCalls.bytewise, footerSize] at hcopy

end SystemSettings
