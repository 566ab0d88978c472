import Hardess.Lib.Machine

/-!
# Readable streams

A stream of the Streams Standard with the default queuing strategy, whose source reads another
reader: each pull makes one read, and hands over what that read gives.

* `Stream.read`, `Stream.cancel`, `Stream.settle`: the calls of the consumer, and the answer of the
  read that a pull awaits;
* `Stream.Valid`: what holds in every state of a stream; what is given is what was taken, in order;
* `Pipe`: a stream whose source reads another stream, with the answers that are on their way;
* `Pipe.Valid`: the two streams together, and **`Pipe.Valid.given_prefix`**.

`taken` and `given` are the results that the source took and that the consumer was given, in
order; they are counted for the statements.
-/

namespace ReadableStream

variable {α : Type*}

/-- What a read gives. -/
inductive ReadResult (α : Type*)
  | chunk (value : α)
  | done
  | failed
  deriving DecidableEq

/-- The chunk of a result. -/
def ReadResult.value? : ReadResult α → Option α
  | .chunk value => some value
  | _ => none

/-- The chunks among results. -/
def chunks (results : List (ReadResult α)) : List α := results.filterMap ReadResult.value?

@[simp] theorem chunks_nil : chunks ([] : List (ReadResult α)) = [] := rfl

@[simp] theorem chunks_append (results results' : List (ReadResult α)) :
    chunks (results ++ results') = chunks results ++ chunks results' := List.filterMap_append

@[simp] theorem chunks_chunk (value : α) : chunks [.chunk value] = [value] := rfl

@[simp] theorem chunks_replicate_done (n : ℕ) :
    chunks (List.replicate n (.done : ReadResult α)) = [] := by
  simp [chunks, ReadResult.value?]

@[simp] theorem chunks_replicate_failed (n : ℕ) :
    chunks (List.replicate n (.failed : ReadResult α)) = [] := by
  simp [chunks, ReadResult.value?]

@[simp] theorem chunks_done : chunks [(.done : ReadResult α)] = [] := rfl

@[simp] theorem chunks_failed : chunks [(.failed : ReadResult α)] = [] := rfl

theorem chunks_mono {results results' : List (ReadResult α)} (h : results <+: results') :
    chunks results <+: chunks results' := by
  obtain ⟨rest, rfl⟩ := h
  exact ⟨chunks rest, (chunks_append _ _).symm⟩

/-- The state of a stream. -/
inductive State
  | readable
  | closed
  | errored
  deriving DecidableEq

/-- A stream and its controller. -/
structure Stream (α : Type*) where
  state : State := .readable
  queue : List α := []
  started : Bool := false
  closeRequested : Bool := false
  cancelled : Bool := false
  pulling : Bool := false
  pullAgain : Bool := false
  readRequests : ℕ := 0
  taken : List (ReadResult α) := []
  given : List (ReadResult α) := []

namespace Stream

variable (s : Stream α)

/-- The default strategy holds one chunk. -/
def highWaterMark : ℕ := 1

/-- May the controller close or enqueue? -/
def canCloseOrEnqueue : Bool := s.state = .readable && !s.closeRequested

/-- Should the source be asked for a chunk? -/
def shouldCallPull : Bool :=
  s.canCloseOrEnqueue && s.started && (0 < s.readRequests || s.queue.length < highWaterMark)

/-- Ask the source if it should be asked; it is told so once at a time. -/
def callPullIfNeeded : Stream α × Bool :=
  if !s.shouldCallPull then (s, false)
  else if s.pulling then ({ s with pullAgain := true }, false)
  else ({ s with pulling := true }, true)

/-- The start algorithm is done. -/
def start : Stream α × Bool := callPullIfNeeded { s with started := true }

/-- The stream closes: the reads that wait are done. -/
def finish : Stream α :=
  { s with
    state := .closed, readRequests := 0, given := s.given ++ List.replicate s.readRequests .done }

/-- `controller.enqueue`; it throws when the stream takes no chunks. -/
def enqueue (value : α) : Stream α :=
  if !s.canCloseOrEnqueue then s
  else if 0 < s.readRequests then
    (callPullIfNeeded
      { s with readRequests := s.readRequests - 1, given := s.given ++ [.chunk value] }).1
  else (callPullIfNeeded { s with queue := s.queue ++ [value] }).1

/-- `controller.close`; it throws when the stream takes no chunks. -/
def close : Stream α :=
  if !s.canCloseOrEnqueue then s
  else if s.queue = [] then finish { s with closeRequested := true }
  else { s with closeRequested := true }

/-- `controller.error`: what is queued is lost. -/
def error : Stream α :=
  if s.state ≠ .readable then s
  else
    { s with
      state := .errored, queue := [], readRequests := 0
      given := s.given ++ List.replicate s.readRequests .failed }

/-- The promise of the pull is fulfilled. -/
def pullFulfilled : Stream α × Bool :=
  if s.pullAgain then callPullIfNeeded { s with pulling := false, pullAgain := false }
  else ({ s with pulling := false }, false)

/-- What the source does with a result. -/
def hand (result : ReadResult α) : Stream α :=
  match result with
  | .chunk value => s.enqueue value
  | .done => s.close
  | .failed => s.error

/-- The read that a pull awaits has its result. -/
def settle (result : ReadResult α) : Stream α × Bool :=
  (hand { s with taken := s.taken ++ [result] } result).pullFulfilled

/-- `reader.read`. -/
def read : Stream α × Bool :=
  match s.state with
  | .closed => ({ s with given := s.given ++ [.done] }, false)
  | .errored => ({ s with given := s.given ++ [.failed] }, false)
  | .readable =>
    match s.queue with
    | [] => callPullIfNeeded { s with readRequests := s.readRequests + 1 }
    | value :: queue =>
      let s := { s with queue, given := s.given ++ [ReadResult.chunk value] }
      if s.closeRequested ∧ queue = [] then (s.finish, false) else s.callPullIfNeeded

/-- `reader.cancel`. -/
def cancel : Stream α :=
  if s.state ≠ .readable then s else { s.finish with queue := [], cancelled := true }

/-! ### What holds of a stream -/

/-- What holds of a stream that started with some chunks in its queue, while an operation runs. -/
structure Sound (first : List α) (s : Stream α) : Prop where
  waiting : 0 < s.readRequests → s.state = .readable ∧ s.queue = []
  relayed : s.state = .readable → chunks s.given ++ s.queue = first ++ chunks s.taken
  given_prefix : chunks s.given <+: first ++ chunks s.taken
  done : .done ∈ s.given → s.state = .closed
  failed : .failed ∈ s.given → s.state = .errored
  closed : s.state = .closed → s.cancelled = false →
    s.closeRequested = true ∧ chunks s.given = first ++ chunks s.taken
  errored : s.state = .errored → .failed ∈ s.taken
  closing : s.closeRequested = true → .done ∈ s.taken ∧ s.pulling = false

/-- A stream that is to close has chunks left. -/
def Drains (s : Stream α) : Prop := s.state = .readable → s.closeRequested = true → s.queue ≠ []

/-- What holds between operations: the source is asked when it should be. -/
structure Valid (first : List α) (s : Stream α) : Prop extends Sound first s where
  drains : s.Drains
  asked : s.shouldCallPull = true → s.pulling = true

variable {s : Stream α} {first : List α}

theorem canCloseOrEnqueue_eq_true :
    s.canCloseOrEnqueue = true ↔ s.state = .readable ∧ s.closeRequested = false := by
  simp [canCloseOrEnqueue]

theorem shouldCallPull_eq_true : s.shouldCallPull = true ↔
    (s.state = .readable ∧ s.closeRequested = false) ∧ s.started = true ∧
      (0 < s.readRequests ∨ s.queue.length < highWaterMark) := by
  simp [shouldCallPull, canCloseOrEnqueue_eq_true, and_assoc]

theorem valid_create (first : List α) : Valid first { queue := first } where
  waiting h := absurd h (lt_irrefl 0)
  relayed _ := by simp
  given_prefix := by simp
  done h := by simp at h
  failed h := by simp at h
  closed h := by simp at h
  errored h := by simp at h
  closing h := by simp at h
  drains _ h := by simp at h
  asked h := by simp [shouldCallPull] at h

theorem Sound.pulling (h : Sound first s) (hopen : s.closeRequested = false) (pulling pullAgain) :
    Sound first { s with pulling, pullAgain } where
  __ := h
  closing hc := absurd hc (by simp [hopen])

theorem Sound.callPullIfNeeded (h : Sound first s) (hd : s.Drains) :
    Valid first s.callPullIfNeeded.1 := by
  unfold Stream.callPullIfNeeded
  split_ifs with hshould hpulling
  · exact { h with drains := hd, asked := fun hs => absurd hs (by simpa using hshould) }
  · have hopen := (shouldCallPull_eq_true.1 (by simpa using hshould)).1.2
    exact { h.pulling hopen _ _ with drains := hd, asked := fun _ => hpulling }
  · have hopen := (shouldCallPull_eq_true.1 (by simpa using hshould)).1.2
    exact { h.pulling hopen _ _ with drains := hd, asked := fun _ => rfl }

theorem Valid.start (h : Valid first s) : Valid first s.start.1 :=
  Sound.callPullIfNeeded { h.toSound with } h.drains

/-- The reads that wait are given no chunks. -/
theorem Sound.finish (h : Sound first s) (hstate : s.state = .readable)
    (hclose : s.cancelled = false → s.closeRequested = true ∧ s.queue = []) :
    Sound first s.finish where
  waiting hr := absurd hr (lt_irrefl 0)
  relayed hs := by cases hs
  given_prefix := by simpa [Stream.finish] using h.given_prefix
  done _ := rfl
  failed hf := by
    simp only [Stream.finish, List.mem_append, List.mem_replicate] at hf
    rcases hf with hf | ⟨-, hf⟩
    · exact absurd (h.failed hf) (by simp [hstate])
    · cases hf
  closed _ hc := by
    obtain ⟨hclosing, hqueue⟩ := hclose hc
    refine ⟨hclosing, ?_⟩
    simpa [Stream.finish, hqueue] using h.relayed hstate
  errored he := by cases he
  closing := h.closing

theorem Valid.cancel (h : Valid first s) : Valid first s.cancel := by
  unfold Stream.cancel
  split_ifs with hstate
  · exact h
  · have hreadable : s.state = .readable := by simpa using hstate
    have hs : Sound first { s with cancelled := true } :=
      { h.toSound with closed := fun hc => absurd hc (by simp [hreadable]) }
    exact { (hs.finish hreadable nofun) with
      drains := nofun
      relayed := nofun
      waiting := fun hr => absurd hr (lt_irrefl 0)
      asked := fun ha => absurd (shouldCallPull_eq_true.1 ha).1.1 nofun }

theorem Valid.read (h : Valid first s) : Valid first s.read.1 := by
  unfold Stream.read
  split
  · -- a closed stream
    rename_i hstate
    refine { h with
      waiting := fun hr => absurd (h.waiting hr).1 (by simp [hstate])
      relayed := fun hs => absurd hs (by simp [hstate])
      given_prefix := by simpa using h.given_prefix
      done := fun _ => hstate
      failed := fun hf => ?_
      closed := fun hs hc => by simpa using h.closed hs hc }
    simp only [List.mem_append, List.mem_singleton, reduceCtorEq, or_false] at hf
    exact h.failed hf
  · -- a stream that failed
    rename_i hstate
    refine { h with
      waiting := fun hr => absurd (h.waiting hr).1 (by simp [hstate])
      relayed := fun hs => absurd hs (by simp [hstate])
      given_prefix := by simpa using h.given_prefix
      done := fun hd => ?_
      failed := fun _ => hstate
      closed := fun hs => absurd hs (by simp [hstate]) }
    simp only [List.mem_append, List.mem_singleton, reduceCtorEq, or_false] at hd
    exact h.done hd
  · rename_i hstate
    split
    · -- nothing is queued, so the read waits
      rename_i hqueue
      exact Sound.callPullIfNeeded { h.toSound with waiting := fun _ => ⟨hstate, hqueue⟩ } h.drains
    · rename_i value queue hqueue
      -- no read waits while something is queued
      have hnone : s.readRequests = 0 := by
        by_contra hr
        exact absurd (h.waiting (Nat.pos_of_ne_zero hr)).2 (by simp [hqueue])
      have hrelayed := h.relayed hstate
      rw [hqueue] at hrelayed
      have hs : Sound first { s with queue, given := s.given ++ [ReadResult.chunk value] } :=
        { h.toSound with
          waiting := fun hr => absurd hr (by simp [hnone])
          relayed := fun _ => by simpa using hrelayed
          given_prefix := ⟨queue, by simpa using hrelayed⟩
          done := fun hd => h.done (by simpa using hd)
          failed := fun hf => h.failed (by simpa using hf)
          closed := fun hc => absurd hc (by simp [hstate]) }
      dsimp only
      split_ifs with hlast
      · exact { hs.finish hstate fun _ => hlast with
          drains := nofun
          asked := fun ha => absurd (shouldCallPull_eq_true.1 ha).1.1 nofun }
      · exact hs.callPullIfNeeded fun _ hc hq => hlast ⟨hc, hq⟩

theorem callPullIfNeeded_of_pulling (h : s.pulling = true) :
    s.callPullIfNeeded.1 = { s with pullAgain := s.shouldCallPull || s.pullAgain } := by
  obtain ⟨⟩ := s
  cases h
  unfold callPullIfNeeded
  split_ifs with hshould <;> simp_all

/-- What an operation leaves to do when the promise of a pull is about to be fulfilled. -/
structure Handed (first : List α) (s : Stream α) : Prop where
  sound : Sound first { s with pulling := false }
  drains : s.Drains
  again : s.shouldCallPull = true → s.pullAgain = true

/-- A stream that takes nothing more drops what its source hands over. -/
theorem Valid.handed_drop (h : Valid first s) (hopen : s.closeRequested = false)
    (hstate : s.state ≠ .readable) (result : ReadResult α) :
    Handed first { s with taken := s.taken ++ [result] } where
  sound :=
    { h.toSound with
      relayed := fun hs => absurd hs hstate
      given_prefix := h.given_prefix.trans (by simp [← List.append_assoc])
      closed := fun hs hc => absurd (h.closed hs hc).1 (by simp [hopen])
      errored := fun he => List.mem_append_left _ (h.errored he)
      closing := fun hc => absurd hc (by simp [hopen]) }
  drains hs := absurd hs hstate
  again ha := absurd (shouldCallPull_eq_true.1 ha).1.1 hstate

theorem Valid.handed_chunk (h : Valid first s) (hpulling : s.pulling = true)
    (hopen : s.closeRequested = false) (hstate : s.state = .readable) (value : α) :
    Handed first (Stream.enqueue { s with taken := s.taken ++ [.chunk value] } value) := by
  have hrelayed := h.relayed hstate
  -- the source has not asked for the end of the stream
  have hcan : canCloseOrEnqueue { s with taken := s.taken ++ [.chunk value] } = true :=
    canCloseOrEnqueue_eq_true.2 ⟨hstate, hopen⟩
  unfold enqueue
  rw [hcan, Bool.not_true, if_neg Bool.false_ne_true]
  split_ifs with hwaiting
  · -- the first read that waits is given the chunk
    have hqueue : s.queue = [] := (h.waiting hwaiting).2
    rw [callPullIfNeeded_of_pulling (by exact hpulling)]
    refine ⟨{ h.toSound with
      waiting := fun _ => ⟨hstate, hqueue⟩
      relayed := fun _ => ?_
      given_prefix := ?_
      done := fun hd => h.done (by simpa using hd)
      failed := fun hf => h.failed (by simpa using hf)
      closed := fun hs => absurd hs (by simp [hstate])
      errored := fun he => absurd he (by simp [hstate])
      closing := fun hc => absurd hc (by simp [hopen]) },
      fun _ hc => absurd hc (by simp [hopen]), fun ha => by simpa using .inl ha⟩
    · simpa [hqueue, ← List.append_assoc] using hrelayed
    · rw [hqueue, List.append_nil] at hrelayed
      simp [hrelayed]
  · rw [callPullIfNeeded_of_pulling (by exact hpulling)]
    refine ⟨{ h.toSound with
      waiting := fun hr => absurd hr hwaiting
      relayed := fun _ => ?_
      given_prefix := h.given_prefix.trans (by simp [← List.append_assoc])
      closed := fun hs => absurd hs (by simp [hstate])
      errored := fun he => absurd he (by simp [hstate])
      closing := fun hc => absurd hc (by simp [hopen]) },
      fun _ hc => absurd hc (by simp [hopen]), fun ha => by simpa using .inl ha⟩
    simp [← List.append_assoc, hrelayed]

theorem Valid.handed_done (h : Valid first s) (hopen : s.closeRequested = false)
    (hstate : s.state = .readable) :
    Handed first (Stream.close { s with taken := s.taken ++ [.done] }) := by
  have hrelayed := h.relayed hstate
  have hcan : canCloseOrEnqueue { s with taken := s.taken ++ [.done] } = true :=
    canCloseOrEnqueue_eq_true.2 ⟨hstate, hopen⟩
  have hs : Sound first
      { s with taken := s.taken ++ [.done], closeRequested := true, pulling := false } :=
    { h.toSound with
      relayed := fun _ => by simpa using hrelayed
      given_prefix := by simpa using h.given_prefix
      closed := fun hs => absurd hs (by simp [hstate])
      errored := fun he => absurd he (by simp [hstate])
      closing := fun _ => ⟨by simp, rfl⟩ }
  unfold close
  rw [hcan, Bool.not_true, if_neg Bool.false_ne_true]
  split_ifs with hqueue
  · exact ⟨hs.finish hstate fun _ => ⟨rfl, hqueue⟩, nofun,
      fun ha => absurd (shouldCallPull_eq_true.1 ha).1.1 nofun⟩
  · exact ⟨hs, fun _ _ => hqueue, fun ha => absurd (shouldCallPull_eq_true.1 ha).1.2 nofun⟩

theorem Valid.handed_failed (h : Valid first s) (hopen : s.closeRequested = false)
    (hstate : s.state = .readable) :
    Handed first (Stream.error { s with taken := s.taken ++ [.failed] }) := by
  unfold error
  rw [if_neg (by simpa using hstate)]
  refine ⟨{
    waiting := fun hr => absurd hr (lt_irrefl 0)
    relayed := nofun
    given_prefix := by simpa using h.given_prefix
    done := fun hd => ?_
    failed := fun _ => rfl
    closed := nofun
    errored := fun _ => by simp
    closing := fun hc => absurd hc (by simp [hopen]) }, nofun,
    fun ha => absurd (shouldCallPull_eq_true.1 ha).1.1 nofun⟩
  simp only [List.mem_append, List.mem_replicate, reduceCtorEq, and_false, or_false] at hd
  exact absurd (h.done hd) (by simp [hstate])

/-- What a source hands over while it is asked. -/
theorem Valid.handed (h : Valid first s) (hpulling : s.pulling = true) (result : ReadResult α) :
    Handed first (Stream.hand { s with taken := s.taken ++ [result] } result) := by
  have hopen : s.closeRequested = false := by
    by_contra hc
    have := (h.closing (by simpa using hc)).2
    simp [hpulling] at this
  by_cases hstate : s.state = .readable
  · cases result with
    | chunk value => exact h.handed_chunk hpulling hopen hstate value
    | done => exact h.handed_done hopen hstate
    | failed => exact h.handed_failed hopen hstate
  · have hsame : Stream.hand { s with taken := s.taken ++ [result] } result =
        { s with taken := s.taken ++ [result] } := by
      cases result <;> simp [hand, enqueue, close, error, canCloseOrEnqueue, hstate]
    rw [hsame]
    exact h.handed_drop hopen hstate result

theorem Valid.settle (h : Valid first s) (hpulling : s.pulling = true) (result : ReadResult α) :
    Valid first (s.settle result).1 := by
  obtain ⟨hs, hd, hagain⟩ := h.handed hpulling result
  unfold Stream.settle Stream.pullFulfilled
  split_ifs with ha
  · exact Sound.callPullIfNeeded { hs with } hd
  · exact { hs with drains := hd, asked := fun hask => absurd (hagain hask) ha }

/-- A read that waits has asked the source. -/
theorem Valid.pulling (h : Valid first s) (hstarted : s.started = true) (hr : 0 < s.readRequests) :
    s.pulling = true := by
  obtain ⟨hstate, hqueue⟩ := h.waiting hr
  refine h.asked (shouldCallPull_eq_true.2 ⟨⟨hstate, ?_⟩, hstarted, .inl hr⟩)
  by_contra hc
  exact h.drains hstate (by simpa using hc) hqueue

/-! ### What a stream still takes -/

@[simp] theorem canCloseOrEnqueue_callPullIfNeeded (s : Stream α) :
    s.callPullIfNeeded.1.canCloseOrEnqueue = s.canCloseOrEnqueue := by
  unfold callPullIfNeeded
  split_ifs <;> rfl

@[simp] theorem canCloseOrEnqueue_pullFulfilled (s : Stream α) :
    s.pullFulfilled.1.canCloseOrEnqueue = s.canCloseOrEnqueue := by
  unfold pullFulfilled
  split_ifs
  · exact canCloseOrEnqueue_callPullIfNeeded _
  · rfl

theorem canCloseOrEnqueue_start (s : Stream α) :
    s.start.1.canCloseOrEnqueue = s.canCloseOrEnqueue := canCloseOrEnqueue_callPullIfNeeded _

/-- Reading leaves open whether a stream takes chunks. -/
theorem canCloseOrEnqueue_read (s : Stream α) :
    s.read.1.canCloseOrEnqueue = s.canCloseOrEnqueue := by
  unfold Stream.read
  split
  · rfl
  · rfl
  · split
    · exact canCloseOrEnqueue_callPullIfNeeded _
    · dsimp only
      split_ifs with hlast
      · simp [canCloseOrEnqueue, finish, hlast.1]
      · exact canCloseOrEnqueue_callPullIfNeeded _

theorem canCloseOrEnqueue_settle_chunk (s : Stream α) (value : α) :
    (s.settle (.chunk value)).1.canCloseOrEnqueue = s.canCloseOrEnqueue := by
  rw [settle, canCloseOrEnqueue_pullFulfilled]
  show (enqueue _ value).canCloseOrEnqueue = _
  unfold enqueue
  split_ifs
  · rfl
  · exact canCloseOrEnqueue_callPullIfNeeded _
  · exact canCloseOrEnqueue_callPullIfNeeded _

/-- After the end of its source, or a failure, it takes none. -/
theorem canCloseOrEnqueue_settle_end (s : Stream α) (result : ReadResult α)
    (h : result.value? = none) : (s.settle result).1.canCloseOrEnqueue = false := by
  rw [settle, canCloseOrEnqueue_pullFulfilled]
  cases result with
  | chunk value => cases h
  | done =>
    show (close _).canCloseOrEnqueue = false
    unfold close
    split_ifs with hcan
    · simpa using hcan
    · rfl
    · simp [canCloseOrEnqueue]
  | failed =>
    show (error _).canCloseOrEnqueue = false
    unfold error
    split_ifs with hstate
    · simp [canCloseOrEnqueue, hstate]
    · rfl

theorem canCloseOrEnqueue_cancel (s : Stream α) : s.cancel.canCloseOrEnqueue = false := by
  unfold cancel
  split_ifs with hstate
  · simp [canCloseOrEnqueue, hstate]
  · rfl

/-! ### What an operation counts -/

/-- The reads that were made. -/
def reads (s : Stream α) : ℕ := s.given.length + s.readRequests

/-- An operation gives results and takes none; `made` is 1 for a read. -/
structure Gives (made : ℕ) (s s' : Stream α) : Prop where
  taken : s'.taken = s.taken
  given : s.given <+: s'.given
  reads : s'.reads = s.reads + made
  cancelled : s'.cancelled = s.cancelled

section Gives

variable {made : ℕ} {s t : Stream α}

theorem Gives.callPullIfNeeded (h : Gives made s t) : Gives made s t.callPullIfNeeded.1 := by
  unfold Stream.callPullIfNeeded
  split_ifs
  · exact h
  · exact ⟨h.taken, h.given, h.reads, h.cancelled⟩
  · exact ⟨h.taken, h.given, h.reads, h.cancelled⟩

theorem Gives.finish (h : Gives made s t) : Gives made s t.finish where
  taken := h.taken
  given := h.given.trans (List.prefix_append _ _)
  reads := by rw [← h.reads]; simp [Stream.reads, Stream.finish]
  cancelled := h.cancelled

end Gives

/-- The source is asked when it was not asked yet. -/
theorem pulling_callPullIfNeeded (s : Stream α) :
    s.callPullIfNeeded.1.pulling.toNat = s.pulling.toNat + s.callPullIfNeeded.2.toNat := by
  unfold callPullIfNeeded
  split_ifs with hshould hpulling
  · rfl
  · rfl
  · simp [hpulling]

/-- A read that is given its result at once. -/
theorem gives_result (s : Stream α) (queue : List α) (result : ReadResult α) :
    Gives 1 s { s with queue, given := s.given ++ [result] } where
  taken := rfl
  given := List.prefix_append _ _
  reads := by
    simp only [reads, List.length_append, List.length_singleton]
    omega
  cancelled := rfl

theorem gives_read (s : Stream α) : Gives 1 s s.read.1 := by
  unfold Stream.read
  split
  · exact gives_result s s.queue .done
  · exact gives_result s s.queue .failed
  · split
    · exact Gives.callPullIfNeeded ⟨rfl, List.prefix_rfl, rfl, rfl⟩
    · dsimp only
      split_ifs
      · exact (gives_result s _ _).finish
      · exact (gives_result s _ _).callPullIfNeeded

theorem gives_start (s : Stream α) : Gives 0 s s.start.1 :=
  Gives.callPullIfNeeded ⟨rfl, List.prefix_rfl, rfl, rfl⟩

theorem gives_hand (s : Stream α) (result : ReadResult α) : Gives 0 s (s.hand result) := by
  have hsame : Gives 0 s s := ⟨rfl, List.prefix_rfl, rfl, rfl⟩
  cases result with
  | chunk value =>
    show Gives 0 s (s.enqueue value)
    unfold enqueue
    split_ifs with hcan hwaiting
    · exact hsame
    · refine Gives.callPullIfNeeded ⟨rfl, List.prefix_append _ _, ?_, rfl⟩
      simp only [reads, List.length_append, List.length_singleton]
      omega
    · exact Gives.callPullIfNeeded ⟨rfl, List.prefix_rfl, rfl, rfl⟩
  | done =>
    show Gives 0 s s.close
    unfold close
    split_ifs
    · exact hsame
    · exact Gives.finish ⟨rfl, List.prefix_rfl, rfl, rfl⟩
    · exact ⟨rfl, List.prefix_rfl, rfl, rfl⟩
  | failed =>
    show Gives 0 s s.error
    unfold error
    split_ifs
    · exact hsame
    · exact ⟨rfl, List.prefix_append _ _, by simp [reads], rfl⟩

theorem Gives.pullFulfilled {made : ℕ} {s t : Stream α} (h : Gives made s t) :
    Gives made s t.pullFulfilled.1 := by
  unfold Stream.pullFulfilled
  split_ifs
  · exact Gives.callPullIfNeeded ⟨h.taken, h.given, h.reads, h.cancelled⟩
  · exact ⟨h.taken, h.given, h.reads, h.cancelled⟩

/-- After a pull the source is asked only when it is asked again. -/
theorem pulling_pullFulfilled (s : Stream α) :
    s.pullFulfilled.1.pulling.toNat = s.pullFulfilled.2.toNat := by
  unfold pullFulfilled
  split_ifs
  · rw [pulling_callPullIfNeeded]
    exact Nat.zero_add _
  · rfl

theorem pulling_read (s : Stream α) :
    s.read.1.pulling.toNat = s.pulling.toNat + s.read.2.toNat := by
  unfold Stream.read
  split
  · rfl
  · rfl
  · split
    · exact pulling_callPullIfNeeded _
    · dsimp only
      split_ifs
      · rfl
      · exact pulling_callPullIfNeeded _

theorem gives_cancel (s : Stream α) : s.given <+: s.cancel.given ∧ s.cancel.reads = s.reads ∧
    s.cancel.taken = s.taken ∧ s.cancel.pulling = s.pulling := by
  unfold cancel
  split_ifs
  · exact ⟨List.prefix_rfl, rfl, rfl, rfl⟩
  · have hfinish : Gives 0 s s.finish := Gives.finish ⟨rfl, List.prefix_rfl, rfl, rfl⟩
    exact ⟨hfinish.given, hfinish.reads, rfl, rfl⟩

/-- Settling takes a result, and gives what it can. -/
theorem gives_settle (s : Stream α) (result : ReadResult α) :
    Gives 0 { s with taken := s.taken ++ [result] } (s.settle result).1 :=
  (gives_hand _ result).pullFulfilled

end Stream

/-! ### A stream that reads another stream -/

/-- The source of the outer stream reads the inner one, on which the read that it awaits is the one
after those it has taken. -/
structure Pipe (α : Type*) where
  inner : Stream α
  outer : Stream α := {}

/-- What happens to a pipe. -/
inductive Pipe.Event (α : Type*)
  | startInner
  | startOuter
  | read
  | cancel
  /-- The read that the inner pull awaits has its result. -/
  | settle (result : ReadResult α)
  /-- The source of the outer stream goes on with the result that the inner stream gave. -/
  | deliver

namespace Pipe

variable (p : Pipe α)

/-- The outer stream did something; when its source is asked, it reads the inner stream. -/
def ask (asked : Stream α × Bool) : Pipe α where
  inner := if asked.2 then p.inner.read.1 else p.inner
  outer := asked.1

/-- The result that the source of the outer stream goes on with. -/
def next : Option (ReadResult α) := p.inner.given[p.outer.taken.length]?

/-- One event. -/
def step : Event α → Pipe α
  | .startInner => { p with inner := p.inner.start.1 }
  | .startOuter => p.ask p.outer.start
  | .read => p.ask p.outer.read
  | .cancel =>
    if p.outer.state = .readable then { inner := p.inner.cancel, outer := p.outer.cancel } else p
  | .settle result => if p.inner.pulling then { p with inner := (p.inner.settle result).1 } else p
  | .deliver =>
    match p.next with
    | some result => p.ask (p.outer.settle result)
    | none => p

/-- What holds of a pipe whose inner stream started with some chunks. -/
structure Valid (first : List α) (p : Pipe α) : Prop where
  inner : p.inner.Valid first
  outer : p.outer.Valid []
  taken : p.outer.taken <+: p.inner.given
  /-- The outer source made a read for each result that it took or awaits. -/
  reads : p.inner.reads = p.outer.taken.length + p.outer.pulling.toNat
  cancelled : p.inner.cancelled = true → p.outer.cancelled = true

variable {p : Pipe α} {first : List α}

theorem valid_create (first : List α) : Valid first { inner := { queue := first } } :=
  ⟨Stream.valid_create first, Stream.valid_create [], List.prefix_rfl, rfl, nofun⟩

theorem Valid.ask (h : Valid first p) {asked : Stream α × Bool} (houter : asked.1.Valid [])
    (htaken : asked.1.taken <+: p.inner.given)
    (hreads : p.inner.reads + asked.2.toNat = asked.1.taken.length + asked.1.pulling.toNat)
    (hcancelled : asked.1.cancelled = p.outer.cancelled) : Valid first (p.ask asked) := by
  obtain ⟨outer, asks⟩ := asked
  cases asks with
  | false => exact ⟨h.inner, houter, htaken, hreads, hcancelled ▸ h.cancelled⟩
  | true =>
    have hgives := Stream.gives_read p.inner
    exact ⟨h.inner.read, houter, htaken.trans hgives.given, hgives.reads.trans hreads, fun hc =>
      hcancelled ▸ h.cancelled (hgives.cancelled ▸ hc)⟩

theorem Valid.step (h : Valid first p) (e : Event α) : Valid first (p.step e) := by
  -- what asks the source hands nothing over by itself
  have hasked : ∀ {made : ℕ} {asked : Stream α × Bool}, asked.1.Valid [] →
      Stream.Gives made p.outer asked.1 →
      asked.1.pulling.toNat = p.outer.pulling.toNat + asked.2.toNat → Valid first (p.ask asked) :=
    fun hv hgives hpulling => h.ask hv (hgives.taken ▸ h.taken)
      (by rw [h.reads, hgives.taken, hpulling, Nat.add_assoc]) hgives.cancelled
  cases e with
  | startInner =>
    have hgives := Stream.gives_start p.inner
    exact ⟨h.inner.start, h.outer, h.taken.trans hgives.given, hgives.reads.trans h.reads,
      fun hc => h.cancelled (hgives.cancelled ▸ hc)⟩
  | startOuter =>
    exact hasked h.outer.start (Stream.gives_start p.outer) (Stream.pulling_callPullIfNeeded _)
  | read => exact hasked h.outer.read (Stream.gives_read p.outer) (Stream.pulling_read p.outer)
  | cancel =>
    show Valid first (if p.outer.state = .readable then _ else p)
    split_ifs with hstate
    · obtain ⟨hgiven, hreads, -, -⟩ := Stream.gives_cancel p.inner
      obtain ⟨-, -, htaken, hpulling⟩ := Stream.gives_cancel p.outer
      refine ⟨h.inner.cancel, h.outer.cancel, ?_, ?_, fun _ => ?_⟩
      · exact htaken ▸ h.taken.trans hgiven
      · exact htaken ▸ hpulling ▸ hreads.trans h.reads
      · simp [Stream.cancel, hstate]
    · exact h
  | settle result =>
    show Valid first (if p.inner.pulling then _ else p)
    split_ifs with hpulling
    · have hgives := Stream.gives_settle p.inner result
      exact ⟨h.inner.settle hpulling result, h.outer, h.taken.trans hgives.given,
        hgives.reads.trans h.reads, fun hc => h.cancelled (hgives.cancelled ▸ hc)⟩
    · exact h
  | deliver =>
    show Valid first (match p.next with | some result => _ | none => p)
    split
    · rename_i result hnext
      have hlt : p.outer.taken.length < p.inner.given.length := by
        by_contra hle
        rw [next, List.getElem?_eq_none (not_lt.1 hle)] at hnext
        cases hnext
      have hreads := h.reads
      -- a result that has not been taken is one that the outer stream has asked for
      have hpulling : p.outer.pulling = true := by
        by_contra hidle
        rw [Bool.not_eq_true] at hidle
        rw [hidle, Stream.reads, Bool.toNat_false] at hreads
        omega
      have hgives := Stream.gives_settle p.outer result
      refine h.ask (h.outer.settle hpulling result) ?_ ?_ hgives.cancelled
      · -- it is the next one
        obtain ⟨rest, hrest⟩ := h.taken
        rw [next, ← hrest, List.getElem?_append_right le_rfl, Nat.sub_self] at hnext
        cases rest with
        | nil => cases hnext
        | cons result' rest =>
          obtain rfl : result' = result := by simpa using hnext
          exact ⟨rest, by rw [hgives.taken, ← hrest]; simp⟩
      · rw [hgives.taken, hreads, hpulling]
        have := Stream.pulling_pullFulfilled
          (Stream.hand { p.outer with taken := p.outer.taken ++ [result] } result)
        simp only [Stream.settle, this, List.length_append, List.length_singleton, Bool.toNat_true]
    · exact h

theorem valid_run (first : List α) (es : List (Event α)) :
    Valid first (Machine.run step { inner := { queue := first } } es) :=
  Machine.run_invariant (valid_create first) (fun _ e h => h.step e) es

/-- **What the consumer of the pipe is given is what the inner source took, in order.** -/
theorem Valid.given_prefix (h : Valid first p) :
    chunks p.outer.given <+: first ++ chunks p.inner.taken :=
  h.outer.given_prefix.trans ((chunks_mono h.taken).trans h.inner.given_prefix)

/-- **A pipe that is done has given everything**, unless its consumer cancelled it. -/
theorem Valid.given_done (h : Valid first p) (hdone : .done ∈ p.outer.given)
    (hcancelled : p.outer.cancelled = false) :
    chunks p.outer.given = first ++ chunks p.inner.taken ∧ .done ∈ p.inner.taken := by
  obtain ⟨hclosing, houter⟩ := h.outer.closed (h.outer.done hdone) hcancelled
  obtain ⟨htaken, hidle⟩ := h.outer.closing hclosing
  have hinner : p.inner.cancelled = false := by
    by_contra hc
    have := h.cancelled (by simpa using hc)
    simp [hcancelled] at this
  obtain ⟨hinnerClosing, hinnerGiven⟩ :=
    h.inner.closed (h.inner.done (h.taken.subset htaken)) hinner
  -- no read of the inner stream is left
  have hreads := h.reads
  rw [hidle, Stream.reads, Bool.toNat_false] at hreads
  have hall : p.outer.taken = p.inner.given := h.taken.eq_of_length (le_antisymm h.taken.length_le
    (by omega))
  refine ⟨?_, (h.inner.closing hinnerClosing).1⟩
  rw [houter, hall, List.nil_append, hinnerGiven]

/-- **A pipe fails only when the inner source does.** -/
theorem Valid.given_failed (h : Valid first p) (hfailed : .failed ∈ p.outer.given) :
    .failed ∈ p.inner.taken := by
  have houter := h.outer.errored (h.outer.failed hfailed)
  exact h.inner.errored (h.inner.failed (h.taken.subset houter))

/-- **A read that waits is not forgotten**: its result is on the way, or the inner source is asked
for it. -/
theorem Valid.awaits (h : Valid first p) (houter : p.outer.started = true)
    (hinner : p.inner.started = true) (hr : 0 < p.outer.readRequests) :
    p.next.isSome = true ∨ p.inner.pulling = true := by
  have hreads := h.reads
  rw [h.outer.pulling houter hr, Stream.reads, Bool.toNat_true] at hreads
  rcases Nat.eq_zero_or_pos p.inner.readRequests with hnone | hsome
  · refine .inl ?_
    rw [next, List.getElem?_eq_getElem (by omega)]
    rfl
  · exact .inr (h.inner.pulling hinner hsome)

end Pipe

end ReadableStream
