import Hardess.Lib.JsMap
import Hardess.Lib.JsNumber
import Hardess.Lib.JsString
import Hardess.Lib.ListRtake
import Hardess.Lib.Machine

/-!
# Metrics

`src/runtime/observability/metrics.ts`, and what the alert monitor of `alerts.ts` extracts.

* `InMemoryMetrics`, `WindowedMetrics`: all timings of a name, or the last ones and their number;
* `appendedTimings`: the timings between two snapshots;
* `Records`: what a sink holds of the calls that were made;
* **`appendedTimings_windowed`**: what a window loses.

Counts of timings are natural numbers. A snapshot is read at the names of the monitor, which are
none that an object inherits.
-/

namespace Hardess

/-- The calls of `Metrics`. -/
inductive MetricsCall
  | increment (name : JsString) (value : JsNumber)
  | timing (name : JsString) (valueMs : JsNumber)

/-- `MetricsSnapshot`. -/
structure MetricsSnapshot where
  counters : JsMap JsString JsNumber
  timings : JsMap JsString (List JsNumber)
  timingCounts : JsMap JsString ℕ

/-- `this.counters.set(name, (this.counters.get(name) ?? 0) + value)`. -/
def incremented (counters : JsMap JsString JsNumber) (name : JsString) (value : JsNumber) :
    JsMap JsString JsNumber :=
  counters.set name (((counters.get name).getD (.ofNat 0)).add value)

/-! ### Sinks -/

/-- The sink of unbounded size. -/
structure InMemoryMetrics where
  counters : JsMap JsString JsNumber := .empty
  timingsByName : JsMap JsString (List JsNumber) := .empty

namespace InMemoryMetrics

variable (metrics : InMemoryMetrics)

/-- `increment`. -/
def increment (name : JsString) (value : JsNumber) : InMemoryMetrics :=
  { metrics with counters := incremented metrics.counters name value }

/-- `timing`. -/
def timing (name : JsString) (valueMs : JsNumber) : InMemoryMetrics :=
  let values := (metrics.timingsByName.get name).getD [] ++ [valueMs]
  { metrics with timingsByName := metrics.timingsByName.set name values }

/-- `snapshot`. -/
def snapshot : MetricsSnapshot where
  counters := metrics.counters
  timings := metrics.timingsByName
  timingCounts := metrics.timingsByName.mapValues List.length

/-- One call. -/
def step : MetricsCall → InMemoryMetrics
  | .increment name value => metrics.increment name value
  | .timing name valueMs => metrics.timing name valueMs

end InMemoryMetrics

/-- The sink that keeps the last `maxTimingsPerMetric` timings of each name. -/
structure WindowedMetrics where
  maxTimingsPerMetric : ℕ := 1024
  counters : JsMap JsString JsNumber := .empty
  timingsByName : JsMap JsString (List JsNumber) := .empty
  timingCounts : JsMap JsString ℕ := .empty

namespace WindowedMetrics

variable (metrics : WindowedMetrics)

/-- `increment`. -/
def increment (name : JsString) (value : JsNumber) : WindowedMetrics :=
  { metrics with counters := incremented metrics.counters name value }

/-- `timing`. -/
def timing (name : JsString) (valueMs : JsNumber) : WindowedMetrics :=
  let values := (metrics.timingsByName.get name).getD [] ++ [valueMs]
  let timingCounts := metrics.timingCounts.set name ((metrics.timingCounts.get name).getD 0 + 1)
  -- `splice` removes the oldest
  let values :=
    if values.length > metrics.maxTimingsPerMetric then
      values.drop (values.length - metrics.maxTimingsPerMetric)
    else values
  { metrics with timingCounts, timingsByName := metrics.timingsByName.set name values }

/-- `snapshot`. -/
def snapshot : MetricsSnapshot where
  counters := metrics.counters
  timings := metrics.timingsByName
  timingCounts := metrics.timingCounts

/-- One call. -/
def step : MetricsCall → WindowedMetrics
  | .increment name value => metrics.increment name value
  | .timing name valueMs => metrics.timing name valueMs

end WindowedMetrics

/-! ### Extraction -/

/-- `appendedTimings`. -/
def appendedTimings (current previous : MetricsSnapshot) (name : JsString) : List JsNumber :=
  let currentValues := (current.timings.get name).getD []
  let currentCount := (current.timingCounts.get name).getD currentValues.length
  let previousCount :=
    (previous.timingCounts.get name).getD ((previous.timings.get name).getD []).length
  let appendedCount := (currentCount : ℤ) - previousCount
  if appendedCount ≤ 0 then []
  else currentValues.drop (max 0 (currentValues.length - appendedCount)).toNat

/-- A snapshot shows the timings of a name that are kept, and how many there were. -/
structure MetricsSnapshot.Shows (snapshot : MetricsSnapshot) (name : JsString)
    (kept : List JsNumber) (count : ℕ) : Prop where
  timings : (snapshot.timings.get name).getD [] = kept
  timingCounts : (snapshot.timingCounts.get name).getD kept.length = count

/-- What is extracted: as many of the kept timings, from the end, as the count has grown. -/
theorem appendedTimings_eq {current previous : MetricsSnapshot} {name : JsString}
    {kept kept' : List JsNumber} {count appended : ℕ}
    (hcurrent : current.Shows name kept (count + appended))
    (hprevious : previous.Shows name kept' count) :
    appendedTimings current previous name = kept.rtake appended := by
  unfold appendedTimings
  dsimp only
  rw [hcurrent.timings, hcurrent.timingCounts, hprevious.timings, hprevious.timingCounts]
  split_ifs with h
  · obtain rfl : appended = 0 := by omega
    rw [List.rtake_zero]
  · rw [List.rtake]
    congr 1
    omega

/-! ### What a sink holds -/

/-- The timings that calls recorded under a name. -/
def recorded (name : JsString) (calls : List MetricsCall) : List JsNumber :=
  calls.filterMap fun
    | .timing name' valueMs => if name' = name then some valueMs else none
    | .increment _ _ => none

theorem recorded_append (name : JsString) (calls between : List MetricsCall) :
    recorded name (calls ++ between) = recorded name calls ++ recorded name between :=
  List.filterMap_append

@[simp] theorem recorded_increment (name name' : JsString) (value : JsNumber) :
    recorded name [.increment name' value] = [] := rfl

theorem recorded_timing (name name' : JsString) (valueMs : JsNumber) :
    recorded name [.timing name' valueMs] = if name' = name then [valueMs] else [] := by
  unfold recorded
  split_ifs with h <;> simp [h]

namespace InMemoryMetrics

/-- Every timing is held. -/
def Records (calls : List MetricsCall) (metrics : InMemoryMetrics) : Prop :=
  ∀ name, (metrics.timingsByName.get name).getD [] = recorded name calls

theorem Records.step {calls : List MetricsCall} {metrics : InMemoryMetrics}
    (h : Records calls metrics) (call : MetricsCall) :
    Records (calls ++ [call]) (metrics.step call) := by
  intro name
  rw [recorded_append]
  cases call with
  | increment name' value =>
    rw [recorded_increment, List.append_nil]
    exact h name
  | timing name' valueMs =>
    show ((metrics.timingsByName.set name' _).get name).getD [] = _
    rw [JsMap.get_set, recorded_timing]
    by_cases hname : name = name'
    · rw [if_pos hname, if_pos hname.symm, Option.getD_some, hname, h name']
    · rw [if_neg hname, if_neg (Ne.symm hname), List.append_nil, h name]

theorem records_run (calls : List MetricsCall) : Records calls (Machine.run step {} calls) :=
  Machine.run_history (fun _ => rfl) (fun _ call h => h.step call) calls

theorem Records.shows {calls : List MetricsCall} {metrics : InMemoryMetrics}
    (h : Records calls metrics) (name : JsString) :
    metrics.snapshot.Shows name (recorded name calls) (recorded name calls).length := by
  refine ⟨h name, ?_⟩
  have hname := h name
  show ((metrics.timingsByName.mapValues List.length).get name).getD _ = _
  rw [JsMap.get_mapValues]
  cases hget : metrics.timingsByName.get name with
  | none => rfl
  | some values =>
    rw [hget] at hname
    exact congrArg List.length hname

end InMemoryMetrics

namespace WindowedMetrics

/-- The last timings are held, and their number. -/
structure Records (max : ℕ) (calls : List MetricsCall) (metrics : WindowedMetrics) : Prop where
  maxTimingsPerMetric : metrics.maxTimingsPerMetric = max
  timingsByName : ∀ name,
    (metrics.timingsByName.get name).getD [] = (recorded name calls).rtake max
  timingCounts : ∀ name, (metrics.timingCounts.get name).getD 0 = (recorded name calls).length

variable {max : ℕ} {calls : List MetricsCall} {metrics : WindowedMetrics}

/-- A timing keeps the last ones of its name, and of no other. -/
theorem get_timing (name name' : JsString) (valueMs : JsNumber) :
    ((metrics.timing name valueMs).timingsByName.get name').getD [] =
      if name' = name then ((metrics.timingsByName.get name).getD [] ++ [valueMs]).rtake
        metrics.maxTimingsPerMetric
      else (metrics.timingsByName.get name').getD [] := by
  unfold timing
  dsimp only
  rw [JsMap.get_set]
  by_cases hname : name' = name
  · rw [if_pos hname, if_pos hname, Option.getD_some]
    split_ifs with hlen
    · rfl
    · rw [List.rtake_of_length_le (Nat.le_of_not_gt hlen)]
  · rw [if_neg hname, if_neg hname]

theorem Records.step (h : Records max calls metrics) (call : MetricsCall) :
    Records max (calls ++ [call]) (metrics.step call) := by
  cases call with
  | increment name' value =>
    refine ⟨h.maxTimingsPerMetric, fun name => ?_, fun name => ?_⟩ <;>
      rw [recorded_append, recorded_increment, List.append_nil]
    · exact h.timingsByName name
    · exact h.timingCounts name
  | timing name' valueMs =>
    refine ⟨h.maxTimingsPerMetric, fun name => ?_, fun name => ?_⟩
    · refine (get_timing name' name valueMs).trans ?_
      rw [recorded_append, recorded_timing]
      by_cases hname : name = name'
      · -- what an earlier cut lost is not among the last ones
        rw [if_pos hname, if_pos hname.symm, ← hname, h.timingsByName name, h.maxTimingsPerMetric,
          List.rtake_rtake_append]
      · rw [if_neg hname, if_neg (Ne.symm hname), List.append_nil, h.timingsByName name]
    · show ((metrics.timingCounts.set name' _).get name).getD 0 = _
      rw [JsMap.get_set, recorded_append, recorded_timing]
      by_cases hname : name = name'
      · rw [if_pos hname, if_pos hname.symm, Option.getD_some, ← hname, h.timingCounts name,
          List.length_append, List.length_singleton]
      · rw [if_neg hname, if_neg (Ne.symm hname), List.append_nil, h.timingCounts name]

theorem records_run (max : ℕ) (calls : List MetricsCall) :
    Records max calls (Machine.run step { maxTimingsPerMetric := max } calls) :=
  Machine.run_history
    ⟨rfl, fun _ => by rw [recorded, List.filterMap_nil, List.rtake_nil]; rfl, fun _ => rfl⟩
    (fun _ call h => h.step call) calls

theorem Records.shows (h : Records max calls metrics) (name : JsString) :
    metrics.snapshot.Shows name ((recorded name calls).rtake max) (recorded name calls).length := by
  refine ⟨h.timingsByName name, ?_⟩
  have hcount := h.timingCounts name
  show (metrics.timingCounts.get name).getD _ = _
  cases hget : metrics.timingCounts.get name with
  | some count => rwa [hget] at hcount
  | none =>
    -- a name without a count has no timings
    rw [hget] at hcount
    have hnil : recorded name calls = [] := List.eq_nil_of_length_eq_zero hcount.symm
    rw [hnil, List.rtake_nil]
    rfl

end WindowedMetrics

/-! ### What a window loses -/

theorem appendedTimings_inMemory (calls between : List MetricsCall) (name : JsString) :
    appendedTimings (Machine.run InMemoryMetrics.step {} (calls ++ between)).snapshot
      (Machine.run InMemoryMetrics.step {} calls).snapshot name = recorded name between := by
  have hcurrent := (InMemoryMetrics.records_run (calls ++ between)).shows name
  rw [recorded_append, List.length_append] at hcurrent
  rw [appendedTimings_eq hcurrent ((InMemoryMetrics.records_run calls).shows name),
    List.rtake_append_of_le le_rfl, List.rtake_of_length_le le_rfl]

/-- **Between two snapshots a window of `max` timings loses all but the last `max` that were
recorded in between, and nothing when there are no more.** -/
theorem appendedTimings_windowed (max : ℕ) (calls between : List MetricsCall) (name : JsString) :
    let sink := fun calls => Machine.run WindowedMetrics.step { maxTimingsPerMetric := max } calls
    let unbounded := fun calls => Machine.run InMemoryMetrics.step {} calls
    let n := (recorded name between).length
    appendedTimings (sink (calls ++ between)).snapshot (sink calls).snapshot name =
        (recorded name between).rtake (min n max) ∧
      (n ≤ max →
        appendedTimings (sink (calls ++ between)).snapshot (sink calls).snapshot name =
          appendedTimings (unbounded (calls ++ between)).snapshot (unbounded calls).snapshot
            name) := by
  intro sink unbounded n
  have hwindowed : appendedTimings (sink (calls ++ between)).snapshot (sink calls).snapshot name =
      (recorded name between).rtake (min n max) := by
    have hcurrent := (WindowedMetrics.records_run max (calls ++ between)).shows name
    rw [recorded_append, List.length_append] at hcurrent
    rw [appendedTimings_eq hcurrent ((WindowedMetrics.records_run max calls).shows name),
      List.rtake_length_rtake_append]
  refine ⟨hwindowed, fun hn => ?_⟩
  rw [hwindowed, Nat.min_eq_left hn, List.rtake_of_length_le le_rfl, appendedTimings_inMemory]

end Hardess
