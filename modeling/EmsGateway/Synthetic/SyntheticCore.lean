import EmsGateway.App.TaskSetCore
import EmsGateway.Poller.PollerCore

/-!
Derived values: `synthetic::operation`, one tick of a channel's task (`synthetic::task`) and when
its inputs count as dead (`synthetic::stale`). What the task gathers is with the task set; a mean or
a quotient is exact.
-/

namespace EmsGateway.Synthetic

open EmsGateway.App EmsGateway.Dispatch EmsGateway.Library

/-! `operation` -/

def requireNonempty (inputs : List ℚ) (name : String) : Except String Unit :=
  if inputs.isEmpty then .error s!"{name} requires at least one input" else .ok ()

def mean (inputs : List ℚ) : ℚ := inputs.sum / inputs.length

/-- `fold(f64::NEG_INFINITY, f64::max)` of a list that is not empty. -/
def largest (inputs : List ℚ) : ℚ := inputs.tail.foldl max (inputs.headD 0)

def smallest (inputs : List ℚ) : ℚ := inputs.tail.foldl min (inputs.headD 0)

/-- The largest distance from the mean. -/
def deviation (inputs : List ℚ) : ℚ :=
  (inputs.map fun x => |x - mean inputs|).foldl max 0

def apply (operation : Operation) (inputs : List ℚ) : Except String ℚ :=
  match operation with
  | .subtract =>
      match inputs with
      | [a, b] => .ok (a - b)
      | _ => .error s!"subtract requires exactly 2 inputs, got {inputs.length}"
  | .sum => (requireNonempty inputs "sum").map fun _ => inputs.sum
  | .mean => (requireNonempty inputs "mean").map fun _ => mean inputs
  | .max => (requireNonempty inputs "max").map fun _ => largest inputs
  | .min => (requireNonempty inputs "min").map fun _ => smallest inputs
  | .unbalance => do
      requireNonempty inputs "mean"
      let mean := mean inputs
      if mean ≤ 0 then .error s!"unbalance needs a positive mean, got {mean}"
      else return 100 * deviation inputs / mean

def weightedMean (pairs : List (ℚ × ℚ)) : Except String ℚ :=
  if pairs.isEmpty then .error "weighted_mean requires at least one pair"
  else
    let totalWeight := (pairs.map Prod.snd).sum
    if totalWeight ≤ 0 then
      .error s!"weighted_mean requires a positive total weight, got {totalWeight}"
    else .ok ((pairs.map fun pair => pair.1 * pair.2).sum / totalWeight)

/-! `task` -/

structure SyntheticTaskConfig where
  outputTopic : String
  computation : Computation
  staleLimits : StaleLimits

/-- What a tick publishes; nothing while it holds. -/
def tickOnce (cfg : SyntheticTaskConfig) (cache : InputCache) (now : Instant) :
    Except String (Option ℚ) :=
  match cfg.computation with
  | .operation operation inputTopics =>
      match gatherInputs inputTopics cache cfg.staleLimits now with
      | none => .ok none
      | some values => (apply operation values).map some
  | .weightedMean pairs =>
      match gatherPairs pairs cache cfg.staleLimits now with
      | none => .ok none
      | some resolved => (weightedMean resolved).map some

/-! `stale` -/

def staleFloor : Duration := Duration.fromSecs 5

def missedPolls : ℚ := 3

/-- Device to measurement to `poll_rate_hz`, as `x-protocol-source` gives it. -/
abbrev PollRates := String → Option (String → Option (Option ℚ))

def pollRateHz (rates : PollRates) (topic : String) : Option ℚ :=
  match (splitSlash topic.toList).map String.ofList with
  | [_, _, _, device, _, measurement, _] =>
      ((rates device).bind fun channels => channels measurement).map fun rate =>
        max Poller.minPollHz (min (rate.getD Poller.defaultPollHz) Poller.maxPollHz)
  | _ => none

/-- `Duration::from_secs_f64`, to the nearest nanosecond. -/
def fromSecsF64 (seconds : ℚ) : Duration := (roundHalfEven (seconds * nanosPerSec)).toNat

def staleLimits (rates : PollRates) (inputTopics : List String) : StaleLimits := fun topic =>
  if topic ∈ inputTopics then
    (pollRateHz rates topic).map fun hz => max staleFloor (fromSecsF64 (missedPolls / hz))
  else none

end EmsGateway.Synthetic
