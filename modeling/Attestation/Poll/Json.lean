import Attestation.Json.Format
import Attestation.Poll

/-!
Spans of time and polling policies as JSON. A span is its seconds and nanoseconds, which may make up
further seconds; it has no other members.
-/

namespace Attestation

namespace Duration

def names : List String :=
  ["secs", "nanos"]

def ofJson? (j : Json) : Option Duration := do
  if let .object members := j then
    guard (members.all fun m => names.contains m.1)
  let [secs, nanos] ← j.fields? names names.length | none
  let secs ← Json.need Json.uint64? secs
  let nanos ← Json.need Json.uint32? nanos
  let n := secs.toNat * second + nanos.toNat
  if n ≤ longest then some (ofNanos n) else none

def toJson (d : Duration) : Json :=
  .object [("secs", .nat d.secs), ("nanos", .nat d.subsec)]

end Duration

namespace Backoff

def ofJson? (j : Json) : Option Backoff :=
  j.case? ofName?

def toJson (b : Backoff) : Json :=
  .string b.name

def format : Json.Format Backoff := ⟨.value, ofJson?, toJson⟩

end Backoff

namespace PollPolicy

def names : List String :=
  ["base_delay", "max_delay", "jitter_factor", "strategy"]

def ofJson? (j : Json) : Option PollPolicy := do
  let [baseDelay, maxDelay, jitter, backoff] ← j.fields? names names.length | none
  return {
    baseDelay := ← Json.need Duration.ofJson? baseDelay
    maxDelay := ← Json.need Duration.ofJson? maxDelay
    jitter := ← Json.need Json.float? jitter
    backoff := ← Json.need Backoff.ofJson? backoff }

def toJson (p : PollPolicy) : Json :=
  .object
    [("base_delay", p.baseDelay.toJson), ("max_delay", p.maxDelay.toJson),
     ("jitter_factor", .ofFloat p.jitter), ("strategy", p.backoff.toJson)]

def format : Json.Format PollPolicy := ⟨.plain names, ofJson?, toJson⟩

end PollPolicy

end Attestation
