import HostProbe.Scan.Gate
import HostProbe.Scan.Summary

namespace HostProbe.Scan.RangeRequest

def note (r : RangeRequest) : Entry :=
  .info (s!"Scanning {r.range.count} ports (" ++ r.range.text ++ ") on " ++ r.target.text ++
    s!" with {r.maxConcurrent} concurrent attempts")

def summary (r : RangeRequest) (moment : Nat → Time.Stamp) (start finish : Nat)
    (findings : List Finding) : Summary :=
  .ofFindings r.target.text r.range.text (moment start) (moment finish)
    (Time.Span.ofNanos (finish - start)) findings

def run (r : RangeRequest) (n : Network σ) : Except Failure Summary × Network σ :=
  match r.list.run (n.note [r.note]) with
  | (.error e, n) => (.error e, n)
  | (.ok findings, after) =>
    let s := r.summary n.moment n.clock after.clock findings
    (.ok s, after.note [.info s.text])

end HostProbe.Scan.RangeRequest
