import TierRelay.Tier.Answer

namespace TierRelay

open Http

structure Visit where
  request : Request
  fresh : Bytes
  network : Network
  source : Source

namespace Tier

def reading (t : Tier) (source : Source) : Tier :=
  match t.backend with
  | .next _ => t
  | .records _ listed => { t with backend := .records source listed }

def visited (t : Tier) (v : Visit) : Except Fault Answer :=
  (t.reading v.source).answer v.network v.fresh v.request

def run (t : Tier) (m : Metrics) : List Visit → Except Fault (List Answer × Metrics)
  | [] => .ok ([], m)
  | v :: visits => do
    let answer ← t.visited v
    let (answers, last) ← t.run (m ++ answer.observed) visits
    return (answer :: answers, last)

end Tier

end TierRelay
