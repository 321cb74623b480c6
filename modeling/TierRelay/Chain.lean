import TierRelay.Tier.Answer

namespace TierRelay

open Http

namespace Tier

def network (t : Tier) (behind : Network) (fresh : Bytes) : Network := fun call =>
  match t.answer behind fresh call.request with
  | .ok answer => .answered answer.response true
  | .error _ => .failed "connection closed before message completed"

end Tier

namespace Chain

def network (tiers : List Tier) (behind : Network) (fresh : Bytes) : Network :=
  tiers.foldr (fun t behind => t.network behind fresh) behind

end Chain

end TierRelay
