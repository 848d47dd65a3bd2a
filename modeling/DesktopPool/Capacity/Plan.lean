import DesktopPool.Capacity.Scaling

/-! Capacity plans. The target host count for `r` reservations is
`max(minHosts, min(maxHosts, ⌈(max(r, 0) + 1) / sessionsPerHost⌉))`: one session of headroom
for the workload that asks, whole hosts, and the bounds. The quotient is the double nearest to
the exact quotient, so targets beyond `2^53` hosts are rounded, and targets beyond the largest
double are an overflow. A plan compares the target with the hosts that are up. -/
namespace DesktopPool

inductive Action where
  | scaleUp | scaleDown | maintain
  deriving DecidableEq, Repr, Inhabited

def Action.name : Action → String
  | .scaleUp => "scale_up"
  | .scaleDown => "scale_down"
  | .maintain => "maintain"

structure CapacityPlan where
  action : Action
  target : Value
  current : Value
  reservations : Value
  reason : String
  deriving Inhabited

def CapacityPlan.toTable (p : CapacityPlan) : List (String × Value) :=
  [("action", .str p.action.name), ("target_host_count", p.target),
    ("current_host_count", p.current), ("reservations", p.reservations), ("reason", .str p.reason)]

namespace Scaling

/-- Hosts that must be up for `reservations` reservations. -/
def target (s : Scaling) (reservations : Value) : Outcome Value := do
  let r ← reservations.larger (.int 0)
  let needed ← r.arith .add (.int 1)
  let hosts ← (← needed.arith .div s.sessionsPerHost).ceil
  s.minHosts.larger (← s.maxHosts.smaller hosts)

/-- The plan for `reservations` reservations with `current` hosts up. -/
def plan (s : Scaling) (reservations current : Value) : Outcome CapacityPlan := do
  if ← current.relate .lt (.int 0) then fail .badValue "current_host_count cannot be negative"
  else
    let target ← s.target reservations
    let diff ← target.arith .sub current
    let make (a : Action) (reason : String) : CapacityPlan := ⟨a, target, current, reservations, reason⟩
    if ← diff.relate .gt (.int 0) then
      pure (make .scaleUp s!"Need {diff.text} more hosts for {reservations.text} reservations")
    else if ← diff.relate .lt (.int 0) then
      pure (make .scaleDown s!"Can remove {(← diff.magnitude).text} unused hosts")
    else pure (make .maintain s!"Current host count ({current.text}) matches target")

end Scaling

end DesktopPool
