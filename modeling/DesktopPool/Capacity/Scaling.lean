import DesktopPool.Value.Number
import DesktopPool.Value.Keywords

/-! Scaling bounds of a pool: sessions one host serves, least and most hosts, and whether
surplus hosts that are powered off are deleted. The numbers are kept as given; a value is
accepted when the least host count is not negative, the most is not below the least, and the
sessions per host are positive, checked in that order. -/
namespace DesktopPool

structure Scaling where
  sessionsPerHost : Value := .int 2
  minHosts : Value := .int 1
  maxHosts : Value := .int 10
  deleteSurplus : Value := .bool true
  deriving Inhabited

namespace Scaling

def shape : RecordShape :=
  ⟨"avdpool.capacity_planner.ScalingConfig", "ScalingConfig",
    ["max_sessions_per_host", "min_hosts", "max_hosts", "delete_on_scale_down"]⟩

/-- The bounds checked in order: least count, most count, sessions per host. -/
def validate (s : Scaling) : Outcome Scaling := do
  if ← s.minHosts.relate .lt (.int 0) then fail .badValue "min_hosts cannot be negative"
  else if ← s.maxHosts.relate .lt s.minHosts then fail .badValue "max_hosts must be >= min_hosts"
  else if ← s.sessionsPerHost.relate .le (.int 0) then
    fail .badValue "max_sessions_per_host must be positive"
  else pure s

/-- Bounds from a table of named fields, defaults for the rest, then checked. -/
def ofValue (arg : Value) : Outcome Scaling := do
  let kvs ← shape.supplied arg
  let d : Scaling := {}
  validate {
    sessionsPerHost := fieldOr kvs "max_sessions_per_host" d.sessionsPerHost
    minHosts := fieldOr kvs "min_hosts" d.minHosts
    maxHosts := fieldOr kvs "max_hosts" d.maxHosts
    deleteSurplus := fieldOr kvs "delete_on_scale_down" d.deleteSurplus }

def toTable (s : Scaling) : List (String × Value) :=
  [("max_sessions_per_host", s.sessionsPerHost), ("min_hosts", s.minHosts),
    ("max_hosts", s.maxHosts), ("delete_on_scale_down", s.deleteSurplus)]

end Scaling

end DesktopPool
