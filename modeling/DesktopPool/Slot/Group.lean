import DesktopPool.Value.Equal

/-! Reservation slots. A workload holds a reservation in a pool through an application group
of that pool, tagged with the workload's id; the group is the slot. -/
namespace DesktopPool

structure AppGroup where
  name : Value
  resourceId : Value := .null
  workloadId : Value := .null
  deriving Inhabited

def AppGroup.toTable (g : AppGroup) : List (String × Value) :=
  [("name", g.name), ("resource_id", g.resourceId), ("workload_id", g.workloadId)]

end DesktopPool
