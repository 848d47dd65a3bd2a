import DesktopPool.Service

/-! Host classification. Every host of a pool falls into exactly one bucket for a pass: `up`
when its status is `Available`; `resumable` when it is `Shutdown` and its node still exists;
`stale` otherwise (no status, another status, or a sleeping host whose name does not parse,
whose node lookup fails, or whose node is gone). Each bucket keeps the order of the listing. -/
namespace DesktopPool

structure Classification where
  up : List SessionHost := []
  resumable : List SessionHost := []
  stale : List SessionHost := []
  deriving Inhabited

namespace Classification

def total (c : Classification) : Nat := c.up.length + c.resumable.length + c.stale.length

def summary (c : Classification) : String :=
  s!"available={c.up.length}, shutdown={c.resumable.length}, stale={c.stale.length}"

end Classification

variable {m : Type → Type} [Monad m]

/-- Whether the node behind a sleeping host still exists; a failed lookup counts as no. -/
def nodeExists (compute : ComputeService m) (h : SessionHost) : m Bool :=
  match h.parts with
  | .error _ => pure false
  | .ok p => do
    match ← compute.get (.str p.node) false with
    | .ok (some _) => pure true
    | _ => pure false

/-- Sort hosts into the three buckets, keeping their order within each. -/
def classify (compute : ComputeService m) : List SessionHost → m Classification
  | [] => pure {}
  | h :: rest => do
    let into : Classification → Classification ← do
      if h.status.isNull then pure fun c => { c with stale := h :: c.stale }
      else if h.isAvailable then pure fun c => { c with up := h :: c.up }
      else if h.isShutdown then
        if ← nodeExists compute h then pure fun c => { c with resumable := h :: c.resumable }
        else pure fun c => { c with stale := h :: c.stale }
      else pure fun c => { c with stale := h :: c.stale }
    pure (into (← classify compute rest))

end DesktopPool
