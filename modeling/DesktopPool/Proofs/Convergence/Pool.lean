import DesktopPool.Proofs.Convergence.Calm

/-! The host records of one pool. A directory names the host of node `l` in pool `p` and domain
`d` as `p/l.d`; when the pool is not empty and neither the pool nor the domain has a `/`, such a
name parses back to the pool and the node, so distinct plain nodes have distinct names. A calm
world lists for a pool exactly its records under `p/` and classifies them by their status and
by whether the node behind a sleeping record is in the world: the three buckets split the
listing. A world is tidy for a pool when it fails nothing, names its nodes by plain text with
a text pool tag, and names the pool's records after distinct plain nodes. -/
namespace DesktopPool

@[simp] theorem Value.same_str_self (x : String) : (Value.str x).same (.str x) = true := by
  simp [Value.same]

/-- A node id as a converging pool keeps it: text in lower case, with no `.` and no `/`. -/
def Plain (x : String) : Prop := Unicode.lower x = x ∧ '.' ∉ x.toList ∧ '/' ∉ x.toList

/-- A node id that names a host of a converging pool: plain and not empty. -/
def Label (l : String) : Prop := Plain l ∧ l ≠ ""

/-- The name a directory gives the host of node `l` in pool `p` and domain `d`. -/
def hostText (p l d : String) : String := p ++ "/" ++ l ++ "." ++ d

theorem hostText_startsWith (p l d : String) : (hostText p l d).startsWith (p ++ "/") = true := by
  rw [String.startsWith_string_iff]
  simp only [hostText, String.toList_append]
  exact ⟨l.toList ++ ".".toList ++ d.toList, by simp⟩

/-- A pool and a domain whose host names read back: the pool is not empty, and neither has a
`/`. -/
structure Naming (p d : String) : Prop where
  filled : p ≠ ""
  poolSlash : '/' ∉ p.toList
  domainSlash : '/' ∉ d.toList

namespace Naming

variable {p d : String} (naming : Naming p d)
include naming

theorem parse_hostText {l : String} (label : Label l) :
    HostName.parse (hostText p l d) = .ok ⟨p, l ++ "." ++ d, l⟩ := by
  obtain ⟨⟨-, dot, slash⟩, filled⟩ := label
  have start : ∃ c cs, p.toList = c :: cs ∧ c ≠ '/' := by
    rcases chars : p.toList with _ | ⟨c, cs⟩
    · exact absurd (String.toList_eq_nil_iff.mp chars) naming.filled
    · refine ⟨c, cs, rfl, fun slashed => naming.poolSlash ?_⟩
      rw [chars, slashed]
      exact List.mem_cons_self
  have whole : p.toList.takeWhile (· != '/') = p.toList := by
    rw [List.takeWhile_eq_self_iff]
    intro c member
    have other : c ≠ '/' := fun same => naming.poolSlash (same ▸ member)
    simpa using other
  rw [hostText, HostName.parse_built p l d start filled dot slash naming.domainSlash, whole,
    String.ofList_toList]

theorem hostText_inj {l l' : String} (label : Label l) (label' : Label l')
    (same : hostText p l d = hostText p l' d) : l = l' := by
  have parsed := naming.parse_hostText label
  rw [same, naming.parse_hostText label'] at parsed
  simp only [Except.ok.injEq, HostName.mk.injEq] at parsed
  exact parsed.2.2.symm

end Naming

namespace SessionHost

def inPool (p : String) (h : SessionHost) : Bool :=
  match h.name with
  | .str x => x.startsWith (p ++ "/")
  | _ => false

theorem inPool_hostText {p l d : String} {h : SessionHost} (named : h.name = .str (hostText p l d)) :
    h.inPool p = true := by
  rw [inPool, named]
  exact hostText_startsWith p l d

theorem parts_hostText {p d l : String} (naming : Naming p d) (label : Label l) {h : SessionHost}
    (named : h.name = .str (hostText p l d)) : h.parts = .ok ⟨p, l ++ "." ++ d, l⟩ := by
  rw [parts, named]
  exact naming.parse_hostText label

end SessionHost

namespace Outcome

variable {α : Type}

theorem filterM_of_ok {f : α → Outcome Bool} {g : α → Bool} {xs : List α}
    (answers : ∀ x ∈ xs, f x = .ok (g x)) : xs.filterM f = .ok (xs.filter g) := by
  have gathered : ∀ ys acc, (∀ y ∈ ys, f y = .ok (g y)) →
      List.filterAuxM f ys acc = .ok ((ys.filter g).reverse ++ acc) := by
    intro ys
    induction ys with
    | nil => intro acc _; rfl
    | cons y ys later =>
      intro acc answered
      have first := answered y List.mem_cons_self
      have rest := later (cond (g y) (y :: acc) acc) fun z member =>
        answered z (List.mem_cons_of_mem y member)
      simp only [List.filterAuxM, first, ok_bind]
      rw [rest]
      cases passes : g y <;> simp [passes]
  unfold List.filterM
  rw [gathered xs [] answers]
  simp

end Outcome

namespace SessionHost

theorem isAvailable_status {h : SessionHost} (available : h.isAvailable = true) :
    h.status = .str "Available" := by
  unfold isAvailable Value.isText at available
  split at available
  · next s named => rw [named, beq_iff_eq.mp available]
  · cases available

theorem isShutdown_status {h : SessionHost} (sleeping : h.isShutdown = true) :
    h.status = .str "Shutdown" := by
  unfold isShutdown Value.isText at sleeping
  split at sleeping
  · next s named => rw [named, beq_iff_eq.mp sleeping]
  · cases sleeping

theorem isAvailable_of_isShutdown {h : SessionHost} (sleeping : h.isShutdown = true) :
    h.isAvailable = false := by
  rw [isAvailable, isShutdown_status sleeping]
  rfl

end SessionHost

namespace World

def poolHosts (p : String) (w : World) : List SessionHost := w.hosts.filter (·.inPool p)

/-- A calm world whose records are named by text lists for a pool exactly its records. -/
theorem listHosts_pool {w : World} (calm : w.fail = {}) (p : String)
    (names : ∀ h ∈ w.hosts, ∃ x, h.name = .str x) :
    (listHosts (.str p)).run w = (.ok (w.poolHosts p), w) := by
  rw [listHosts_calm calm, poolHosts]
  congr 1
  apply Outcome.filterM_of_ok
  intro h member
  obtain ⟨x, named⟩ := names h member
  rw [SessionHost.inPool, named]
  rfl

def backs (w : World) (h : SessionHost) : Bool :=
  match h.parts with
  | .ok parts => (w.node? (.str parts.node)).isSome
  | .error _ => false

/-- How a calm world classifies hosts: up when `Available`, resumable when `Shutdown` with the
node behind it in the world, stale otherwise. -/
def classes (w : World) (hosts : List SessionHost) : Classification where
  up := hosts.filter (·.isAvailable)
  resumable := hosts.filter fun h => h.isShutdown && w.backs h
  stale := hosts.filter fun h => !h.isAvailable && !(h.isShutdown && w.backs h)

theorem classes_perm (w : World) (hosts : List SessionHost) :
    List.Perm ((w.classes hosts).up ++ (w.classes hosts).resumable ++ (w.classes hosts).stale)
      hosts := by
  have resting : List.Perm (hosts.filter fun h => !h.isAvailable)
      ((w.classes hosts).resumable ++ (w.classes hosts).stale) := by
    have split := List.filter_append_perm (fun h => h.isShutdown && w.backs h)
      (hosts.filter fun h => !h.isAvailable)
    simp only [List.filter_filter] at split
    refine split.symm.trans (List.Perm.append ?_ ?_)
    · simp only [classes]
      rw [List.filter_congr]
      intro h _
      by_cases sleeping : h.isShutdown = true
      · simp [sleeping, SessionHost.isAvailable_of_isShutdown sleeping]
      · simp [sleeping]
    · simp only [classes]
      rw [List.filter_congr]
      intro h _
      cases h.isAvailable <;> cases (h.isShutdown && w.backs h) <;> simp
  rw [List.append_assoc]
  exact (List.Perm.append_left _ resting.symm).trans (List.filter_append_perm _ hosts)

end World

namespace Scene

variable (env : Env) (watch : Bool)

/-- In a calm world, a classification is the world's own and changes nothing. -/
theorem classify_calm {sc : Scene} (calm : sc.world.fail = {}) (hosts : List SessionHost) :
    (classify (services env watch).compute hosts).run sc = (sc.world.classes hosts, sc) := by
  induction hosts with
  | nil => rfl
  | cons h rest later =>
    unfold classify
    by_cases available : h.isAvailable = true
    · have known : h.status.isNull = false := by rw [SessionHost.isAvailable_status available]; rfl
      have awake : h.isShutdown = false := by
        rw [SessionHost.isShutdown, SessionHost.isAvailable_status available]; rfl
      simp only [known, available, Bool.false_eq_true, if_true, if_false, StateM.run_bind,
        StateM.run_pure, later]
      simp [World.classes, available, awake]
    by_cases sleeping : h.isShutdown = true
    · have known : h.status.isNull = false := by rw [SessionHost.isShutdown_status sleeping]; rfl
      -- a sleeping host is resumable exactly when a calm lookup finds its node
      have found : (nodeExists (services env watch).compute h).run sc = (sc.world.backs h, sc) := by
        unfold nodeExists World.backs
        rcases h.parts with e | parts
        · rfl
        · simp only [StateM.run_bind, get_run, World.lookup_calm calm]
          cases sc.world.node? _ <;> rfl
      simp only [known, available, sleeping, Bool.false_eq_true, if_true, if_false,
        StateM.run_bind, found]
      cases backed : sc.world.backs h <;>
        simp [World.classes, available, sleeping, backed, later] <;> rfl
    · cases known : h.status.isNull <;>
        simp [available, sleeping, later, World.classes] <;> rfl

end Scene

end DesktopPool
