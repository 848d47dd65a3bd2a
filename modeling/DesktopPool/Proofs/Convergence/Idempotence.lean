import DesktopPool.Proofs.Convergence.Settling
import DesktopPool.Proofs.Convergence.Survey
import DesktopPool.Proofs.Pass.Locking

/-! Two passes in a row. A pass over a free lock in a calm scene runs its survey and its
converging stages holding the lock, and gives the lock back. From a tidy world with fresh ids
the first pass leaves the pool's records as those up before, those woken, those made and the
sleeping ones kept, every node under the template's prefix and tagged for the pool behind one
of them, and the world settled. A second pass straight after counts no more reservations than
the first, since the slots the first kept are judged again and only the planner's clamped
ceiling reads the count: its target is no higher, and at least as many hosts are up. It wakes,
makes and deletes nothing. -/
namespace DesktopPool

open Pass Reconcile Reservations

section Reslot

variable {p d : String} {w : World} (S : List (Value × List AppGroup)) (L : CallLog)

theorem World.Tidy.reslot (tidy : w.Tidy p d) : ({ w with slots := S, log := L } : World).Tidy p d :=
  ⟨tidy.domain, tidy.nodes, tidy.names, tidy.pooled, tidy.distinct⟩

theorem World.Settled.reslot {s : Settings} {pre : String} (settled : w.Settled s pre p d) :
    ({ w with slots := S, log := L } : World).Settled s pre p d :=
  ⟨settled.tidy.reslot S L, settled.awake, settled.claimed⟩

theorem Fresh.reslot {ids : List String} (fresh : Fresh p d w ids) :
    Fresh p d { w with slots := S, log := L } ids :=
  ⟨fresh.labelled, fresh.unused, fresh.unnamed, fresh.distinct⟩

end Reslot

theorem Fresh.missing {p d : String} {lo hi k : Int} {s : Settings} {w : World} {n : Nat}
    (whole : s.scaling.Whole lo hi k) (fresh : Fresh p d w (drawnIds s n hi.toNat)) (C : Classification) (r : Int) :
    Fresh p d w (drawnIds s n (C.missing (Scaling.clampedHosts lo hi k r))) := by
  have most := (Scaling.clampedHosts_mem whole.bounds.2.1 (k := k) r).2
  refine fresh.sublist (drawnIds_sublist s n ?_)
  unfold Classification.missing
  omega

abbrev World.granted (w : World) (p : String) : List Value :=
  Verdict.granted w.assignments w.nodes (w.slotsOf (.str p))

/-- The slots of a pool as a tidy pass reads them: named by text, with text workload ids. -/
def AppGroup.Named (g : AppGroup) : Prop := (∃ x, g.name = .str x) ∧ ∃ x, g.workloadId = .str x

theorem AppGroup.Named.hashable {g : AppGroup} (named : g.Named) :
    g.name.isHashable = true ∧ g.workloadId.isHashable = true := by
  obtain ⟨⟨x, name⟩, ⟨y, id⟩⟩ := named
  rw [name, id]
  exact ⟨rfl, rfl⟩

namespace World.Tidy

variable {p d : String} {w : World}

theorem texts (tidy : w.Tidy p d) : ∀ n ∈ w.nodes, ∃ x, n.id = .str x := by
  intro n member
  obtain ⟨⟨x, -, named⟩, -⟩ := tidy.nodes n member
  exact ⟨x, named⟩

theorem keyed (tidy : w.Tidy p d) : ∀ n ∈ w.nodes, n.id.isHashable = true := by
  intro n member
  obtain ⟨x, named⟩ := tidy.texts n member
  rw [named]
  rfl

end World.Tidy

namespace World.Converged

variable {s : Settings} {pre p d : String} {kvs : List (String × Value)} {T : Int}
  {made : List String} {w w' : World} (conv : w.Converged s pre p d kvs T made w')
  (tidy : w.Tidy p d) (fresh : Fresh p d w made)
include conv tidy fresh

theorem names_perm : ((w'.poolHosts p).map (·.name)).Perm
    ((w.classes (w.poolHosts p)).up.map (·.name) ++
      ((w.classes (w.poolHosts p)).woken T).map (·.name) ++ made.map (fun i => .str (hostText p i d)) ++
      ((w.classes (w.poolHosts p)).kept s T).map (·.name)) := by
  have perm := (conv.poolHosts_perm tidy fresh).map (·.name)
  simpa [List.map_append, List.map_map, Function.comp_def, madeRecord] using perm

theorem available_iff_unkept (naming : Naming p d) (texts : ∀ kv ∈ kvs, ∃ x, kv.2 = .str x) :
    ∀ h ∈ w'.poolHosts p,
      h.isAvailable = true ↔ h.name ∉ ((w.classes (w.poolHosts p)).kept s T).map (·.name) := by
  intro h member
  constructor
  · -- a kept record is asleep, and the only record of its name
    intro available listed
    obtain ⟨y, kept, same⟩ := List.mem_map.mp listed
    have pooled : y ∈ w'.poolHosts p := (conv.mem_poolHosts tidy fresh).mpr (.inr (.inr (.inr kept)))
    have one := (conv.tidy' tidy fresh naming texts).eq_of_name pooled member same
    have sleeping := (asleep_of_resumable (Classification.mem_resumable_of_kept kept)).1
    rw [← one, SessionHost.isAvailable_of_isShutdown sleeping] at available
    cases available
  · intro unlisted
    rcases (conv.mem_poolHosts tidy fresh).mp member with up | ⟨y, -, rfl⟩ | ⟨i, -, rfl⟩ | kept
    · exact (List.mem_filter.mp up).2
    · exact SessionHost.isAvailable_markAvailable y
    · exact SessionHost.isAvailable_madeRecord p i d
    · exact absurd (List.mem_map_of_mem kept) unlisted

/-- The hosts up after the stages reach the target, a host having been made for each one still
missing. -/
theorem up_reaches_target (count : made.length = (w.classes (w.poolHosts p)).missing T) :
    T ≤ ((w'.classes (w'.poolHosts p)).up.length : Int) := by
  have up := conv.available_length tidy fresh
  have reach := (w.classes (w.poolHosts p)).target_le_up T
  show T ≤ (((w'.poolHosts p).filter (·.isAvailable)).length : Int)
  rw [up, count]
  exact reach

end World.Converged

namespace Scene

variable (env : Env) (watch : Bool) {p d : String}

/-- A pass in a calm scene over a free lock ends as its stages end, when they only store the
reservations: the lock is given back, and the books hold the reservations stored. -/
theorem ensureCapacity_stored (s : Settings) {sc sc' : Scene} (calm : sc.Calm watch)
    (waits : Locks.checkWait s.timeouts.lock = .ok ()) {b : Books} (free : b.isLocked (.str p) = false)
    {o : Outcome ReconcileResult} {g : List Value}
    (ran : exec (stages (services env watch) s (.str p)) { b with locked := .str p :: b.locked } sc =
      ⟨o, Books.replaceReservations { b with locked := .str p :: b.locked } (.str p) g, sc'⟩) :
    exec (ensureCapacity (services env watch) s (.str p)) b sc =
      ⟨o, b.replaceReservations (.str p) g, sc'⟩ := by
  unfold ensureCapacity
  rw [exec_bind, exec_checkpoint_calm env watch calm]
  dsimp only
  rw [exec_locked_free s rfl waits _ free sc, ran]
  simp only [Books.replaceReservations, giveBack_latest]

theorem exec_stages_surveyed (s : Settings) {pool : Value} {sc sc1 : Scene} {b b1 : Books}
    {v : Survey} (surveyed : exec (survey (services env watch) s pool) b sc = ⟨.ok v, b1, sc1⟩)
    (calm1 : sc1.Calm watch) :
    exec (stages (services env watch) s pool) b sc = exec (converge (services env watch) s pool v) b1 sc1 := by
  unfold stages
  rw [exec_bind, surveyed]
  dsimp only
  rw [exec_bind, exec_checkpoint_calm env watch calm1]

section Stages

variable {pre : String} {lo hi k : Int}

/-- The stages of a pass in a tidy calm world, under settings that build, sweep and scale by
whole numbers, with the first `hi` ids to draw fresh: the survey grants the valid slots'
workloads and deletes the slots it drops, and the converging stages towards the clamped ceiling
of the reservations leave the surveyed world converged. -/
theorem stages_calm (naming : Naming p d) (s : Settings) {sc : Scene} (calm : sc.Calm watch)
    (tidy : sc.world.Tidy p d) {kvs : List (String × Value)} (tagged : s.template.tags = .table kvs)
    (texts : ∀ kv ∈ kvs, ∃ x, kv.2 = .str x) {script : String}
    (built : SetupScript.build s.setup sc.world.token env = .ok script)
    (prefixed : s.template.namePrefix = .str pre) (on : s.sweepOrphans.truthy = true)
    (slotted : ∀ g ∈ sc.world.slotsOf (.str p), g.Named) (whole : s.scaling.Whole lo hi k)
    (wide : k < 2 ^ 1075) (fits : ((sc.world.slotsOf (.str p)).length : Int) < 2 ^ 53)
    (fresh : Fresh p d sc.world (drawnIds s sc.drawn hi.toNat)) (b : Books) :
    let C := sc.world.classes (sc.world.poolHosts p)
    let T := Scaling.clampedHosts lo hi k (Value.distinctKeys (sc.world.granted p)).length
    let made := drawnIds s sc.drawn (C.missing T)
    ∃ r sc' S L, exec (stages (services env watch) s (.str p)) b sc =
        ⟨.ok r, b.replaceReservations (.str p) (sc.world.granted p), sc'⟩ ∧
      r.resumed = (C.woken T).map (·.name) ∧ r.created = made.map (fun i => .str (hostText p i d)) ∧
      r.failedCreations = 0 ∧ r.keptPoweredOff = (C.kept s T).map (·.name) ∧
      sc'.hooks = sc.hooks ∧
      ({ sc.world with slots := S, log := L } : World).Converged s pre p d kvs T made sc'.world ∧
      sc'.world.assignments = sc.world.assignments ∧
      sc'.world.slotsOf (.str p) = (sc.world.slotsOf (.str p)).filter fun g =>
        (Verdict.dropped sc.world.assignments sc.world.nodes (sc.world.slotsOf (.str p))).all
          fun x => !g.name.same x.name := by
  intro C T made
  obtain ⟨sc1, plan, surveyed, target, hooks1, drawn1, ⟨S, L, world1⟩, slots1⟩ :=
    survey_calm env watch s calm p tidy.keyed (fun g member => (slotted g member).hashable)
      tidy.names whole wide fits b
  have calm1 : sc1.Calm watch := Calm.of_hooks calm hooks1 (by rw [world1])
  have fresh1 : Fresh p d sc1.world
      (drawnIds s sc1.drawn ((sc1.world.classes (sc1.world.poolHosts p)).missing T)) := by
    rw [drawn1, world1]
    exact (fresh.missing whole C _).reslot S L
  obtain ⟨r, sc', converged, -, -, resumed, -, created, failed, kept, hooks', -, conv⟩ :=
    converge_calm env watch naming s calm1 (by rw [world1]; exact tidy.reslot S L) tagged texts
      (by rw [world1]; exact built) prefixed on _ plan target fresh1
      (b.replaceReservations (.str p) (sc.world.granted p))
  -- the survey kept the records and the nodes, which are all the converging stages read
  rw [world1, drawn1] at conv created
  rw [world1] at resumed kept
  -- the converging stages keep the slots and the assignments the survey left
  have fixed : sc'.world.slots = sc1.world.slots ∧ sc'.world.assignments = sc1.world.assignments := by
    rw [world1]
    exact ⟨congrArg (fun f => f.2.1) conv.fixed, congrArg (fun f => f.2.2.1) conv.fixed⟩
  refine ⟨r, sc', S, L, ?_, resumed, created, failed, kept, hooks'.trans hooks1, conv, ?_, ?_⟩
  · rw [exec_stages_surveyed env watch s surveyed calm1]
    rw [world1] at converged
    exact converged
  · rw [fixed.2, world1]
  · rw [← slots1 (.str p)]
    simp only [World.slotsOf, fixed.1]

/-- The stages of a pass in a calm world where the pool has settled, when the target the
reservations give is no higher than the hosts up: nothing is woken, made or deleted, and the
records and the nodes stay as they are. -/
theorem stages_settled (s : Settings) {sc : Scene} (calm : sc.Calm watch)
    (settled : sc.world.Settled s pre p d) (prefixed : s.template.namePrefix = .str pre)
    (on : s.sweepOrphans.truthy = true) (slotted : ∀ g ∈ sc.world.slotsOf (.str p), g.Named)
    (whole : s.scaling.Whole lo hi k) (wide : k < 2 ^ 1075)
    (fits : ((sc.world.slotsOf (.str p)).length : Int) < 2 ^ 53)
    (enough : Scaling.clampedHosts lo hi k (Value.distinctKeys (sc.world.granted p)).length ≤
      ((sc.world.classes (sc.world.poolHosts p)).up.length : Int)) (b : Books) :
    ∃ r sc', exec (stages (services env watch) s (.str p)) b sc =
        ⟨.ok r, b.replaceReservations (.str p) (sc.world.granted p), sc'⟩ ∧
      r.resumed = [] ∧ r.created = [] ∧ r.deletions = 0 ∧
      sc'.world.hosts = sc.world.hosts ∧ sc'.world.nodes = sc.world.nodes := by
  obtain ⟨sc1, plan, surveyed, target, hooks1, -, ⟨S, L, world1⟩, -⟩ :=
    survey_calm env watch s calm p settled.tidy.keyed (fun g member => (slotted g member).hashable)
      settled.tidy.names whole wide fits b
  have calm1 : sc1.Calm watch := Calm.of_hooks calm hooks1 (by rw [world1])
  obtain ⟨r, sc', converged, resumed, -, created, -, stale, surplus, orphans, -, -, -, hosts', nodes'⟩ :=
    converge_settled env watch s calm1 (by rw [world1]; exact settled.reslot S L) prefixed on _ plan
      target (by rw [world1]; exact enough) (b.replaceReservations (.str p) (sc.world.granted p))
  refine ⟨r, sc', ?_, resumed, created, ?_, by rw [hosts', world1], by rw [nodes', world1]⟩
  · rw [exec_stages_surveyed env watch s surveyed calm1]
    rw [world1] at converged
    exact converged
  · simp [ReconcileResult.deletions, stale, surplus, orphans]

/-- A pass in a tidy calm scene over a free lock, under settings that build, sweep and scale by
whole numbers, with the first `hi` ids to draw fresh, ends well and no creation fails. The
pool's records are then, by name and up to order, those up before, those woken and those made,
all `Available`, and the sleeping ones kept, which are not; every node under the template's
prefix and tagged for the pool backs one of them; and a second pass straight after ends well,
wakes, makes and deletes nothing, and leaves the records and the nodes as they are. -/
theorem ensureCapacity_converges_then_idles (naming : Naming p d) (s : Settings) {sc : Scene}
    (calm : sc.Calm watch) (tidy : sc.world.Tidy p d) {kvs : List (String × Value)}
    (tagged : s.template.tags = .table kvs) (texts : ∀ kv ∈ kvs, ∃ x, kv.2 = .str x)
    {script : String} (built : SetupScript.build s.setup sc.world.token env = .ok script)
    (prefixed : s.template.namePrefix = .str pre) (on : s.sweepOrphans.truthy = true)
    (slotted : ∀ g ∈ sc.world.slotsOf (.str p), g.Named) (whole : s.scaling.Whole lo hi k)
    (wide : k < 2 ^ 1075) (fits : ((sc.world.slotsOf (.str p)).length : Int) < 2 ^ 53)
    (fresh : Fresh p d sc.world (drawnIds s sc.drawn hi.toNat))
    (waits : Locks.checkWait s.timeouts.lock = .ok ()) {b : Books}
    (free : b.isLocked (.str p) = false) :
    let C := sc.world.classes (sc.world.poolHosts p)
    let first := exec (ensureCapacity (services env watch) s (.str p)) b sc
    let second := exec (ensureCapacity (services env watch) s (.str p)) first.books first.state
    ∃ r, first.outcome = .ok r ∧ r.failedCreations = 0 ∧
      ((first.state.world.poolHosts p).map (·.name)).Perm
        (C.up.map (·.name) ++ r.resumed ++ r.created ++ r.keptPoweredOff) ∧
      (∀ h ∈ first.state.world.poolHosts p, h.isAvailable = true ↔ h.name ∉ r.keptPoweredOff) ∧
      (∀ n ∈ first.state.world.nodes, ∀ x, n.id = .str x → x.startsWith pre = true →
        n.ownedText p = true → ∃ h ∈ first.state.world.poolHosts p, h.name = .str (hostText p x d)) ∧
      ∃ r', second.outcome = .ok r' ∧ r'.resumed = [] ∧ r'.created = [] ∧ r'.deletions = 0 ∧
        second.state.world.hosts = first.state.world.hosts ∧
        second.state.world.nodes = first.state.world.nodes := by
  obtain ⟨r, sc', S, L, ran, resumed, created, failed, kept, hooks', conv, assigned, slots'⟩ :=
    stages_calm env watch naming s calm tidy tagged texts built prefixed on slotted whole wide fits
      fresh { b with locked := .str p :: b.locked }
  have first := ensureCapacity_stored env watch s calm waits free ran
  set C := sc.world.classes (sc.world.poolHosts p) with C_def
  set T := Scaling.clampedHosts lo hi k (Value.distinctKeys (sc.world.granted p)).length with T_def
  set made := drawnIds s sc.drawn (C.missing T) with made_def
  have tidy1 := tidy.reslot S L
  have fresh1 : Fresh p d { sc.world with slots := S, log := L } made :=
    (fresh.missing whole C _).reslot S L
  have settled := conv.settled tidy1 fresh1 naming texts
  have calm' : sc'.Calm watch := Calm.of_hooks calm hooks' ((World.fixed_fail conv.fixed).trans rfl)
  have slotted' : ∀ g ∈ sc'.world.slotsOf (.str p), g.Named := by
    rw [slots']
    exact fun g member => slotted g (List.mem_of_mem_filter member)
  have fits' : ((sc'.world.slotsOf (.str p)).length : Int) < 2 ^ 53 := by
    have fewer := List.length_filter_le (fun g : AppGroup =>
      (Verdict.dropped sc.world.assignments sc.world.nodes (sc.world.slotsOf (.str p))).all
        fun x => !g.name.same x.name) (sc.world.slotsOf (.str p))
    rw [slots']
    omega
  -- no more reservations than before, so a target no higher than the hosts the first pass left up
  have enough : Scaling.clampedHosts lo hi k (Value.distinctKeys (sc'.world.granted p)).length ≤
      ((sc'.world.classes (sc'.world.poolHosts p)).up.length : Int) := by
    have shrink : (Value.distinctKeys (sc'.world.granted p)).length ≤
        (Value.distinctKeys (sc.world.granted p)).length := by
      unfold World.granted
      rw [assigned, slots']
      exact Verdict.reservations_shrink tidy.texts fun g member => (slotted g member).1
    have count : made.length = C.missing T := by
      simp [made, drawnIds]
    calc Scaling.clampedHosts lo hi k (Value.distinctKeys (sc'.world.granted p)).length
        ≤ T := Scaling.clampedHosts_mono whole.bounds.2.2 (by exact_mod_cast shrink)
      _ ≤ _ := conv.up_reaches_target tidy1 fresh1 count
  obtain ⟨r', sc'', ran', resumed', created', deleted', hosts'', nodes''⟩ :=
    stages_settled env watch s calm' settled prefixed on slotted' whole wide fits' enough
      { b.replaceReservations (.str p) (sc.world.granted p) with locked := .str p :: b.locked }
  have second := ensureCapacity_stored env watch s calm' waits
    (show (b.replaceReservations (.str p) (sc.world.granted p)).isLocked (.str p) = false from free) ran'
  dsimp only
  rw [first]
  dsimp only
  rw [second]
  refine ⟨r, rfl, failed, ?_, ?_, ?_, r', rfl, resumed', created', deleted', hosts'', nodes''⟩
  · rw [resumed, created, kept]
    exact conv.names_perm tidy1 fresh1
  · rw [kept]
    exact conv.available_iff_unkept tidy1 fresh1 naming texts
  · intro n member x named starts owned
    obtain ⟨-, h, pooled, hNamed⟩ := conv.backs_owned tidy1 fresh1 naming member named starts owned
    exact ⟨h, pooled, hNamed⟩

end Stages

def orphaned : Scene :=
  { world :=
    { nodes := [{ id := .str "shvm-orphan0001", state := .running,
                  tags := .table [(poolTag, .str "HP")] }] } }

def agentSettings : Settings :=
  { scaling := { maxHosts := .int 1 }, timeouts := { lock := .int 3600 },
    setup := { agentUrl := .str "https://example.invalid/RDAgent.msi",
               bootloaderUrl := .str "https://example.invalid/RDAgentBootLoader.msi" } }

theorem orphaned_tidy : orphaned.world.Tidy "HP" "corp.example.local" := by
  refine ⟨rfl, fun n member => ?_, fun h member => absurd member List.not_mem_nil,
    fun h member => absurd member List.not_mem_nil, List.nodup_nil⟩
  obtain rfl := List.mem_singleton.mp member
  exact ⟨⟨"shvm-orphan0001", ⟨by decide +kernel, by decide, by decide⟩, rfl⟩, ⟨_, rfl, by simp⟩⟩

theorem orphaned_fresh :
    Fresh "HP" "corp.example.local" orphaned.world (drawnIds agentSettings 0 1) := by
  refine ⟨fun i member => ?_, fun i member used => ?_, fun i _ x member => absurd member List.not_mem_nil,
    by decide⟩
  · have lowered : ∀ i ∈ drawnIds agentSettings 0 1, Unicode.lower i = i := by decide +kernel
    obtain ⟨j, -, rfl⟩ := List.mem_map.mp member
    obtain ⟨filled, dot, slash⟩ := Lifecycle.nodeIdFor_plain agentSettings _ (by decide) (by decide)
    exact ⟨⟨lowered _ member, dot, slash⟩, filled⟩
  · simp only [orphaned, List.map_cons, List.map_nil, List.mem_singleton, Value.str.injEq] at used
    subst used
    exact absurd member (by decide)

/-- A pool with no record and a stray node: the first pass makes the one host the settings ask
for and sweeps the node, and the second wakes, makes and deletes nothing. -/
theorem orphan_swept_then_idle :
    let C := orphaned.world.classes (orphaned.world.poolHosts "HP")
    let first := exec (ensureCapacity (services default false) agentSettings (.str "HP")) {} orphaned
    let second := exec (ensureCapacity (services default false) agentSettings (.str "HP"))
      first.books first.state
    ∃ r, first.outcome = .ok r ∧ r.failedCreations = 0 ∧
      ((first.state.world.poolHosts "HP").map (·.name)).Perm
        (C.up.map (·.name) ++ r.resumed ++ r.created ++ r.keptPoweredOff) ∧
      (∀ h ∈ first.state.world.poolHosts "HP", h.isAvailable = true ↔ h.name ∉ r.keptPoweredOff) ∧
      (∀ n ∈ first.state.world.nodes, ∀ x, n.id = .str x → x.startsWith "shvm-" = true →
        n.ownedText "HP" = true →
          ∃ h ∈ first.state.world.poolHosts "HP", h.name = .str (hostText "HP" x "corp.example.local")) ∧
      ∃ r', second.outcome = .ok r' ∧ r'.resumed = [] ∧ r'.created = [] ∧ r'.deletions = 0 ∧
        second.state.world.hosts = first.state.world.hosts ∧
        second.state.world.nodes = first.state.world.nodes := by
  obtain ⟨script, built⟩ := Outcome.ok_of_isOk
    (by decide +kernel : (SetupScript.build agentSettings.setup orphaned.world.token default).isOk = true)
  exact ensureCapacity_converges_then_idles default false ⟨by decide, by decide, by decide⟩ agentSettings
    ⟨rfl, rfl, rfl, rfl⟩ orphaned_tidy rfl (by simp) built rfl rfl
    (fun g member => absurd member List.not_mem_nil) (Scaling.Whole.of_bounds rfl rfl rfl (by decide))
    (lt_of_lt_of_le (by norm_num) (pow_le_pow_right₀ (by norm_num) (by norm_num : 2 ≤ 1075)))
    (by decide) orphaned_fresh rfl rfl

def unsweptSettings : Settings := { agentSettings with sweepOrphans := .bool false }

/-- With the sweep off, the same calm, tidy pool with fresh ids keeps its stray node after a pass
that ends well: a node under the prefix, tagged for the pool, that backs no record of it. -/
theorem unswept_orphan_outlives_pass :
    orphaned.Calm false ∧ orphaned.world.Tidy "HP" "corp.example.local" ∧
      Fresh "HP" "corp.example.local" orphaned.world (drawnIds unsweptSettings 0 1) ∧
      let run := exec (ensureCapacity (services default false) unsweptSettings (.str "HP")) {}
        orphaned
      (∃ r, run.outcome = .ok r ∧ r.failedCreations = 0) ∧
      ∃ n ∈ run.state.world.nodes, n.id = .str "shvm-orphan0001" ∧ n.ownedText "HP" = true ∧
        ∀ h ∈ run.state.world.poolHosts "HP",
          h.name ≠ .str (hostText "HP" "shvm-orphan0001" "corp.example.local") := by
  refine ⟨⟨rfl, rfl, rfl, rfl⟩, orphaned_tidy, orphaned_fresh, ?_, ?_⟩
  · have ended : (exec (ensureCapacity (services default false) unsweptSettings (.str "HP")) {}
        orphaned).outcome.toOption.any (fun r => r.failedCreations == 0) = true := by
      decide +kernel
    obtain ⟨r, returned, noFailures⟩ := Outcome.ok_of_toOption_any ended
    exact ⟨r, returned, beq_iff_eq.mp noFailures⟩
  · have kept : ((exec (ensureCapacity (services default false) unsweptSettings (.str "HP")) {}
        orphaned).state.world.nodes.any fun n => n.id.same (.str "shvm-orphan0001") &&
          n.ownedText "HP" &&
          ((exec (ensureCapacity (services default false) unsweptSettings (.str "HP")) {}
            orphaned).state.world.poolHosts "HP").all fun h =>
              !h.name.same (.str (hostText "HP" "shvm-orphan0001" "corp.example.local"))) = true := by
      decide +kernel
    obtain ⟨n, member, holds⟩ := List.any_eq_true.mp kept
    simp only [Bool.and_eq_true, List.all_eq_true, Bool.not_eq_true'] at holds
    obtain ⟨⟨named, owned⟩, apart⟩ := holds
    refine ⟨n, member, Value.same_str named, owned, fun h pooled same => ?_⟩
    have self := apart h pooled
    rw [same, Value.same_str_self] at self
    cases self

end Scene

end DesktopPool
