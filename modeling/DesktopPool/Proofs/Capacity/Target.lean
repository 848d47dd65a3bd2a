import DesktopPool.Proofs.Number.Quotient
import DesktopPool.Proofs.Value.Whole

/-! Capacity targets of whole-number scalings. A target is `max lo (min hi ⌈n / k⌉)` for the
`n = max r 0 + 1` sessions that `r` reservations need, as long as the quotient `n / k` is
within double precision: `n` at most `2^53` and `n / k` above half of the least subnormal
double (`target_is_clamped_exact_ceiling`). Past either bound the quotient rounds, and the
target misses the exact ceiling (`target_misses_exact_ceiling`): `2^53 + 1` sessions at one a
host round to `2^53` hosts, and a quotient at most half of the least subnormal rounds to zero,
which leaves the least host count (`target_tiny`). -/
namespace DesktopPool

theorem Value.div_nearest {n d : Nat} {x : Float} (pd : 0 < d) (near : Binary.nearest n d = some x) :
    (Value.int n).arith .div (.int d) = .ok (.float x) := by
  have nonzero : d ≠ 0 := by omega
  have sign : (n : Int) < 0 ↔ (d : Int) < 0 := by omega
  simp [ArithOp.onInts, Binary.nearestSigned, near, nonzero, sign]

theorem Value.div_ceil_exact {a b : Int} (pa : 0 < a) (pb : 0 < b) (fits : a ≤ 2 ^ 53)
    (wide : b < a * 2 ^ 1075) :
    ∃ x, (Value.int a).arith .div (.int b) = .ok (.float x) ∧
      (Value.float x).ceil = .ok (.int ⌈(a : ℚ) / b⌉) := by
  obtain ⟨n, rfl⟩ := Int.eq_ofNat_of_zero_le pa.le
  obtain ⟨d, rfl⟩ := Int.eq_ofNat_of_zero_le pb.le
  obtain ⟨x, near, ceiled⟩ :=
    Binary.ceil_nearest (n := n) (s := d) (by omega) (by omega) (by omega) (by omega)
  refine ⟨x, Value.div_nearest (by omega) near, ?_⟩
  rw [ceiled]
  push_cast
  rfl

theorem Value.div_ceil_tiny {a b : Int} (pa : 0 < a) (tiny : a * 2 ^ 1075 ≤ b) :
    ∃ x, (Value.int a).arith .div (.int b) = .ok (.float x) ∧ (Value.float x).ceil = .ok (.int 0) := by
  obtain ⟨n, rfl⟩ := Int.eq_ofNat_of_zero_le pa.le
  obtain ⟨d, rfl⟩ := Int.eq_ofNat_of_zero_le (le_trans (by positivity) tiny)
  obtain ⟨x, near, zero⟩ := Binary.nearest_tiny (n := n) (s := d) (by omega) (by omega)
  refine ⟨x, Value.div_nearest (by omega) near, ?_⟩
  unfold Value.ceil
  simp only [zero]

def Action.ofDifference (d : Int) : Action :=
  if 0 < d then .scaleUp else if d < 0 then .scaleDown else .maintain

namespace Scaling

/-- The hosts that `r` reservations need at `k` sessions a host: one session of headroom for
the workload that asks, whole hosts. -/
def hostsNeeded (k r : Int) : Int := ⌈((max r 0 + 1 : Int) : ℚ) / k⌉

def clampedHosts (lo hi k r : Int) : Int := max lo (min hi (hostsNeeded k r))

/-- A scaling of whole numbers, least `lo`, most `hi` and `k` sessions a host, that passes its
checks. -/
structure Whole (s : Scaling) (lo hi k : Int) : Prop where
  low : s.minHosts = .int lo
  high : s.maxHosts = .int hi
  per : s.sessionsPerHost = .int k
  accepted : s.validate = .ok s

variable {s : Scaling} {lo hi k : Int}

theorem Whole.of_bounds (low : s.minHosts = .int lo) (high : s.maxHosts = .int hi)
    (per : s.sessionsPerHost = .int k) (bounds : 0 ≤ lo ∧ lo ≤ hi ∧ 0 < k) : s.Whole lo hi k := by
  refine ⟨low, high, per, ?_⟩
  have least : ¬lo < 0 := by omega
  have most : ¬hi < lo := by omega
  have sessions : ¬k ≤ 0 := by omega
  unfold validate
  simp only [low, high, per, Value.relate_int, Relation.holds_lt, Relation.holds_le,
    Outcome.ok_bind, least, most, sessions, decide_false, Bool.false_eq_true, if_false]
  rfl

theorem Whole.bounds (w : s.Whole lo hi k) : 0 ≤ lo ∧ lo ≤ hi ∧ 0 < k := by
  have accepted := w.accepted
  unfold validate at accepted
  simp only [w.low, w.high, w.per, Value.relate_int, Relation.holds_lt, Relation.holds_le,
    Outcome.ok_bind] at accepted
  -- each check that fails is an error, so all three passed
  split at accepted
  · cases accepted
  · next least =>
    split at accepted
    · cases accepted
    · next most =>
      split at accepted
      · cases accepted
      · next per =>
        simp only [decide_eq_true_eq] at least most per
        omega

/-- Within double precision, the target of a whole-number scaling is the clamped exact
ceiling. -/
theorem target_whole (w : s.Whole lo hi k) {r : Int} (fits : r < 2 ^ 53)
    (wide : k < (max r 0 + 1) * 2 ^ 1075) :
    s.target (.int r) = .ok (.int (clampedHosts lo hi k r)) := by
  obtain ⟨-, -, pos⟩ := w.bounds
  obtain ⟨x, divided, ceiled⟩ :=
    Value.div_ceil_exact (a := max r 0 + 1) (b := k) (by omega) pos (by omega) wide
  unfold target clampedHosts hostsNeeded
  simp only [Value.larger_int, Outcome.ok_bind, Value.arith_int, ArithOp.onInts, w.per, divided,
    ceiled, w.high, w.low, Value.smaller_int]

theorem plan_negative (s : Scaling) (reservations : Value) {cur : Int} (negative : cur < 0) :
    s.plan reservations (.int cur) = fail .badValue "current_host_count cannot be negative" := by
  unfold plan
  simp [negative]

/-- A plan for hosts up reports the target and acts by the sign of what is missing. -/
theorem plan_whole (w : s.Whole lo hi k) {r cur : Int} (fits : r < 2 ^ 53)
    (wide : k < (max r 0 + 1) * 2 ^ 1075) (nonneg : 0 ≤ cur) :
    ∃ p, s.plan (.int r) (.int cur) = .ok p ∧
      p.action = Action.ofDifference (clampedHosts lo hi k r - cur) ∧
      p.target = .int (clampedHosts lo hi k r) ∧ p.current = .int cur ∧ p.reservations = .int r := by
  unfold plan
  simp only [Value.relate_int, Relation.holds_lt, Relation.holds_gt, Outcome.ok_bind,
    target_whole w fits wide, Value.arith_int, ArithOp.onInts]
  rw [if_neg (by simpa using nonneg)]
  generalize clampedHosts lo hi k r = t
  unfold Action.ofDifference
  by_cases up : 0 < t - cur
  · simp only [up, decide_true, if_true]
    exact ⟨_, rfl, rfl, rfl, rfl, rfl⟩
  · by_cases down : t - cur < 0
    · simp only [up, down, decide_true, decide_false, if_true, Bool.false_eq_true, if_false,
        Value.magnitude, Outcome.ok_bind]
      exact ⟨_, rfl, rfl, rfl, rfl, rfl⟩
    · simp only [up, down, decide_false, Bool.false_eq_true, if_false]
      exact ⟨_, rfl, rfl, rfl, rfl, rfl⟩

section Needed

variable {k : Int} (pos : 0 < k)
include pos

theorem one_le_hostsNeeded (r : Int) : 1 ≤ hostsNeeded k r := by
  unfold hostsNeeded
  rw [Int.one_le_ceil_iff]
  have : (0 : ℚ) < k := by exact_mod_cast pos
  positivity

theorem hostsNeeded_mono {r r' : Int} (le : r ≤ r') : hostsNeeded k r ≤ hostsNeeded k r' := by
  unfold hostsNeeded
  apply Int.ceil_mono
  have kQ : (0 : ℚ) ≤ k := by exact_mod_cast pos.le
  have more : ((max r 0 + 1 : Int) : ℚ) ≤ ((max r' 0 + 1 : Int) : ℚ) := by
    exact_mod_cast (by omega : max r 0 + 1 ≤ max r' 0 + 1)
  exact div_le_div_of_nonneg_right more kQ

theorem hostsNeeded_eq_one {r : Int} (few : max r 0 + 1 ≤ k) : hostsNeeded k r = 1 := by
  unfold hostsNeeded
  have kQ : (0 : ℚ) < k := by exact_mod_cast pos
  have asked : (0 : ℚ) < ((max r 0 + 1 : Int) : ℚ) := by exact_mod_cast (by omega : 0 < max r 0 + 1)
  rw [Int.ceil_eq_iff]
  constructor
  · rw [Int.cast_one, sub_self]
    exact div_pos asked kQ
  · rw [div_le_iff₀ kQ, Int.cast_one, one_mul]
    exact_mod_cast few

/-- The hosts needed hold every session asked for. -/
theorem hostsNeeded_covers (r : Int) : max r 0 + 1 ≤ hostsNeeded k r * k := by
  unfold hostsNeeded
  have kQ : (0 : ℚ) < k := by exact_mod_cast pos
  have above := Int.le_ceil (((max r 0 + 1 : Int) : ℚ) / k)
  rw [div_le_iff₀ kQ] at above
  exact_mod_cast above

theorem clampedHosts_mono {lo hi r r' : Int} (le : r ≤ r') :
    clampedHosts lo hi k r ≤ clampedHosts lo hi k r' := by
  have needed := hostsNeeded_mono pos le
  unfold clampedHosts
  omega

end Needed

section Clamped

variable {lo hi k : Int} (ordered : lo ≤ hi)
include ordered

theorem clampedHosts_mem (r : Int) : lo ≤ clampedHosts lo hi k r ∧ clampedHosts lo hi k r ≤ hi := by
  unfold clampedHosts
  omega

theorem hostsNeeded_le_clamped {r : Int} (below : clampedHosts lo hi k r ≠ hi) :
    hostsNeeded k r ≤ clampedHosts lo hi k r := by
  unfold clampedHosts at below ⊢
  omega

end Clamped

/-- Past double precision on the other side: when the quotient is at most half of the least
subnormal double it rounds to zero, and the target is the least host count. -/
theorem target_tiny (w : s.Whole lo hi k) {r : Int} (tiny : (max r 0 + 1) * 2 ^ 1075 ≤ k) :
    s.target (.int r) = .ok (.int lo) := by
  obtain ⟨least, ordered, -⟩ := w.bounds
  obtain ⟨x, divided, ceiled⟩ := Value.div_ceil_tiny (a := max r 0 + 1) (by omega) tiny
  unfold target
  simp only [Value.larger_int, Outcome.ok_bind, Value.arith_int, ArithOp.onInts, w.per, divided,
    ceiled, w.high, w.low, Value.smaller_int]
  congr
  omega

/-- Capacity targets within double precision: for reservations below `2^53` and sessions per
host below `2^1075` times the sessions needed, the target of a whole-number scaling that passes
its checks is `max lo (min hi ⌈(max r 0 + 1) / k⌉)`, exactly. It lies between the bounds, grows
with the reservations, is at least one when the most is, and holds every session needed unless
it is the most. A plan refuses a negative count of hosts up, and otherwise reports this target
and scales up, down or not by the sign of the hosts missing. -/
theorem target_is_clamped_exact_ceiling (w : s.Whole lo hi k) {r : Int} (fits : r < 2 ^ 53)
    (wide : k < (max r 0 + 1) * 2 ^ 1075) :
    s.target (.int r) = .ok (.int (clampedHosts lo hi k r)) ∧
      lo ≤ clampedHosts lo hi k r ∧ clampedHosts lo hi k r ≤ hi ∧
      (∀ r', r ≤ r' → r' < 2 ^ 53 →
        ∃ t, s.target (.int r') = .ok (.int t) ∧ clampedHosts lo hi k r ≤ t) ∧
      (1 ≤ hi → 1 ≤ clampedHosts lo hi k r) ∧
      (clampedHosts lo hi k r ≠ hi → max r 0 + 1 ≤ clampedHosts lo hi k r * k) ∧
      ∀ cur : Int,
        (cur < 0 → s.plan (.int r) (.int cur) =
          fail .badValue "current_host_count cannot be negative") ∧
        (0 ≤ cur → ∃ p, s.plan (.int r) (.int cur) = .ok p ∧
          p.action = Action.ofDifference (clampedHosts lo hi k r - cur) ∧
          p.target = .int (clampedHosts lo hi k r) ∧ p.current = .int cur ∧
          p.reservations = .int r) := by
  obtain ⟨least, ordered, pos⟩ := w.bounds
  obtain ⟨low, high⟩ := clampedHosts_mem ordered (k := k) r
  refine ⟨target_whole w fits wide, low, high, ?_, ?_, ?_, ?_⟩
  · -- more reservations need no fewer hosts, and the bound on sessions per host still holds
    intro r' more fits'
    have wide' : k < (max r' 0 + 1) * 2 ^ 1075 := by omega
    refine ⟨_, target_whole w fits' wide', ?_⟩
    have := hostsNeeded_mono pos more
    unfold clampedHosts
    omega
  · intro one
    have := one_le_hostsNeeded pos r
    unfold clampedHosts
    omega
  · intro below
    have needed := hostsNeeded_covers pos r
    have le := hostsNeeded_le_clamped ordered below
    calc max r 0 + 1 ≤ hostsNeeded k r * k := needed
      _ ≤ clampedHosts lo hi k r * k := Int.mul_le_mul_of_nonneg_right le pos.le
  · intro cur
    exact ⟨plan_negative s (.int r), plan_whole w fits wide⟩

/-- The largest reservation count the bounds admit, with one session a host: the target is
`2^53` hosts, one for each session needed. -/
theorem target_exact_below_two_pow_53 :
    let s : Scaling := { sessionsPerHost := .int 1, minHosts := .int 1, maxHosts := .int (2 ^ 53 + 1) }
    s.Whole 1 (2 ^ 53 + 1) 1 ∧ s.target (.int (2 ^ 53 - 1)) = .ok (.int (2 ^ 53)) := by
  intro s
  have w : s.Whole 1 (2 ^ 53 + 1) 1 := Whole.of_bounds rfl rfl rfl (by norm_num)
  have exact := (target_is_clamped_exact_ceiling w (r := 2 ^ 53 - 1) (by norm_num) (by omega)).1
  refine ⟨w, exact.trans ?_⟩
  norm_num [clampedHosts, hostsNeeded]

/-- The target is not the exact ceiling past double precision. With one session a host and
`2^53` reservations the quotient `2^53 + 1` rounds to `2^53`, one host short; with `2^1076`
sessions a host the quotient `2^-1076` rounds to zero, and a pool that may grow to one host
keeps none. -/
theorem target_misses_exact_ceiling :
    let dense : Scaling :=
      { sessionsPerHost := .int 1, minHosts := .int 1, maxHosts := .int (2 ^ 53 + 1) }
    let sparse : Scaling := { sessionsPerHost := .int (2 ^ 1076), minHosts := .int 0, maxHosts := .int 1 }
    dense.target (.int (2 ^ 53)) = .ok (.int (2 ^ 53)) ∧
      clampedHosts 1 (2 ^ 53 + 1) 1 (2 ^ 53) = 2 ^ 53 + 1 ∧
      sparse.target (.int 0) = .ok (.int 0) ∧ clampedHosts 0 1 (2 ^ 1076) 0 = 1 := by
  intro dense sparse
  have w : sparse.Whole 0 1 (2 ^ 1076) := Whole.of_bounds rfl rfl rfl (by norm_num)
  refine ⟨rfl, by norm_num [clampedHosts, hostsNeeded], target_tiny w (by
    rw [show max (0 : Int) 0 + 1 = 1 from rfl, one_mul]
    exact pow_le_pow_right₀ (by norm_num) (by norm_num)), ?_⟩
  have one : max (0 : Int) 0 + 1 = 1 := rfl
  unfold clampedHosts
  rw [hostsNeeded_eq_one (by positivity) (by rw [one]; exact one_le_pow₀ (by norm_num))]
  rfl

end Scaling

end DesktopPool
