import DesktopPool.Capacity.Plan

/-! Whole numbers among dynamic values. Two whole numbers compare as integers, add and subtract
as integers, and the larger and the smaller of two are their maximum and minimum; a ceiling
that exists is a whole number. So with whole-number bounds a capacity target is a whole number
clamped between them, and a plan carries the target of its reservations. -/
namespace DesktopPool

namespace Outcome

variable {α β : Type}

@[simp] theorem ok_bind (a : α) (f : α → Outcome β) : (.ok a : Outcome α) >>= f = f a := rfl

@[simp] theorem pure_ok (a : α) : (pure a : Outcome α) = .ok a := rfl

@[simp] theorem error_bind (e : Fault) (f : α → Outcome β) :
    (.error e : Outcome α) >>= f = .error e := rfl

theorem bind_eq_ok {o : Outcome α} {f : α → Outcome β} {b : β} :
    o >>= f = .ok b ↔ ∃ a, o = .ok a ∧ f a = .ok b := by
  cases o with
  | error e => simp
  | ok a => simp

/-- An outcome that tests as a success holds a result; the test is a plain truth value, which a
closed run can compute. -/
theorem ok_of_isOk {o : Outcome α} (ok : o.isOk = true) : ∃ a, o = .ok a := by
  cases o with
  | error e => cases ok
  | ok a => exact ⟨a, rfl⟩

theorem ok_of_toOption_any {o : Outcome α} {p : α → Bool} (holds : o.toOption.any p = true) :
    ∃ a, o = .ok a ∧ p a = true := by
  cases o with
  | error e => cases holds
  | ok a => exact ⟨a, rfl, holds⟩

def faultKind : Outcome α → Option Kind
  | .error e => some e.kind
  | .ok _ => none

theorem faultKind_eq_some {o : Outcome α} {k : Kind} :
    faultKind o = some k ↔ ∃ e, o = .error e ∧ e.kind = k := by
  cases o with
  | error e => simp [faultKind]
  | ok a => simp [faultKind]

theorem filterM_ok {p : α → Outcome Bool} {xs kept : List α} (filtered : xs.filterM p = .ok kept) :
    ∀ a ∈ kept, a ∈ xs ∧ p a = .ok true := by
  have gathered : ∀ ys acc out, List.filterAuxM p ys acc = .ok out →
      ∀ a ∈ out, a ∈ acc ∨ (a ∈ ys ∧ p a = .ok true) := by
    intro ys
    induction ys with
    | nil =>
      intro acc out ran a member
      cases ran
      exact .inl member
    | cons y ys later =>
      intro acc out ran a member
      obtain ⟨passed, tested, rest⟩ := bind_eq_ok.mp ran
      rcases later _ out rest a member with early | ⟨inRest, holds⟩
      · cases passed with
        | false => exact .inl early
        | true =>
          rcases List.mem_cons.mp early with first | inAcc
          · rw [first]
            exact .inr ⟨List.mem_cons_self, tested⟩
          · exact .inl inAcc
      · exact .inr ⟨List.mem_cons_of_mem y inRest, holds⟩
  intro a member
  obtain ⟨out, ran, reversed⟩ := bind_eq_ok.mp filtered
  cases reversed
  rcases gathered xs [] out ran a (List.mem_reverse.mp member) with none | found
  · cases none
  · exact found

end Outcome

namespace Relation

variable (a b : Int)

@[simp] theorem holds_lt : Relation.lt.holds (compare a b) = decide (a < b) := by
  rw [Bool.eq_iff_iff]
  simp [Relation.holds, Int.compare_eq_lt]

@[simp] theorem holds_le : Relation.le.holds (compare a b) = decide (a ≤ b) := by
  rw [Bool.eq_iff_iff]
  simp [Relation.holds, Int.compare_ne_gt]

@[simp] theorem holds_gt : Relation.gt.holds (compare a b) = decide (b < a) := by
  rw [Bool.eq_iff_iff]
  simp [Relation.holds, Int.compare_eq_gt]

@[simp] theorem holds_ge : Relation.ge.holds (compare a b) = decide (b ≤ a) := by
  rw [Bool.eq_iff_iff]
  simp [Relation.holds, Int.compare_ne_lt]

end Relation

namespace Value

variable (a b : Int)

@[simp] theorem relate_int (r : Relation) :
    (Value.int a).relate r (.int b) = .ok (r.holds (compare a b)) := by
  unfold Value.relate
  simp [Value.num?, Num.order?, Num.extended, Extended.order]

@[simp] theorem arith_int (op : ArithOp) : (Value.int a).arith op (.int b) = op.onInts a b := by
  simp [Value.arith, Value.num?, Num.arith]

@[simp] theorem larger_int : (Value.int a).larger (.int b) = .ok (.int (max a b)) := by
  by_cases above : a < b
  · simp [Value.larger, above, Int.max_eq_right (Int.le_of_lt above)]
  · simp [Value.larger, above, Int.max_eq_left (Int.not_lt.mp above)]

@[simp] theorem smaller_int : (Value.int a).smaller (.int b) = .ok (.int (min a b)) := by
  by_cases below : b < a
  · simp [Value.smaller, below, Int.min_eq_right (Int.le_of_lt below)]
  · simp [Value.smaller, below, Int.min_eq_left (Int.not_lt.mp below)]

theorem ceil_whole {v w : Value} (ceiled : v.ceil = .ok w) : ∃ n, w = .int n := by
  unfold Value.ceil at ceiled
  split at ceiled
  · cases ceiled
    exact ⟨_, rfl⟩
  · cases ceiled
    exact ⟨_, rfl⟩
  · split at ceiled
    · cases ceiled
    · cases ceiled
    · cases ceiled
      exact ⟨_, rfl⟩
    · cases ceiled
      exact ⟨_, rfl⟩
  · cases ceiled

end Value

namespace Scaling

/-- With whole-number bounds, a target is a whole number clamped between them. -/
theorem target_int (s : Scaling) {lo hi : Int} (low : s.minHosts = .int lo)
    (high : s.maxHosts = .int hi) {reservations v : Value}
    (planned : s.target reservations = .ok v) : ∃ hosts : Int, v = .int (max lo (min hi hosts)) := by
  unfold target at planned
  obtain ⟨r, -, planned⟩ := Outcome.bind_eq_ok.mp planned
  obtain ⟨needed, -, planned⟩ := Outcome.bind_eq_ok.mp planned
  obtain ⟨quotient, -, planned⟩ := Outcome.bind_eq_ok.mp planned
  obtain ⟨hosts, ceiled, planned⟩ := Outcome.bind_eq_ok.mp planned
  obtain ⟨n, rfl⟩ := Value.ceil_whole ceiled
  obtain ⟨bounded, smaller, larger⟩ := Outcome.bind_eq_ok.mp planned
  rw [high, Value.smaller_int] at smaller
  cases smaller
  rw [low, Value.larger_int] at larger
  cases larger
  exact ⟨n, rfl⟩

theorem plan_target {s : Scaling} {reservations current : Value} {pl : CapacityPlan}
    (planned : s.plan reservations current = .ok pl) : s.target reservations = .ok pl.target := by
  unfold plan at planned
  obtain ⟨negative, -, planned⟩ := Outcome.bind_eq_ok.mp planned
  split at planned
  · cases planned
  obtain ⟨target, targeted, planned⟩ := Outcome.bind_eq_ok.mp planned
  obtain ⟨diff, -, planned⟩ := Outcome.bind_eq_ok.mp planned
  dsimp only at planned
  obtain ⟨up, -, planned⟩ := Outcome.bind_eq_ok.mp planned
  split at planned
  · cases planned
    exact targeted
  obtain ⟨down, -, planned⟩ := Outcome.bind_eq_ok.mp planned
  split at planned
  · obtain ⟨_, -, planned⟩ := Outcome.bind_eq_ok.mp planned
    cases planned
    exact targeted
  · cases planned
    exact targeted

end Scaling

end DesktopPool
