import DesktopPool.Pass.Reconcile

/-! Faults of the data. Comparing and combining values, computing a capacity plan, counting the
creation attempts of a pass and reading a node's pool tag fail only with faults of the data they
read: a wrong type, a missing attribute, a bad value, an overflow, a division by zero. None of
these is a fault a reconciliation pass raises of its own accord (a lock timeout, a cancellation,
a failed rebuild, a failed host listing), which its callers tell apart by kind. -/
namespace DesktopPool

/-- The kinds of fault a reconciliation pass raises of its own accord. -/
def Kind.ofPass : Kind → Bool
  | .reconcile | .lockTimeout | .cancelled | .rebuild => true
  | _ => false

/-- Every fault `o` can be is a fault of the data. -/
def Outcome.OfData {α : Type} (o : Outcome α) : Prop := ∀ e, o = .error e → e.kind.ofPass = false

namespace Outcome.OfData

variable {α β : Type}

theorem ok (a : α) : OfData (.ok a : Outcome α) := by
  intro e failed
  cases failed

theorem fault {f : Fault} (plain : f.kind.ofPass = false) : OfData (.error f : Outcome α) := by
  intro e failed
  cases failed
  exact plain

theorem fail {k : Kind} (msg : String) (plain : k.ofPass = false) :
    OfData (DesktopPool.fail k msg : Outcome α) :=
  fault plain

theorem bind {o : Outcome α} {f : α → Outcome β} (first : OfData o) (next : ∀ a, OfData (f a)) :
    OfData (o >>= f) := by
  intro e failed
  cases o with
  | error f' =>
    cases failed
    exact first e rfl
  | ok a => exact next a e failed

theorem ite {c : Prop} [Decidable c] {x y : Outcome α} (yes : OfData x) (no : OfData y) :
    OfData (if c then x else y) := by
  split
  · exact yes
  · exact no

theorem filterM {p : α → Outcome Bool} (each : ∀ a, OfData (p a)) (xs : List α) :
    OfData (xs.filterM p) := by
  have kept : ∀ ys acc, OfData (List.filterAuxM p ys acc) := by
    intro ys
    induction ys with
    | nil => exact fun acc => ok acc
    | cons y ys rest => exact fun acc => bind (each y) fun _ => rest _
  exact bind (kept xs []) fun passed => ok passed.reverse

end Outcome.OfData

open Outcome

namespace Value

theorem relate_ofData (r : Relation) (a b : Value) : OfData (a.relate r b) := by
  induction a, b using Value.relate.induct
    (motive_2 := fun xs ys => OfData (Value.relateLists r xs ys)) with
  | case1 a b x y right left =>
    unfold Value.relate
    rw [left, right]
    exact OfData.ok _
  | case2 => exact OfData.ok _
  | case3 xs ys _ lists => exact lists
  | case4 m n o ordered =>
    unfold Value.relate
    simp only [Value.num?, ordered]
    exact OfData.ok _
  | case5 m n unordered =>
    unfold Value.relate
    simp only [Value.num?, unordered]
    exact OfData.fault rfl
  | case6 a b notNum notText notList notMoment =>
    unfold Value.relate
    split
    · next x y left right => exact (notNum x y left right).elim
    · split
      · exact (notText _ _ rfl rfl).elim
      · exact (notList _ _ rfl rfl).elim
      · exact (notMoment _ _ rfl rfl).elim
      · exact OfData.fault rfl
  | case7 x xs y ys same lists =>
    unfold Value.relateLists
    rw [if_pos same]
    exact lists
  | case8 x xs y ys differ elements =>
    unfold Value.relateLists
    rw [if_neg differ]
    exact elements
  | case9 xs ys notCons =>
    unfold Value.relateLists
    split
    · next x xs y ys => exact (notCons x xs y ys rfl rfl).elim
    · exact OfData.ok _

theorem larger_ofData (a b : Value) : OfData (a.larger b) := by
  unfold Value.larger
  exact OfData.bind (relate_ofData .gt b a) fun _ => OfData.ite (OfData.ok _) (OfData.ok _)

theorem smaller_ofData (a b : Value) : OfData (a.smaller b) := by
  unfold Value.smaller
  exact OfData.bind (relate_ofData .lt b a) fun _ => OfData.ite (OfData.ok _) (OfData.ok _)

end Value

theorem Num.asFloat_ofData (x : Num) : OfData x.asFloat := by
  unfold Num.asFloat
  split
  · exact OfData.ok _
  · split
    · exact OfData.ok _
    · exact OfData.fail _ rfl

theorem ArithOp.onFloats_ofData (op : ArithOp) (x y : Float) : OfData (op.onFloats x y) := by
  cases op
  case div => exact OfData.ite (OfData.fail _ rfl) (OfData.ok _)
  all_goals exact OfData.ok _

theorem ArithOp.onInts_ofData (op : ArithOp) (a b : Int) : OfData (op.onInts a b) := by
  cases op
  case div =>
    unfold ArithOp.onInts
    refine OfData.ite (OfData.fail _ rfl) ?_
    split
    · exact OfData.ok _
    · exact OfData.fail _ rfl
  all_goals exact OfData.ok _

theorem Num.arith_ofData (op : ArithOp) (x y : Num) : OfData (x.arith op y) := by
  unfold Num.arith
  split
  · exact ArithOp.onInts_ofData op _ _
  · exact OfData.bind (asFloat_ofData x) fun u => OfData.bind (asFloat_ofData y) fun v =>
      OfData.bind (ArithOp.onFloats_ofData op u v) fun r => OfData.ok _

namespace Value

theorem arith_ofData (op : ArithOp) (a b : Value) : OfData (a.arith op b) := by
  unfold Value.arith
  split
  · exact Num.arith_ofData op _ _
  · repeat' split
    all_goals first | exact OfData.ok _ | exact OfData.fail _ rfl

theorem ceil_ofData (v : Value) : OfData v.ceil := by
  unfold Value.ceil
  split
  · exact OfData.ok _
  · exact OfData.ok _
  · split <;> first | exact OfData.ok _ | exact OfData.fail _ rfl
  · exact OfData.fail _ rfl

theorem magnitude_ofData (v : Value) : OfData v.magnitude := by
  unfold Value.magnitude
  split <;> first | exact OfData.ok _ | exact OfData.fail _ rfl

theorem asKey_ofData (v : Value) : OfData v.asKey := by
  unfold Value.asKey
  split
  · exact OfData.ok _
  · exact OfData.fault rfl

theorem entry_ofData (v : Value) (key : String) : OfData (v.entry key) := by
  unfold Value.entry Value.entryD
  split
  · exact OfData.ok _
  · exact OfData.fault rfl

theorem lower_ofData (v : Value) : OfData v.lower := by
  unfold Value.lower Value.textFor
  split
  · exact OfData.ok _
  · exact OfData.fault rfl

end Value

namespace Scaling

theorem target_ofData (s : Scaling) (reservations : Value) : OfData (s.target reservations) := by
  unfold Scaling.target
  refine OfData.bind (Value.larger_ofData _ _) fun r => ?_
  refine OfData.bind (Value.arith_ofData _ _ _) fun needed => ?_
  refine OfData.bind (Value.arith_ofData _ _ _) fun quotient => ?_
  refine OfData.bind (Value.ceil_ofData quotient) fun hosts => ?_
  exact OfData.bind (Value.smaller_ofData _ _) fun fewer => Value.larger_ofData _ _

theorem plan_ofData (s : Scaling) (reservations current : Value) :
    OfData (s.plan reservations current) := by
  unfold Scaling.plan
  refine OfData.bind (Value.relate_ofData _ _ _) fun negative => OfData.ite (OfData.fail _ rfl) ?_
  refine OfData.bind (target_ofData s reservations) fun target => ?_
  refine OfData.bind (Value.arith_ofData _ _ _) fun diff => ?_
  refine OfData.bind (Value.relate_ofData _ _ _) fun more => OfData.ite (OfData.ok _) ?_
  refine OfData.bind (Value.relate_ofData _ _ _) fun fewer => OfData.ite ?_ (OfData.ok _)
  exact OfData.bind (Value.magnitude_ofData _) fun _ => OfData.ok _

end Scaling

namespace Reconcile

theorem attemptsFor_ofData (target : Value) (up : Nat) : OfData (attemptsFor target up) := by
  unfold attemptsFor
  refine OfData.bind (Value.arith_ofData _ _ _) fun needed => ?_
  refine OfData.bind (Value.relate_ofData _ _ _) fun none => OfData.ite (OfData.ok _) ?_
  refine OfData.bind (Value.arith_ofData _ _ _) fun count => ?_
  split
  · exact OfData.ok _
  · exact OfData.fail _ rfl

theorem ownedBy_ofData (pool : Value) (n : ComputeNode) : OfData (ownedBy pool n) := by
  unfold ownedBy
  refine OfData.bind (Value.entry_ofData _ _) fun owner => ?_
  split
  · exact OfData.ok _
  · exact OfData.bind (Value.lower_ofData _) fun _ =>
      OfData.bind (Value.lower_ofData _) fun _ => OfData.ok _

end Reconcile

end DesktopPool
