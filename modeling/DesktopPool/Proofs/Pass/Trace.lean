import DesktopPool.Proofs.Pass.Run

/-! Traces of the calls a pass makes. `svc.traced` runs every operation of `svc` and writes the
call, with its arguments, at the end of a log kept beside the services' own state; listings of
nodes, cancellation checks and fresh numbers are written with their answers. A statement about
what a pass calls is a statement about the log its traced run leaves, whichever way it ends.

`Pass.Calls P x` says that every call `x` makes satisfies `P`, from any books, state and log;
it is the frame in which the log grows only by such calls. -/
namespace DesktopPool

/-- A call of a service operation, as the trace records it. -/
inductive Call where
  | create (spec : NodeSpec)
  | start (node : Value)
  | stop (node : Value)
  | deleteNode (node : Value)
  | lookup (node : Value)
  | listNodes (namePrefix : Value) (answer : Outcome (List ComputeNode))
  | runScript (node script : Value)
  | listHosts (pool : Value)
  | deleteHost (host : SessionHost)
  | waitReady (pool node : Value)
  | listSlots (pool : Value)
  | createSlot (pool name workload : Value)
  | deleteSlot (name : Value)
  | publish (workspace name : Value)
  | unpublish (workspace name : Value)
  | assignments (name : Value)
  | assign (name principal kind : Value)
  | registrationToken (pool : Value)
  | cancelCheck (answer : Bool)
  | draw (n : Nat)

namespace Call

/-- A call that creates, starts or deletes a node, or deletes a host record. -/
def touchesHosts : Call → Bool
  | .create _ | .start _ | .deleteNode _ | .deleteHost _ => true
  | _ => false

def deletesSlot : Call → Bool
  | .deleteSlot _ => true
  | _ => false

def goesOn : Call → Bool
  | .cancelCheck false => true
  | _ => false

end Call

namespace Trace

variable {σ α : Type}

/-- Run a service operation and write its call, which may show the answer, at the end of the log. -/
def record (x : StateM σ α) (c : α → Call) : StateM (σ × List Call) α :=
  fun (t, log) => let (a, t') := x.run t; (a, t', log ++ [c a])

@[simp] theorem record_run (x : StateM σ α) (c : α → Call) (t : σ) (log : List Call) :
    (record x c).run (t, log) = ((x.run t).1, (x.run t).2, log ++ [c (x.run t).1]) := rfl

end Trace

variable {σ : Type}

def Services.traced (svc : Services (StateM σ)) : Services (StateM (σ × List Call)) where
  compute := {
    create := fun spec => Trace.record (svc.compute.create spec) fun _ => .create spec
    start := fun id => Trace.record (svc.compute.start id) fun _ => .start id
    stop := fun id => Trace.record (svc.compute.stop id) fun _ => .stop id
    delete := fun id => Trace.record (svc.compute.delete id) fun _ => .deleteNode id
    get := fun id full => Trace.record (svc.compute.get id full) fun _ => .lookup id
    listAll := fun p => Trace.record (svc.compute.listAll p) (.listNodes p)
    runScript := fun id script t poll =>
      Trace.record (svc.compute.runScript id script t poll) fun _ => .runScript id script }
  directory := {
    listHosts := fun pool => Trace.record (svc.directory.listHosts pool) fun _ => .listHosts pool
    deleteHost := fun h => Trace.record (svc.directory.deleteHost h) fun _ => .deleteHost h
    waitReady := fun pool id t =>
      Trace.record (svc.directory.waitReady pool id t) fun _ => .waitReady pool id
    listSlots := fun pool => Trace.record (svc.directory.listSlots pool) fun _ => .listSlots pool
    createSlot := fun pool name w =>
      Trace.record (svc.directory.createSlot pool name w) fun _ => .createSlot pool name w
    deleteSlot := fun name => Trace.record (svc.directory.deleteSlot name) fun _ => .deleteSlot name
    publish := fun ws name => Trace.record (svc.directory.publish ws name) fun _ => .publish ws name
    unpublish := fun ws name =>
      Trace.record (svc.directory.unpublish ws name) fun _ => .unpublish ws name
    assignments := fun name =>
      Trace.record (svc.directory.assignments name) fun _ => .assignments name
    assign := fun name p kind =>
      Trace.record (svc.directory.assign name p kind) fun _ => .assign name p kind
    registrationToken := fun pool =>
      Trace.record (svc.directory.registrationToken pool) fun _ => .registrationToken pool }
  cancelled := Trace.record svc.cancelled .cancelCheck
  fresh := Trace.record svc.fresh .draw
  env := svc.env

namespace Pass

variable {α β : Type}

/-- The frame of a step whose calls all satisfy `P`: the log only grows, by such calls. -/
def callFrame (P : Call → Prop) : Frame (σ × List Call) where
  rel := fun (_, t) (_, t') => ∃ new, t'.2 = t.2 ++ new ∧ ∀ c ∈ new, P c
  refl := fun _ => ⟨[], by simp, by simp⟩
  trans := by
    rintro _ _ _ ⟨new, grown, within⟩ ⟨more, grown', within'⟩
    refine ⟨new ++ more, by rw [grown', grown, List.append_assoc], ?_⟩
    intro c member
    rcases List.mem_append.mp member with early | late
    · exact within c early
    · exact within' c late

/-- Every call that `x` makes satisfies `P`, however it ends. -/
def Calls (P : Call → Prop) (x : Pass (StateM (σ × List Call)) α) : Prop := Keeps (callFrame P) x

theorem Calls.mono {P Q : Call → Prop} (weaker : ∀ c, P c → Q c)
    {x : Pass (StateM (σ × List Call)) α} (calls : Calls P x) : Calls Q x := by
  intro b t
  obtain ⟨new, grown, within⟩ := calls b t
  exact ⟨new, grown, fun c member => weaker c (within c member)⟩

theorem Calls.log {P : Call → Prop} {x : Pass (StateM (σ × List Call)) α} (calls : Calls P x)
    (b : Books) (t : σ) (log : List Call) :
    ∃ new, (exec x b (t, log)).state.2 = log ++ new ∧ ∀ c ∈ new, P c :=
  calls b (t, log)

theorem record_op {P : Call → Prop} {x : StateM σ α} {c : α → Call} (allowed : ∀ a, P (c a)) :
    (callFrame P).Op (Trace.record x c) :=
  fun _ _ => ⟨[c _], rfl, by simpa using allowed _⟩

theorem books_calls {P : Call → Prop} (b b' : Books) (t : σ × List Call) :
    (callFrame P).rel (b, t) (b', t) :=
  ⟨[], by simp, by simp⟩

/-- When `x` ends well, the log has grown by calls of which at least `k` are cancellation
checks that let the pass go on. -/
def GoesOn (k : Nat) (x : Pass (StateM (σ × List Call)) α) : Prop :=
  ∀ b t a, (exec x b t).outcome = .ok a →
    ∃ new, (exec x b t).state.2 = t.2 ++ new ∧ k ≤ new.countP Call.goesOn

theorem GoesOn.of_calls {P : Call → Prop} {x : Pass (StateM (σ × List Call)) α}
    (calls : Calls P x) : GoesOn 0 x := by
  intro b t a _
  obtain ⟨new, grown, -⟩ := calls b t
  exact ⟨new, grown, Nat.zero_le _⟩

theorem GoesOn.pure (a : α) : GoesOn 0 (pure a : Pass (StateM (σ × List Call)) α) :=
  GoesOn.of_calls (P := fun _ => True) (Keeps.pure a)

theorem GoesOn.check (o : Outcome α) :
    GoesOn 0 (Pass.check o : Pass (StateM (σ × List Call)) α) :=
  GoesOn.of_calls (P := fun _ => True) (Keeps.check o)

theorem GoesOn.bind {k j : Nat} {x : Pass (StateM (σ × List Call)) α}
    {f : α → Pass (StateM (σ × List Call)) β} (first : GoesOn k x) (next : ∀ a, GoesOn j (f a)) :
    GoesOn (k + j) (x >>= f) := by
  intro b t a ended
  rw [exec_bind] at ended ⊢
  rcases hx : exec x b t with ⟨e | a', b', t'⟩
  · simp [hx] at ended
  · rw [hx] at ended
    obtain ⟨new, grown, passed⟩ := first b t a' (by rw [hx])
    obtain ⟨more, grown', passed'⟩ := next a' b' t' a ended
    rw [hx] at grown
    refine ⟨new ++ more, by rw [grown', grown, List.append_assoc], ?_⟩
    rw [List.countP_append]
    omega

end Pass

end DesktopPool
