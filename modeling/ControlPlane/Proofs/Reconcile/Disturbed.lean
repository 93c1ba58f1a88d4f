import ControlPlane.Proofs.Reconcile.Alone
import ControlPlane.Proofs.Reconcile.OwnCalls
import ControlPlane.Proofs.Store.OwnKeys
import ControlPlane.Proofs.Store.Unreliable

/-!
Invocations on a store that may fail any call. An invocation fails with the first of its writes that
fails, and that write may be carried out later. So one that succeeds leaves no write behind, and one
that fails leaves at most a write at its own key. What is left behind at other keys does not concern
an invocation: where it succeeds, the function at its key is under the agent's control
(`Reconciler.interleaved_reconcile`).
-/

namespace ControlPlane

variable {α β ε ε' κ : Type} [Address κ]

/-! ### Writes that are late -/

/-- Two stores have the same records but for what stands at some keys. -/
def Store.SameBeside (keys : List RecordKey) (s t : Store κ) : Prop :=
  ∀ kind key, Address.refusal? κ key = none → key ∉ keys → t.find? kind key = s.find? kind key

namespace Store.SameBeside

variable {s t u : Store κ} {keys keys' : List RecordKey} {key : RecordKey}

theorem refl (keys : List RecordKey) (s : Store κ) : s.SameBeside keys s := fun _ _ _ _ => rfl

theorem trans (h : s.SameBeside keys t) (h' : t.SameBeside keys u) : s.SameBeside keys u :=
  fun kind key accepted other =>
    (h' kind key accepted other).trans (h kind key accepted other)

theorem mono (h : s.SameBeside keys t) (sub : keys ⊆ keys') : s.SameBeside keys' t :=
  fun kind key accepted other => h kind key accepted fun mem => other (sub mem)

theorem fetch_eq {σ τ : Type} [shape : RecordShape σ τ] (h : s.SameBeside keys t)
    (accepted : Address.refusal? κ key = none) (other : key ∉ keys) :
    t.fetch σ key = s.fetch σ key :=
  Store.fetch_congr (h shape.kind key accepted other)

end Store.SameBeside

/-- A write at a key changes nothing but what stands there. -/
theorem Call.OwnWrite.sameBeside {c : Call} {key : RecordKey} (own : c.OwnWrite key)
    (accepted : Address.refusal? κ key = none) (s : Store κ) :
    s.SameBeside [key] (s.answer c).2.store := by
  intro kind k acceptedK other
  have apart : ∀ l, Address.of (κ := κ) kind k ≠ Address.of l key := by
    intro l same
    have sameKind := congrArg Address.kind same
    rw [Address.kind_of, Address.kind_of] at sameKind
    subst sameKind
    exact other (List.mem_singleton.mpr (Address.of_inj acceptedK accepted same))
  rcases own.answer accepted s with ⟨-, uids, -, stays⟩ | ⟨-, others⟩
  · rw [stays, Store.find?_giving]
  · exact others kind k (apart .function) (apart .agent)

/-- Every write among the calls that have failed is one at some keys. -/
def LateWrites (κ : Type) [Address κ] (keys : List RecordKey) (failed : List Call) : Prop :=
  ∀ c ∈ failed, c.isWrite = true → ∃ key ∈ keys, Address.refusal? κ key = none ∧ c.OwnWrite key

theorem FailedReads.lateWrites {failed : List Call} (reads : FailedReads failed) :
    LateWrites κ [] failed := by
  intro c mem isWrite
  rw [reads c mem] at isWrite
  cases isWrite

namespace LateWrites

variable {keys keys' : List RecordKey} {key : RecordKey} {failed : List Call} {c : Call}
  {w v : Store κ × List Call} {a b : α}

theorem mono (late : LateWrites κ keys failed) (sub : keys ⊆ keys') : LateWrites κ keys' failed :=
  fun c mem isWrite => (late c mem isWrite).imp fun _ h => ⟨sub h.1, h.2⟩

theorem cons_read (late : LateWrites κ keys failed) (reads : c.isWrite = false) :
    LateWrites κ keys (c :: failed) := by
  refine List.forall_mem_cons.mpr ⟨fun isWrite => ?_, late⟩
  rw [reads] at isWrite
  cases isWrite

theorem cons_own (late : LateWrites κ keys failed) (accepted : Address.refusal? κ key = none)
    (own : c.OwnWrite key) : LateWrites κ (key :: keys) (c :: failed) :=
  List.forall_mem_cons.mpr ⟨fun _ => ⟨key, List.mem_cons_self, accepted, own⟩,
    late.mono (List.subset_cons_self _ _)⟩

/-- What is late changes nothing but what stands at its keys. -/
theorem drift (late : LateWrites κ keys w.2) (drifted : unreliable.drift w v) :
    w.1.SameBeside keys v.1 ∧ v.2 = w.2 := by
  refine unreliable_drift drifted (fun c mem s same => same.trans ?_) (.refl keys w.1)
  by_cases isWrite : c.isWrite = true
  · obtain ⟨key, isLate, accepted, own⟩ := late c mem isWrite
    exact (own.sameBeside accepted s).mono (List.cons_subset.mpr ⟨isLate, List.nil_subset _⟩)
  · rw [s.answer_of_read (Bool.not_eq_true _ ▸ isWrite)]
    exact .refl keys s

/-! ### Calls one by one -/

theorem done (late : LateWrites κ keys w.2)
    (run : (Routine.done b).Interleaved unreliable w a v) :
    a = b ∧ w.1.SameBeside keys v.1 ∧ LateWrites κ keys v.2 := by
  obtain ⟨last, drifted⟩ := Routine.interleaved_done_iff.mp run
  obtain ⟨same, failed⟩ := late.drift drifted
  exact ⟨last, same, failed ▸ late⟩

/-- A lookup at another key gives what was there at first, or fails. -/
theorem get {σ τ : Type} [shape : RecordShape σ τ] (late : LateWrites κ keys w.2)
    (accepted : Address.refusal? κ key = none) (apart : key ∉ keys)
    {f : Except StoreError (RecordOf σ τ) → Routine α}
    (run : (Routine.call (.get shape.kind key) fun o => f (o >>= Client.typed)).Interleaved
      unreliable w a v) :
    ∃ read u, (read = w.1.fetch σ key ∨ ∃ e, e.isNotFound = false ∧ read = .error e) ∧
      w.1.SameBeside keys u.1 ∧ LateWrites κ keys u.2 ∧ (f read).Interleaved unreliable u a v := by
  cases run with
  | @call _ _ _ u x o _ _ drifted answered rest =>
    obtain ⟨same, failed⟩ := late.drift drifted
    have late' : LateWrites κ keys u.2 := failed ▸ late
    rcases answered with ⟨rfl, rfl⟩ | ⟨e, other, rfl, rfl⟩
    · rw [u.1.answer_of_read rfl] at rest
      exact ⟨_, u, .inl (same.fetch_eq accepted apart), same, late', rest⟩
    · exact ⟨_, (u.1, .get shape.kind key :: u.2), .inr ⟨e, other, rfl⟩, same,
        late'.cons_read rfl, rest⟩

theorem get_ok {σ τ : Type} [shape : RecordShape σ τ] {t : RecordOf σ τ}
    (late : LateWrites κ keys w.2) (accepted : Address.refusal? κ key = none) (apart : key ∉ keys)
    (run : (Client.get σ key).run.Interleaved unreliable w (.ok t) v) :
    w.1.fetch σ key = .ok t ∧ w.1.SameBeside keys v.1 ∧ LateWrites κ keys v.2 := by
  rw [Client.get_run] at run
  obtain ⟨read, u, isRead, same, late', last⟩ := late.get accepted apart (f := .done) run
  obtain ⟨rfl, same', late''⟩ := late'.done last
  refine ⟨?_, same.trans same', late''⟩
  rcases isRead with isRead | ⟨e, -, isRead⟩
  · exact isRead.symm
  · cases isRead

/-- A routine that only reads leaves no further write behind. -/
theorem readsOnly {r : Routine α} (late : LateWrites κ keys w.2) (reads : r.ReadsOnly)
    (run : r.Interleaved unreliable w a v) :
    w.1.SameBeside keys v.1 ∧ LateWrites κ keys v.2 := by
  have kept : r.Ensures unreliable (fun _ _ => True)
      (fun _ v => w.1.SameBeside keys v.1 ∧ LateWrites κ keys v.2) w := by
    refine reads.ensures ?_ ?_ ⟨.refl keys w.1, late⟩
    · rintro u u' ⟨same, late⟩ drifted
      obtain ⟨same', failed⟩ := late.drift drifted
      exact ⟨same.trans same', failed ▸ late⟩
    · rintro c u o u' isRead (⟨-, rfl⟩ | ⟨e, -, -, rfl⟩) ⟨same, late⟩
      · rw [u.1.answer_of_read isRead]
        exact ⟨trivial, same, late⟩
      · exact ⟨trivial, same, late.cons_read isRead⟩
  exact run.ensures kept

end LateWrites

/-! ### What a routine for a key leaves -/

/-- The key at which a write may be late after a routine for it has ended. -/
def lateAfter (key : RecordKey) : Except ε α → List RecordKey
  | .error _ => [key]
  | .ok _ => []

theorem lateAfter_append_subset (key : RecordKey) (result : Except ε α) (gone : List RecordKey) :
    lateAfter key result ++ gone ⊆ key :: gone := by
  cases result with
  | error e => exact List.Subset.refl _
  | ok a => exact List.subset_cons_self _ _

/-- How a routine for a key ends where writes at other keys are late: nothing has changed but what
stands at these keys, a write at its key is late only if it failed, and if it succeeded there is
what it was to achieve. -/
structure Leaves (keys : List RecordKey) (key : RecordKey) (s : Store κ) (post : α → Store κ → Prop)
    (result : Except ε α) (v : Store κ × List Call) : Prop where
  same : s.SameBeside (key :: keys) v.1
  late : LateWrites κ (lateAfter key result ++ keys) v.2
  achieved : ∀ a, result = .ok a → post a v.1

namespace Leaves

variable {keys : List RecordKey} {key : RecordKey} {s t : Store κ} {post : α → Store κ → Prop}
  {post' : β → Store κ → Prop} {result : Except ε α} {v w : Store κ × List Call}

theorem of_same (h : Leaves keys key t post result v) (same : s.SameBeside keys t) :
    Leaves keys key s post result v :=
  { h with same := (same.mono (List.subset_cons_self _ _)).trans h.same }

/-- A routine that ends without a write leaves none behind. -/
theorem of_done {a : Except ε α} (late : LateWrites κ keys w.2)
    (run : (Routine.done result).Interleaved unreliable w a v)
    (achieved : ∀ x, result = .ok x → ∀ t, w.1.SameBeside keys t → post x t) :
    Leaves keys key w.1 post a v := by
  obtain ⟨rfl, same, late'⟩ := late.done run
  exact ⟨same.mono (List.subset_cons_self _ _), late'.mono (List.subset_append_right _ _),
    fun x succeeded => achieved x succeeded v.1 same⟩

theorem of_error {e : ε} (late : LateWrites κ keys w.2)
    (run : (Routine.done (.error e)).Interleaved unreliable w result v) :
    Leaves keys key w.1 post result v :=
  of_done late run fun _ succeeded => nomatch succeeded

/-- A write at the key is carried out, or it fails, and the routine with it. -/
theorem of_write {c : Call} {g : c.Outcome → Except ε α} (late : LateWrites κ keys w.2)
    (accepted : Address.refusal? κ key = none) (own : c.OwnWrite key)
    (fails : ∀ e, ∃ e', g (.error e) = .error e')
    (run : (Routine.call c fun o => .done (g o)).Interleaved unreliable w result v)
    (achieved : ∀ a u, w.1.SameBeside keys u →
      ∀ t, ((Routine.call c fun o => .done (g o)).runOn u).2.store.SameBeside keys t → post a t) :
    Leaves keys key w.1 post result v := by
  cases run with
  | @call _ _ _ u x o _ _ drifted answered rest =>
    obtain ⟨same, failed⟩ := late.drift drifted
    have late' : LateWrites κ keys u.2 := failed ▸ late
    refine Leaves.of_same ?_ same
    rcases answered with ⟨rfl, rfl⟩ | ⟨e, -, rfl, rfl⟩
    · have last : (Routine.done (g (u.1.answer c).1)).Interleaved unreliable
        ((u.1.answer c).2.store, u.2) result v := rest
      obtain ⟨rfl, same', after⟩ := LateWrites.done (w := ((u.1.answer c).2.store, u.2)) late' last
      have written : u.1.SameBeside (key :: keys) (u.1.answer c).2.store :=
        (own.sameBeside accepted u.1).mono (List.cons_subset_cons key (List.nil_subset keys))
      refine ⟨written.trans (same'.mono (List.subset_cons_self _ _)),
        after.mono (List.subset_append_right _ _), fun a _ => achieved a u.1 same v.1 ?_⟩
      rw [Routine.runOn_call]
      exact same'
    · obtain ⟨e', failedWith⟩ := fails e
      obtain ⟨rfl, same', after⟩ := LateWrites.done (late'.cons_own accepted own) rest
      rw [failedWith]
      exact ⟨same', after, fun a succeeded => nomatch succeeded⟩

/-- The rest of a routine goes on where its first part succeeded, and fails where it failed. -/
theorem bind {r : Routine (Except ε α)} {f : Except ε α → Routine (Except ε' β)}
    {result : Except ε' β} (run : (r.bind f).Interleaved unreliable w result v)
    (fails : ∀ e, ∃ e', f (.error e) = .done (.error e'))
    (first : ∀ a u, r.Interleaved unreliable w a u → Leaves keys key w.1 post a u)
    (next : ∀ a u, LateWrites κ keys u.2 → w.1.SameBeside (key :: keys) u.1 → post a u.1 →
      (f (.ok a)).Interleaved unreliable u result v → Leaves keys key u.1 post' result v) :
    Leaves keys key w.1 post' result v := by
  obtain ⟨a, u, one, rest⟩ := Routine.interleaved_bind_iff.mp run
  obtain ⟨same, late, achieved⟩ := first a u one
  cases a with
  | error e =>
    obtain ⟨e', failed⟩ := fails e
    rw [failed] at rest
    obtain ⟨rfl, same', late'⟩ := late.done rest
    exact ⟨same.trans same', late', fun b succeeded => nomatch succeeded⟩
  | ok a =>
    have rest := next a u late same (achieved a rfl) rest
    exact { rest with same := same.trans rest.same }

end Leaves

namespace Reconciler

variable {broker : BrokerSettings} {key : RecordKey} {agent : AgentRecord} {config : Documents}
  {s t : Store κ} {keys : List RecordKey} {w v : Store κ × List Call}

/-! ### Control of the function -/

/-- The function at a key is under the control of an agent. -/
def Controlled (agent : AgentRecord) (key : RecordKey) (s : Store κ) : Prop :=
  ∃ f, s.fetch FunctionSpec key = .ok f ∧
    agent.metadata.controllerReference .agent ∈ f.metadata.ownerReferences

theorem Controlled.of_same (h : Controlled agent key s)
    (accepted : Address.refusal? κ key = none) (apart : key ∉ keys) (same : s.SameBeside keys t) :
    Controlled agent key t := by
  rwa [Controlled, same.fetch_eq accepted apart]

theorem controlled_of_placed {f : FunctionRecord} (placed : Placed agent config key s t f) :
    Controlled agent key t := by
  obtain ⟨m, taken, -, references⟩ := placed.derived.controlled
  exact ⟨f, placed.read, references ▸ (Metadata.setController_references taken).1⟩

/-- A function that is kept is under control already. -/
theorem controlled_of_kept {i : FunctionRecord}
    (kept : verdict agent i (s.fetch FunctionSpec key) = .kept) : Controlled agent key s := by
  cases read : s.fetch FunctionSpec key with
  | error e =>
    rw [read, verdict] at kept
    split at kept <;> cases kept
  | ok stored =>
    rw [read, verdict] at kept
    split at kept
    · cases kept
    · rename_i m taken
      split at kept
      · cases kept
      · rename_i agrees
        simp only [Bool.or_eq_true, not_or, bne_iff_ne, ne_eq, not_not] at agrees
        exact ⟨stored, read, agrees.2 ▸ (Metadata.setController_references taken).1⟩

/-- A status that is written to an agent changes no function. -/
theorem controlled_of_mirrored (h : Controlled agent key s) (here : agent.key = key)
    (observed : FunctionRecord) : Controlled agent key
      (s.answer (.updateStatus .agent (mirrored agent observed).untyped)).2.store := by
  obtain ⟨f, read, mem⟩ := h
  have about : Call.IsAbout (.updateStatus .agent (mirrored agent observed).untyped) .agent key :=
    ⟨rfl, congrArg some here, by rintro ⟨⟩⟩
  refine ⟨f, (Store.fetch_congr ?_).trans read, mem⟩
  exact Store.find?_of_other about (by rintro ⟨⟩) (Address.function_ne_agent key key)

/-- An invocation had an agent to care for, and its function is under the agent's control. -/
def SyncedFor (agent : AgentRecord) (key : RecordKey) (outcome : Reconciled) (s : Store κ) : Prop :=
  (∃ action told, outcome = .synced action told) ∧ Controlled agent key s

/-- A write that fails is told as a failure. -/
theorem told_error {σ τ : Type} [RecordShape σ τ] (a : α) (e : StoreError) :
    ∃ e', told (σ := σ) a (.error e) = .error e' := ⟨.store e, rfl⟩

/-! ### The parts of an invocation -/

variable (accepted : Address.refusal? κ key = none) (apart : key ∉ keys)
  (late : LateWrites κ keys w.2)

include accepted apart late

/-- Where a verdict is carried out, the function is under the agent's control. -/
theorem interleaved_carryOut {result : Except ReconcileError FunctionAction}
    (home : w.1.fetch AgentSpec key = .ok agent)
    (run : ((verdict agent (intended agent config) (w.1.fetch FunctionSpec key)).carryOut
      (intended agent config)).Interleaved unreliable w result v) :
    Leaves keys key w.1 (fun _ => Controlled agent key) result v := by
  have here := Store.key_of_fetch accepted home
  cases judged : verdict agent (intended agent config) (w.1.fetch FunctionSpec key) with
  | refused e =>
    rw [judged] at run
    exact .of_error late run
  | kept =>
    rw [judged] at run
    exact .of_done late run fun _ _ _ => (controlled_of_kept judged).of_same accepted apart
  | revised f =>
    rw [judged] at run
    have own := ownWrite_update here (fun stored => Store.key_of_fetch accepted) judged
    refine .of_write late accepted own (told_error _) run fun _ u same t after => ?_
    rw [← same.fetch_eq accepted apart] at judged
    obtain ⟨t', a, f', done, placed⟩ := placed_of_revised judged
    rw [show (Routine.call _ _).runOn u = _ from done] at after
    exact (controlled_of_placed placed).of_same accepted apart after
  | missing =>
    rw [judged] at run
    have own := ownWrite_create config here
    refine .of_write late accepted own (told_error _) run fun _ u same t after => ?_
    rw [← same.fetch_eq accepted apart] at judged home
    obtain ⟨t', a, f', done, placed⟩ := placed_of_missing home judged
    rw [show (Routine.call _ _).runOn u = _ from done] at after
    exact (controlled_of_placed placed).of_same accepted apart after

theorem interleaved_syncFunction {result : Except ReconcileError FunctionAction}
    (home : w.1.fetch AgentSpec key = .ok agent)
    (run : (syncFunction agent (intended agent config) key).run.Interleaved unreliable w result v) :
    Leaves keys key w.1 (fun _ => Controlled agent key) result v := by
  rw [syncFunction_run] at run
  obtain ⟨read, u, isRead, same, late', rest⟩ := late.get accepted apart
    (f := fun read => (verdict agent (intended agent config) read).carryOut _) run
  refine Leaves.of_same ?_ same
  rcases isRead with rfl | ⟨e, other, rfl⟩
  · rw [← same.fetch_eq accepted apart] at rest home
    exact interleaved_carryOut accepted apart late' home rest
  · have refused : verdict agent (intended agent config) (.error e) = .refused (.store e) := by
      rw [verdict, other]
      rfl
    rw [refused] at rest
    exact .of_error late' rest

/-- The status is copied to the agent, and the function stays as it is. -/
theorem interleaved_syncStatus {result : Except ReconcileError Bool} (here : agent.key = key)
    (controlled : Controlled agent key w.1)
    (run : (syncStatus agent key).run.Interleaved unreliable w result v) :
    Leaves keys key w.1 (fun _ => Controlled agent key) result v := by
  rw [syncStatus_run] at run
  obtain ⟨read, u, -, same, late', rest⟩ := late.get accepted apart (f := mirror agent) run
  refine Leaves.of_same ?_ same
  have controlled := controlled.of_same accepted apart same
  cases read with
  | error e => exact .of_error late' rest
  | ok observed =>
    rw [mirror] at rest
    split at rest
    · exact .of_done late' rest fun _ _ _ => controlled.of_same accepted apart
    · have own := ownWrite_updateStatus here observed
      refine .of_write late' accepted own (told_error _) rest fun _ u same t after => ?_
      rw [Routine.runOn_call] at after
      have controlled := controlled.of_same accepted apart same
      exact (controlled_of_mirrored controlled here observed).of_same accepted apart after

theorem interleaved_conclude {result : Except ReconcileError Reconciled}
    (home : w.1.fetch AgentSpec key = .ok agent)
    (run : (conclude agent key config).Interleaved unreliable w result v) :
    Leaves keys key w.1 (SyncedFor agent key) result v := by
  have here := Store.key_of_fetch accepted home
  refine Leaves.bind run (fun e => ⟨e, rfl⟩)
    (fun _ _ => interleaved_syncFunction accepted apart late home)
    fun action u late' _ controlled rest => ?_
  refine Leaves.bind rest (fun e => ⟨e, rfl⟩)
    (fun _ _ => interleaved_syncStatus accepted apart late' here controlled)
    fun told u' late'' _ controlled' last => ?_
  refine .of_done late'' last fun outcome succeeded t same => ?_
  exact ⟨⟨action, told, (Except.ok.inj succeeded).symm⟩, controlled'.of_same accepted apart same⟩

theorem interleaved_sync {result : Except ReconcileError Reconciled}
    (home : w.1.fetch AgentSpec key = .ok agent)
    (run : (sync broker key agent).run.Interleaved unreliable w result v) :
    Leaves keys key w.1 (SyncedFor agent key) result v := by
  rw [sync_run] at run
  cases valid : agent.spec.validate with
  | error e =>
    rw [valid] at run
    exact .of_error late run
  | ok =>
    rw [valid] at run
    obtain ⟨composed, u, reads, next⟩ := Routine.interleaved_bind_iff.mp run
    obtain ⟨same, late'⟩ := late.readsOnly (Documents.compose_readsOnly broker agent) reads
    refine Leaves.of_same ?_ same
    rw [← same.fetch_eq accepted apart] at home
    cases composed with
    | error e => exact .of_error late' next
    | ok config => exact interleaved_conclude accepted apart late' home next

/-- An invocation for an agent that is stored: whatever fails, it leaves a write behind only if it
fails, and only at its key; if it succeeds the function there is under the agent's control. -/
theorem interleaved_reconcile {result : Except ReconcileError Reconciled}
    (there : (w.1.find? .agent key).isSome)
    (run : (reconcile broker key).run.Interleaved unreliable w result v) :
    Leaves keys key w.1 (fun outcome t => ∃ agent, w.1.fetch AgentSpec key = .ok agent ∧
      SyncedFor agent key outcome t) result v := by
  rw [reconcile_run] at run
  obtain ⟨read, u, isRead, same, late', rest⟩ := late.get accepted apart (f := fun
    | .error e => if e.isNotFound then .done (.ok .agentNotFound) else .done (.error (.store e))
    | .ok (agent : AgentRecord) => (sync broker key agent).run) run
  refine Leaves.of_same ?_ same
  cases read with
  | error e =>
    have failing : e.isNotFound = false := by
      rcases isRead with failed | ⟨e', other, failed⟩
      · by_contra missing
        have absent : w.1.find? .agent key = none :=
          Store.fetch_notFound_iff.mp ⟨e, failed.symm, Bool.not_eq_false _ ▸ missing⟩
        rw [absent] at there
        cases there
      · obtain rfl := Except.error.inj failed
        exact other
    simp only [failing, Bool.false_eq_true, if_false] at rest
    exact .of_error late' rest
  | ok agent =>
    have home : w.1.fetch AgentSpec key = .ok agent := by
      rcases isRead with isRead | ⟨e', -, isRead⟩
      · exact isRead.symm
      · cases isRead
    have synced := interleaved_sync accepted apart late'
      ((same.fetch_eq accepted apart).trans home) rest
    exact { synced with
      achieved := fun outcome succeeded => ⟨agent, home, synced.achieved outcome succeeded⟩ }

end Reconciler

end ControlPlane
