import ControlPlane.Proofs.Reconcile.Faces
import ControlPlane.Proofs.Store.Pool
import ControlPlane.Proofs.Store.Tracking
import ControlPlane.Proofs.Store.Versions
import Mathlib.Data.Fin.VecNotation

/-!
Invocations for different keys that run at the same time. An invocation reads its agent, its
function, and the functions and packages of its tools, and it writes its agent and its function
only. Where no tool is one of the functions written, an invocation beside others goes on as it would
by itself (`Reconciler.reconcile_tracks`), except that a new function may be given another identity.
So the invocations come to the same in every order, one after another among them
(`Reconciler.pair_like_sequence`).
-/

namespace ControlPlane

variable {κ : Type} [Address κ]

/-! ### Stores that differ at one key -/

/-- A creation or replacement of the function or the agent at a key. -/
structure Call.StoresAt (κ : Type) [Address κ] (c : Call) (k : RecordKey) : Prop where
  keeps : c.method ≠ .delete
  kind : c.kind = .function ∨ c.kind = .agent
  there : ∃ key, c.key? = some key ∧ Address.of (κ := κ) c.kind k = Address.of c.kind key

namespace Store

variable {s t u v w : Store κ} {kind : Kind} {key k : RecordKey}

/-- One store differs from another at most in the function and the agent at a key, and in how many
identities were given. -/
structure OnlyAt (k : RecordKey) (u v : Store κ) : Prop where
  others : ∀ kind key, Address.of (κ := κ) kind key ≠ Address.of .function k →
    Address.of (κ := κ) kind key ≠ Address.of .agent k → v.find? kind key = u.find? kind key
  text : v.uids.text = u.uids.text

theorem OnlyAt.refl (k : RecordKey) (u : Store κ) : u.OnlyAt k u := ⟨fun _ _ _ _ => rfl, rfl⟩

theorem onlyAt_answer {c : Call} (stores : c.StoresAt κ k) : u.OnlyAt k (u.answer c).2.store := by
  rcases u.stores_or_stays stores.keeps with ⟨⟨uids, goesOn, stays⟩, -⟩ | ⟨r, put⟩
  · rw [stays]
    exact ⟨fun _ _ _ _ => rfl, goesOn.text⟩
  · have there : Address.of (κ := κ) c.kind k = Address.of c.kind r.key := by
      obtain ⟨key, named, here⟩ := stores.there
      obtain ⟨key', named', here'⟩ := put.there
      obtain rfl := Option.some.inj (named.symm.trans named')
      exact here.trans here'
    refine ⟨fun kind' key' ne ne' => put.puts.others kind' key' fun here => ?_, put.text⟩
    rw [here, ← there] at ne ne'
    rcases stores.kind with function | agent
    · exact ne (congrArg (Address.of · k) function)
    · exact ne' (congrArg (Address.of · k) agent)

/-- No agent is found at a key but the one that has it. A durable store finds the record of another
key where the byte that ends a namespace stands inside one. -/
def IsAgentKey (s : Store κ) (key : RecordKey) : Prop :=
  ∀ r, s.find? .agent key = some r → r.key = key

/-- Every key that is not refused is such a key. -/
theorem isAgentKey_of_accepted (s : Store κ) (accepted : Address.refusal? κ key = none) :
    s.IsAgentKey key :=
  fun _ found => key_of_find? accepted found

/-- No tool of the agent at a key is the function at another. -/
def NotATool (s : Store κ) (key other : RecordKey) : Prop :=
  ∀ agent, s.fetch AgentSpec key = .ok agent → ∀ tool ∈ agent.spec.tools,
    Address.of (κ := κ) .function (tool.key agent.metadata.namespace) ≠ Address.of .function other

/-- Two stores that came of a third have the same record at a key, or a new one that was created
under two identities given by the store. -/
def SameOrNew (s t w : Store κ) (kind : Kind) (key : RecordKey) : Prop :=
  w.find? kind key = t.find? kind key ∨
    s.find? kind key = none ∧ ∃ (r : Record) (m n : Nat),
      t.find? kind key = some (r.admitted (s.uids.text m)) ∧
      w.find? kind key = some (r.admitted (s.uids.text n))

/-- Two stores that came of a third have the same records, up to the identities of new ones. -/
def SameButNewUids (s t w : Store κ) : Prop := ∀ kind key, s.SameOrNew t w kind key

theorem SameOrNew.symm (h : s.SameOrNew t w kind key) : s.SameOrNew w t kind key := by
  rcases h with same | ⟨absent, r, m, n, here, there⟩
  · exact .inl same.symm
  · exact .inr ⟨absent, r, n, m, there, here⟩

theorem SameOrNew.trans (h : s.SameOrNew t u kind key) (h' : s.SameOrNew u w kind key) :
    s.SameOrNew t w kind key := by
  rcases h with same | ⟨absent, r, m, n, first, second⟩
  · rcases h' with same' | ⟨absent, r, m, n, first, second⟩
    · exact .inl (same'.trans same)
    · exact .inr ⟨absent, r, m, n, same.symm.trans first, second⟩
  · rcases h' with same' | ⟨-, r', m', n', first', second'⟩
    · exact .inr ⟨absent, r, m, n, first, same'.trans second⟩
    · -- Both are one record under an identity, so one of them stands for the other.
      have one : r.admitted (s.uids.text n) = r'.admitted (s.uids.text m') :=
        Option.some.inj (second.symm.trans first')
      have also : r'.admitted (s.uids.text n') = r.admitted (s.uids.text n') :=
        (congrArg (Record.admitted · (s.uids.text n')) one).symm
      exact .inr ⟨absent, r, m, n', first, also ▸ second'⟩

end Store

/-! ### Invocations beside others -/

section Beside

variable {ι : Type} {keys : ι → RecordKey} {i j : ι} {s t u v w : Store κ}

/-- The store that an invocation would have left by itself, and the one with others at work for
other keys: the invocation finds its own records alike in both, and what is no record of any of them
is as it was at the start. -/
structure Beside (s : Store κ) (keys : ι → RecordKey) (i : ι) (t w : Store κ) : Prop where
  agent : w.find? .agent (keys i) = t.find? .agent (keys i)
  function : s.SameOrNew t w .function (keys i)
  elsewhere : ∀ kind key, (∀ j, Address.of (κ := κ) kind key ≠ Address.of .function (keys j) ∧
    Address.of (κ := κ) kind key ≠ Address.of .agent (keys j)) →
    w.find? kind key = s.find? kind key
  text : w.uids.text = s.uids.text

namespace Beside

theorem start (s : Store κ) (keys : ι → RecordKey) (i : ι) : Beside s keys i s s :=
  ⟨rfl, .inl rfl, fun _ _ _ => rfl, rfl⟩

/-- What others do to their own records is not noticed. -/
theorem drift (h : Beside s keys i t u) (act : u.OnlyAt (keys j) v)
    (apart : Address.of (κ := κ) .agent (keys i) ≠ Address.of .agent (keys j)) :
    Beside s keys i t v := by
  have function : v.find? .function (keys i) = u.find? .function (keys i) :=
    act.others _ _ (fun same => apart (Address.of_congr same)) (Address.function_ne_agent _ _)
  refine ⟨?_, ?_, fun kind key ne => ?_, act.text.trans h.text⟩
  · exact (act.others _ _ (Address.function_ne_agent _ _).symm apart).trans h.agent
  · exact h.function.trans (.inl function)
  · exact (act.others kind key (ne j).1 (ne j).2).trans (h.elsewhere kind key ne)

/-- The invocation writes its function. -/
theorem functionWritten (h : Beside s keys i t w) {c : Call} (stores : c.StoresAt κ (keys i))
    (kind : c.kind = .function)
    (left : s.SameOrNew (t.answer c).2.store (w.answer c).2.store .function (keys i)) :
    Beside s keys i (t.answer c).2.store (w.answer c).2.store where
  agent := by
    have other : Kind.agent ≠ c.kind := kind ▸ nofun
    rw [w.find?_answer_of_kind stores.keeps other, t.find?_answer_of_kind stores.keeps other]
    exact h.agent
  function := left
  elsewhere kind key ne := ((Store.onlyAt_answer stores).others kind key (ne i).1 (ne i).2).trans
    (h.elsewhere kind key ne)
  text := (Store.onlyAt_answer stores).text.trans h.text

/-- The invocation writes its agent. -/
theorem agentWritten (h : Beside s keys i t w) {c : Call} (stores : c.StoresAt κ (keys i))
    (kind : c.kind = .agent)
    (left : (w.answer c).2.store.find? .agent (keys i) =
      (t.answer c).2.store.find? .agent (keys i)) :
    Beside s keys i (t.answer c).2.store (w.answer c).2.store where
  agent := left
  function := by
    have other : Kind.function ≠ c.kind := kind ▸ nofun
    rw [Store.SameOrNew, w.find?_answer_of_kind stores.keeps other,
      t.find?_answer_of_kind stores.keeps other]
    exact h.function
  elsewhere kind key ne := ((Store.onlyAt_answer stores).others kind key (ne i).1 (ne i).2).trans
    (h.elsewhere kind key ne)
  text := (Store.onlyAt_answer stores).text.trans h.text

/-- Before anything is written, the function is found as it was. -/
theorem find?_function (h : Beside s keys i s w) :
    w.find? .function (keys i) = s.find? .function (keys i) := by
  rcases h.function with same | ⟨absent, r, m, n, here, -⟩
  · exact same
  · rw [absent] at here
    cases here

/-- Tools that are none of the functions at the keys are found as they were. -/
theorem toolsAlike {agent : AgentRecord} (h : Beside s keys i s w)
    (home : s.fetch AgentSpec (keys i) = .ok agent) (others : ∀ j, s.NotATool (keys i) (keys j)) :
    agent.ToolsAlike s w := by
  intro tool mem
  constructor
  · exact h.elsewhere _ _ fun j => ⟨others j agent home tool mem, Address.function_ne_agent _ _⟩
  · intro _ _
    exact h.elsewhere _ _ fun j =>
      ⟨Address.of_ne_of_kind (by decide) _ _, Address.of_ne_of_kind (by decide) _ _⟩

end Beside

end Beside

namespace Reconciler

variable {ι : Type} {keys : ι → RecordKey} {i : ι} {broker : BrokerSettings} {agent : AgentRecord}
  {config : Documents} {s t w : Store κ}

/-! ### The calls of an invocation -/

/-- The invocation at one of the keys goes on beside the others as it would by itself. -/
abbrev TracksBeside {α : Type} (s : Store κ) (keys : ι → RecordKey) (i : ι) (r : Routine α)
    (t : Store κ) : Prop :=
  r.Tracks (Beside s keys i) (fun u v => u.OnlyAt (keys i) v) t

/-- A lookup after which the routine goes on alike. -/
theorem tracks_get {α : Type} {kind : Kind} {key : RecordKey}
    {resume : Except StoreError Record → Routine α}
    (alike : ∀ w, Beside s keys i t w →
      resume (w.answer (.get kind key)).1 = resume (t.answer (.get kind key)).1)
    (next : TracksBeside s keys i (resume (t.answer (.get kind key)).1) t) :
    TracksBeside s keys i (.call (.get kind key) resume) t :=
  ⟨fun w here => ⟨alike w here, here, .refl _ w⟩, next⟩

/-- The status is mirrored alike from functions that differ in their identities. -/
theorem mirror_alike (agent : AgentRecord) {key : RecordKey}
    (function : s.SameOrNew t w .function key) :
    mirror agent (w.fetch FunctionSpec key) = mirror agent (t.fetch FunctionSpec key) := by
  rcases function with same | ⟨-, r, m, n, here, there⟩
  · rw [Store.fetch_congr same]
  · rw [show t.fetch FunctionSpec key = _ from Store.fetch_of_find? here,
      show w.fetch FunctionSpec key = _ from Store.fetch_of_find? there]
    simp only [Client.typed, RecordOf.ofUntyped_eq, Record.admitted]
    cases RecordOf.specOf FunctionSpec r.spec with
    | error e => rfl
    | ok spec =>
      cases RecordOf.statusOf FunctionSpec r.status with
      | error e => rfl
      | ok status => rfl

/-- The write of the agent's status. -/
theorem mirror_tracks (home : Address.of (κ := κ) .agent (keys i) = Address.of .agent agent.key)
    (read : Except StoreError FunctionRecord) (t : Store κ) :
    TracksBeside s keys i (mirror agent read) t := by
  cases read with
  | error e => trivial
  | ok f =>
    rw [mirror]
    split
    · trivial
    · refine ⟨fun w beside => ?_, trivial⟩
      obtain ⟨same, left⟩ := Store.commit_replace_congr (r := (mirrored agent f).untyped)
        Record.statusUpdated (fun _ _ => rfl) home beside.agent
      have stores : Call.StoresAt κ (.updateStatus .agent (mirrored agent f).untyped) (keys i) :=
        ⟨by rintro ⟨⟩, .inr rfl, _, rfl, home⟩
      exact ⟨congrArg _ (congrArg _ same), beside.agentWritten stores rfl left,
        Store.onlyAt_answer stores⟩

/-- The write of a function that is revised, where nothing was written before. -/
theorem revised_tracks {f : FunctionRecord}
    (revised : verdict agent (intended agent config) (s.fetch FunctionSpec (keys i)) = .revised f) :
    TracksBeside s keys i ((Verdict.revised f).carryOut (intended agent config)) s := by
  obtain ⟨stored, m, read, taken, rfl⟩ := verdict_revised revised
  generalize written : revision stored m (intended agent config) = f
  have there : Address.of (κ := κ) .function (keys i) = Address.of .function f.untyped.key := by
    have sameKey : f.untyped.key = stored.key := by
      rw [← written]
      show m.key = stored.metadata.key
      rw [Metadata.setController_eq taken]
      rfl
    rw [sameKey]
    exact (Store.filed_fetch read).1
  have stores : Call.StoresAt κ (.update .function f.untyped) (keys i) :=
    ⟨by rintro ⟨⟩, .inl rfl, _, rfl, there⟩
  refine ⟨fun w beside => ?_, trivial⟩
  obtain ⟨same, left⟩ := Store.commit_replace_congr (r := f.untyped) Record.updated
    (fun _ _ => rfl) there beside.find?_function
  exact ⟨congrArg _ (congrArg _ same), beside.functionWritten stores rfl (.inl left),
    Store.onlyAt_answer stores⟩

/-- A function that is missing is created beside the others as well, under another identity. -/
theorem created_beside (home : s.fetch AgentSpec (keys i) = .ok agent)
    (absent : s.find? .function (keys i) = none) (beside : Beside s keys i s w) :
    ∃ n, (w.answer (.create .function (intended agent config).untyped)).1 =
        .ok ((intended agent config).untyped.admitted (s.uids.text n)) ∧
      (w.answer (.create .function (intended agent config).untyped)).2.store.find? .function
        (keys i) = some ((intended agent config).untyped.admitted (s.uids.text n)) := by
  have there : Address.of (κ := κ) .function (keys i) = Address.of .function agent.key :=
    Address.of_congr (Store.filed_fetch home).1
  have absentThere : w.find? .function (intended agent config).untyped.key = none := by
    show w.find? .function agent.key = none
    rw [← w.find?_congr there, beside.find?_function, absent]
  obtain ⟨n, w', done, puts⟩ := Store.answer_create_of_unidentified
    (Store.filed_fetch home).2 absentThere rfl
  rw [done, ← beside.text]
  exact ⟨n, rfl, puts.found_at there⟩

/-- The creation of a function that is missing, where nothing was written before. -/
theorem missing_tracks (home : s.fetch AgentSpec (keys i) = .ok agent)
    (missing : verdict agent (intended agent config) (s.fetch FunctionSpec (keys i)) = .missing) :
    TracksBeside s keys i (Verdict.missing.carryOut (intended agent config)) s := by
  obtain ⟨e, read, isNotFound⟩ := verdict_missing missing
  have absent : s.find? .function (keys i) = none :=
    Store.fetch_notFound_iff.mp ⟨e, read, isNotFound⟩
  have stores : Call.StoresAt κ (.create .function (intended agent config).untyped) (keys i) :=
    ⟨by rintro ⟨⟩, .inl rfl, _, rfl, Address.of_congr (Store.filed_fetch home).1⟩
  have answered (uid : String) : told (σ := FunctionSpec) FunctionAction.created
      (.ok ((intended agent config).untyped.admitted uid)) = .ok .created :=
    told_of_typed _ (Client.typed_admitted (intended agent config) uid)
  refine ⟨fun w beside => ?_, trivial⟩
  obtain ⟨m, createdAlone, alone⟩ := created_beside home absent (.start s keys i)
  obtain ⟨n, created, here⟩ := created_beside home absent beside
  refine ⟨?_, beside.functionWritten stores rfl (.inr ⟨absent, _, m, n, alone, here⟩),
    Store.onlyAt_answer stores⟩
  rw [createdAlone, created]
  exact congrArg Routine.done ((answered _).trans (answered _).symm)

/-! ### The whole invocation -/

theorem syncFunction_tracks (home : s.fetch AgentSpec (keys i) = .ok agent) :
    TracksBeside s keys i (syncFunction agent (intended agent config) (keys i)).run s := by
  rw [syncFunction_run]
  refine tracks_get (fun w beside => ?_) ?_
  · rw [Store.answer_get, Store.answer_get, beside.find?_function]
  · show TracksBeside s keys i ((verdict agent (intended agent config)
      (s.fetch FunctionSpec (keys i))).carryOut _) s
    cases judged : verdict agent (intended agent config) (s.fetch FunctionSpec (keys i)) with
    | refused e => trivial
    | kept => trivial
    | revised f => exact revised_tracks judged
    | missing => exact missing_tracks home judged

theorem syncStatus_tracks (home : Address.of (κ := κ) .agent (keys i) = Address.of .agent agent.key)
    (t : Store κ) : TracksBeside s keys i (syncStatus agent (keys i)).run t := by
  rw [syncStatus_run]
  exact tracks_get (fun w beside => mirror_alike agent beside.function) (mirror_tracks home _ t)

theorem conclude_tracks (home : s.fetch AgentSpec (keys i) = .ok agent) :
    TracksBeside s keys i (conclude agent (keys i) config) s := by
  refine (syncFunction_tracks home).bind ?_
  cases ((syncFunction agent (intended agent config) (keys i)).run.runOn s).1 with
  | error e => trivial
  | ok action => exact (syncStatus_tracks (Store.filed_fetch home).1 _).bind trivial

theorem sync_tracks (broker : BrokerSettings) (home : s.fetch AgentSpec (keys i) = .ok agent)
    (others : ∀ j, s.NotATool (keys i) (keys j)) :
    TracksBeside s keys i (sync broker (keys i) agent).run s := by
  rw [sync_run]
  cases agent.spec.validate with
  | error e => trivial
  | ok u =>
    have composing := (Documents.compose_steady broker agent s).tracks
      (fun w (beside : Beside s keys i s w) => beside.toolsAlike home others)
      (Store.OnlyAt.refl (keys i))
    refine composing.bind ?_
    rw [((Documents.compose_readsOnly broker agent).readsOn s).runOn]
    cases ((Documents.compose broker agent).run.runOn s).1 with
    | error e => trivial
    | ok config => exact conclude_tracks home

/-- An invocation for an agent whose tools are none of the functions at the keys goes on beside the
others as it would by itself. -/
theorem reconcile_tracks (broker : BrokerSettings) (others : ∀ j, s.NotATool (keys i) (keys j)) :
    TracksBeside s keys i (reconcile broker (keys i)).run s := by
  rw [reconcile_run]
  refine tracks_get (fun w beside => ?_) ?_
  · rw [Store.answer_get, Store.answer_get, beside.agent]
  · cases home : s.fetch AgentSpec (keys i) with
    | error e =>
      have fetched : ((s.answer (.get .agent (keys i))).1 >>= Client.typed :
        Except StoreError AgentRecord) = .error e := home
      simp only [fetched]
      split <;> trivial
    | ok agent =>
      have fetched : ((s.answer (.get .agent (keys i))).1 >>= Client.typed :
        Except StoreError AgentRecord) = .ok agent := home
      simp only [fetched]
      exact sync_tracks broker home others

/-! ### Invocations that share a store -/

/-- Invocations for some keys that share a store. -/
def invocations (broker : BrokerSettings) (keys : ι → RecordKey) (s : Store κ) :
    Pool ι (Except ReconcileError Reconciled) (Store κ) :=
  ⟨fun i => (reconcile broker (keys i)).run, s⟩

variable [DecidableEq ι] {q q' : Pool ι (Except ReconcileError Reconciled) (Store κ)}

/-- However the calls are made, every invocation ends as it would by itself. -/
theorem beside_of_finished
    (apart : ∀ i j, i ≠ j → Address.of (κ := κ) .agent (keys i) ≠ Address.of .agent (keys j))
    (others : ∀ i j, s.NotATool (keys i) (keys j))
    (reached : Pool.Reaches Store.respond (invocations broker keys s) q) (finished : q.Finished)
    (i : ι) : q.result? i = some ((reconcile broker (keys i)).run.runOn s).1 ∧
      Beside s keys i (after broker s (keys i)) q.world := by
  have tracks (i : ι) : TracksBeside s keys i (reconcile broker (keys i)).run s :=
    reconcile_tracks broker (others i)
  have fits (i j : ι) (ne : i ≠ j) (u v : Store κ) (act : u.OnlyAt (keys i) v) (t : Store κ)
      (beside : Beside s keys j t u) : Beside s keys j t v :=
    beside.drift act (apart j i ne.symm)
  obtain ⟨o, ended⟩ := Option.isSome_iff_exists.mp (finished i)
  obtain ⟨rfl, beside⟩ := Pool.Reaches.tracked fits tracks (Beside.start s keys) reached ended
  exact ⟨ended, beside⟩

/-- All runs of invocations for keys that are told apart end alike. -/
theorem ended_alike [Nonempty ι]
    (apart : ∀ i j, i ≠ j → Address.of (κ := κ) .agent (keys i) ≠ Address.of .agent (keys j))
    (others : ∀ i j, s.NotATool (keys i) (keys j))
    (reached : Pool.Reaches Store.respond (invocations broker keys s) q) (finished : q.Finished)
    (reached' : Pool.Reaches Store.respond (invocations broker keys s) q')
    (finished' : q'.Finished) :
    (∀ i, q'.result? i = q.result? i) ∧ s.SameButNewUids q.world q'.world := by
  have here := beside_of_finished apart others reached finished
  have there := beside_of_finished apart others reached' finished'
  refine ⟨fun i => (there i).1.trans (here i).1.symm, fun kind key => ?_⟩
  by_cases atFunction : ∃ i, Address.of (κ := κ) kind key = Address.of .function (keys i)
  · obtain ⟨i, same⟩ := atFunction
    simp only [Store.SameOrNew, Store.find?, same]
    exact (here i).2.function.symm.trans (there i).2.function
  · by_cases atAgent : ∃ i, Address.of (κ := κ) kind key = Address.of .agent (keys i)
    · obtain ⟨i, same⟩ := atAgent
      simp only [Store.SameOrNew, Store.find?, same]
      exact .inl ((there i).2.agent.trans (here i).2.agent.symm)
    · have elsewhere (i : ι) : Address.of (κ := κ) kind key ≠ Address.of .function (keys i) ∧
          Address.of (κ := κ) kind key ≠ Address.of .agent (keys i) :=
        ⟨fun same => atFunction ⟨i, same⟩, fun same => atAgent ⟨i, same⟩⟩
      obtain ⟨i⟩ := ‹Nonempty ι›
      exact .inl (((there i).2.elsewhere kind key elsewhere).trans
        ((here i).2.elsewhere kind key elsewhere).symm)

/-- Invocations for keys at which there is no agent change nothing. -/
theorem unchanged_of_absent (absent : ∀ i, s.find? .agent (keys i) = none)
    (reached : Pool.Reaches Store.respond (invocations broker keys s) q) (finished : q.Finished)
    (i : ι) : q.result? i = some ((reconcile broker (keys i)).run.runOn s).1 ∧ q.world = s := by
  have tracks (i : ι) : (reconcile broker (keys i)).run.Tracks (fun _ w => w = s) Eq s := by
    have read : s.fetch AgentSpec (keys i) = .error _ := Store.fetch_of_absent (absent i)
    exact (runOn_reconcile_of_error broker read).1.steady.tracks
      (fun w same => congrArg Store.records same) fun w => rfl
  have fits (i j : ι) (_ : i ≠ j) (u v : Store κ) (kept : u = v) (_ : Store κ) (same : u = s) :
      v = s :=
    kept.symm.trans same
  obtain ⟨o, ended⟩ := Option.isSome_iff_exists.mp (finished i)
  obtain ⟨rfl, unchanged⟩ := Pool.Reaches.tracked fits tracks (fun _ => rfl) reached ended
  exact ⟨ended, unchanged⟩

/-! ### Two invocations -/

/-- Two invocations came to what they come to one after the other: to the same results, and to the
same records up to the identities of new ones. -/
structure InTurn (broker : BrokerSettings) (key key' : RecordKey) (s : Store κ)
    (o o' : Option (Except ReconcileError Reconciled)) (t : Store κ) : Prop where
  first : o = some ((reconcile broker key).run.runOn s).1
  second : o' = some ((reconcile broker key').run.runOn (after broker s key)).1
  store : s.SameButNewUids (after broker (after broker s key) key') t

/-- Two invocations of which all runs end alike come to what they come to one after the other. -/
theorem inTurn_of_alike {keys : Fin 2 → RecordKey} {i j : Fin 2}
    {q : Pool (Fin 2) (Except ReconcileError Reconciled) (Store κ)} (ne : i ≠ j)
    (alike : ∀ q', Pool.Reaches Store.respond (invocations broker keys s) q' → q'.Finished →
      (∀ i, q.result? i = q'.result? i) ∧ s.SameButNewUids q'.world q.world) :
    InTurn broker (keys i) (keys j) s (q.result? i) (q.result? j) q.world := by
  obtain ⟨q', reached, first, second, left⟩ :=
    (invocations broker keys s).reaches_run_run Store.respond ne
  simp only [invocations, Routine.run_respond] at first second left
  have finished : q'.Finished := by
    intro k
    have one : k = i ∨ k = j := by omega
    rcases one with rfl | rfl
    · exact Option.isSome_of_eq_some first
    · exact Option.isSome_of_eq_some second
  obtain ⟨same, store⟩ := alike q' reached finished
  rw [left] at store
  exact ⟨(same i).trans first, (same j).trans second, store⟩

/-- Two invocations for different keys of agents, none of whose tools is the function at either key:
both end in whatever order their calls are made, and they come to what they come to one after the
other, in either order. -/
theorem pair_like_sequence (broker : BrokerSettings) (keys : Fin 2 → RecordKey) (s : Store κ)
    (distinct : keys 0 ≠ keys 1) (own : ∀ i, s.IsAgentKey (keys i))
    (others : ∀ i j, s.NotATool (keys i) (keys j)) :
    (invocations broker keys s).Inevitably Store.respond Pool.Finished ∧
      ∀ q, Pool.Reaches Store.respond (invocations broker keys s) q → q.Finished →
        ∀ i j, i ≠ j → InTurn broker (keys i) (keys j) s (q.result? i) (q.result? j) q.world := by
  refine ⟨Pool.inevitably_finished _ _, fun q reached finished i j ne => ?_⟩
  refine inTurn_of_alike ne fun q' reached' finished' => ?_
  by_cases same : Address.of (κ := κ) .agent (keys 0) = Address.of .agent (keys 1)
  · -- An agent at this address would be under both keys.
    have absent : ∀ i, s.find? .agent (keys i) = none := by
      cases found : s.find? .agent (keys 0) with
      | none => exact Fin.forall_fin_two.mpr ⟨found, s.find?_congr same ▸ found⟩
      | some r =>
        have also : s.find? .agent (keys 1) = some r := s.find?_congr same ▸ found
        exact absurd ((own 0 r found).symm.trans (own 1 r also)) distinct
    have here := unchanged_of_absent absent reached finished
    have there := unchanged_of_absent absent reached' finished'
    refine ⟨fun i => (here i).1.trans (there i).1.symm, fun kind key => .inl ?_⟩
    rw [(here 0).2, (there 0).2]
  · have apart : ∀ i j : Fin 2, i ≠ j →
        Address.of (κ := κ) .agent (keys i) ≠ Address.of .agent (keys j) := by
      rw [Fin.forall_fin_two, Fin.forall_fin_two, Fin.forall_fin_two]
      exact ⟨⟨fun h => absurd rfl h, fun _ => same⟩, fun _ => Ne.symm same, fun h => absurd rfl h⟩
    exact ended_alike apart others reached' finished' reached finished

/-- The keys of two agents. -/
def twoKeys : Fin 2 → RecordKey := ![⟨"d", "a"⟩, ⟨"d", "b"⟩]

/-- A store that holds two agents without tools. -/
def twoAgents : Store RecordId :=
  storeAfter [.create .agent ⟨{ name := "a", «namespace» := "d" }, .obj [], .null⟩,
    .create .agent ⟨{ name := "b", «namespace» := "d" }, .obj [], .null⟩]

/-- Invocations for both agents that take turns. -/
def twoInvocations : Pool (Fin 2) (Except ReconcileError Reconciled) (Store RecordId) :=
  (invocations default twoKeys twoAgents).play Store.respond (Pool.turns 4)

/-- The function of the first agent has another identity than with that agent's invocation last. -/
theorem twoInvocations_like_sequence :
    (∀ i, twoInvocations.result? i = some (.ok (.synced .created false))) ∧
      (twoInvocations.world.find? .function (twoKeys 0)).map (·.metadata.uid) = some "gen-3" ∧
      ((after default (after default twoAgents (twoKeys 1)) (twoKeys 0)).find? .function
        (twoKeys 0)).map (·.metadata.uid) = some "gen-4" ∧
      ∀ i j, i ≠ j → InTurn default (twoKeys i) (twoKeys j) twoAgents
        (twoInvocations.result? i) (twoInvocations.result? j) twoInvocations.world := by
  have results : ∀ i, twoInvocations.result? i = some (.ok (.synced .created false)) := by
    decide +kernel
  have noTools : ∀ i, (twoAgents.fetch AgentSpec (twoKeys i)).map (·.spec.tools) = .ok [] := by
    decide +kernel
  have reached : Pool.Reaches Store.respond (invocations default twoKeys twoAgents)
      twoInvocations := Pool.reaches_play ..
  have finished : twoInvocations.Finished := fun i => Option.isSome_of_eq_some (results i)
  obtain ⟨-, alike⟩ := pair_like_sequence default twoKeys twoAgents (by decide)
    (fun i => twoAgents.isAgentKey_of_accepted rfl)
    (fun i j agent home tool mem => by
      have none := noTools i
      rw [home] at none
      rw [show agent.spec.tools = [] from Except.ok.inj none] at mem
      cases mem)
  exact ⟨results, by decide +kernel, by decide +kernel, alike twoInvocations reached finished⟩

end Reconciler

end ControlPlane
