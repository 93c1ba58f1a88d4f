import ControlPlane.Proofs.Reconcile.Calls
import ControlPlane.Proofs.Store.Deletion
import ControlPlane.Proofs.Store.Interference
import Mathlib.Logic.Relation

/-!
Orphans: functions under the control of a uid that no stored agent has. A deletion leaves none
behind, but an invocation reads its agent first and writes the function later, and nobody drops a
function that is written after its agent was deleted (`Reconciler.lateWrite_orphans`). Such a late
write is the only way to an orphan: `Reconciler.noOrphans_iff` is exact for every interleaving of an
invocation with deletions and creations of its agent.
-/

namespace ControlPlane

variable {κ : Type} [Address κ]

/-! ### Control by a uid -/

/-- A reference to a controller has the uid. -/
def Metadata.ControlledBy (m : Metadata) (uid : String) : Prop :=
  ∃ r ∈ m.ownerReferences, r.controller = true ∧ r.uid = uid

theorem Metadata.isOwnedBy_of_controlledBy {m : Metadata} {uid : String} (h : m.ControlledBy uid)
    (given : uid ≠ "") : m.isOwnedBy uid = true := by
  obtain ⟨r, mem, -, same⟩ := h
  rw [isOwnedBy, Bool.and_eq_true, List.any_eq_true]
  exact ⟨by simpa using given, r, mem, beq_iff_eq.mpr same⟩

/-- Control of a record gives it no controller but the owner and those it had. -/
theorem Metadata.controlledBy_of_setController {kind : Kind} {owner owned m : Metadata}
    {uid : String} (taken : setController kind owner owned = .ok m) (h : m.ControlledBy uid) :
    uid = owner.uid ∨ owned.ControlledBy uid := by
  obtain ⟨r, mem, controls, rfl⟩ := h
  rcases (setController_references taken).2 r mem with old | rfl
  · exact .inr ⟨r, old, controls, rfl⟩
  · exact .inl rfl

namespace Store

/-- A stored agent has the uid. -/
def HasAgent (s : Store κ) (uid : String) : Prop :=
  ∃ a ∈ s.select .agent none, a.metadata.uid = uid

/-- A stored function is under the control of the uid. -/
def Controlled (s : Store κ) (uid : String) : Prop :=
  ∃ f ∈ s.select .function none, f.metadata.ControlledBy uid

/-- Every stored function is under the control of stored agents only. -/
def NoOrphans (s : Store κ) : Prop :=
  ∀ f ∈ s.select .function none, ∀ r ∈ f.metadata.ownerReferences, r.controller = true →
    s.HasAgent r.uid

instance (s : Store κ) (uid : String) : Decidable (s.HasAgent uid) :=
  inferInstanceAs (Decidable (∃ a ∈ s.select .agent none, a.metadata.uid = uid))

instance (s : Store κ) : Decidable s.NoOrphans :=
  inferInstanceAs (Decidable (∀ f ∈ s.select .function none, ∀ r ∈ f.metadata.ownerReferences,
    r.controller = true → s.HasAgent r.uid))

theorem noOrphans_iff_controlled {s : Store κ} :
    s.NoOrphans ↔ ∀ uid, s.Controlled uid → s.HasAgent uid := by
  constructor
  · rintro none uid ⟨f, mem, r, isRef, controls, rfl⟩
    exact none f mem r isRef controls
  · intro owned f mem r isRef controls
    exact owned r.uid ⟨f, mem, r, isRef, controls, rfl⟩

variable {s s' : Store κ} {uid : String}

/-- Where functions are only left or dropped, no control is new. -/
theorem Controlled.of_sub (h : s'.Controlled uid)
    (sub : ∀ key f, s'.find? .function key = some f → s.find? .function key = some f) :
    s.Controlled uid := by
  obtain ⟨f, mem, controlled⟩ := h
  exact ⟨f, mem_select_of_find? (sub f.key f (mem_select_iff.mp mem)), controlled⟩

/-- A record put where there was none, or that keeps the uid of the one it replaces, takes no
agent away. -/
theorem HasAgent.of_puts {r : Record} (h : s.HasAgent uid) (puts : s.Puts s' .agent r)
    (keeps : ∀ current, s.find? .agent r.key = some current →
      r.metadata.uid = current.metadata.uid) : s'.HasAgent uid := by
  obtain ⟨a, mem, rfl⟩ := h
  have found := mem_select_iff.mp mem
  by_cases here : Address.of (κ := κ) .agent a.key = Address.of .agent r.key
  · rw [find?_congr s here] at found
    exact ⟨r, mem_select_of_find? puts.found, keeps a found⟩
  · exact ⟨a, mem_select_of_find? ((puts.others .agent a.key here).trans found), rfl⟩

/-- Stores with the same agents have agents of the same uids. -/
theorem HasAgent.of_same (h : s.HasAgent uid)
    (same : ∀ key, s'.find? .agent key = s.find? .agent key) : s'.HasAgent uid := by
  obtain ⟨a, mem, eq⟩ := h
  exact ⟨a, mem_select_of_find? ((same a.key).trans (mem_select_iff.mp mem)), eq⟩

/-- A deletion takes an agent away only with all that is under its control. -/
theorem Drops.hasAgent_or {announced : List Announcement} (drops : s.Drops s' announced)
    (h : s.HasAgent uid) : s'.HasAgent uid ∨ uid = "" ∨ ¬ s'.Controlled uid := by
  obtain ⟨a, mem, rfl⟩ := h
  have found := mem_select_iff.mp mem
  rcases drops.find? .agent a.key with same | ⟨-, q, was, dropped⟩
  · exact .inl ⟨a, mem_select_of_find? (same.trans found), rfl⟩
  · obtain rfl := Option.some.inj (found.symm.trans was)
    refine .inr ?_
    by_cases given : a.metadata.uid = ""
    · exact .inl given
    · right
      rintro ⟨f, left, controlled⟩
      have owned := drops.closed _ dropped .function f.key f (mem_select_iff.mp left)
      rw [Metadata.isOwnedBy_of_controlledBy controlled given] at owned
      cases owned

end Store

/-! ### Others at work on the agent -/

/-- A deletion or a creation of the agent at a key. -/
inductive ActsOnAgent (key : RecordKey) : Call → Prop where
  | delete : ActsOnAgent key (.delete .agent key)
  | create {r : Record} (here : r.key = key) : ActsOnAgent key (.create .agent r)

/-- One act of others on the agent at a key. -/
def Store.AgentAct (key : RecordKey) (s s' : Store κ) : Prop :=
  ∃ c, ActsOnAgent key c ∧ s' = (s.answer c).2.store

/-- A call that was answered, with the store that it met. -/
structure Answered (κ : Type) [Address κ] where
  met : Store κ
  call : Call
  outcome : call.Outcome

namespace Answered

/-- The call found an agent of the uid at the key. -/
def FoundAgent (e : Answered κ) (key : RecordKey) (uid : String) : Prop :=
  e.call = .get .agent key ∧ ∃ a, e.met.find? .agent key = some a ∧ a.metadata.uid = uid

/-- The call put a function under the control of the uid. -/
def PutUnderControl (e : Answered κ) (uid : String) : Prop :=
  e.outcome.isOk = true ∧
    ∃ f, (e.call = .create .function f ∨ e.call = .update .function f) ∧
      f.metadata.ControlledBy uid

end Answered

/-- A function was put under the control of an agent that an earlier call found, but that was not
stored any more. -/
def LateWrite (key : RecordKey) (log : List (Answered κ)) (uid : String) : Prop :=
  ∃ earlier e later, log = earlier ++ e :: later ∧ (∃ e' ∈ earlier, e'.FoundAgent key uid) ∧
    e.PutUnderControl uid ∧ ¬ e.met.HasAgent uid

/-- Answers a call and keeps a record of it. -/
def answerLogged (c : Call) (w : Store κ × List (Answered κ)) :
    c.Outcome × (Store κ × List (Answered κ)) :=
  ((w.1.answer c).1, (w.1.answer c).2.store, w.2 ++ [⟨w.1, c, (w.1.answer c).1⟩])

/-- A store with the calls that were answered, beside others who delete and create the agent at a
key. -/
def besideAgentActs (key : RecordKey) : Interference (Store κ × List (Answered κ)) where
  drift w w' := Relation.ReflTransGen (Store.AgentAct key) w.1 w'.1 ∧ w'.2 = w.2
  answers c w o w' := answerLogged c w = (o, w')
  refl _ := ⟨.refl, rfl⟩
  trans h h' := ⟨h.1.trans h'.1, h'.2.trans h.2⟩

/-! ### What is accounted for -/

variable {key : RecordKey} {s s' : Store κ} {log : List (Answered κ)} {uid : String}

theorem LateWrite.append (h : LateWrite key log uid) (e : Answered κ) :
    LateWrite key (log ++ [e]) uid := by
  obtain ⟨earlier, write, later, rfl, found, put, gone⟩ := h
  exact ⟨earlier, write, later ++ [e], by simp, found, put, gone⟩

/-- Every uid that controls a function is the uid of a stored agent, or empty, or was written
late. -/
def Accounted (key : RecordKey) (w : Store κ × List (Answered κ)) : Prop :=
  ∀ uid, w.1.Controlled uid → w.1.HasAgent uid ∨ uid = "" ∨ LateWrite key w.2 uid

namespace Accounted

theorem append (h : Accounted key (s, log)) (e : Answered κ) : Accounted key (s, log ++ [e]) :=
  fun uid controlled => (h uid controlled).imp_right (Or.imp_right fun late => late.append e)

/-- A write of an agent that takes no uid away. -/
theorem puts_agent {r : Record} (h : Accounted key (s, log)) (puts : s.Puts s' .agent r)
    (keeps : ∀ current, s.find? .agent r.key = some current →
      r.metadata.uid = current.metadata.uid) : Accounted key (s', log) := by
  intro uid controlled
  have before : s.Controlled uid := controlled.of_sub fun k f found => by
    rwa [puts.of_kind (by decide) k] at found
  exact (h uid before).imp_left fun has => has.of_puts puts keeps

/-- Others who delete and create the agent orphan nothing. -/
theorem act (h : Accounted key (s, log)) (act : s.AgentAct key s') : Accounted key (s', log) := by
  obtain ⟨c, acts, rfl⟩ := act
  cases acts with
  | delete =>
    have drops := s.drops_delete .agent key
    intro uid controlled
    have before := controlled.of_sub fun _ _ => drops.of_find?
    rcases h uid before with has | other
    · rcases drops.hasAgent_or has with has | empty | not
      · exact .inl has
      · exact .inr (.inl empty)
      · exact absurd controlled not
    · exact .inr other
  | @create r here =>
    rcases s.answer_create .agent r with ⟨e, uids, failed, -⟩ | ⟨uid, t, done, absent, puts, -⟩
    · rw [failed]
      exact h
    · rw [done]
      refine h.puts_agent puts fun current found => ?_
      rw [show (r.admitted uid).key = r.key from rfl, absent] at found
      cases found

theorem drift {w w' : Store κ × List (Answered κ)} (h : Accounted key w)
    (drifted : (besideAgentActs key).drift w w') : Accounted key w' := by
  obtain ⟨s, log⟩ := w
  obtain ⟨t, log'⟩ := w'
  obtain ⟨acts, same⟩ := drifted
  obtain rfl : log' = log := same
  simp only at acts
  induction acts with
  | refl => exact h
  | tail _ last ih => exact ih.act last

end Accounted

/-- Acts on the agent leave a function as it is, or drop it. -/
theorem Store.find?_function_of_acts {k : RecordKey} {f : Record}
    (acts : Relation.ReflTransGen (Store.AgentAct key) s s')
    (found : s'.find? .function k = some f) : s.find? .function k = some f := by
  induction acts with
  | refl => exact found
  | @tail t u _ last ih =>
    apply ih
    obtain ⟨c, acts, rfl⟩ := last
    cases acts with
    | delete => exact (t.drops_delete .agent key).of_find? found
    | @create r here =>
      rcases t.answer_create .agent r with ⟨e, uids, failed, -⟩ | ⟨uid, u, done, -, puts, -⟩
      · rwa [failed] at found
      · rw [done] at found
        rwa [puts.of_kind (by decide) k] at found

/-! ### The invocation -/

/-- Everything is accounted for, and an agent of the uid was found. -/
structure Known (key : RecordKey) (uid : String) (w : Store κ × List (Answered κ)) : Prop where
  accounted : Accounted key w
  found : ∃ e ∈ w.2, e.FoundAgent key uid

namespace Known

/-- Identities that are lost are no matter. -/
theorem giving (h : Known key uid (s, log)) (uids : UidSupply) :
    Known key uid (s.giving uids, log) :=
  ⟨h.accounted, h.found⟩

theorem append (h : Known key uid (s, log)) (e : Answered κ) : Known key uid (s, log ++ [e]) := by
  obtain ⟨e', mem, found⟩ := h.found
  exact ⟨h.accounted.append e, e', List.mem_append_left _ mem, found⟩

theorem drift {w w' : Store κ × List (Answered κ)} (h : Known key uid w)
    (drifted : (besideAgentActs key).drift w w') : Known key uid w' :=
  ⟨h.accounted.drift drifted, drifted.2 ▸ h.found⟩

/-- A call that cannot change the store. -/
theorem read {w : Store κ × List (Answered κ)} {c : Call} (h : Known key uid w)
    (reads : c.isWrite = false) : Known key uid (answerLogged c w).2 := by
  simp only [answerLogged, w.1.answer_of_read reads]
  exact h.append _

/-- A write of a function that adds no control but that of the agent that was found. -/
theorem puts_function {c : Call} {o : c.Outcome} {f r : Record} (h : Known key uid (s, log))
    (puts : s.Puts s' .function r) (ok : o.isOk = true)
    (write : c = .create .function f ∨ c = .update .function f)
    (owners : r.metadata.ownerReferences = f.metadata.ownerReferences)
    (control : ∀ uid', f.metadata.ControlledBy uid' → uid' = uid ∨ s.Controlled uid') :
    Known key uid (s', log ++ [⟨s, c, o⟩]) := by
  obtain ⟨e', mem, found⟩ := h.found
  refine ⟨fun uid' controlled => ?_, e', List.mem_append_left _ mem, found⟩
  have agents : ∀ k, s'.find? .agent k = s.find? .agent k := puts.of_kind (by decide)
  have before : s.Controlled uid' → s'.HasAgent uid' ∨ uid' = "" ∨
      LateWrite key (log ++ [⟨s, c, o⟩]) uid' := fun old =>
    ((h.accounted uid' old).imp_left fun has => has.of_same agents).imp_right
      (Or.imp_right fun late => late.append _)
  obtain ⟨g, left, byUid⟩ := controlled
  have here := Store.mem_select_iff.mp left
  by_cases same : Address.of (κ := κ) .function g.key = Address.of .function r.key
  · obtain rfl := Option.some.inj ((puts.found_at same).symm.trans here)
    have fControlled : f.metadata.ControlledBy uid' := by
      rwa [Metadata.ControlledBy, owners] at byUid
    rcases control uid' fControlled with rfl | old
    · by_cases has : s.HasAgent uid'
      -- If the agent that was found is gone, this very call is the late write.
      · exact .inl (has.of_same agents)
      · exact .inr (.inr ⟨log, _, [], rfl, ⟨e', mem, found⟩, ⟨ok, f, write, fControlled⟩, has⟩)
    · exact before old
  · rw [puts.others .function g.key same] at here
    exact before ⟨g, Store.mem_select_of_find? here, byUid⟩

variable {agent : AgentRecord} {config : Documents}

/-- The function is written where it was read: nobody else writes it, so its controllers are those
that it had and the agent. -/
theorem update {stored : FunctionRecord} {m : Metadata} {v : Store κ}
    (known : Known key agent.metadata.uid (s, log))
    (read : v.fetch FunctionSpec key = .ok stored)
    (taken : Metadata.setController .agent agent.metadata stored.metadata = .ok m)
    (acts : Relation.ReflTransGen (Store.AgentAct key) v s) (i : FunctionRecord) :
    Known key agent.metadata.uid
      (answerLogged (.update .function (Reconciler.revision stored m i).untyped) (s, log)).2 := by
  generalize written : Reconciler.revision stored m i = f
  simp only [answerLogged]
  rcases s.answer_update .function f.untyped with ⟨e, failed⟩ | ⟨q, s', done, here, -, puts, -⟩
  · rw [failed]
    exact known.append _
  · rw [done]
    refine known.puts_function puts rfl (.inr rfl) rfl fun uid' controlled => ?_
    obtain ⟨current, found, typed⟩ := Store.fetch_eq_ok_iff.mp read
    have sameKey : f.untyped.key = stored.key := by
      subst written
      show m.key = stored.metadata.key
      rw [Metadata.setController_eq taken]
      rfl
    have unchanged : v.find? .function stored.key = some q :=
      sameKey ▸ Store.find?_function_of_acts acts here
    have same : v.find? .function stored.key = some current :=
      (Store.find?_congr v (Store.filed_fetch read).1.symm).trans found
    obtain rfl := Option.some.inj (same.symm.trans unchanged)
    have ofM : m.ControlledBy uid' := by
      subst written
      exact controlled
    rcases Metadata.controlledBy_of_setController taken ofM with same | old
    · exact .inl same
    · rw [← Client.metadata_of_typed typed] at old
      exact .inr ⟨current, Store.mem_select_of_find? here, old⟩

/-- A function that is created has the agent for its only controller. -/
theorem create (known : Known key agent.metadata.uid (s, log)) :
    Known key agent.metadata.uid
      (answerLogged (.create .function (Reconciler.intended agent config).untyped) (s, log)).2 := by
  simp only [answerLogged]
  rcases s.answer_create .function (Reconciler.intended agent config).untyped with
      ⟨e, uids, failed, -⟩ | ⟨uid, s', done, -, puts, -⟩
  · rw [failed]
    exact (known.giving uids).append _
  · rw [done]
    refine known.puts_function puts rfl (.inl rfl) rfl ?_
    rintro uid' ⟨r, mem, -, rfl⟩
    obtain rfl := List.mem_singleton.mp mem
    exact .inl rfl

/-- A write of the agent's status changes no uid. -/
theorem updateStatus (known : Known key uid (s, log)) (r : Record) :
    Known key uid (answerLogged (.updateStatus .agent r) (s, log)).2 := by
  simp only [answerLogged]
  rcases s.answer_updateStatus .agent r with ⟨e, failed⟩ | ⟨q, s', done, here, -, puts, -⟩
  · rw [failed]
    exact known.append _
  · rw [done]
    have accounted := known.accounted.puts_agent puts fun current found => by
      rw [show (q.statusUpdated r).key = q.key from rfl,
        ← Store.find?_congr s (Store.filed_find? here).1, here] at found
      obtain rfl := Option.some.inj found
      rfl
    exact Known.append ⟨accounted, known.found⟩ _

theorem ensures_done {α : Type} {w : Store κ × List (Answered κ)} (known : Known key uid w) (a : α) :
    (Routine.done a).Ensures (besideAgentActs key) (fun _ _ => True) (fun _ => Known key uid) w :=
  fun _ drifted => known.drift drifted

end Known

namespace Reconciler

variable {broker : BrokerSettings} {agent : AgentRecord} {config : Documents}
  {w : Store κ × List (Answered κ)}

/-- What the last call of a routine brings about is ensured if others keep it. -/
theorem ensures_of_last_call {α : Type} {P : Store κ × List (Answered κ) → Prop} {c : Call}
    {a : c.Outcome → α} (drifts : ∀ u v, P u → (besideAgentActs key).drift u v → P v)
    (effect : ∀ u, (besideAgentActs key).drift w u → P (answerLogged c u).2) :
    (Routine.call c fun o => .done (a o)).Ensures (besideAgentActs key) (fun _ _ => True)
      (fun _ => P) w := by
  rintro u drifted o v answered
  obtain ⟨rfl, rfl⟩ := Prod.mk.inj answered
  exact ⟨trivial, fun x hx => drifts _ x (effect u drifted) hx⟩

theorem syncFunction_ensures_known (known : Known key agent.metadata.uid w) :
    (syncFunction agent (intended agent config) key).run.Ensures (besideAgentActs key)
      (fun _ _ => True) (fun _ => Known key agent.metadata.uid) w := by
  rw [syncFunction_run]
  rintro ⟨v, log⟩ drifted o w' answered
  obtain ⟨rfl, rfl⟩ := Prod.mk.inj answered
  refine ⟨trivial, ?_⟩
  have known' := (known.drift drifted).read (c := .get .function key) rfl
  have drifts : ∀ u v : Store κ × List (Answered κ), Known key agent.metadata.uid u →
      (besideAgentActs key).drift u v → Known key agent.metadata.uid v :=
    fun _ _ known drifted => known.drift drifted
  show Routine.Ensures _ _ _ ((verdict agent (intended agent config)
    (v.fetch FunctionSpec key)).carryOut _) _
  cases judged : verdict agent (intended agent config) (v.fetch FunctionSpec key) with
  | refused e => exact known'.ensures_done _
  | kept => exact known'.ensures_done _
  | revised f =>
    obtain ⟨stored, m, read, taken, rfl⟩ := verdict_revised judged
    exact ensures_of_last_call drifts fun u drifted =>
      (known'.drift drifted).update read taken drifted.1 _
  | missing => exact ensures_of_last_call drifts fun u drifted => (known'.drift drifted).create

theorem syncStatus_ensures_known (known : Known key uid w) :
    (syncStatus agent key).run.Ensures (besideAgentActs key) (fun _ _ => True)
      (fun _ => Known key uid) w := by
  rw [syncStatus_run]
  intro v drifted o w' answered
  obtain ⟨rfl, rfl⟩ := Prod.mk.inj answered
  refine ⟨trivial, ?_⟩
  have known' := (known.drift drifted).read (c := .get .function key) rfl
  show Routine.Ensures _ _ _ (mirror agent (v.1.fetch FunctionSpec key)) _
  cases v.1.fetch FunctionSpec key with
  | error e => exact known'.ensures_done _
  | ok observed =>
    simp only [mirror]
    split
    · exact known'.ensures_done _
    · exact ensures_of_last_call (fun u v known drifted => known.drift drifted)
        fun u drifted => (known'.drift drifted).updateStatus _

theorem sync_ensures_known (known : Known key agent.metadata.uid w) :
    (sync broker key agent).run.Ensures (besideAgentActs key) (fun _ _ => True)
      (fun _ => Known key agent.metadata.uid) w := by
  rw [sync_run]
  cases agent.spec.validate with
  | error e => exact known.ensures_done _
  | ok u =>
    have composing : (Documents.compose broker agent).run.Ensures (besideAgentActs key)
        (fun _ _ => True) (fun _ => Known key agent.metadata.uid) w := by
      refine (Documents.compose_readsOnly broker agent).ensures
        (fun _ _ known drifted => known.drift drifted) ?_ known
      intro c v o v' reads answered known
      obtain ⟨rfl, rfl⟩ := Prod.mk.inj answered
      exact ⟨trivial, known.read reads⟩
    refine Routine.Ensures.bind (composing.mono fun composed w known => ?_)
    cases composed with
    | error e => exact known.ensures_done _
    | ok config =>
      refine Routine.Ensures.bind ((syncFunction_ensures_known known).mono fun action w known => ?_)
      cases action with
      | error e => exact known.ensures_done _
      | ok action =>
        exact Routine.Ensures.bind ((syncStatus_ensures_known known).mono fun told w known =>
          known.ensures_done _)

theorem reconcile_ensures_accounted (accounted : Accounted key w) :
    (reconcile broker key).run.Ensures (besideAgentActs key) (fun _ _ => True)
      (fun _ => Accounted key) w := by
  rw [reconcile_run]
  rintro ⟨s, log⟩ drifted o w' answered
  obtain ⟨rfl, rfl⟩ := Prod.mk.inj answered
  refine ⟨trivial, ?_⟩
  have accounted' := (accounted.drift drifted).append
    ⟨s, .get .agent key, (s.answer (.get .agent key)).1⟩
  cases read : s.fetch AgentSpec key with
  | error e =>
    have fetched : ((s.answer (.get .agent key)).1 >>= Client.typed :
      Except StoreError AgentRecord) = .error e := read
    simp only [fetched]
    split
    · exact fun u hu => accounted'.drift hu
    · exact fun u hu => accounted'.drift hu
  | ok agent =>
    have fetched : ((s.answer (.get .agent key)).1 >>= Client.typed :
      Except StoreError AgentRecord) = .ok agent := read
    simp only [fetched]
    obtain ⟨a, found, typed⟩ := Store.fetch_eq_ok_iff.mp read
    have known : Known key agent.metadata.uid (answerLogged (.get .agent key) (s, log)).2 := by
      refine ⟨accounted', _, List.mem_append_right _ (List.mem_singleton_self _), rfl, a, found, ?_⟩
      rw [Client.metadata_of_typed typed]
    exact (sync_ensures_known known).mono fun _ _ known => known.accounted

/-- Where every function was under the control of stored agents, an invocation beside deletions and
creations of its agent leaves an orphan exactly where a function that was written late, or one under
the control of the empty uid, is left without its agent. -/
theorem noOrphans_iff {result : Except ReconcileError Reconciled} (start : s.NoOrphans)
    (run : (reconcile broker key).run.Interleaved (besideAgentActs key) (s, []) result (s', log)) :
    s'.NoOrphans ↔
      ∀ uid, LateWrite key log uid ∨ uid = "" → s'.Controlled uid → s'.HasAgent uid := by
  rw [Store.noOrphans_iff_controlled] at *
  have accounted : Accounted key (s, []) := fun uid controlled => .inl (start uid controlled)
  have ended := run.ensures (reconcile_ensures_accounted accounted)
  constructor
  · exact fun none uid _ => none uid
  · intro good uid controlled
    rcases ended uid controlled with has | empty | late
    · exact has
    · exact good uid (.inr empty) controlled
    · exact good uid (.inl late) controlled

/-! ### A late write -/

/-- The rest of an invocation for a new agent, with its world, after it read the agent and found no
function. -/
def overtaken : Routine (Except ReconcileError Reconciled) × Store RecordId × List (Answered RecordId) :=
  (reconcile default ⟨"d", "a"⟩).run.advance answerLogged 2 (newAgent, [])

/-- How that invocation ends if its agent is deleted now. -/
def lateWrite : Except ReconcileError Reconciled × Store RecordId × List (Answered RecordId) :=
  overtaken.1.run answerLogged (overtaken.2.1.without .agent ⟨"d", "a"⟩, overtaken.2.2)

theorem lateWrite_interleaved : (reconcile default ⟨"d", "a"⟩).run.Interleaved
    (besideAgentActs ⟨"d", "a"⟩) (newAgent, []) lateWrite.1 lateWrite.2 := by
  have answers (c : Call) (w : Store RecordId × List (Answered RecordId)) :
      (besideAgentActs ⟨"d", "a"⟩).answers c w (answerLogged c w).1 (answerLogged c w).2 := rfl
  have isStored : (overtaken.2.1.find? .agent ⟨"d", "a"⟩).isSome = true := by decide +kernel
  have alone : ∀ uid, Holdings.dependents (overtaken.2.1.without .agent ⟨"d", "a"⟩).records uid =
      [] := by
    have empty : (overtaken.2.1.without .agent ⟨"d", "a"⟩).records.entries.isEmpty = true := by
      decide +kernel
    intro uid
    rw [Holdings.dependents, List.isEmpty_iff.mp empty]
    rfl
  obtain ⟨a, found⟩ := Option.isSome_iff_exists.mp isStored
  have deleted : overtaken.2.1.AgentAct ⟨"d", "a"⟩ (overtaken.2.1.without .agent ⟨"d", "a"⟩) :=
    ⟨_, .delete, by rw [Store.answer_delete_of_alone found (alone _)]⟩
  have drifted : (besideAgentActs ⟨"d", "a"⟩).drift overtaken.2
      (overtaken.2.1.without .agent ⟨"d", "a"⟩, overtaken.2.2) := ⟨.single deleted, rfl⟩
  have rest : overtaken.1.Interleaved (besideAgentActs ⟨"d", "a"⟩) overtaken.2 lateWrite.1
      lateWrite.2 := .of_drift drifted (.of_run answers _ _)
  exact .of_advance answers rest

/-- The function of an agent that was deleted before the function was created is left behind. -/
theorem lateWrite_orphans : newAgent.NoOrphans ∧
    (reconcile default ⟨"d", "a"⟩).run.Interleaved (besideAgentActs ⟨"d", "a"⟩) (newAgent, [])
      (.ok (.synced .created false)) lateWrite.2 ∧ ¬ lateWrite.2.1.NoOrphans := by
  have told : lateWrite.1 = .ok (.synced .created false) := by decide +kernel
  exact ⟨by decide +kernel, told ▸ lateWrite_interleaved, by decide +kernel⟩

/-- What is left behind was written late. -/
theorem lateWrite_noOrphans_iff : newAgent.NoOrphans ∧
    (lateWrite.2.1.NoOrphans ↔ ∀ uid, LateWrite ⟨"d", "a"⟩ lateWrite.2.2 uid ∨ uid = "" →
      lateWrite.2.1.Controlled uid → lateWrite.2.1.HasAgent uid) := by
  have start : newAgent.NoOrphans := by decide +kernel
  exact ⟨start, noOrphans_iff start lateWrite_interleaved⟩

end Reconciler

end ControlPlane
