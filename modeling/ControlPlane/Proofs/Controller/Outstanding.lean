import ControlPlane.Proofs.Controller.Bookkeeping
import ControlPlane.Proofs.Controller.Disturbed
import ControlPlane.Proofs.Store.Cascade
import ControlPlane.Proofs.Store.KeyOrder

/-!
The warnings that are outstanding. Whatever a controller lives through, they are in key order, one for
each key whose latest outcome was a failure, and tell the reason and the message of that failure
(`WarningLog.mem_told_iff`). A pass brings them up to date for the agents that there are then; of an
agent that failed and is gone the warning stays. So after a pass the outstanding warnings are its
failures exactly if every key that failed at last still had an agent
(`Controller.outstanding_after_pass`).
-/

namespace ControlPlane

/-! ### The latest warning of a key -/

namespace WarningLog

variable {l : WarningLog} {key k : RecordKey} {w : Warning}

/-- Only the outcome of a key itself changes what is kept of it. -/
theorem warnings_note_of_ne (ne : k ≠ key) (result : InvocationResult) :
    (l.note key result).warnings k = l.warnings k := by
  cases result with
  | ok r => rw [note, warnings_clear_of_ne ne]
  | error e => rw [note, warnings_warn_of_ne ne]

theorem latest?_note_of_ne (ne : k ≠ key) (result : InvocationResult) :
    (l.note key result).latest? k = l.latest? k := by
  rw [latest?, warnings_note_of_ne ne, latest?]

/-- A success leaves no warning of its key. -/
theorem latest?_note_ok (r : Reconciled) : (l.note key (.ok r)).latest? key = none := by
  rw [note, latest?, warnings_clear_self]
  rfl

/-- After a failure the latest warning of its key tells it. -/
theorem latest?_note_error (l : WarningLog) (key : RecordKey) (e : ReconcileError) : ∃ count,
    (l.note key (.error e)).latest? key = some ⟨e.reason, e.message, count⟩ := by
  rw [note, latest?, warnings_warn_self]
  exact Warning.getLast?_record ..

/-! ### What the log tells -/

/-- What is told of a failure: its reason and its message. -/
def failure? : InvocationResult → Option (String × String)
  | .ok _ => none
  | .error e => some (e.reason, e.message)

/-- The failures among outcomes, under their keys. -/
def failures (outcomes : List (RecordKey × InvocationResult)) : List (RecordKey × String × String) :=
  outcomes.filterMap fun o => (failure? o.2).map fun f => (o.1, f)

/-- What is outstanding, under its keys. -/
def told (l : WarningLog) : List (RecordKey × String × String) :=
  l.outstanding.map fun o => (o.1, o.2.reason, o.2.message)

/-- The latest outcome of a key. -/
def lastOutcome? (key : RecordKey) (outcomes : List (RecordKey × InvocationResult)) :
    Option InvocationResult :=
  (outcomes.filter (·.1 = key)).getLast?.map Prod.snd

variable {outcomes results : List (RecordKey × InvocationResult)} {f : String × String}

theorem ascending_told (l : WarningLog) : RecordKey.Ascending (l.told.map Prod.fst) := by
  rw [told, List.map_map]
  exact l.ascending_outstanding

theorem lastOutcome?_append (key : RecordKey)
    (outcomes results : List (RecordKey × InvocationResult)) :
    lastOutcome? key (outcomes ++ results) =
      (lastOutcome? key results).or (lastOutcome? key outcomes) := by
  rw [lastOutcome?, List.filter_append, List.getLast?_append, Option.map_or]
  rfl

theorem lastOutcome?_concat_self (key : RecordKey)
    (outcomes : List (RecordKey × InvocationResult)) (result : InvocationResult) :
    lastOutcome? key (outcomes ++ [(key, result)]) = some result := by
  simp [lastOutcome?]

theorem lastOutcome?_concat_of_ne (ne : k ≠ key) (outcomes : List (RecordKey × InvocationResult))
    (result : InvocationResult) :
    lastOutcome? k (outcomes ++ [(key, result)]) = lastOutcome? k outcomes := by
  simp [lastOutcome?, ne.symm]

theorem noteAll_concat (l : WarningLog) (outcomes : List (RecordKey × InvocationResult))
    (key : RecordKey) (result : InvocationResult) :
    l.noteAll (outcomes ++ [(key, result)]) = (l.noteAll outcomes).note key result :=
  List.foldl_append ..

/-- A key has no outcome among those of other keys. -/
theorem lastOutcome?_eq_none_iff :
    lastOutcome? key results = none ↔ key ∉ results.map Prod.fst := by
  rw [lastOutcome?, Option.map_eq_none_iff, List.getLast?_eq_none_iff, List.filter_eq_nil_iff,
    List.mem_map]
  simp only [decide_eq_true_eq, not_exists, not_and]

/-- Where every key has one outcome, that is its latest one. -/
theorem lastOutcome?_eq_some_iff (once : (results.map Prod.fst).Nodup) {result : InvocationResult} :
    lastOutcome? key results = some result ↔ (key, result) ∈ results := by
  have own : ∀ r, lastOutcome? key results = some r → (key, r) ∈ results := by
    intro r last
    obtain ⟨e, isLast, rfl⟩ := Option.map_eq_some_iff.mp last
    obtain ⟨mem, isKey⟩ := List.mem_filter.mp (List.mem_of_getLast? isLast)
    rwa [← of_decide_eq_true isKey]
  refine ⟨own result, fun mem => ?_⟩
  cases last : lastOutcome? key results with
  | none => exact absurd (List.mem_map_of_mem mem) (lastOutcome?_eq_none_iff.mp last)
  | some r =>
    have same := List.inj_on_of_nodup_map once (own r last) mem rfl
    rw [(Prod.mk.inj same).2]

/-- The latest warning of a key is its latest outcome, if that is a failure. -/
theorem latest?_noteAll (outcomes : List (RecordKey × InvocationResult)) (key : RecordKey) :
    ((noteAll {} outcomes).latest? key).map (fun w => (w.reason, w.message)) =
      (lastOutcome? key outcomes).bind failure? := by
  induction outcomes using List.reverseRecOn with
  | nil => rfl
  | append_singleton before o ih =>
    obtain ⟨k, result⟩ := o
    rw [noteAll_concat]
    by_cases same : key = k
    · subst same
      rw [lastOutcome?_concat_self, Option.bind_some]
      cases result with
      | ok r =>
        rw [latest?_note_ok]
        rfl
      | error e =>
        have ⟨count, isLatest⟩ := (noteAll {} before).latest?_note_error key e
        rw [isLatest]
        rfl
    · rw [lastOutcome?_concat_of_ne same, latest?_note_of_ne same, ih]

/-- What is outstanding: the latest outcome of every key, if that is a failure. -/
theorem mem_told_iff :
    (key, f) ∈ told (noteAll {} outcomes) ↔ (lastOutcome? key outcomes).bind failure? = some f := by
  rw [← latest?_noteAll, told, List.mem_map, Option.map_eq_some_iff]
  constructor
  · rintro ⟨⟨k, w⟩, mem, eq⟩
    obtain ⟨rfl, rfl⟩ := Prod.mk.inj eq
    exact ⟨w, mem_outstanding_iff.mp mem, rfl⟩
  · rintro ⟨w, latest, rfl⟩
    exact ⟨(key, w), mem_outstanding_iff.mpr latest, rfl⟩

/-! ### Passes -/

/-- After a pass, its failures are outstanding, and of the keys that had no part in it those whose
latest outcome was a failure. -/
theorem mem_told_append_iff (once : (results.map Prod.fst).Nodup) :
    (key, f) ∈ told (noteAll {} (outcomes ++ results)) ↔ (key, f) ∈ failures results ∨
      (key ∉ results.map Prod.fst ∧ (lastOutcome? key outcomes).bind failure? = some f) := by
  rw [mem_told_iff, lastOutcome?_append, failures, RecordKey.mem_filterMap_iff]
  cases last : lastOutcome? key results with
  | none =>
    have absent := lastOutcome?_eq_none_iff.mp last
    rw [Option.none_or, and_iff_right absent, or_iff_right]
    rintro ⟨r, mem, -⟩
    exact absent (List.mem_map_of_mem mem)
  | some r =>
    have mem := (lastOutcome?_eq_some_iff once).mp last
    have there : key ∈ results.map Prod.fst := List.mem_map_of_mem mem
    rw [Option.some_or, Option.bind_some, or_iff_left fun stale => stale.1 there]
    constructor
    · exact fun failed => ⟨r, mem, failed⟩
    · rintro ⟨r', mem', failed⟩
      have last' := (lastOutcome?_eq_some_iff once).mpr mem'
      rwa [Option.some.inj (last.symm.trans last')]

/-- After a pass exactly its failures are outstanding, precisely if every key whose latest outcome
before was a failure had a part in it. -/
theorem told_eq_failures_iff (ordered : RecordKey.Ascending (results.map Prod.fst)) :
    told (noteAll {} (outcomes ++ results)) = failures results ↔
      ∀ key ∈ (noteAll {} outcomes).told.map Prod.fst, key ∈ results.map Prod.fst := by
  constructor
  · intro current key mem
    obtain ⟨⟨k, f⟩, isTold, rfl⟩ := List.mem_map.mp mem
    by_contra absent
    have stale : (k, f) ∈ told (noteAll {} (outcomes ++ results)) :=
      (mem_told_append_iff ordered.nodup).mpr (.inr ⟨absent, mem_told_iff.mp isTold⟩)
    rw [current, failures, RecordKey.mem_filterMap_iff] at stale
    obtain ⟨r, there, -⟩ := stale
    exact absent (List.mem_map_of_mem there)
  · intro visited
    refine RecordKey.Ascending.ext (ascending_told _) (ordered.filterMap) fun ⟨key, f⟩ => ?_
    rw [mem_told_append_iff ordered.nodup]
    refine or_iff_left fun ⟨absent, failed⟩ => absent (visited key ?_)
    exact List.mem_map_of_mem (mem_told_iff.mpr failed)

end WarningLog

/-! ### A controller that makes passes -/

namespace Controller

variable {κ : Type} [Address κ] {broker : BrokerSettings}
  {outcomes results : List (RecordKey × InvocationResult)} {w w' : Store κ × List Call}
  {log : WarningLog}

/-- What a controller can live through that makes passes over a store, of which any call may fail,
while others act on the store in between: the outcomes that its invocations had, what it leaves of
the store, and its log. -/
inductive LivesThrough (broker : BrokerSettings) :
    List (RecordKey × InvocationResult) → Store κ × List Call → WarningLog → Prop where
  | begun (s : Store κ) : LivesThrough broker [] (s, []) {}
  /-- Somebody makes a call on the store. -/
  | others {outcomes : List (RecordKey × InvocationResult)} {s : Store κ} {failed : List Call}
      {log : WarningLog} (before : LivesThrough broker outcomes (s, failed) log) (c : Call) :
      LivesThrough broker outcomes ((s.answer c).2.store, failed) log
  /-- A pass ends before any invocation, since the agents cannot be listed. -/
  | noPass {outcomes : List (RecordKey × InvocationResult)} {w w' : Store κ × List Call}
      {log : WarningLog} {e : StoreError} (before : LivesThrough broker outcomes w log)
      (pass : (Pass.reconcileAll broker).run.Interleaved unreliable w (.error e) w') :
      LivesThrough broker outcomes w' log
  | pass {outcomes results : List (RecordKey × InvocationResult)} {w w' : Store κ × List Call}
      {log : WarningLog} (before : LivesThrough broker outcomes w log)
      (pass : (Pass.reconcileAll broker).run.Interleaved unreliable w (.ok results) w') :
      LivesThrough broker (outcomes ++ results) w' (log.noteAll results)

/-- The log is made of the outcomes and of nothing else. -/
theorem LivesThrough.log_eq (life : LivesThrough broker outcomes w log) :
    log = WarningLog.noteAll {} outcomes := by
  induction life with
  | begun s => rfl
  | others before c ih => exact ih
  | noPass before pass ih => exact ih
  | pass before pass ih =>
    rw [ih]
    exact (List.foldl_append ..).symm

/-- After a pass that had results, whatever came before it: it had one result for every agent that
was stored when it began, in key order; the warnings that are outstanding are in key order, one for
each key; they are the failures of the pass and those of the keys that had failed at last and had no
agent any more. So they are the failures of the pass exactly if there were no such keys. -/
theorem outstanding_after_pass [Address.InKeyOrder κ] (life : LivesThrough broker outcomes w log)
    (pass : (Pass.reconcileAll broker).run.Interleaved unreliable w (.ok results) w') :
    (∃ u, unreliable.drift w u ∧
      results.map Prod.fst = (u.1.select .agent none).map RecordOf.key) ∧
    RecordKey.Ascending (results.map Prod.fst) ∧
    RecordKey.Ascending ((log.noteAll results).told.map Prod.fst) ∧
    (∀ key f, (key, f) ∈ (log.noteAll results).told ↔ (key, f) ∈ WarningLog.failures results ∨
      (key ∉ results.map Prod.fst ∧
        (WarningLog.lastOutcome? key outcomes).bind WarningLog.failure? = some f)) ∧
    ((log.noteAll results).told = WarningLog.failures results ↔
      ∀ key ∈ log.told.map Prod.fst, key ∈ results.map Prod.fst) := by
  obtain ⟨u, before, listed, -⟩ := Pass.interleaved_reconcileAll pass
  have ordered : RecordKey.Ascending (results.map Prod.fst) :=
    listed ▸ u.1.ascending_select .agent none
  have after : log.noteAll results = WarningLog.noteAll {} (outcomes ++ results) := by
    rw [life.log_eq]
    exact (List.foldl_append ..).symm
  refine ⟨⟨u, before, listed⟩, ordered, WarningLog.ascending_told _, fun key f => ?_, ?_⟩
  · rw [after]
    exact WarningLog.mem_told_append_iff ordered.nodup
  · rw [after, life.log_eq]
    exact WarningLog.told_eq_failures_iff ordered

/-- A store that holds nothing but an agent whose specification is invalid. -/
def invalidAgent : Store RecordId :=
  Reconciler.storeAfter [
    .create .agent ⟨{ name := "a", «namespace» := "d" }, .obj [("responseSource", .obj [])], .null⟩]

/-- What a pass comes to with nobody else at work. -/
abbrev passOn (s : Store RecordId) :=
  (Pass.reconcileAll default).run.runOn s

/-- The only outcome that the agent can have. -/
def invalidOutcome : RecordKey × InvocationResult := (⟨"d", "a"⟩, .error .validation)

/-- Two passes in a row find the agent invalid, and it is outstanding once. -/
theorem invalidAgent_outstanding :
    (passOn invalidAgent).1 = .ok [invalidOutcome] ∧
      (passOn (passOn invalidAgent).2.store).1 = .ok [invalidOutcome] ∧
      (WarningLog.noteAll (WarningLog.noteAll {} [invalidOutcome]) [invalidOutcome]).told =
        WarningLog.failures [invalidOutcome] := by
  have first : (passOn invalidAgent).1 = .ok [invalidOutcome] := by decide +kernel
  have second : (passOn (passOn invalidAgent).2.store).1 = .ok [invalidOutcome] := by
    decide +kernel
  have run := (Pass.reconcileAll default).run.interleaved_runOn invalidAgent []
  have again := (Pass.reconcileAll default).run.interleaved_runOn (passOn invalidAgent).2.store []
  rw [show ((Pass.reconcileAll default).run.runOn invalidAgent).1 = _ from first] at run
  rw [show ((Pass.reconcileAll default).run.runOn (passOn invalidAgent).2.store).1 = _ from second]
    at again
  obtain ⟨-, -, -, -, current⟩ := outstanding_after_pass (.pass (.begun invalidAgent) run) again
  exact ⟨first, second, current.mpr (by decide +kernel)⟩

/-- A pass over a store without agents has no results. -/
theorem passOn_of_none {s : Store RecordId} (none : s.select .agent Option.none = []) :
    (passOn s).1 = .ok [] := by
  have listed : Pass.agentKeys.endOn s = .ok [] := by
    rw [Pass.endOn_agentKeys, none]
    rfl
  have keys : Pass.agentKeys.run.runOn s = (.ok [], ⟨s, []⟩) :=
    Prod.ext listed (Pass.agentKeys_readsOn s).runOn
  exact congrArg Prod.fst (Attempt.runOn_bind_eq_ok_iff.mpr ⟨[], _, _, keys, rfl, rfl⟩)

/-- An agent that failed is deleted. The next pass has no failure, and the warning is still
outstanding. -/
theorem deletedAgent_outstanding :
    let gone := ((passOn invalidAgent).2.store.answer (.delete .agent ⟨"d", "a"⟩)).2.store
    (passOn invalidAgent).1 = .ok [invalidOutcome] ∧ (passOn gone).1 = .ok [] ∧
      WarningLog.failures [] = [] ∧
      (WarningLog.noteAll (WarningLog.noteAll {} [invalidOutcome]) []).told =
        [(⟨"d", "a"⟩, "InvalidSpec", ReconcileError.validation.message)] := by
  intro gone
  refine ⟨by decide +kernel, passOn_of_none ?_, rfl, by decide +kernel⟩
  obtain ⟨r, found⟩ : ∃ r, (passOn invalidAgent).2.store.find? .agent ⟨"d", "a"⟩ = some r :=
    Option.isSome_iff_exists.mp (by decide +kernel)
  have rounds : Sweep.round^[1]
      ⟨[], (passOn invalidAgent).2.store.records, [(⟨.agent, ⟨"d", "a"⟩⟩ : RecordId)]⟩ = _ := rfl
  have ended : (Sweep.round^[1] ⟨[], (passOn invalidAgent).2.store.records,
      [(⟨.agent, ⟨"d", "a"⟩⟩ : RecordId)]⟩).pending = [] := by decide +kernel
  rw [Store.select, (Store.answer_delete_of_found found).2.1,
    show Address.of Kind.agent ⟨"d", "a"⟩ = (⟨.agent, ⟨"d", "a"⟩⟩ : RecordId) from rfl,
    Sweep.dropAll_of_rounds rounds ended]
  decide +kernel

end Controller

end ControlPlane
