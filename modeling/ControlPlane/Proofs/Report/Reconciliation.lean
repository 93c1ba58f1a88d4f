import ControlPlane.Program.Commands
import ControlPlane.Proofs.Controller.Outstanding
import ControlPlane.Proofs.Files.Path
import ControlPlane.Proofs.Manifest.Application
import Mathlib.Data.List.Forall2

/-!
The report on a pass. It is made of two accounts that are kept apart, the results of the pass and the
warnings of its log, and of the functions that are read again at the end; together they tell of every
agent once (`Command.performReconcile_accounts`). This holds on a store that may fail any call: if the
manifests were applied no write of theirs is late, and a write of the pass is late only for an agent
that is reported as a failure.
-/

namespace ControlPlane

variable {κ : Type} [Address κ]

/-! ### Applying manifests -/

namespace Manifest

/-- A manifest is applied, or fails with the first of its writes that fails. -/
theorem strict_apply (kind : Kind) (declared : Record) :
    (Client.apply kind declared).run.Strict := by
  rw [apply_run]
  refine ⟨(fun isWrite => nomatch isWrite), fun o => ?_⟩
  cases o with
  | ok current =>
    simp only
    split
    · trivial
    · exact ⟨fun _ e _ => ⟨e, rfl⟩, fun _ => trivial⟩
  | error e =>
    simp only
    split
    · refine ⟨fun _ e _ => ⟨e, rfl⟩, fun o => ?_⟩
      cases o with
      | error e => trivial
      | ok created =>
        simp only
        split
        · trivial
        · exact ⟨fun _ e _ => ⟨e, rfl⟩, fun _ => trivial⟩
    · trivial

theorem strict_applyOne (m : Manifest) : (applyOne m).run.Strict := by
  rw [applyOne_run]
  refine ⟨(fun isWrite => nomatch isWrite), fun before => ?_⟩
  refine (strict_apply m.kind m.record).bind (fun e => ⟨e, rfl⟩) fun o => ?_
  cases o <;> trivial

theorem strict_applyEach (ms : List Manifest) : (applyEach ms).run.Strict := by
  induction ms with
  | nil => trivial
  | cons m rest ih =>
    rw [applyEach, Attempt.bind_run]
    refine (strict_applyOne m).bind (fun e => ⟨e, rfl⟩) fun o => ?_
    cases o with
    | error e => trivial
    | ok written =>
      simp only [Attempt.bind_run]
      refine ih.bind (fun e => ⟨e, rfl⟩) fun o => ?_
      cases o <;> trivial

end Manifest

/-! ### Warnings of one pass -/

namespace WarningLog

variable {results : List (RecordKey × InvocationResult)} {key : RecordKey}

/-- The warning of a failure that came once. -/
def firstWarning? : InvocationResult → Option Warning
  | .ok _ => none
  | .error e => some ⟨e.reason, e.message, 1⟩

theorem warnings_note_first {l : WarningLog} (none : l.warnings key = [])
    (result : InvocationResult) : (l.note key result).warnings key = (firstWarning? result).toList := by
  cases result with
  | ok r => rw [note, warnings_clear_self]; rfl
  | error e => rw [note, warnings_warn_self, none]; rfl

/-- Where every key has one outcome, its warnings are those of that outcome. -/
theorem warnings_noteAll (once : (results.map Prod.fst).Nodup) (key : RecordKey) :
    (noteAll {} results).warnings key =
      ((lastOutcome? key results).bind firstWarning?).toList := by
  induction results using List.reverseRecOn with
  | nil => rfl
  | append_singleton before o ih =>
    obtain ⟨k, result⟩ := o
    rw [List.map_append, List.map_singleton, List.nodup_append] at once
    rw [noteAll_concat]
    by_cases same : key = k
    · subst same
      have fresh : lastOutcome? key before = none :=
        lastOutcome?_eq_none_iff.mpr fun mem => once.2.2 key mem key (List.mem_singleton_self _) rfl
      have none : (noteAll {} before).warnings key = [] := by
        rw [ih once.1, fresh]
        rfl
      rw [lastOutcome?_concat_self, Option.bind_some, warnings_note_first none]
    · rw [lastOutcome?_concat_of_ne same, warnings_note_of_ne same, ih once.1]

/-- After a pass from nothing, each failure of the pass is outstanding, once. -/
theorem outstanding_noteAll (ordered : RecordKey.Ascending (results.map Prod.fst)) :
    (noteAll {} results).outstanding =
      results.filterMap fun r => (firstWarning? r.2).map fun w => (r.1, w) := by
  refine RecordKey.Ascending.ext (ascending_outstanding _) ordered.filterMap fun ⟨key, w⟩ => ?_
  rw [mem_outstanding_iff, latest?, warnings_noteAll ordered.nodup, RecordKey.mem_filterMap_iff]
  have latest : ∀ o : Option Warning, o.toList.getLast? = o := fun o => by cases o <;> rfl
  rw [latest, Option.bind_eq_some_iff]
  simp only [lastOutcome?_eq_some_iff ordered.nodup]

end WarningLog

/-! ### Reading the functions again -/

namespace ReconciliationReport

variable {keys gone : List RecordKey} {functions : List FunctionRecord} {w v : Store κ × List Call}

/-- At keys at which no write is late the functions are read as they are. -/
theorem interleaved_functionsAt (late : LateWrites κ gone w.2)
    (quiet : ∀ key ∈ keys, Address.refusal? κ key = none ∧ key ∉ gone)
    (run : (functionsAt keys).run.Interleaved unreliable w (.ok functions) v) :
    w.1.SameBeside gone v.1 ∧
      List.Forall₂ (fun key f => v.1.fetch FunctionSpec key = .ok f) keys functions := by
  induction keys generalizing w functions with
  | nil =>
    obtain ⟨same, drifted, -⟩ := late.done run
    obtain rfl := Except.ok.inj same
    exact ⟨drifted, .nil⟩
  | cons key keys ih =>
    obtain ⟨f, u, first, next⟩ := Attempt.interleaved_bind_ok_iff.mp run
    obtain ⟨rest, u', others, last⟩ := Attempt.interleaved_bind_ok_iff.mp next
    obtain ⟨⟨accepted, apart⟩, quiet⟩ := List.forall_mem_cons.mp quiet
    obtain ⟨here, same, late'⟩ := late.get_ok accepted apart first
    cases last with
    | done drifted =>
      obtain ⟨same', there⟩ := ih late' quiet (others.drift drifted)
      have kept := same.trans same'
      exact ⟨kept, .cons ((kept.fetch_eq accepted apart).trans here) there⟩

/-- Every result is of an agent that was synced, or a failure. -/
def Conclusive (results : List (RecordKey × InvocationResult)) : Prop :=
  ∀ key outcome, (key, .ok outcome) ∈ results → ∃ action told, outcome = .synced action told

/-- The functions that are read again are those of the agents that did not fail. -/
theorem syncedKeys_eq {results : List (RecordKey × InvocationResult)}
    (conclusive : Conclusive results) :
    syncedKeys results = (results.filter (·.2.isOk)).map Prod.fst := by
  induction results with
  | nil => rfl
  | cons r rest ih =>
    have tail := ih fun key outcome mem => conclusive key outcome (List.mem_cons_of_mem _ mem)
    obtain ⟨key, result⟩ := r
    cases result with
    | error e => exact tail
    | ok outcome =>
      obtain ⟨action, told, rfl⟩ := conclusive key outcome List.mem_cons_self
      exact congrArg (key :: ·) tail

/-! ### What a report accounts for -/

/-- An entry tells of the function that stands at a key, and is under the control of the agent that
stood there before. -/
def TellsFunction (s t : Store κ) (key : RecordKey) (entry : Json) : Prop :=
  ∃ agent f, s.fetch AgentSpec key = .ok agent ∧ t.fetch FunctionSpec key = .ok f ∧ f.key = key ∧
    agent.metadata.controllerReference .agent ∈ f.metadata.ownerReferences ∧
    RecordOf.form.read entry = .ok f

/-- An entry tells of a failure that came once. -/
def TellsFailure (time : Timestamp) (result : RecordKey × InvocationResult) (entry : Json) : Prop :=
  ∃ e, result.2 = .error e ∧
    entry = .obj [("agent", .str (result.1.namespace ++ "/" ++ result.1.name)),
      ("reason", .str e.reason), ("error", .str e.message), ("count", .int 1),
      ("last_seen", .str time.full)]

/-- The entries of a report tell of every agent of a store once: of those with which a pass was
through, by the function that stands at their key in another store and is under their control; of
those with which it failed, by the failure. Both are in key order. -/
structure Accounts (time : Timestamp) (s : Store κ) (results : List (RecordKey × InvocationResult))
    (t : Store κ) (functions failures : List Json) : Prop where
  /-- There is one result for every agent that is stored. -/
  complete : results.map Prod.fst = (s.select .agent none).map RecordOf.key
  ordered : RecordKey.Ascending (results.map Prod.fst)
  conclusive : Conclusive results
  functions : List.Forall₂ (TellsFunction s t) ((results.filter (·.2.isOk)).map Prod.fst) functions
  failures : List.Forall₂ (TellsFailure time) (results.filter (!·.2.isOk)) failures

/-- A text has the entries of a report in a format; a list of no failures is left out. -/
def Prints (format text : String) (functions failures : List Json) : Prop :=
  let value : Json := .obj (("functions", .arr functions) ::
    if failures.isEmpty then [] else [("failures", .arr failures)])
  format = "json" ∧ text = value.pretty ∨ format = "yaml" ∧ text = Yaml.Printer.document value

theorem prints_of_render {format text : String} {r : ReconciliationReport}
    (rendered : r.render? format = some text) :
    Prints format text (r.functions.map (RecordOf.form.write .declared))
      (r.failures.map ReconciliationFailure.toJson) := by
  rw [Prints, List.isEmpty_map]
  unfold render? at rendered
  split at rendered
  · exact .inl ⟨rfl, (Option.some.inj rendered).symm⟩
  · exact .inr ⟨rfl, (Option.some.inj rendered).symm⟩
  · cases rendered

/-- The warnings of failures that came once are written as those failures. -/
theorem forall₂_tellsFailure (time : Timestamp) (results : List (RecordKey × InvocationResult)) :
    List.Forall₂ (TellsFailure time) (results.filter (!·.2.isOk))
      (((results.filterMap fun r => (WarningLog.firstWarning? r.2).map fun w => (r.1, w)).map
        fun (key, w) => ReconciliationFailure.ofWarning time key w).map
          ReconciliationFailure.toJson) := by
  induction results with
  | nil => exact .nil
  | cons r rest ih =>
    obtain ⟨key, result⟩ := r
    cases result with
    | ok outcome => exact ih
    | error e => exact .cons ⟨e, rfl, rfl⟩ ih

variable [Address.InKeyOrder κ] {s : Store κ} {results : List (RecordKey × InvocationResult)}
  {time : Timestamp}

/-- The functions are read again where no write of the pass is late, so they are as the pass left
them. -/
theorem accounts_of_pass (complete : results.map Prod.fst = (s.select .agent none).map RecordOf.key)
    (leaves : Pass.LeavesAll [] s results w)
    (run : (functionsAt (syncedKeys results)).run.Interleaved unreliable w (.ok functions) v) :
    Accounts time s results v.1 (functions.map (RecordOf.form.write .declared))
      (((WarningLog.noteAll {} results).outstanding.map
        fun (key, w) => ReconciliationFailure.ofWarning time key w).map
          ReconciliationFailure.toJson) := by
  have ordered : RecordKey.Ascending (results.map Prod.fst) :=
    complete ▸ s.ascending_select .agent none
  have accepted : ∀ key ∈ results.map Prod.fst, Address.refusal? κ key = none := by
    rw [complete]
    rintro _ mem
    obtain ⟨r, listed, rfl⟩ := List.mem_map.mp mem
    exact Store.accepted_of_mem_select listed
  have late : LateWrites κ (Pass.lateAfterAll results) w.2 := leaves.late.mono (by simp)
  have conclusive : Conclusive results := fun key outcome mem =>
    have ⟨_, _, isSynced, _⟩ := leaves.synced key outcome mem
    isSynced
  rw [syncedKeys_eq conclusive] at run
  have succeeded : ∀ key ∈ (results.filter (·.2.isOk)).map Prod.fst,
      ∃ outcome, (key, .ok outcome) ∈ results := by
    intro key mem
    obtain ⟨⟨k, result⟩, kept, rfl⟩ := List.mem_map.mp mem
    obtain ⟨isResult, isOk⟩ := List.mem_filter.mp kept
    cases result with
    | error e => cases isOk
    | ok outcome => exact ⟨outcome, isResult⟩
  -- No agent both succeeded and failed.
  have quiet : ∀ key ∈ (results.filter (·.2.isOk)).map Prod.fst,
      Address.refusal? κ key = none ∧ key ∉ Pass.lateAfterAll results := by
    intro key isSynced
    obtain ⟨outcome, mem⟩ := succeeded key isSynced
    refine ⟨accepted key (List.mem_map_of_mem mem), fun isLate => ?_⟩
    obtain ⟨e, mem'⟩ := Pass.mem_lateAfterAll_iff.mp isLate
    cases (Prod.mk.inj (List.inj_on_of_nodup_map ordered.nodup mem mem' rfl)).2
  obtain ⟨same, read⟩ := interleaved_functionsAt late quiet run
  refine ⟨complete, ordered, conclusive, ?_, ?_⟩
  · rw [List.forall₂_map_right_iff]
    refine ((List.forall₂_and_left _ _).mpr ⟨fun key mem => mem, read⟩).imp ?_
    rintro key f ⟨mem, there⟩
    obtain ⟨outcome, isResult⟩ := succeeded key mem
    obtain ⟨acceptedHere, apart⟩ := quiet key mem
    obtain ⟨agent, home, -, controlled⟩ := leaves.synced key outcome isResult
    obtain ⟨g, there', controls⟩ := controlled.of_same acceptedHere apart same
    obtain rfl := Except.ok.inj (there.symm.trans there')
    exact ⟨agent, f, home, there, Store.key_of_fetch acceptedHere there, controls,
      FunctionRecord.form_faithful .declared f⟩
  · rw [WarningLog.outstanding_noteAll ordered]
    exact forall₂_tellsFailure time results

/-! ### The making of a report -/

/-- Where a report is made, the manifests were applied and no write of theirs is late, and the report
tells of the agents stored then by the results of the pass that followed. If no call failed, that is
what these come to with nobody else at work. -/
theorem accounts_of_make {broker : BrokerSettings} {ms : List Manifest}
    {report : ReconciliationReport}
    (run : (make broker time ms).run.Interleaved unreliable (s, []) (.ok report) v) :
    ∃ applied s₁ failed results w,
      (Manifest.applyAll ms).run.Interleaved unreliable (s, []) (.ok applied) (s₁, failed) ∧
      FailedReads failed ∧
      (Pass.reconcileAll broker).run.Interleaved unreliable (s₁, failed) (.ok results) w ∧
      (v.2 = [] → s₁ = ((Manifest.applyAll ms).run.runOn s).2.store ∧
        .ok results = ((Pass.reconcileAll broker).run.runOn s₁).1) ∧
      Accounts time s₁ results v.1 (report.functions.map (RecordOf.form.write .declared))
        (report.failures.map ReconciliationFailure.toJson) := by
  obtain ⟨applied, ⟨s₁, failed⟩, applies, run⟩ := Attempt.interleaved_bind_ok_iff.mp run
  obtain ⟨results, w, passes, run⟩ := Attempt.interleaved_bind_ok_iff.mp run
  obtain ⟨functions, w', reads, last⟩ := Attempt.interleaved_bind_ok_iff.mp run
  obtain ⟨same, drifted⟩ := Routine.interleaved_done_iff.mp last
  obtain rfl := Except.ok.inj same
  have quiet : FailedReads failed :=
    (Manifest.strict_applyEach _).reads applies fun _ mem => absurd mem List.not_mem_nil
  obtain ⟨w₁, before, complete, each⟩ := Pass.interleaved_reconcileAll passes
  obtain rfl : w₁ = (s₁, failed) := quiet.drift before
  have stored : ∀ key ∈ results.map Prod.fst,
      Address.refusal? κ key = none ∧ (s₁.find? .agent key).isSome := by
    intro key mem
    obtain ⟨accepted, there, -⟩ := (Store.mem_keys_select_iff (by rintro n ⟨⟩)).mp (complete ▸ mem)
    exact ⟨accepted, there⟩
  have nodup : (results.map Prod.fst).Nodup := complete ▸ (s₁.ascending_select .agent none).nodup
  have leaves := Pass.leavesAll_of_reconcileEach quiet.lateWrites nodup
    (fun _ _ => List.not_mem_nil) stored each
  have reads := reads.drift drifted
  refine ⟨applied, s₁, failed, results, w, applies, quiet, passes, fun none => ?_,
    accounts_of_pass complete leaves reads⟩
  obtain ⟨s₂, failed'⟩ := w
  obtain rfl : failed' = [] := List.eq_nil_of_suffix_nil (none ▸ reads.suffix)
  obtain rfl : failed = [] := List.eq_nil_of_suffix_nil passes.suffix
  exact ⟨applies.eq_runOn.2, passes.eq_runOn.1⟩

end ReconciliationReport

/-! ### The command -/

namespace Command

variable {broker : BrokerSettings} {files : FileSystem} {time : Timestamp}
  {manifests format text : String} {s t : Store κ} {late : List Call}

/-- If the command succeeds, on a store that may fail any call, the manifests were applied, a pass
was made, and the text has an entry for every agent stored after the manifests were applied: the
function that now stands at its key and is under its control if the pass synced it, and its failure
otherwise. If no call failed, what was stored then and what the pass came to is what these come to
with nobody else at work. -/
theorem performReconcile_accounts [Address.InKeyOrder κ]
    (run : (performReconcile broker files time manifests format).run.Interleaved unreliable
      (s, []) (.ok text) (t, late)) :
    ∃ loaded applied s₁ failed results w functions failures,
      Manifest.load files manifests = .ok loaded ∧
      (Manifest.applyAll loaded).run.Interleaved unreliable (s, []) (.ok applied) (s₁, failed) ∧
      FailedReads failed ∧
      (Pass.reconcileAll broker).run.Interleaved unreliable (s₁, failed) (.ok results) w ∧
      (late = [] → s₁ = ((Manifest.applyAll loaded).run.runOn s).2.store ∧
        .ok results = ((Pass.reconcileAll broker).run.runOn s₁).1) ∧
      ReconciliationReport.Prints format text functions failures ∧
      ReconciliationReport.Accounts time s₁ results t functions failures := by
  obtain ⟨loaded, w, loads, run⟩ := Attempt.interleaved_bind_ok_iff.mp run
  obtain ⟨report, w', makes, renders⟩ := Attempt.interleaved_bind_ok_iff.mp run
  obtain ⟨isLoaded, drifted⟩ := Routine.interleaved_done_iff.mp loads
  obtain ⟨isRendered, drifted'⟩ := Routine.interleaved_done_iff.mp renders
  have made := ((Attempt.interleaved_mapError_ok makes).drift drifted').of_drift drifted
  obtain ⟨applied, s₁, failed, results, u, applies, quiet, passes, alone, accounts⟩ :=
    ReconciliationReport.accounts_of_make made
  refine ⟨loaded, applied, s₁, failed, results, u, _, _,
    Outcome.mapError_eq_ok_iff.mp isLoaded.symm, applies, quiet, passes, alone,
    ReconciliationReport.prints_of_render ?_, accounts⟩
  cases rendered : report.render? format with
  | none =>
    rw [rendered] at isRendered
    cases isRendered
  | some out =>
    rw [rendered] at isRendered
    exact congrArg some (Except.ok.inj isRendered).symm

/-- A store of two agents in different namespaces, the first of which is invalid. -/
def twoAgents : Store RecordId :=
  Reconciler.storeAfter [
    .create .agent ⟨{ name := "a", «namespace» := "d" }, .obj [("responseSource", .obj [])], .null⟩,
    .create .agent ⟨{ name := "b", «namespace» := "e" }, .obj [], .null⟩]

/-- A file system with a directory in which there are no manifests. -/
def noManifests : FileSystem := ⟨.directory [("m", .directory [])], []⟩

/-- One agent of an earlier run is synced and the other one fails, and the report tells of both. -/
theorem twoAgents_accounted :
    ∃ text results t functions failures,
      ((performReconcile default noManifests default "m" "json").run.runOn twoAgents).1 = .ok text ∧
      .ok results = ((Pass.reconcileAll default).run.runOn twoAgents).1 ∧
      results.map (fun r => (r.1, r.2.isOk)) = [(⟨"d", "a"⟩, false), (⟨"e", "b"⟩, true)] ∧
      functions.length = 1 ∧ failures.length = 1 ∧
      ReconciliationReport.Prints "json" text functions failures ∧
      ReconciliationReport.Accounts default twoAgents results t functions failures := by
  have looked : noManifests.look "m" = .ok (.directory []) := by
    rw [FileSystem.look, Path.names_of_isName noManifests (by decide)]
    rfl
  have loaded : Manifest.load noManifests "m" = .ok [] := by
    rw [Manifest.load, looked]
    rfl
  have passed : ((Pass.reconcileAll default).run.runOn twoAgents).1.map
      (fun results => results.map fun r => (r.1, r.2.isOk)) =
        .ok [(⟨"d", "a"⟩, false), (⟨"e", "b"⟩, true)] := by decide +kernel
  obtain ⟨report, isMade⟩ : ∃ report,
      ((ReconciliationReport.make default default []).run.runOn twoAgents).1.toOption =
        some report := Option.isSome_iff_exists.mp (by decide +kernel)
  have ended : ((performReconcile default noManifests default "m" "json").run.runOn twoAgents).1 =
      .ok report.toJson.pretty := by
    have loads : (Attempt.ofExcept ((Manifest.load noManifests "m").mapError
        ProgramError.manifest)).run.runOn twoAgents = (.ok [], ⟨twoAgents, []⟩) := by
      rw [loaded]
      rfl
    have reported : (((ReconciliationReport.make default default []).mapError
        ProgramError.store).run.runOn twoAgents).1 = .ok report := by
      rw [Attempt.mapError_run, Routine.runOn_bind, Outcome.toOption_eq_some_iff.mp isMade]
      rfl
    exact congrArg Prod.fst (Attempt.runOn_bind_eq_ok_iff.mpr ⟨[], _, _, loads,
      Attempt.runOn_bind_eq_ok_iff.mpr ⟨report, _, _, Prod.ext reported rfl, rfl, rfl⟩, rfl⟩)
  have run := (performReconcile default noManifests default "m" "json").run.interleaved_runOn
    twoAgents []
  rw [ended] at run
  obtain ⟨loaded', -, s₁, -, results, -, functions, failures, isLoaded, -, -, -, alone, prints,
    accounts⟩ := performReconcile_accounts run
  obtain rfl := Except.ok.inj (loaded.symm.trans isLoaded)
  have nothing : Manifest.applyAll [] = pure 0 := by
    rw [Manifest.applyAll, Manifest.inOrder, List.mergeSort_nil, Manifest.applyEach]
  obtain ⟨isApplied, isPassed⟩ := alone rfl
  obtain rfl : s₁ = twoAgents := by
    rw [isApplied, nothing]
    rfl
  rw [← isPassed] at passed
  have told := Except.ok.inj passed
  have one : (results.filter (·.2.isOk)).length = 1 ∧ (results.filter (!·.2.isOk)).length = 1 := by
    have counted (p : Bool → Bool) : (results.filter fun r => p r.2.isOk).length =
        ([(⟨"d", "a"⟩, false), (⟨"e", "b"⟩, true)] : List (RecordKey × Bool)).countP (p ·.2) := by
      rw [← told, List.countP_map, List.countP_eq_length_filter]
      rfl
    exact ⟨counted id, counted not⟩
  refine ⟨_, results, _, functions, failures, ended, isPassed, told, ?_, ?_, prints, accounts⟩
  · rw [← accounts.functions.length_eq, List.length_map, one.1]
  · rw [← accounts.failures.length_eq, one.2]

end Command

end ControlPlane
