import ControlPlane.Proofs.Store.KeyOrder
import ControlPlane.WarningLog
import Mathlib.Data.List.DropRight
import Mathlib.Data.List.SplitBy

/-!
The log of warnings as a bounded run-length log. The failures that a log was told of a key, since it
was last told that the key recovered, fall into runs of equal ones (`Warning.runs`). Recording one
more failure lengthens the last run or adds one (`Warning.runs_concat`), and it does not matter
whether what is out of bounds is dropped before or after (`Warning.record_rtake`). So, whatever a
log was told, the warnings of every key are its last runs, as many as there is room for, and the
outstanding warnings are the last runs of all keys that did not recover
(`WarningLog.after_keeps_runs`).
-/

namespace ControlPlane

/-! ### Recording one failure -/

namespace Warning

variable {capacity : Nat} {reason message : String} {log : List Warning}

theorem record_ne_nil : record capacity reason message log ≠ [] := by
  unfold record
  split
  · split <;> simp
  · simp

/-- What is recorded last is the failure itself, however often it came. -/
theorem getLast?_record (capacity : Nat) (reason message : String) (log : List Warning) :
    ∃ count, (record capacity reason message log).getLast? = some ⟨reason, message, count⟩ := by
  unfold record
  split
  · rename_i last _
    split
    · rename_i agrees
      simp only [Warning.agrees, Bool.and_eq_true, beq_iff_eq] at agrees
      exact ⟨last.count + 1, by rw [List.getLast?_concat, ← agrees.1, ← agrees.2]⟩
    · exact ⟨1, List.getLast?_concat ..⟩
  · exact ⟨1, rfl⟩

/-- A failure that is recorded behind another one. -/
theorem record_concat (capacity : Nat) (reason message : String) (before : List Warning)
    (last : Warning) : record capacity reason message (before ++ [last]) =
      if last.agrees reason message then before ++ [{ last with count := last.count + 1 }]
      else (if (before ++ [last]).length = capacity then (before ++ [last]).tail
        else before ++ [last]) ++ [⟨reason, message, 1⟩] := by
  simp [record]

/-- Of a bounded log, what is left when there has to be room for one more. -/
theorem rtake_room (n : Nat) (log : List Warning) :
    (if (log.rtake (n + 1)).length = n + 1 then (log.rtake (n + 1)).tail
      else log.rtake (n + 1)) = log.rtake n := by
  simp only [List.rtake, List.length_drop, List.tail_drop]
  split
  · congr 1
    omega
  · have fits : log.length ≤ n := by omega
    simp [Nat.sub_eq_zero_of_le fits, Nat.sub_eq_zero_of_le (Nat.le_succ_of_le fits)]

/-- A bounded log is the end of the one with room to spare. -/
theorem record_rtake (n : Nat) (reason message : String) (log : List Warning) :
    record (n + 1) reason message (log.rtake (n + 1)) =
      (record (log.length + 1) reason message log).rtake (n + 1) := by
  cases log using List.reverseRecOn with
  | nil => simp [record, List.rtake]
  | append_singleton before last =>
    have room := rtake_room n (before ++ [last])
    have spare : (before ++ [last]).length ≠ (before ++ [last]).length + 1 := by omega
    rw [List.rtake_concat_succ] at room ⊢
    rw [record_concat, record_concat, room, if_neg spare]
    split
    · rw [List.rtake_concat_succ]
    · rw [List.rtake_concat_succ]

/-! ### Runs -/

/-- A run of equal failures as a warning. -/
def ofRun (run : List (String × String)) : Option Warning :=
  run.getLast?.map fun f => ⟨f.1, f.2, run.length⟩

/-- The runs of equal failures in a list, each with its length. -/
def runs (failures : List (String × String)) : List Warning :=
  (failures.splitBy (· == ·)).filterMap ofRun

variable {failures : List (String × String)} {f : String × String}

@[simp] theorem runs_nil : runs [] = [] := rfl

theorem runs_eq_nil_iff : runs failures = [] ↔ failures = [] := by
  rw [runs, List.filterMap_eq_nil_iff]
  constructor
  · intro unrun
    by_contra some
    obtain ⟨run, mem⟩ := List.exists_mem_of_ne_nil _ (List.splitBy_ne_nil.mpr some)
    have empty : run = [] := by simpa [ofRun] using unrun run mem
    exact List.ne_nil_of_mem_splitBy mem empty
  · rintro rfl
    exact nofun

/-- A failure unlike the one before it begins a run. -/
theorem runs_concat_of_ne (ne : failures.getLast? ≠ some f) :
    runs (failures ++ [f]) = runs failures ++ [⟨f.1, f.2, 1⟩] := by
  rw [runs, List.splitBy_append_cons, List.filterMap_append]
  · rfl
  · intro last isLast
    exact beq_false_of_ne fun same => ne (same ▸ isLast)

/-- Behind a failure, the same one lengthens the last run. -/
theorem splitBy_concat_self (failures : List (String × String)) (f : String × String) :
    ∃ before run, (failures ++ [f]).splitBy (· == ·) = before ++ [run ++ [f]] ∧
      (failures ++ [f] ++ [f]).splitBy (· == ·) = before ++ [run ++ [f] ++ [f]] := by
  have nonempty : (failures ++ [f]).splitBy (· == ·) ≠ [] := by simp
  obtain ⟨before, last, split⟩ := (List.eq_nil_or_concat' _).resolve_left nonempty
  obtain ⟨whole, noneEmpty, alike, apart⟩ := List.splitBy_eq_iff.mp split
  rw [List.flatten_append, List.flatten_singleton] at whole
  have some : last ≠ [] := by
    rintro rfl
    simp at noneEmpty
  obtain ⟨run, g, rfl⟩ := (List.eq_nil_or_concat' _).resolve_left some
  obtain ⟨rfl, same⟩ := List.append_inj' (whole.trans (List.append_assoc ..).symm) rfl
  obtain rfl := List.singleton_inj.mp same
  refine ⟨before, run, split, List.splitBy_eq_iff.mpr ⟨by simp, by simpa using noneEmpty, ?_, ?_⟩⟩
  · intro m mem
    rcases List.mem_append.mp mem with mem | mem
    · exact alike m (List.mem_append_left _ mem)
    · obtain rfl := List.mem_singleton.mp mem
      have ofRun := alike (run ++ [f]) (by simp)
      refine ofRun.append (List.isChain_singleton f) ?_
      simp
  · rw [List.isChain_append] at apart ⊢
    obtain ⟨early, -, late⟩ := apart
    refine ⟨early, List.isChain_singleton _, ?_⟩
    intro m isLast m' isNext
    obtain rfl := Option.some.inj isNext
    obtain ⟨some, some', ne⟩ := late m isLast _ rfl
    refine ⟨some, by simp, ?_⟩
    rwa [List.head_append_of_ne_nil some']

/-- The runs of one failure more: as recording it makes of them, with room to spare. -/
theorem runs_concat (failures : List (String × String)) (f : String × String) :
    runs (failures ++ [f]) = record ((runs failures).length + 1) f.1 f.2 (runs failures) := by
  cases failures using List.reverseRecOn with
  | nil => rfl
  | append_singleton earlier g =>
    obtain ⟨before, run, split, split'⟩ := splitBy_concat_self earlier g
    have runs_eq : runs (earlier ++ [g]) =
        before.filterMap ofRun ++ [⟨g.1, g.2, run.length + 1⟩] := by
      simp [runs, split, ofRun]
    have spare : (runs (earlier ++ [g])).length ≠ (runs (earlier ++ [g])).length + 1 := by omega
    by_cases same : g = f
    · subst same
      rw [runs_eq, record_concat, if_pos (by simp [agrees]), runs, split']
      simp [ofRun]
    · rw [runs_concat_of_ne (by simpa using same)]
      rw [runs_eq] at spare ⊢
      rw [record_concat, if_neg, if_neg spare]
      simp only [agrees, Bool.and_eq_true, beq_iff_eq]
      rintro ⟨reason, message⟩
      exact same (Prod.ext reason message)

/-- No run is longer than the list. -/
theorem count_le_of_mem_runs {w : Warning} (mem : w ∈ runs failures) :
    w.count ≤ failures.length := by
  obtain ⟨run, isRun, ofRun⟩ := List.mem_filterMap.mp mem
  obtain ⟨f, -, rfl⟩ := Option.map_eq_some_iff.mp ofRun
  have part := (List.sublist_flatten_of_mem isRun).length_le
  rwa [List.flatten_splitBy] at part

end Warning

/-! ### What a log is told -/

namespace WarningLog

/-- What a log is told: that a key failed, or that it recovered. -/
inductive Occurrence where
  | failure (key : RecordKey) (reason message : String)
  | recovery (key : RecordKey)
  deriving DecidableEq

/-- The log after an occurrence. -/
def tell (l : WarningLog) : Occurrence → WarningLog
  | .failure key reason message => l.warn key reason message
  | .recovery key => l.clear key

/-- A log that keeps a number of warnings of each key, after occurrences. -/
def after (capacity : Nat) (occurrences : List Occurrence) : WarningLog :=
  occurrences.foldl tell (withCapacity capacity)

/-- The failure of a key that an occurrence is. -/
def Occurrence.failureOf? (key : RecordKey) : Occurrence → Option (String × String)
  | .failure k reason message => if k = key then some (reason, message) else none
  | .recovery _ => none

/-- The failures of a key since it last recovered, each with its reason and its message. -/
def failuresSince (key : RecordKey) (occurrences : List Occurrence) : List (String × String) :=
  (occurrences.rtakeWhile (· ≠ .recovery key)).filterMap (Occurrence.failureOf? key)

variable {l : WarningLog} {key k : RecordKey} {reason message : String} {w : Warning}
  {occurrences : List Occurrence}

theorem warnings_warn_self : (l.warn key reason message).warnings key =
    Warning.record l.capacity reason message (l.warnings key) := by
  simp [warnings, warn, Dictionary.find?_insert_self]

theorem warnings_warn_of_ne (ne : k ≠ key) :
    (l.warn key reason message).warnings k = l.warnings k := by
  simp [warnings, warn, Dictionary.find?_insert_of_ne _ _ ne]

theorem warnings_clear_self : (l.clear key).warnings key = [] := by
  simp [warnings, clear, Dictionary.find?_erase_self]

theorem warnings_clear_of_ne (ne : k ≠ key) : (l.clear key).warnings k = l.warnings k := by
  simp [warnings, clear, Dictionary.find?_erase_of_ne _ ne]

theorem mem_outstanding_iff : (key, w) ∈ l.outstanding ↔ l.latest? key = some w := by
  rw [outstanding, RecordKey.mem_filterMap_iff, latest?, warnings]
  simp only [Dictionary.mem_entries_iff]
  cases l.logs.find? key <;> simp

/-- The outstanding warnings are in key order, one for each key. -/
theorem ascending_outstanding (l : WarningLog) : RecordKey.Ascending (l.outstanding.map Prod.fst) :=
  RecordKey.Ascending.filterMap (List.pairwise_map.mpr l.logs.sorted)

/-! ### Runs of occurrences -/

theorem after_concat (capacity : Nat) (occurrences : List Occurrence) (o : Occurrence) :
    after capacity (occurrences ++ [o]) = (after capacity occurrences).tell o := by
  simp [after]

/-- How much is kept of a key never changes. -/
theorem capacity_after (capacity : Nat) (occurrences : List Occurrence) :
    (after capacity occurrences).capacity = max capacity 1 := by
  induction occurrences using List.reverseRecOn with
  | nil => rfl
  | append_singleton before o ih =>
    rw [after_concat]
    cases o <;> exact ih

theorem failuresSince_failure (key k : RecordKey) (occurrences : List Occurrence)
    (reason message : String) :
    failuresSince key (occurrences ++ [.failure k reason message]) =
      failuresSince key occurrences ++ if k = key then [(reason, message)] else [] := by
  rw [failuresSince, List.rtakeWhile_concat_pos _ _ _ (by simp), List.filterMap_append,
    failuresSince]
  congr 1
  by_cases same : k = key <;> simp [Occurrence.failureOf?, same]

theorem failuresSince_recovery (key k : RecordKey) (occurrences : List Occurrence) :
    failuresSince key (occurrences ++ [.recovery k]) =
      if k = key then [] else failuresSince key occurrences := by
  rw [failuresSince, List.rtakeWhile_concat]
  by_cases same : k = key <;> simp [Occurrence.failureOf?, failuresSince, same]

theorem length_failuresSince_le (key : RecordKey) (occurrences : List Occurrence) :
    (failuresSince key occurrences).length ≤ occurrences.length :=
  (List.length_filterMap_le ..).trans (List.rtakeWhile_suffix ..).length_le

/-- Whatever a log was told, the warnings of a key are the last runs of its failures. -/
theorem warnings_after (capacity : Nat) (occurrences : List Occurrence) (key : RecordKey) :
    (after capacity occurrences).warnings key =
      (Warning.runs (failuresSince key occurrences)).rtake (max capacity 1) := by
  induction occurrences using List.reverseRecOn with
  | nil => exact (List.rtake_nil _).symm
  | append_singleton before o ih =>
    rw [after_concat]
    cases o with
    | recovery k =>
      rw [tell, failuresSince_recovery]
      by_cases same : k = key
      · subst same
        rw [warnings_clear_self, if_pos rfl, Warning.runs_nil, List.rtake_nil]
      · rw [warnings_clear_of_ne (Ne.symm same), if_neg same, ih]
    | failure k reason message =>
      rw [tell, failuresSince_failure]
      by_cases same : k = key
      · subst same
        obtain ⟨n, bound⟩ : ∃ n, max capacity 1 = n + 1 := ⟨capacity - 1, by omega⟩
        rw [warnings_warn_self, capacity_after, ih, if_pos rfl, Warning.runs_concat, bound,
          Warning.record_rtake]
      · rw [warnings_warn_of_ne (Ne.symm same), if_neg same, List.append_nil, ih]

/-- The latest warning of a key is the last run of its failures. -/
theorem latest?_after (capacity : Nat) (occurrences : List Occurrence) (key : RecordKey) :
    (after capacity occurrences).latest? key =
      (Warning.runs (failuresSince key occurrences)).getLast? := by
  rw [latest?, warnings_after]
  obtain ⟨n, bound⟩ : ∃ n, max capacity 1 = n + 1 := ⟨capacity - 1, by omega⟩
  rw [bound]
  cases Warning.runs (failuresSince key occurrences) using List.reverseRecOn with
  | nil => rw [List.rtake_nil]
  | append_singleton before last => simp [List.rtake_concat_succ]

/-- Whatever a log was told, in fewer occurrences than 32 bits can count: the warnings of every key
are the last runs of its failures since it last recovered, as many as there is room for and one at
least, each with its length, for which 32 bits are enough; the latest warning is the last run; and
outstanding are, in key order and once each, the keys that failed since they last recovered, with
their latest warnings. -/
theorem after_keeps_runs (capacity : Nat) {occurrences : List Occurrence}
    (few : occurrences.length < UInt32.size) :
    let log := after capacity occurrences
    (∀ key, log.warnings key =
      (Warning.runs (failuresSince key occurrences)).rtake (max capacity 1)) ∧
    (∀ key, ∀ w ∈ log.warnings key, w.count < UInt32.size) ∧
    (∀ key, log.latest? key = (log.warnings key).getLast? ∧
      log.latest? key = (Warning.runs (failuresSince key occurrences)).getLast?) ∧
    RecordKey.Ascending (log.outstanding.map Prod.fst) ∧
    (∀ key w, (key, w) ∈ log.outstanding ↔ log.latest? key = some w) ∧
    (∀ key, key ∈ log.outstanding.map Prod.fst ↔ failuresSince key occurrences ≠ []) := by
  intro log
  have kept := warnings_after capacity occurrences
  have latest := latest?_after capacity occurrences
  refine ⟨kept, ?_, fun key => ⟨rfl, latest key⟩, log.ascending_outstanding,
    fun key w => mem_outstanding_iff, ?_⟩
  · intro key w mem
    rw [kept] at mem
    have short := Warning.count_le_of_mem_runs (List.mem_of_mem_drop mem)
    have told := length_failuresSince_le key occurrences
    omega
  · intro key
    rw [← not_iff_not, not_not, ← Warning.runs_eq_nil_iff, ← List.getLast?_eq_none_iff,
      ← latest key, Option.eq_none_iff_forall_not_mem, List.mem_map]
    simp only [not_exists, not_and, Option.mem_def, ← mem_outstanding_iff]
    constructor
    · intro absent w mem
      exact absent (key, w) mem rfl
    · rintro absent ⟨k, w⟩ mem rfl
      exact absent w mem

/-- Two failures of one key with another in between, of which one warning is kept, and a key that
recovers in the end. -/
theorem threeFailures_keep_run :
    let a : RecordKey := ⟨"d", "a"⟩
    let b : RecordKey := ⟨"d", "b"⟩
    let occurrences : List Occurrence := [.failure b "InvalidSpec" "no topic",
      .failure a "StoreFailed" "disk full", .failure a "InvalidSpec" "no topic", .recovery b,
      .failure a "InvalidSpec" "no topic"]
    occurrences.length < UInt32.size ∧
      (after 0 occurrences).warnings a = [⟨"InvalidSpec", "no topic", 2⟩] ∧
      Warning.runs (failuresSince a occurrences) =
        [⟨"StoreFailed", "disk full", 1⟩, ⟨"InvalidSpec", "no topic", 2⟩] ∧
      ∀ key, key ∈ (after 0 occurrences).outstanding.map Prod.fst ↔
        failuresSince key occurrences ≠ [] := by
  intro a b occurrences
  have few : occurrences.length < UInt32.size := by decide
  have ran : Warning.runs (failuresSince a occurrences) =
      [⟨"StoreFailed", "disk full", 1⟩, ⟨"InvalidSpec", "no topic", 2⟩] := by decide +kernel
  obtain ⟨kept, -, -, -, -, outstanding⟩ := after_keeps_runs 0 few
  refine ⟨few, ?_, ran, outstanding⟩
  rw [kept a, ran]
  rfl

end WarningLog

end ControlPlane
