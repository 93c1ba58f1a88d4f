import ControlPlane.Manifest.Application
import ControlPlane.Proofs.Manifest.Declared
import ControlPlane.Proofs.Store.Typed
import ControlPlane.Proofs.Store.Versions

/-!
The application of manifests to a store with nobody else at work. A manifest that a store matches is
passed over (`applyOne_of_matches`); one that it does not match is written, or fails
(`applyOne_eq_ok`). So applying manifests again writes nothing exactly if no two of them declare
different records at one address (`applyAll_again_iff`).
-/

namespace ControlPlane

variable {κ : Type} [Address κ]

namespace Manifest

variable {s : Store κ} {m m' : Manifest} {ms : List Manifest} {w : Written κ}

/-- Two manifests declare the same specification and the same labels, if they are at one address. -/
def Agrees (κ : Type) [Address κ] (m m' : Manifest) : Prop :=
  Address.of (κ := κ) m.kind m.key = Address.of m'.kind m'.key →
    (m.record.spec == m'.record.spec) = true ∧
      m.record.metadata.labels = m'.record.metadata.labels

/-- The store has the record that a manifest declares, as far as a declaration goes. -/
def Matches (s : Store κ) (m : Manifest) : Prop :=
  ∃ r, s.find? m.kind m.key = some r ∧ (r.spec == m.record.spec) = true ∧
    r.metadata.labels = m.record.metadata.labels

theorem Agrees.symm (h : Agrees κ m m') : Agrees κ m' m := by
  intro there
  obtain ⟨spec, labels⟩ := h there.symm
  exact ⟨Json.same_symm spec, labels.symm⟩

instance : Std.Symm (Agrees κ) := ⟨fun _ _ => Agrees.symm⟩

/-- Manifests that one store matches agree. -/
theorem Matches.agrees (h : Matches s m) (h' : Matches s m') : Agrees κ m m' := by
  intro there
  obtain ⟨r, found, spec, labels⟩ := h
  obtain ⟨r', found', spec', labels'⟩ := h'
  rw [Store.find?, there, ← Store.find?, found'] at found
  obtain rfl := Option.some.inj found
  exact ⟨Json.same_trans (Json.same_symm spec) spec', labels.symm.trans labels'⟩

/-- A store that matches a manifest matches all that agree with it at its address. -/
theorem Matches.of_agrees (h : Matches s m) (agrees : Agrees κ m m')
    (there : Address.of (κ := κ) m.kind m.key = Address.of m'.kind m'.key) : Matches s m' := by
  obtain ⟨r, found, spec, labels⟩ := h
  obtain ⟨spec', labels'⟩ := agrees there
  refine ⟨r, ?_, Json.same_trans spec spec', labels.trans labels'⟩
  rw [Store.find?, ← there]
  exact found

/-! ### One record -/

/-- What applying a record comes to: it is looked up, and written unless it is as declared. -/
theorem apply_run (kind : Kind) (declared : Record) :
    (Client.apply kind declared).run = .call (.get kind declared.key) fun
      | .ok current =>
        if current.spec == declared.spec && current.metadata.labels == declared.metadata.labels then
          .done (.ok current)
        else .call (.update kind { current with
            spec := declared.spec
            metadata := { current.metadata with labels := declared.metadata.labels } }) .done
      | .error e =>
        if e.isNotFound then
          .call (.create kind declared) fun
            | .ok created =>
              if declared.status.isNull then .done (.ok created)
              else .call (.updateStatus kind { created with status := declared.status }) .done
            | .error e => .done (.error e)
        else .done (.error e) := by
  rw [Client.apply, Attempt.outcome_bind_run]
  congr 1
  funext o
  cases o with
  | ok current =>
    simp only
    split <;> rfl
  | error e =>
    simp only
    split
    · rw [Attempt.answer_bind_run]
      congr 1
      funext o
      cases o with
      | ok created =>
        simp only
        split <;> rfl
      | error e => rfl
    · rfl

/-- A stored record with the specification and the labels of a declared one. -/
def redeclared (current declared : Record) : Record :=
  { current with
    spec := declared.spec
    metadata := { current.metadata with labels := declared.metadata.labels } }

theorem declared_iff {current declared : Record} :
    (current.spec == declared.spec && current.metadata.labels == declared.metadata.labels) = true ↔
      (current.spec == declared.spec) = true ∧
        current.metadata.labels = declared.metadata.labels := by
  rw [Bool.and_eq_true, Dictionary.beq_eq_true_iff]

theorem answer_get_of_found {kind : Kind} {key : RecordKey} {current : Record}
    (found : s.find? kind key = some current) :
    s.answer (.get kind key) = (.ok current, ⟨s, []⟩) := by
  rw [Store.answer_get, found]
  rfl

theorem answer_get_of_absent {kind : Kind} {key : RecordKey} (absent : s.find? kind key = none) :
    s.answer (.get kind key) = (.error (.notFound kind key), ⟨s, []⟩) := by
  rw [Store.answer_get, absent]
  rfl

/-- A record that is found as declared is left alone. -/
theorem apply_runOn_of_same {kind : Kind} {declared current : Record}
    (found : s.find? kind declared.key = some current)
    (same : (current.spec == declared.spec) = true ∧
      current.metadata.labels = declared.metadata.labels) :
    (Client.apply kind declared).run.runOn s = (.ok current, ⟨s, []⟩) := by
  rw [apply_run, Routine.runOn_call, answer_get_of_found found]
  simp only [if_pos (declared_iff.mpr same), Routine.runOn_done, Written.after_nil]

/-- A record that is found otherwise is updated. -/
theorem apply_runOn_of_other {kind : Kind} {declared current : Record}
    (found : s.find? kind declared.key = some current)
    (other : ¬ ((current.spec == declared.spec) = true ∧
      current.metadata.labels = declared.metadata.labels)) :
    (Client.apply kind declared).run.runOn s =
      s.answer (.update kind (redeclared current declared)) := by
  rw [apply_run, Routine.runOn_call, answer_get_of_found found]
  simp only [if_neg (mt declared_iff.mp other), Written.after_nil]
  exact Routine.runOn_call_done (.update kind (redeclared current declared)) s

/-- A record that is not found is created, and its status written if it has one. -/
theorem apply_runOn_of_absent {kind : Kind} {declared : Record}
    (absent : s.find? kind declared.key = none) :
    (Client.apply kind declared).run.runOn s =
      match s.answer (.create kind declared) with
      | (.ok created, w) =>
        if declared.status.isNull then (.ok created, w)
        else
          let (o, w') := w.store.answer
            (.updateStatus kind { created with status := declared.status })
          (o, w'.after w.announced)
      | (.error e, w) => (.error e, w) := by
  rw [apply_run, Routine.runOn_call, answer_get_of_absent absent]
  simp only [StoreError.isNotFound, if_true, Written.after_nil]
  rw [Routine.runOn_call]
  obtain ⟨o, w⟩ := s.answer (.create kind declared)
  cases o with
  | error e => simp [Written.after]
  | ok created =>
    simp only
    split
    · simp [Written.after]
    · rw [Routine.runOn_call_done]

/-! ### One manifest -/

/-- What one application does to a store: the record that it leaves is found as declared, and other
addresses are left alone. -/
structure Established (s : Store κ) (m : Manifest) (s' : Store κ) : Prop where
  found : ∃ r, s'.find? m.kind m.key = some r ∧ r.spec = m.record.spec ∧
    r.metadata.labels = m.record.metadata.labels
  others : ∀ kind key, Address.of (κ := κ) kind key ≠ Address.of m.kind m.key →
    s'.find? kind key = s.find? kind key

/-- A record that is put as declared establishes the manifest. -/
theorem established_of_puts {s' : Store κ} {r : Record} (puts : s.Puts s' m.kind r)
    (there : Address.of (κ := κ) m.kind m.key = Address.of m.kind r.key)
    (spec : r.spec = m.record.spec) (labels : r.metadata.labels = m.record.metadata.labels) :
    Established s m s' where
  found := ⟨r, puts.found_at there, spec, labels⟩
  others kind key ne := puts.others kind key (there ▸ ne)

theorem established_of_update {applied current : Record}
    (found : s.find? m.kind m.key = some current)
    (done : s.answer (.update m.kind (redeclared current m.record)) = (.ok applied, w)) :
    Established s m w.store ∧
      applied.metadata.resourceVersion = current.metadata.resourceVersion + 1 := by
  rcases s.answer_update m.kind (redeclared current m.record) with
    ⟨e, failed⟩ | ⟨stored, s', updated, there, -, puts, -⟩
  · rw [failed] at done
    cases (Prod.mk.inj done).1
  · have filed := Store.filed_find? found
    obtain rfl : stored = current := by
      have own : s.find? m.kind current.key = some stored := there
      rw [Store.find?_congr s filed.1.symm, found] at own
      exact (Option.some.inj own).symm
    rw [updated] at done
    obtain ⟨written, rfl⟩ := Prod.mk.inj done
    obtain rfl := Except.ok.inj written
    exact ⟨established_of_puts puts filed.1 rfl rfl, rfl⟩

theorem established_of_creation {applied : Record} (absent : s.find? m.kind m.key = none)
    (done : (Client.apply m.kind m.record).run.runOn s = (.ok applied, w)) :
    Established s m w.store := by
  rw [apply_runOn_of_absent absent] at done
  rcases s.answer_create m.kind m.record with ⟨e, uids, failed, -⟩ | ⟨uid, s', created, -, puts, -⟩
  · rw [failed] at done
    cases (Prod.mk.inj done).1
  · rw [created] at done
    simp only at done
    split at done
    · obtain ⟨-, rfl⟩ := Prod.mk.inj done
      exact established_of_puts puts rfl rfl rfl
    · rcases s'.answer_updateStatus m.kind { m.record.admitted uid with status := m.record.status }
        with ⟨e, failed⟩ | ⟨stored, s'', updated, there, -, puts', -⟩
      · rw [failed] at done
        cases (Prod.mk.inj done).1
      · obtain rfl : stored = m.record.admitted uid :=
          (Option.some.inj (puts.found.symm.trans there)).symm
        rw [updated] at done
        obtain ⟨-, rfl⟩ := Prod.mk.inj done
        refine established_of_puts ⟨puts'.found, fun kind key ne => ?_⟩ rfl rfl rfl
        exact (puts'.others kind key ne).trans (puts.others kind key ne)

theorem applyOne_run (m : Manifest) :
    (applyOne m).run = .call (.get m.kind m.key) fun before =>
      (Client.apply m.kind m.record).run.bind fun
        | .ok applied => .done (.ok
            (before.toOption.map (·.metadata.resourceVersion) !=
              some applied.metadata.resourceVersion))
        | .error e => .done (.error e) := by
  rw [applyOne, Attempt.outcome_bind_run]
  congr 1
  funext before
  rw [Attempt.bind_run]
  congr 1
  funext o
  cases o <;> rfl

/-- A manifest is applied as its record is; a record that has another version then was written. -/
theorem applyOne_runOn (s : Store κ) (m : Manifest) :
    (applyOne m).run.runOn s =
      match (Client.apply m.kind m.record).run.runOn s with
      | (.ok applied, w) =>
        (.ok ((s.find? m.kind m.key).map (·.metadata.resourceVersion) !=
          some applied.metadata.resourceVersion), w)
      | (.error e, w) => (.error e, w) := by
  have before : (s.answer (.get m.kind m.key)).1.toOption = s.find? m.kind m.key := by
    rw [Store.answer_get]
    cases s.find? m.kind m.key <;> rfl
  rw [applyOne_run, Routine.runOn_call, Routine.runOn_bind, Store.answer_get]
  rw [Store.answer_get] at before
  simp only [before]
  obtain ⟨o, w⟩ := (Client.apply m.kind m.record).run.runOn s
  cases o <;> simp [Written.after]

/-- A manifest that the store matches is passed over. -/
theorem applyOne_of_matches (h : Matches s m) :
    (applyOne m).run.runOn s = (.ok false, ⟨s, []⟩) := by
  obtain ⟨r, found, same⟩ := h
  rw [applyOne_runOn, apply_runOn_of_same found same, found]
  simp

/-- A manifest that the store does not match is written, or fails. -/
theorem applyOne_eq_ok {b : Bool} (differs : ¬ Matches s m)
    (done : (applyOne m).run.runOn s = (.ok b, w)) : b = true ∧ Established s m w.store := by
  rw [applyOne_runOn] at done
  split at done
  · rename_i applied w' ran
    obtain ⟨written, rfl⟩ := Prod.mk.inj done
    obtain rfl := Except.ok.inj written
    cases found : s.find? m.kind m.key with
    | some current =>
      rw [apply_runOn_of_other found fun same => differs ⟨current, found, same⟩] at ran
      obtain ⟨established, version⟩ := established_of_update found ran
      exact ⟨by simp [version], established⟩
    | none => exact ⟨rfl, established_of_creation found ran⟩
  · cases (Prod.mk.inj done).1

/-- Whether a manifest is written tells whether the store does not match it. -/
theorem applyOne_cases {b : Bool} (done : (applyOne m).run.runOn s = (.ok b, w)) :
    (Matches s m ∧ b = false ∧ w = ⟨s, []⟩) ∨ (b = true ∧ Established s m w.store) := by
  by_cases h : Matches s m
  · rw [applyOne_of_matches h] at done
    obtain ⟨written, rfl⟩ := Prod.mk.inj done
    exact .inl ⟨h, (Except.ok.inj written).symm, rfl⟩
  · exact .inr (applyOne_eq_ok h done)

/-- What a store matches it still matches after a manifest that agrees with it. -/
theorem Matches.established {s' : Store κ} (h : Matches s m') (agrees : Agrees κ m m')
    (same : (m.record.spec == m.record.spec) = true) (established : Established s m s') :
    Matches s' m' := by
  obtain ⟨r, found, spec, labels⟩ := established.found
  by_cases there : Address.of (κ := κ) m.kind m.key = Address.of m'.kind m'.key
  · have own : Matches s' m := ⟨r, found, spec ▸ same, labels⟩
    exact own.of_agrees agrees there
  · obtain ⟨r', found', content⟩ := h
    exact ⟨r', (established.others _ _ (Ne.symm there)).trans found', content⟩

/-! ### Several manifests -/

/-- Manifests that the store matches are passed over. -/
theorem applyEach_of_matches (h : ∀ m ∈ ms, Matches s m) :
    (applyEach ms).run.runOn s = (.ok 0, ⟨s, []⟩) := by
  induction ms with
  | nil => rfl
  | cons m rest ih =>
    obtain ⟨first, others⟩ := List.forall_mem_cons.mp h
    rw [applyEach, Attempt.runOn_bind_eq_ok_iff]
    refine ⟨false, _, ⟨s, []⟩, applyOne_of_matches first, ?_, rfl⟩
    rw [Attempt.runOn_bind_eq_ok_iff]
    exact ⟨0, _, ⟨s, []⟩, ih others, rfl, rfl⟩

/-- What an application of several manifests that succeeded went through. -/
theorem applyEach_cons_eq_ok {n : Nat} (done : (applyEach (m :: ms)).run.runOn s = (.ok n, w)) :
    ∃ b w₁ n₂ w₂, (applyOne m).run.runOn s = (.ok b, w₁) ∧
      (applyEach ms).run.runOn w₁.store = (.ok n₂, w₂) ∧ n = n₂ + b.toNat ∧
      w.store = w₂.store := by
  rw [applyEach, Attempt.runOn_bind_eq_ok_iff] at done
  obtain ⟨b, w₁, w', first, done, rfl⟩ := done
  rw [Attempt.runOn_bind_eq_ok_iff] at done
  obtain ⟨n₂, w₂, w₃, rest, done, rfl⟩ := done
  obtain ⟨count, rfl⟩ := Prod.mk.inj done
  exact ⟨b, w₁, n₂, w₂, first, rest, (Except.ok.inj count).symm, rfl⟩

/-- If no manifest was written, the store matches them all. -/
theorem matches_of_applyEach (done : (applyEach ms).run.runOn s = (.ok 0, w)) :
    ∀ m ∈ ms, Matches s m := by
  induction ms generalizing w with
  | nil => simp
  | cons m rest ih =>
    obtain ⟨b, w₁, n, w₂, first, others, count, -⟩ := applyEach_cons_eq_ok done
    rcases applyOne_cases first with ⟨h, -, rfl⟩ | ⟨rfl, -⟩
    · obtain rfl : n = 0 := by omega
      exact List.forall_mem_cons.mpr ⟨h, ih others⟩
    · simp at count

/-- After manifests were applied, the store matches them, and still matches what it matched before,
if they all agree. -/
theorem Matches.applied {n : Nat} {known : List Manifest}
    (agree : ∀ m ∈ known ++ ms, ∀ m' ∈ known ++ ms, Agrees κ m m')
    (same : ∀ m ∈ ms, (m.record.spec == m.record.spec) = true)
    (before : ∀ m ∈ known, Matches s m) (done : (applyEach ms).run.runOn s = (.ok n, w)) :
    ∀ m ∈ known ++ ms, Matches w.store m := by
  induction ms generalizing s n w known with
  | nil =>
    obtain ⟨-, rfl⟩ := Prod.mk.inj done
    simpa using before
  | cons m rest ih =>
    obtain ⟨b, w₁, n₂, w₂, first, others, -, store⟩ := applyEach_cons_eq_ok done
    have mem : m ∈ known ++ m :: rest := List.mem_append_right _ List.mem_cons_self
    have split : known ++ m :: rest = (known ++ [m]) ++ rest := by simp
    have own := same m List.mem_cons_self
    have next : ∀ m' ∈ known ++ [m], Matches w₁.store m' := by
      rcases applyOne_cases first with ⟨h, -, rfl⟩ | ⟨-, established⟩
      · simpa [or_imp, forall_and] using ⟨before, h⟩
      · have now : Matches w₁.store m := by
          obtain ⟨r, found, spec, labels⟩ := established.found
          exact ⟨r, found, spec ▸ own, labels⟩
        intro m' mem'
        rcases List.mem_append.mp mem' with old | new
        · exact (before m' old).established
            (agree m mem m' (List.mem_append_left _ old)) own established
        · rwa [List.mem_singleton.mp new]
    rw [split, store]
    rw [split] at agree
    exact ih agree (fun m' mem' => same m' (List.mem_cons_of_mem _ mem')) next others

/-- Applying declared manifests again, with nothing else in between, writes nothing and announces
nothing exactly if no two of them declare different records at one address. -/
theorem applyAll_again_iff {n : Nat} (declared : Declared ms)
    (done : (applyAll ms).run.runOn s = (.ok n, w)) :
    (applyAll ms).run.runOn w.store = (.ok 0, ⟨w.store, []⟩) ↔ ms.Pairwise (Agrees κ) := by
  have ordered : (inOrder ms).Perm ms := List.mergeSort_perm ..
  have reflexive : ∀ m ∈ ms, Agrees κ m m := fun m mem _ => ⟨declared.spec_same mem, rfl⟩
  constructor
  · intro again
    have matched := matches_of_applyEach again
    refine List.pairwise_of_forall_mem_list fun m mem m' mem' => ?_
    exact (matched m (ordered.mem_iff.mpr mem)).agrees (matched m' (ordered.mem_iff.mpr mem'))
  · intro agree
    have all := agree.forall_of_forall reflexive
    have agree : ∀ m ∈ [] ++ inOrder ms, ∀ m' ∈ [] ++ inOrder ms, Agrees κ m m' :=
      fun m mem m' mem' => all (ordered.mem_iff.mp mem) (ordered.mem_iff.mp mem')
    have same : ∀ m ∈ inOrder ms, (m.record.spec == m.record.spec) = true :=
      fun m mem => declared.spec_same (ordered.mem_iff.mp mem)
    exact applyEach_of_matches (Matches.applied agree same nofun done)

instance [DecidableEq κ] (m m' : Manifest) : Decidable (Agrees κ m m') :=
  inferInstanceAs (Decidable (_ → _ ∧ _))

/-- A text of two documents that declare one package with these descriptions. -/
def packageTwice (first second : String) : String :=
  "kind: Package\nmetadata: \x7bname: p\x7d\nspec: \x7bdescription: " ++ first ++
    "\x7d\n---\nkind: Package\nmetadata: \x7bname: p\x7d\nspec: \x7bdescription: " ++ second ++
    "\x7d\n"

/-- A store without records, whose identities are all alike. -/
def noRecords : Store RecordId := .empty ⟨fun _ => "u", 0⟩

/-- Manifests that are in order are applied as they stand. -/
theorem applyAll_of_ordered (h : ms.Pairwise fun a b => rank a.kind ≤ rank b.kind) :
    applyAll ms = applyEach ms := by
  rw [applyAll, inOrder, List.mergeSort_of_pairwise (by simpa using h)]

theorem applyAll_again_of_equal_documents : ∃ ms w,
    ofText "p.yaml" (packageTwice "x" "x") = .ok ms ∧
      (applyAll ms).run.runOn noRecords = (.ok 1, w) ∧
      (applyAll ms).run.runOn w.store = (.ok 0, ⟨w.store, []⟩) := by
  have facts : (ofText "p.yaml" (packageTwice "x" "x")).toOption.map (fun ms =>
      (decide (ms.Pairwise fun a b => rank a.kind ≤ rank b.kind),
        decide (ms.Pairwise (Agrees RecordId)),
        ((applyEach ms).run.runOn noRecords).1.toOption)) = some (true, true, some 1) := by
    decide +kernel
  obtain ⟨ms, read, facts⟩ := Outcome.exists_of_toOption_map facts
  simp only [Prod.mk.injEq, decide_eq_true_eq] at facts
  obtain ⟨ordered, agree, applied⟩ := facts
  rw [← applyAll_of_ordered ordered] at applied
  have done : (applyAll ms).run.runOn noRecords = (.ok 1, ((applyAll ms).run.runOn noRecords).2) :=
    Prod.ext (Outcome.toOption_eq_some_iff.mp applied) rfl
  exact ⟨ms, _, read, done, (applyAll_again_iff (.ofText read) done).mpr agree⟩

/-- Documents that declare one package differently overwrite each other every time they are
applied. -/
theorem applyAll_again_of_different_documents : ∃ ms w,
    ofText "p.yaml" (packageTwice "x" "y") = .ok ms ∧
      (applyAll ms).run.runOn noRecords = (.ok 2, w) ∧
      ((applyAll ms).run.runOn w.store).1 = .ok 2 ∧
      ((applyAll ms).run.runOn w.store).2.announced.map (·.record.metadata.resourceVersion) =
        [3, 4] := by
  have facts : (ofText "p.yaml" (packageTwice "x" "y")).toOption.map (fun ms =>
      let first := (applyEach ms).run.runOn noRecords
      let again := (applyEach ms).run.runOn first.2.store
      (decide (ms.Pairwise fun a b => rank a.kind ≤ rank b.kind), first.1.toOption,
        again.1.toOption, again.2.announced.map (·.record.metadata.resourceVersion))) =
      some (true, some 2, some 2, [3, 4]) := by
    decide +kernel
  obtain ⟨ms, read, facts⟩ := Outcome.exists_of_toOption_map facts
  simp only [Prod.mk.injEq, decide_eq_true_eq] at facts
  obtain ⟨ordered, first, again, announced⟩ := facts
  rw [← applyAll_of_ordered ordered] at first again announced
  have first := Outcome.toOption_eq_some_iff.mp first
  exact ⟨ms, _, read, Prod.ext first rfl, Outcome.toOption_eq_some_iff.mp again, announced⟩

end Manifest

end ControlPlane
