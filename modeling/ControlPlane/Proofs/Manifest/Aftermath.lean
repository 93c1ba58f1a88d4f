import ControlPlane.Proofs.Manifest.Application

/-!
What manifests leave behind when they are applied to a store in memory with nobody else at work.
They are all applied; a record that some of them declare is left as the last of these declares it,
and keeps the rest of what it was before or else has it of the first of these; other records are
left alone; packages are announced before functions and functions before agents; and the number
that is given counts the manifests which changed the records (`Manifest.applyAll_leaves`). A
specification that differs from the declared one in the sign of a zero only is not written again
(`Manifest.zero_kept`).
-/

namespace ControlPlane

variable {κ : Type} [Address κ]

/-! ### Identities that were drawn -/

namespace UidSupply

variable {u v w : UidSupply} {uid : String}

/-- What is left of a supply once identities were drawn of it, or none. -/
structure LeftOf (v u : UidSupply) : Prop where
  text : v.text = u.text
  drawn : u.drawn ≤ v.drawn

/-- An identity was drawn of a supply by the time that another is left of it. -/
def Drew (u v : UidSupply) (uid : String) : Prop :=
  ∃ n, u.drawn ≤ n ∧ n < v.drawn ∧ uid = u.text n

theorem LeftOf.refl (u : UidSupply) : u.LeftOf u := ⟨rfl, Nat.le_refl _⟩

theorem LeftOf.trans (h : w.LeftOf v) (h' : v.LeftOf u) : w.LeftOf u :=
  ⟨h.text.trans h'.text, Nat.le_trans h'.drawn h.drawn⟩

/-- What was drawn was drawn by any later time. -/
theorem Drew.later (h : u.Drew v uid) (left : w.LeftOf v) : u.Drew w uid := by
  obtain ⟨n, start, stop, eq⟩ := h
  exact ⟨n, start, Nat.lt_of_lt_of_le stop left.drawn, eq⟩

/-- What was drawn of what was left was drawn of the whole. -/
theorem Drew.earlier (h : v.Drew w uid) (left : v.LeftOf u) : u.Drew w uid := by
  obtain ⟨n, start, stop, eq⟩ := h
  exact ⟨n, Nat.le_trans left.drawn start, stop, left.text ▸ eq⟩

theorem leftOf_identify (u : UidSupply) (uid : String) : (u.identify uid).2.LeftOf u := by
  rw [identify]
  split
  · exact ⟨rfl, Nat.le_succ _⟩
  · exact .refl u

/-- One identity is drawn for a record that comes without. -/
theorem drew_identify (u : UidSupply) (none : uid = "") :
    u.Drew (u.identify uid).2 (u.identify uid).1 := by
  rw [identify, if_pos (by simpa using none)]
  exact ⟨u.drawn, Nat.le_refl _, Nat.lt_succ_self _, rfl⟩

/-- A record keeps the identity that it comes with. -/
theorem identify_of_identified (u : UidSupply) (some : uid ≠ "") : u.identify uid = (uid, u) := by
  rw [identify, if_neg (by simpa using some)]

end UidSupply

namespace Manifest

variable {s t u : Store κ} {kind : Kind} {key : RecordKey} {m first last : Manifest}
  {ms later : List Manifest} {r : Record}

/-! ### The records that are left -/

/-- A record stands as the last of the manifests for it declares it. For the rest it is the record
that was there before, or else the one that the first of the manifests declares, under an identity
that was drawn if that has none. -/
structure Stands (before : Option Record) (drew : String → Prop) (first last : Manifest)
    (r : Record) : Prop where
  spec : r.spec = last.record.spec ∨ (r.spec == last.record.spec) = true
  labels : r.metadata.labels = last.record.metadata.labels
  owners : r.metadata.ownerReferences = (before.getD first.record).metadata.ownerReferences
  status : r.status = (before.getD first.record).status
  uid : before ≠ none ∨ first.record.metadata.uid ≠ "" →
    r.metadata.uid = (before.getD first.record).metadata.uid
  drawn : before = none → first.record.metadata.uid = "" → drew r.metadata.uid

theorem Stands.mono {before : Option Record} {drew drew' : String → Prop}
    (h : Stands before drew first last r) (more : ∀ uid, drew uid → drew' uid) :
    Stands before drew' first last r :=
  { h with drawn := fun absent unidentified => more _ (h.drawn absent unidentified) }

/-- What is left of what was left before. -/
theorem Stands.trans {before : Option Record} {drew drew' : String → Prop} {r' : Record}
    {first' last' : Manifest} (h : Stands before drew first last r)
    (h' : Stands (some r) drew' first' last' r') : Stands before drew first last' r' where
  spec := h'.spec
  labels := h'.labels
  owners := h'.owners.trans h.owners
  status := h'.status.trans h.status
  uid known := (h'.uid (.inl nofun)).trans (h.uid known)
  drawn absent unidentified := h'.uid (.inl nofun) ▸ h.drawn absent unidentified

/-- What manifests for one key leave at it, of one store in another. -/
inductive Leaves (s t : Store κ) (kind : Kind) (key : RecordKey) : List Manifest → Prop where
  | untouched (same : t.find? kind key = s.find? kind key) : Leaves s t kind key []
  | standing {ms : List Manifest} {first last : Manifest} {r : Record}
      (head : ms.head? = some first) (end' : ms.getLast? = some last)
      (found : t.find? kind key = some r)
      (stands : Stands (s.find? kind key) (s.uids.Drew t.uids) first last r) :
      Leaves s t kind key ms

/-- Manifests and then others leave what all of them leave. -/
theorem Leaves.append (h : Leaves s t kind key ms) (h' : Leaves t u kind key later)
    (left : t.uids.LeftOf s.uids) (left' : u.uids.LeftOf t.uids) :
    Leaves s u kind key (ms ++ later) := by
  cases h with
  | untouched same =>
    cases h' with
    | untouched same' => exact .untouched (same'.trans same)
    | standing head end' found stands =>
      rw [same] at stands
      exact .standing head end' found (stands.mono fun _ drew => drew.earlier left)
  | standing head end' found stands =>
    have stands := stands.mono fun _ drew => drew.later left'
    cases h' with
    | untouched same' =>
      rw [List.append_nil]
      exact .standing head end' (same'.trans found) stands
    | standing head' end' found' stands' =>
      rw [found] at stands'
      refine .standing ?_ ?_ found' (stands.trans stands')
      · simp [List.head?_append, head]
      · simp [List.getLast?_append, end']

/-! ### One manifest -/

/-- A record was written for a manifest that the store did not match. -/
structure Writes (s : Store κ) (m : Manifest) (r : Record) (w : Written κ) : Prop where
  puts : s.Puts w.store m.kind r
  there : Address.of (κ := κ) m.kind m.key = Address.of m.kind r.key
  left : w.store.uids.LeftOf s.uids
  stands : Stands (s.find? m.kind m.key) (s.uids.Drew w.store.uids) m m r
  told : ∀ a ∈ w.announced, a.kind = m.kind
  /-- The record has another version than before. -/
  fresh : (s.find? m.kind m.key).map (·.metadata.resourceVersion) ≠ some r.metadata.resourceVersion

/-- A record that is found otherwise than declared is written as declared. -/
theorem writes_of_found {current : Record} (found : s.find? m.kind m.key = some current)
    (other : ¬ ((current.spec == m.record.spec) = true ∧
      current.metadata.labels = m.record.metadata.labels)) :
    ∃ r w, (Client.apply m.kind m.record).run.runOn s = (.ok r, w) ∧ Writes s m r w := by
  have filed := Store.filed_find? found
  have own : s.find? m.kind (redeclared current m.record).key = some current :=
    (Store.find?_congr s filed.1.symm).trans found
  obtain ⟨accepted, done⟩ := Store.commit_replace_eq Record.updated (fun _ _ => rfl) own rfl
  rw [apply_runOn_of_other found other]
  refine ⟨_, _, done, Store.puts_put _ _ _ accepted, filed.1, .refl _, ?_, by simp, ?_⟩
  · rw [found]
    exact ⟨.inl rfl, rfl, rfl, rfl, fun _ => rfl, nofun⟩
  · rw [found]
    exact fun same => Store.next_version_ne _ (Option.some.inj same)

/-- A new record stands as it is declared, under the identity that the supply gives. -/
theorem Stands.of_new {uids : UidSupply} {given : String × UidSupply}
    (identified : uids.identify m.record.metadata.uid = given)
    (spec : r.spec = m.record.spec) (labels : r.metadata.labels = m.record.metadata.labels)
    (owners : r.metadata.ownerReferences = m.record.metadata.ownerReferences)
    (status : r.status = m.record.status) (uid : r.metadata.uid = given.1) :
    Stands none (uids.Drew given.2) m m r where
  spec := .inl spec
  labels := labels
  owners := owners
  status := status
  uid known := by
    rw [uid, ← identified, uids.identify_of_identified (known.resolve_left (· rfl))]
    rfl
  drawn _ unidentified := by
    rw [uid, ← identified]
    exact uids.drew_identify unidentified

/-- A record that is not found is written as declared. -/
theorem writes_of_absent (accepted : Address.refusal? κ m.key = none)
    (absent : s.find? m.kind m.key = none) :
    ∃ r w, (Client.apply m.kind m.record).run.runOn s = (.ok r, w) ∧ Writes s m r w := by
  have created := Store.answer_create_eq (s := s) accepted absent
  have left := s.uids.leftOf_identify m.record.metadata.uid
  generalize identified : s.uids.identify m.record.metadata.uid = given at created left
  have puts := (Store.puts_put (s.giving given.2) m.kind
    (m.record.admitted given.1) accepted).of_giving
  rw [apply_runOn_of_absent absent, created]
  simp only
  split
  · refine ⟨_, _, rfl, puts, rfl, left, ?_, by simp, by simp [absent]⟩
    rw [absent]
    exact .of_new identified rfl rfl rfl rfl rfl
  · obtain ⟨accepted', done⟩ := Store.commit_replace_eq Record.statusUpdated (fun _ _ => rfl)
      (r := { m.record.admitted given.1 with status := m.record.status }) puts.found rfl
    change Store.answer _ (.updateStatus m.kind _) = _ at done
    rw [done]
    have puts' := puts.again (Store.puts_put _ _ _ accepted') rfl
    refine ⟨_, _, rfl, puts', rfl, left, ?_, by simp, by simp [absent]⟩
    rw [absent]
    exact .of_new identified rfl rfl rfl rfl rfl

theorem writes_of_differs (accepted : Address.refusal? κ m.key = none) (differs : ¬ Matches s m) :
    ∃ r w, (Client.apply m.kind m.record).run.runOn s = (.ok r, w) ∧ Writes s m r w := by
  cases found : s.find? m.kind m.key with
  | none => exact writes_of_absent accepted found
  | some current => exact writes_of_found found fun same => differs ⟨current, found, same⟩

/-- What the application of one manifest comes to. -/
structure Applied (s : Store κ) (m : Manifest) (changed : Bool) (w : Written κ) : Prop where
  left : w.store.uids.LeftOf s.uids
  leaves : Leaves s w.store m.kind m.key [m]
  others : ∀ kind key, Address.of (κ := κ) kind key ≠ Address.of m.kind m.key →
    w.store.find? kind key = s.find? kind key
  told : ∀ a ∈ w.announced, a.kind = m.kind
  changed_iff : changed = true ↔ w.store.records ≠ s.records

/-- A manifest is applied wherever its key is not refused. -/
theorem applyOne_applied (s : Store κ) (accepted : Address.refusal? κ m.key = none) :
    ∃ changed w, (applyOne m).run.runOn s = (.ok changed, w) ∧ Applied s m changed w := by
  by_cases matched : Matches s m
  · obtain ⟨r, found, spec, labels⟩ := id matched
    have stands : Stands (s.find? m.kind m.key) (s.uids.Drew s.uids) m m r := by
      rw [found]
      exact ⟨.inr spec, labels, rfl, rfl, fun _ => rfl, nofun⟩
    exact ⟨_, _, applyOne_of_matches matched, .refl _, .standing rfl rfl found stands,
      fun _ _ _ => rfl, nofun, by simp⟩
  · obtain ⟨r, w, done, writes⟩ := writes_of_differs accepted matched
    have found := writes.puts.found_at writes.there
    refine ⟨true, w, ?_, writes.left, .standing rfl rfl found writes.stands,
      fun kind key ne => writes.puts.others kind key (writes.there ▸ ne), writes.told, ?_⟩
    · rw [applyOne_runOn, done]
      simp [bne_iff_ne.mpr writes.fresh]
    · refine iff_of_true rfl fun same => writes.fresh ?_
      rw [Store.find?, ← same, ← Store.find?, found]
      rfl

/-! ### Several manifests -/

/-- The manifests for a key, in their order. -/
def declarations (kind : Kind) (key : RecordKey) (ms : List Manifest) : List Manifest :=
  ms.filter fun m => m.kind = kind ∧ m.key = key

open scoped Classical in
/-- How many manifests change the records of a store, if they are applied one after another. -/
noncomputable def changes : Store κ → List Manifest → Nat
  | _, [] => 0
  | s, m :: rest =>
    let next := ((applyOne m).run.runOn s).2.store
    changes next rest + if next.records = s.records then 0 else 1

theorem applyEach_cons {w₁ w₂ : Written κ} {changed : Bool} {n : Nat}
    (first : (applyOne m).run.runOn s = (.ok changed, w₁))
    (others : (applyEach ms).run.runOn w₁.store = (.ok n, w₂)) :
    (applyEach (m :: ms)).run.runOn s = (.ok (n + changed.toNat), w₂.after w₁.announced) := by
  rw [applyEach, Attempt.runOn_bind_eq_ok_iff]
  refine ⟨changed, w₁, w₂, first, ?_, rfl⟩
  rw [Attempt.runOn_bind_eq_ok_iff]
  exact ⟨n, w₂, ⟨w₂.store, []⟩, others, rfl, by simp [Written.after]⟩

/-- What one manifest leaves at each key of a store in memory. -/
theorem Applied.leaves_at {s : Store RecordId} {changed : Bool} {w : Written RecordId}
    (h : Applied s m changed w) (kind : Kind) (key : RecordKey) :
    Leaves s w.store kind key (declarations kind key [m]) := by
  by_cases here : m.kind = kind ∧ m.key = key
  · have own : declarations kind key [m] = [m] := by simp [declarations, here]
    rw [own]
    obtain ⟨rfl, rfl⟩ := here
    exact h.leaves
  · have none : declarations kind key [m] = [] := by simp [declarations, here]
    rw [none]
    refine .untouched (h.others kind key fun eq => here ?_)
    obtain ⟨rfl, rfl⟩ := RecordId.mk.inj eq
    exact ⟨rfl, rfl⟩

/-- What the application of manifests one after another comes to. -/
structure AppliedEach (s : Store RecordId) (ms : List Manifest) (w : Written RecordId) : Prop where
  left : w.store.uids.LeftOf s.uids
  leaves : ∀ kind key, Leaves s w.store kind key (declarations kind key ms)
  told : ∀ a ∈ w.announced, ∃ m ∈ ms, a.kind = m.kind
  inTurn : (ms.Pairwise fun a b => rank a.kind ≤ rank b.kind) →
    w.announced.Pairwise fun a b => rank a.kind ≤ rank b.kind

theorem AppliedEach.nil (s : Store RecordId) : AppliedEach s [] ⟨s, []⟩ :=
  ⟨.refl _, fun _ _ => .untouched rfl, nofun, fun _ => .nil⟩

theorem AppliedEach.cons {s : Store RecordId} {changed : Bool} {w₁ w₂ : Written RecordId}
    (first : Applied s m changed w₁) (others : AppliedEach w₁.store ms w₂) :
    AppliedEach s (m :: ms) (w₂.after w₁.announced) where
  left := others.left.trans first.left
  leaves kind key := by
    have split : declarations kind key (m :: ms) =
      declarations kind key [m] ++ declarations kind key ms := List.filter_append [m] ms
    rw [split]
    exact (first.leaves_at kind key).append (others.leaves kind key) first.left others.left
  told a mem := by
    rcases List.mem_append.mp mem with now | after
    · exact ⟨m, List.mem_cons_self, first.told a now⟩
    · obtain ⟨m', mem', kind⟩ := others.told a after
      exact ⟨m', List.mem_cons_of_mem _ mem', kind⟩
  inTurn ordered := by
    obtain ⟨before, ordered⟩ := List.pairwise_cons.mp ordered
    refine List.pairwise_append.mpr ⟨?_, others.inTurn ordered, ?_⟩
    · refine List.pairwise_of_forall_mem_list fun a mem b mem' => ?_
      exact Nat.le_of_eq (congrArg rank ((first.told a mem).trans (first.told b mem').symm))
    · intro a mem b mem'
      obtain ⟨m', mem', kind⟩ := others.told b mem'
      rw [first.told a mem, kind]
      exact before m' mem'

/-- Manifests are all applied to a store in memory, and it is told how many changed the records. -/
theorem applyEach_applied (s : Store RecordId) (ms : List Manifest) :
    ∃ w, (applyEach ms).run.runOn s = (.ok (changes s ms), w) ∧ AppliedEach s ms w := by
  induction ms generalizing s with
  | nil => exact ⟨_, rfl, .nil s⟩
  | cons m rest ih =>
    obtain ⟨changed, w₁, one, first⟩ := applyOne_applied s (m := m) rfl
    obtain ⟨w₂, each, others⟩ := ih w₁.store
    refine ⟨_, ?_, .cons first others⟩
    have count : changes s (m :: rest) = changes w₁.store rest + changed.toNat := by
      rw [changes, one]
      by_cases same : w₁.store.records = s.records
      · have unchanged : changed = false := by simpa [same] using first.changed_iff
        simp [same, unchanged]
      · simp [same, first.changed_iff.mpr same]
    rw [count]
    exact applyEach_cons one each

/-! ### The order of application -/

theorem inOrder_ordered (ms : List Manifest) :
    (inOrder ms).Pairwise fun a b => rank a.kind ≤ rank b.kind := by
  have ordered : (inOrder ms).Pairwise fun a b => decide (rank a.kind ≤ rank b.kind) = true :=
    List.pairwise_mergeSort (by simpa using fun a b c => Nat.le_trans)
      (by simpa using fun a b => Nat.le_total ..) ms
  exact ordered.imp of_decide_eq_true

/-- The manifests for one key are applied in their order. -/
theorem declarations_inOrder (kind : Kind) (key : RecordKey) (ms : List Manifest) :
    declarations kind key (inOrder ms) = declarations kind key ms := by
  have alike : (declarations kind key ms).Pairwise fun a b =>
      decide (rank a.kind ≤ rank b.kind) = true := by
    refine List.pairwise_of_forall_mem_list fun a mem b mem' => decide_eq_true ?_
    have isKind := (of_decide_eq_true (List.mem_filter.mp mem).2).1
    have isKind' := (of_decide_eq_true (List.mem_filter.mp mem').2).1
    exact Nat.le_of_eq (congrArg rank (isKind.trans isKind'.symm))
  -- The sort is stable: what stands in order already is found in the sorted list as it stood.
  have kept : (declarations kind key ms).Sublist (inOrder ms) :=
    List.sublist_mergeSort (by simpa using fun a b c => Nat.le_trans)
      (by simpa using fun a b => Nat.le_total ..) alike List.filter_sublist
  have again : declarations kind key (declarations kind key ms) = declarations kind key ms := by
    simp [declarations, List.filter_filter]
  have sub : (declarations kind key ms).Sublist (declarations kind key (inOrder ms)) :=
    again ▸ kept.filter _
  have length : (declarations kind key (inOrder ms)).length = (declarations kind key ms).length :=
    ((List.mergeSort_perm ms _).filter _).length_eq
  exact (sub.eq_of_length length.symm).symm

/-- Whatever the manifests and the store in memory, all manifests are applied, and the number that
is given counts those which changed the records. The records that are declared stand as the last
manifest for each declares it, all others are as they were, and what is announced is announced of
packages first, then of functions and then of agents. -/
theorem applyAll_leaves (s : Store RecordId) (ms : List Manifest) :
    ∃ w, (applyAll ms).run.runOn s = (.ok (changes s (inOrder ms)), w) ∧
      (∀ kind key, Leaves s w.store kind key (declarations kind key ms)) ∧
      w.announced.Pairwise fun a b => rank a.kind ≤ rank b.kind := by
  obtain ⟨w, done, applied⟩ := applyEach_applied s (inOrder ms)
  refine ⟨w, done, fun kind key => ?_, applied.inTurn (inOrder_ordered ms)⟩
  rw [← declarations_inOrder]
  exact applied.leaves kind key

/-! ### A zero with a sign -/

/-- A document that declares a function with a threshold in its configuration. -/
def thresholdDocument (threshold : String) : String :=
  "kind: Function\nmetadata:\n  name: f\nspec:\n  package: p\n  module: m\n" ++
    "  config:\n    threshold: " ++ threshold ++ "\n"

/-- The threshold in the configuration of a function, as it is printed. -/
def threshold? (spec : Json) : Option String :=
  ((spec.field? "config").bind (·.field? "threshold")).map Json.compact

/-- Of two documents for a function, the last of which declares the negative zero for a threshold,
the first is written and the last is not. -/
theorem zero_kept : ∃ ms w r last,
    ofText "f.yaml" (thresholdDocument "0.0" ++ "---\n" ++ thresholdDocument "-0.0") = .ok ms ∧
      (applyAll ms).run.runOn noRecords = (.ok 1, w) ∧
      (declarations .function ⟨"default", "f"⟩ ms).getLast? = some last ∧
      w.store.find? .function ⟨"default", "f"⟩ = some r ∧ r.spec ≠ last.record.spec := by
  have facts : (ofText "f.yaml" (thresholdDocument "0.0" ++ "---\n" ++
      thresholdDocument "-0.0")).toOption.map (fun ms =>
        let ran := (applyEach ms).run.runOn noRecords
        (decide (ms.Pairwise fun a b => rank a.kind ≤ rank b.kind), ran.1.toOption,
          (declarations .function ⟨"default", "f"⟩ ms).getLast?.bind (threshold? ·.record.spec),
          (ran.2.store.find? .function ⟨"default", "f"⟩).bind (threshold? ·.spec))) =
      some (true, some 1, some "-0.0", some "0.0") := by
    decide +kernel
  obtain ⟨ms, read, facts⟩ := Outcome.exists_of_toOption_map facts
  simp only [Prod.mk.injEq, decide_eq_true_eq] at facts
  obtain ⟨ordered, count, declared, stored⟩ := facts
  rw [← applyAll_of_ordered ordered] at count stored
  obtain ⟨last, isLast, negative⟩ := Option.bind_eq_some_iff.mp declared
  obtain ⟨r, found, zero⟩ := Option.bind_eq_some_iff.mp stored
  refine ⟨ms, _, r, last, read, Prod.ext (Outcome.toOption_eq_some_iff.mp count) rfl, isLast, found,
    fun same => ?_⟩
  rw [same, negative] at zero
  exact absurd zero (by decide)

end Manifest

end ControlPlane
