import ControlPlane.Proofs.Record.Faithful
import ControlPlane.Proofs.Store.Calls
import ControlPlane.Store.Saved

/-!
Stores kept as values. Reading back what was kept of a store gives the store, whatever its addresses
are (`Store.ofJson?_toJson`): every record is read back, and records put in kind by kind make up the
same dictionary in the end.
-/

namespace ControlPlane.Store

variable {κ : Type} [Address κ] {s t : Store κ} {kind : Kind}

/-! ### Records put in -/

/-- The entries of the records of a kind. -/
def entriesOf (s : Store κ) (kind : Kind) : List (κ × Record) :=
  s.records.entries.filter fun e => Address.kind e.1 == kind

/-- Every entry belongs to the kind of its address. -/
theorem entriesOf_perm (s : Store κ) : (Kind.all.flatMap s.entriesOf).Perm s.records.entries := by
  simp only [Kind.all, List.flatMap_cons, List.flatMap_nil, List.append_nil, entriesOf]
  induction s.records.entries with
  | nil => exact .refl _
  | cons e rest ih =>
    cases kind : Address.kind e.1 with
    | agent => simpa [kind] using ih
    | function => simpa [kind] using List.perm_middle.trans (ih.cons e)
    | package =>
      rw [← List.append_assoc] at ih ⊢
      simpa only [kind, List.filter_cons, beq_self_eq_true, if_true, reduceCtorEq, beq_iff_eq,
        if_false] using List.perm_middle.trans (ih.cons e)

theorem select_eq (s : Store κ) (kind : Kind) :
    s.select kind none = (s.entriesOf kind).map Prod.snd := by
  simp [select, entriesOf]

/-- An entry of a kind is the record at the address of its key, which is not refused. -/
theorem filed_of_mem_entriesOf {e : κ × Record} (mem : e ∈ s.entriesOf kind) :
    e.1 = Address.of kind e.2.key ∧ Address.refusal? κ e.2.key = none := by
  obtain ⟨mem, isKind⟩ := List.mem_filter.mp mem
  have filed := s.filed e.1 e.2 (Dictionary.mem_entries_iff.mp mem)
  rwa [beq_iff_eq.mp isKind] at filed

/-- The records of a kind that were written are read and put one after another. -/
theorem putAll_written {entries : List (κ × Record)}
    (filed : ∀ e ∈ entries, e.1 = Address.of kind e.2.key ∧ Address.refusal? κ e.2.key = none)
    (t : Store κ) :
    ∃ t', t.putAll kind ((entries.map Prod.snd).map (Record.form.write .byKey)) = some t' ∧
      t'.records.entries =
        entries.foldl (fun acc e => Entries.insert e.1 e.2 acc) t.records.entries ∧
      t'.uids = t.uids := by
  induction entries generalizing t with
  | nil => exact ⟨t, rfl, rfl, rfl⟩
  | cons e rest ih =>
    obtain ⟨there, accepted⟩ := filed e List.mem_cons_self
    have read : t.putRead? kind (Record.form.write .byKey e.2) = some (t.put kind e.2 accepted) := by
      have back : Record.form.read (Record.form.write .byKey e.2) = .ok e.2 :=
        Record.lawful.faithful .byKey e.2
      simp [putRead?, back, accepted, Except.toOption]
    obtain ⟨t', done, entries, uids⟩ :=
      ih (fun e mem => filed e (List.mem_cons_of_mem _ mem)) (t.put kind e.2 accepted)
    refine ⟨t', ?_, ?_, uids⟩
    · rw [List.map_cons, List.map_cons, putAll, List.foldlM_cons, read]
      exact done
    · rw [entries, List.foldl_cons, there]
      rfl

/-! ### Stores read back -/

/-- What is kept of a store has a list of records for every kind. -/
theorem field?_toJson (s : Store κ) (kind : Kind) :
    s.toJson.field? kind.text =
      some (.arr (((s.entriesOf kind).map Prod.snd).map (Record.form.write .byKey))) := by
  rw [← select_eq]
  cases kind <;> rfl

/-- The records of some kinds, put in kind by kind. -/
theorem foldlM_putAll (s : Store κ) (kinds : List Kind) (t : Store κ) :
    ∃ t', kinds.foldlM (fun t kind => t.putAll kind
        (((s.entriesOf kind).map Prod.snd).map (Record.form.write .byKey))) t = some t' ∧
      t'.records.entries = (kinds.flatMap s.entriesOf).foldl
        (fun acc e => Entries.insert e.1 e.2 acc) t.records.entries ∧ t'.uids = t.uids := by
  induction kinds generalizing t with
  | nil => exact ⟨t, rfl, rfl, rfl⟩
  | cons kind rest ih =>
    obtain ⟨u, put, entries, uids⟩ :=
      putAll_written (fun e (mem : e ∈ s.entriesOf kind) => filed_of_mem_entriesOf mem) t
    obtain ⟨t', done, entries', uids'⟩ := ih u
    refine ⟨t', ?_, ?_, uids'.trans uids⟩
    · rw [List.foldlM_cons, put]
      exact done
    · rw [entries', entries, List.flatMap_cons, List.foldl_append]

/-- What is kept of a store gives the store back. -/
theorem ofJson?_toJson (s : Store κ) : ofJson? s.uids s.toJson = some s := by
  obtain ⟨t, done, entries, uids⟩ := s.foldlM_putAll Kind.all (empty s.uids)
  have whole : t.records = s.records := by
    rw [← Dictionary.ofList_of_perm s.entriesOf_perm]
    exact Dictionary.ext_entries entries
  have same : t = s := (eq_giving_of_records whole).trans (congrArg s.giving uids)
  simp only [ofJson?, field?_toJson]
  rw [done, same]

end ControlPlane.Store
