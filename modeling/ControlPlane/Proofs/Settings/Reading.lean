import ControlPlane.Proofs.Dictionary
import ControlPlane.Proofs.Outcome
import ControlPlane.Proofs.Settings.Layers
import ControlPlane.Settings.Error

/-!
Reading settings by their entries. A record that is read from a table does not depend on the order
of its entries (`Setting.fillEntries_perm`), so it is told by what is looked up in the table. Where
a table makes up a record, one with another value at a key makes up the record with that part
replaced (`Setting.fillEntries_given`); in the settings of the program this holds of the parameters
for the broker, which are a part of a part (`Settings.ofSetting_given`).
-/

namespace ControlPlane

namespace Setting

/-! ### Entries in any order -/

section

variable {α : Type} {slots : List (Slot α)}

/-- What is filled with one part and then with another can be filled the other way round. -/
def Commutes (p q : Slot α) : Prop :=
  ∀ u v a b, (p.fill u a >>= q.fill v) = .ok b → (q.fill v a >>= p.fill u) = .ok b

/-- The parts of a record can be filled in any order. -/
def Unordered (slots : List (Slot α)) : Prop :=
  ∀ p ∈ slots, ∀ q ∈ slots, p.name ≠ q.name → Commutes p q

theorem commutes_of {β γ : Type} {name name' : String} {read : Setting → Except SettingFault β}
    {read' : Setting → Except SettingFault γ} {set : α → β → α} {set' : α → γ → α}
    (comm : ∀ a x y, set' (set a x) y = set (set' a y) x) :
    Commutes (.of name read set) (.of name' read' set') := by
  intro u v a b filled
  obtain ⟨c, first, second⟩ := Outcome.bind_eq_ok_iff.mp filled
  obtain ⟨x, readX, rfl⟩ := Outcome.map_eq_ok_iff.mp first
  obtain ⟨y, readY, rfl⟩ := Outcome.map_eq_ok_iff.mp second
  refine Outcome.bind_eq_ok_iff.mpr ⟨set' a y, ?_, ?_⟩
  · exact Outcome.map_eq_ok_iff.mpr ⟨y, readY, rfl⟩
  · exact Outcome.map_eq_ok_iff.mpr ⟨x, readX, (comm a x y).symm⟩

/-- One entry of a table put into a record. -/
def fillEntry (slots : List (Slot α)) (a : α) (e : String × Setting) : Except SettingFault α :=
  match slots.find? fun s => s.name == e.1 with
  | some s => (s.fill e.2 a).mapError (.atKey e.1)
  | none => .ok a

theorem fillEntries_eq_foldlM (l : List (String × Setting)) (a : α) :
    fillEntries slots l a = l.foldlM (fillEntry slots) a := by
  induction l generalizing a with
  | nil => rfl
  | cons e rest ih =>
    obtain ⟨k, v⟩ := e
    rw [fillEntries, List.foldlM_cons, fillEntry]
    cases slots.find? fun s => s.name == k with
    | none => exact ih a
    | some s => exact congrArg ((s.fill v a).mapError (.atKey k) >>= ·) (funext ih)

theorem fillEntry_eq_ok_iff {key : String} {slot : Slot α}
    (found : slots.find? (fun s => s.name == key) = some slot) {v : Setting} {a b : α} :
    fillEntry slots a (key, v) = .ok b ↔ slot.fill v a = .ok b := by
  simp only [fillEntry, found, Outcome.mapError_eq_ok_iff]

/-- Two entries with different keys are put into a record in either order. -/
theorem fillEntry_swap (unordered : Unordered slots) {x y : String × Setting} (ne : x.1 ≠ y.1)
    {a b : α} (filled : (fillEntry slots a x >>= fun c => fillEntry slots c y) = .ok b) :
    (fillEntry slots a y >>= fun c => fillEntry slots c x) = .ok b := by
  obtain ⟨j, u⟩ := x
  obtain ⟨k, v⟩ := y
  cases foundJ : slots.find? fun s => s.name == j with
  | none =>
    have skip (a : α) : fillEntry slots a (j, u) = .ok a := by rw [fillEntry, foundJ]
    obtain ⟨c, first, second⟩ := Outcome.bind_eq_ok_iff.mp filled
    obtain rfl := Except.ok.inj ((skip a).symm.trans first)
    rw [second, Outcome.ok_bind, skip]
  | some p =>
    cases foundK : slots.find? fun s => s.name == k with
    | none =>
      have skip (a : α) : fillEntry slots a (k, v) = .ok a := by rw [fillEntry, foundK]
      obtain ⟨c, first, second⟩ := Outcome.bind_eq_ok_iff.mp filled
      obtain rfl := Except.ok.inj ((skip c).symm.trans second)
      rw [skip, Outcome.ok_bind, first]
    | some q =>
      have namedP : p.name = j := by simpa using List.find?_some foundJ
      have namedQ : q.name = k := by simpa using List.find?_some foundK
      have commutes := unordered p (List.mem_of_find?_eq_some foundJ) q
        (List.mem_of_find?_eq_some foundK) (by rw [namedP, namedQ]; exact ne)
      have swapped := commutes u v a b
      simp only [Outcome.bind_eq_ok_iff, fillEntry_eq_ok_iff foundJ,
        fillEntry_eq_ok_iff foundK] at filled swapped ⊢
      exact swapped filled

/-- Entries with distinct keys are put into a record in any order. -/
theorem fillEntries_perm (unordered : Unordered slots) {l l' : List (String × Setting)}
    (perm : l.Perm l') (distinct : (l.map Prod.fst).Nodup) {a b : α}
    (filled : fillEntries slots l a = .ok b) : fillEntries slots l' a = .ok b := by
  rw [fillEntries_eq_foldlM] at filled ⊢
  exact Outcome.foldlM_perm (fun _ _ ne _ _ both => fillEntry_swap unordered ne both) perm distinct
    filled

/-- The last entry is put into the record that the ones before it make up. -/
theorem fillEntries_concat_eq_ok_iff {l : List (String × Setting)} {e : String × Setting}
    {a b : α} : fillEntries slots (l ++ [e]) a = .ok b ↔
      ∃ c, fillEntries slots l a = .ok c ∧ fillEntry slots c e = .ok b := by
  simp only [fillEntries_eq_foldlM, List.foldlM_append, List.foldlM_cons, List.foldlM_nil,
    bind_pure, Outcome.bind_eq_ok_iff]

end

/-! ### Tables by what is looked up in them -/

/-- The entries of a table but the one with a key. -/
def entriesBut (key : String) (s : Setting) : List (String × Setting) :=
  s.entries.filter fun e => e.1 != key

theorem entriesBut_of_absent {s : Setting} {key : String} (absent : s.entry? key = none) :
    s.entriesBut key = s.entries := by
  rw [entry?_eq, Option.map_eq_none_iff, List.find?_eq_none] at absent
  refine List.filter_eq_self.mpr fun e mem => ?_
  simpa using absent e mem

section

variable {s t v : Setting} {key : String}

/-- A tidy table has an entry exactly where a lookup finds it. -/
theorem Tidy.mem_entries_iff (h : Tidy s) : (key, v) ∈ s.entries ↔ s.entry? key = some v := by
  rw [entry?_eq]
  exact (Entries.find?_key_eq_some_iff h.distinct).symm

theorem Tidy.mem_entriesBut_iff (h : Tidy s) {k : String} :
    (k, v) ∈ s.entriesBut key ↔ s.entry? k = some v ∧ k ≠ key := by
  rw [entriesBut, List.mem_filter, h.mem_entries_iff, bne_iff_ne]

theorem Tidy.nodup_entries (h : Tidy s) : s.entries.Nodup := .of_map _ h.distinct

theorem Tidy.nodup_entriesBut (h : Tidy s) (key : String) : (s.entriesBut key).Nodup :=
  h.nodup_entries.filter _

/-- A tidy table in which a lookup finds an entry has that one and the other ones. -/
theorem Tidy.entries_perm (h : Tidy s) (found : s.entry? key = some v) :
    s.entries.Perm (s.entriesBut key ++ [(key, v)]) := by
  have left : (key, v) ∉ s.entriesBut key := fun mem => (h.mem_entriesBut_iff.mp mem).2 rfl
  have distinct : (s.entriesBut key ++ [(key, v)]).Nodup :=
    (h.nodup_entriesBut key).append (List.nodup_singleton _) (by simpa using left)
  rw [List.perm_ext_iff_of_nodup h.nodup_entries distinct]
  rintro ⟨k, w⟩
  rw [List.mem_append, h.mem_entriesBut_iff, h.mem_entries_iff, List.mem_singleton, Prod.mk.injEq]
  by_cases same : k = key
  · subst same
    simp [found, eq_comm]
  · simp [same]

/-- Tidy tables have the same entries but under a key if the same is looked up in them but under
that key. -/
theorem Tidy.entriesBut_perm (h : Tidy s) (h' : Tidy t)
    (others : ∀ k, k ≠ key → t.entry? k = s.entry? k) :
    (t.entriesBut key).Perm (s.entriesBut key) := by
  rw [List.perm_ext_iff_of_nodup (h'.nodup_entriesBut key) (h.nodup_entriesBut key)]
  rintro ⟨k, w⟩
  rw [h.mem_entriesBut_iff, h'.mem_entriesBut_iff]
  exact and_congr_left fun ne => by rw [others k ne]

/-! ### Records with a part replaced -/

variable {α β : Type} {slots : List (Slot α)} {read : Setting → Except SettingFault β}
  {set : α → β → α} {a b : α}

/-- What an entry is read as is a part of the record that its table is read as. -/
theorem Tidy.part_of_entry (tidy : Tidy s) (unordered : Unordered slots)
    (slot : slots.find? (fun p => p.name == key) = some (.of key read set))
    (filled : fillEntries slots s.entries a = .ok b) (found : s.entry? key = some v) :
    ∃ c x, fillEntries slots (s.entriesBut key) a = .ok c ∧ read v = .ok x ∧ b = set c x := by
  have last := fillEntries_perm unordered (tidy.entries_perm found) tidy.distinct filled
  obtain ⟨c, others, one⟩ := fillEntries_concat_eq_ok_iff.mp last
  obtain ⟨x, reads, rfl⟩ := Outcome.map_eq_ok_iff.mp ((fillEntry_eq_ok_iff slot).mp one)
  exact ⟨c, x, others, reads, rfl⟩

/-- Where the entries of a table make up a record, those of a table with another value at a key make
up the record with that part replaced. -/
theorem fillEntries_given (unordered : Unordered slots)
    (slot : slots.find? (fun p => p.name == key) = some (.of key read set))
    (replaces : ∀ a x y, set (set a x) y = set a y)
    (tidy : Tidy s) (tidy' : Tidy t) (others : ∀ k, k ≠ key → t.entry? k = s.entry? k)
    (found : t.entry? key = some v) {x : β} (reads : read v = .ok x)
    (filled : fillEntries slots s.entries a = .ok b) :
    fillEntries slots t.entries a = .ok (set b x) := by
  have rest : ∃ c, fillEntries slots (s.entriesBut key) a = .ok c ∧ set c x = set b x := by
    cases present : s.entry? key with
    | none => exact ⟨b, (entriesBut_of_absent present).symm ▸ filled, rfl⟩
    | some w =>
      obtain ⟨c, y, others, -, rfl⟩ := tidy.part_of_entry unordered slot filled present
      exact ⟨c, others, (replaces c y x).symm⟩
  obtain ⟨c, rest, same⟩ := rest
  have perm := (tidy'.entries_perm found).trans
    ((tidy.entriesBut_perm tidy' others).append_right [(key, v)])
  refine fillEntries_perm unordered perm.symm ((perm.map _).nodup_iff.mp tidy'.distinct) ?_
  have put : fillEntry slots c (key, v) = .ok (set b x) := by
    rw [fillEntry_eq_ok_iff slot, ← same]
    exact Outcome.map_eq_ok_iff.mpr ⟨x, reads, rfl⟩
  exact fillEntries_concat_eq_ok_iff.mpr ⟨c, rest, put⟩

end

/-- A table is read as a record by its entries. -/
theorem IsTable.readRecord_eq (h : s.IsTable) (name : String) (slots : List (Slot α)) (a : α) :
    readRecord name a slots s = fillEntries slots s.entries a := by
  cases s with
  | table => rfl
  | _ => cases h

end Setting

/-! ### The settings of the program -/

namespace Settings

open Setting

/-- The parts of the settings of the message broker. -/
def brokerSlots : List (Slot BrokerSettings) := [
  .of "service_url" readText fun s v => { s with serviceUrl := v },
  .of "auth_plugin" readText fun s v => { s with authPlugin := v },
  .of "auth_params" readText fun s v => { s with authParams := v }]

theorem readBroker_eq : readBroker = readRecord "PulsarRpcConfig" {} brokerSlots := rfl

theorem authParams_slot : brokerSlots.find? (fun p => p.name == "auth_params") =
    some (.of "auth_params" readText fun s v => { s with authParams := v }) := rfl

theorem unordered_brokerSlots : Unordered brokerSlots := by
  intro p memP q memQ ne
  simp only [brokerSlots, List.mem_cons, List.not_mem_nil, or_false] at memP memQ
  rcases memP with rfl | rfl | rfl <;> rcases memQ with rfl | rfl | rfl <;>
    first
    | exact absurd rfl ne
    | exact commutes_of fun _ _ _ => rfl

/-- The parts of the settings. -/
def slots : List (Slot Settings) := [
  .of "pulsar" readBroker fun s v => { s with broker := v },
  .of "controller" readController fun s v => { s with controller := v },
  .of "store" readStore fun s v => { s with store := v },
  .of "logging" readLog fun s v => { s with log := v }]

theorem ofSetting_eq : ofSetting = readRecord "OperatorConfig" {} slots := rfl

theorem broker_slot : slots.find? (fun p => p.name == "pulsar") =
    some (.of "pulsar" readBroker fun s v => { s with broker := v }) := rfl

theorem unordered_slots : Unordered slots := by
  intro p memP q memQ ne
  simp only [slots, List.mem_cons, List.not_mem_nil, or_false] at memP memQ
  rcases memP with rfl | rfl | rfl | rfl <;> rcases memQ with rfl | rfl | rfl | rfl <;>
    first
    | exact absurd rfl ne
    | exact commutes_of fun _ _ _ => rfl

variable {s t v : Setting} {base : Settings}

/-- The entries that are given for the broker make up its settings, or there are none: where nothing
or a list is given for it. -/
theorem brokerEntries (tidy : Tidy s) (read : ofSetting s = .ok base) (table : s.IsTable) :
    ∃ b, (b = base.broker ∨ b = {}) ∧
      fillEntries brokerSlots ((s.entry? "pulsar").getD (.nothing none)).entries {} = .ok b := by
  cases present : s.entry? "pulsar" with
  | none => exact ⟨{}, .inr rfl, rfl⟩
  | some w =>
    rw [ofSetting_eq, table.readRecord_eq] at read
    obtain ⟨c, b, -, readsBroker, rfl⟩ :=
      tidy.part_of_entry unordered_slots broker_slot read present
    cases w with
    | table => exact ⟨b, .inl rfl, readsBroker⟩
    | list => exact ⟨{}, .inr rfl, rfl⟩
    | _ => cases readsBroker

/-- Where settings are read, they are also read with a text for the parameters for the broker: they
are the same but for the broker, and its settings are the same but for the parameters, or made anew
with them. -/
theorem ofSetting_given {text : String} (given : Gives v ["pulsar", "auth_params"] s t)
    (table : s.IsTable) (tidy : Tidy s) (tidy' : Tidy t) (reads : v.readText = .ok text)
    (read : ofSetting s = .ok base) :
    ∃ b, (b = base.broker ∨ b = {}) ∧
      ofSetting t = .ok { base with broker := { b with authParams := text } } := by
  obtain ⟨b, whose, filled⟩ := brokerEntries tidy read table
  have tidyBelow : Tidy ((s.entry? "pulsar").getD (.nothing none)) := by
    cases present : s.entry? "pulsar" with
    | none => exact tidy_of_entries rfl
    | some w => exact tidy.entry? present
  cases given with
  | @entry _ _ _ _ u others found inner =>
    cases inner with
    | entry othersInner foundInner inner =>
      cases inner
      have tidyInner : Tidy u := tidy'.entry? found
      refine ⟨b, whose, ?_⟩
      have readsBroker : readBroker u = .ok { b with authParams := text } := by
        have made := fillEntries_given unordered_brokerSlots authParams_slot (fun _ _ _ => rfl)
          tidyBelow tidyInner othersInner foundInner reads filled
        rw [readBroker_eq, (isTable_of_found foundInner).readRecord_eq]
        exact made
      rw [ofSetting_eq, table.readRecord_eq] at read
      have made := fillEntries_given unordered_slots broker_slot (fun _ _ _ => rfl) tidy tidy'
        others found readsBroker read
      rw [ofSetting_eq, (isTable_of_found found).readRecord_eq]
      exact made

/-- Settings without problems have none with other parameters for the broker, and neither if the
settings of the broker are made anew. -/
theorem problems_given {b : BrokerSettings} (text : String) (whose : b = base.broker ∨ b = {})
    (none : base.problems = []) :
    ({ base with broker := { b with authParams := text } } : Settings).problems = [] := by
  rcases whose with rfl | rfl
  · exact none
  · have url : (Text.trim "pulsar://localhost:6650").isEmpty = false := by decide +kernel
    simp only [problems, List.append_eq_nil_iff, and_assoc] at none ⊢
    exact ⟨by simp [url], none.2⟩

theorem validated_eq_ok_iff {s : Settings} :
    s.validated = .ok base ↔ s = base ∧ s.problems = [] := by
  rw [validated]
  split
  · rename_i none
    simp [none]
  · rename_i some
    have told : s.problems ≠ [] := some
    simp [told]

end Settings

end ControlPlane
