import ControlPlane.Form.Basic
import ControlPlane.Proofs.Dictionary
import ControlPlane.Proofs.Json.Plain
import ControlPlane.Proofs.Outcome
import Mathlib.Data.List.Nodup
import Mathlib.Data.List.Pairwise

/-!
Faithful forms: those that read back what they write. Lists, options and dictionaries of faithful
forms are faithful, and so is the form of a record type whose fields are independent of each other
and together make up the record (`Schema.Lawful.faithful`). A form writes plainly if what it writes
holds no double-precision number.
-/

namespace ControlPlane

variable {α β γ : Type}

namespace Form

/-- What is written is read back as it was. -/
def Faithful (f : Form α) : Prop := ∀ order a, f.read (f.write order a) = .ok a

/-- What is written holds no double-precision number. -/
def WritesPlain (f : Form α) : Prop := ∀ order a, (f.write order a).isPlain = true

/-- What is written is never null. -/
def NeverNull (f : Form α) : Prop := ∀ order a, (f.write order a).isNull = false

/-! ### Single values -/

theorem text_faithful : text.Faithful := fun _ _ => rfl

theorem text_writesPlain : text.WritesPlain := fun _ _ => rfl

theorem free_faithful : free.Faithful := fun _ _ => rfl

/-- A whole number within the bounds is read back. -/
theorem whole_faithful {low high : Int} {word : String} {ofInt : Int → α} {toInt : α → Int}
    (within : ∀ a, low ≤ toInt a ∧ toInt a ≤ high) (inverse : ∀ a, ofInt (toInt a) = a) :
    (whole low high word ofInt toInt).Faithful := by
  intro order a
  simp [whole, within a, inverse a]

theorem int32_faithful : int32.Faithful :=
  whole_faithful (fun a => ⟨Int32.minValue_le_toInt a, Int32.toInt_le a⟩) Int32.ofInt_toInt

theorem int64_faithful : int64.Faithful :=
  whole_faithful (fun a => ⟨Int64.minValue_le_toInt a, Int64.toInt_le a⟩) Int64.ofInt_toInt

theorem flag_faithful : flag.Faithful := fun _ _ => rfl

theorem count_faithful : count.Faithful := by
  refine whole_faithful (fun a => ?_) fun a => ?_
  · have below := a.toNat_lt_size
    exact ⟨Int.natCast_nonneg _, by omega⟩
  · simp

/-- A choice is read back if it is found by its name among those that are known. -/
theorem choice_faithful {known : List (String × α)} {nameOf : α → String}
    (found : ∀ a, (known.find? fun k => k.1 == nameOf a).map Prod.snd = some a) :
    (choice known nameOf).Faithful := by
  intro order a
  obtain ⟨k, isKnown, rfl⟩ := Option.map_eq_some_iff.mp (found a)
  simp [choice, isKnown]

/-! ### Collections -/

theorem option_faithful {f : Form α} (h : f.Faithful) (never : f.NeverNull) :
    (option f).Faithful := by
  intro order a
  cases a with
  | none => rfl
  | some a =>
    have written := never order a
    have back := h order a
    simp only [option]
    cases v : f.write order a <;> simp_all [Json.isNull, Except.map]

theorem option_writesPlain {f : Form α} (h : f.WritesPlain) : (option f).WritesPlain := by
  intro order a
  cases a with
  | none => rfl
  | some a => exact h order a

theorem list_faithful {f : Form α} (h : f.Faithful) : (list f).Faithful := by
  intro order items
  simp only [list]
  induction items with
  | nil => rfl
  | cons a rest ih =>
    rw [List.map_cons, List.mapM_cons, ih, h order a]
    rfl

theorem dictionary_faithful {f : Form α} (h : f.Faithful) : (dictionary f).Faithful := by
  intro order d
  have entries : ∀ l : List (String × α),
      (l.map fun e => (e.1, f.write order e.2)).mapM (fun e => do
        let a ← f.read e.2
        pure (e.1, a)) = (.ok l : Except FormError _) := by
    intro l
    induction l with
    | nil => rfl
    | cons e rest ih =>
      rw [List.map_cons, List.mapM_cons, ih, h order e.2]
      rfl
  simp only [dictionary, Json.ofDictionary, entries]
  exact congrArg Except.ok d.ofList_entries

theorem dictionary_writesPlain {f : Form α} (h : f.WritesPlain) :
    (dictionary f).WritesPlain := by
  intro order d
  simp only [dictionary, Json.ofDictionary, Json.isPlain, Json.arePlainFields_iff]
  intro e mem
  obtain ⟨x, -, rfl⟩ := List.mem_map.mp mem
  exact h order x.2

end Form

/-- A field of an object whose names are distinct is one of its entries. -/
theorem Json.field?_eq_some_iff {fields : List (String × Json)}
    (distinct : (fields.map Prod.fst).Nodup) {name : String} {v : Json} :
    (Json.obj fields).field? name = some v ↔ (name, v) ∈ fields :=
  Entries.find?_key_eq_some_iff distinct

/-! ### Fields -/

namespace Field

/-- It does not matter in which order two fields are read. -/
def Independent (f g : Field α) : Prop :=
  ∀ v w b c, (f.read v b >>= g.read w) = .ok c ↔ (g.read w b >>= f.read v) = .ok c

instance : Std.Symm (Independent (α := α)) := ⟨fun _ _ h v w b c => (h w v b c).symm⟩

/-- Fields whose setters commute are independent. -/
theorem independent_of {name₁ name₂ : String} {absence₁ absence₂ : Absence} {form₁ : Form β}
    {form₂ : Form γ} {get₁ : α → β} {get₂ : α → γ} {set₁ : α → β → α} {set₂ : α → γ → α}
    {dropped₁ : β → Bool} {dropped₂ : γ → Bool}
    (commute : ∀ b v w, set₂ (set₁ b v) w = set₁ (set₂ b w) v) :
    (Field.of name₁ absence₁ form₁ get₁ set₁ dropped₁).Independent
      (Field.of name₂ absence₂ form₂ get₂ set₂ dropped₂) := by
  intro v w b c
  simp only [Field.of]
  cases form₁.read v <;> cases form₂.read w <;>
    simp [Except.map, bind, Except.bind, commute]

/-- Reading what fields write of a record, one after another, leads from a record to another; what
is not written is there already. -/
inductive Fills (order : FieldOrder) (a : α) : List (Field α) → α → α → Prop where
  | nil (b : α) : Fills order a [] b b
  | cons {β : Type} {name : String} {absence : Absence} {form : Form β} {get : α → β} {set : α → β → α}
      {dropped : β → Bool} {rest : List (Field α)} {b c : α} (faithful : form.Faithful)
      (required : absence = .refused → dropped (get a) = false)
      (restore : ∀ b, set b (get b) = b) (there : dropped (get a) = true → get a = get b)
      (next : Fills order a rest (set b (get a)) c) :
      Fills order a (.of name absence form get set dropped :: rest) b c

/-- A field that must not be absent is written. -/
theorem Fills.written {order : FieldOrder} {a b c : α} {fields : List (Field α)}
    (h : Fills order a fields b c) {f : Field α} (mem : f ∈ fields)
    (required : f.absence = .refused) : (f.write order a).isSome = true := by
  induction h with
  | nil => cases mem
  | cons faithful needed _ _ _ ih =>
    rcases List.mem_cons.mp mem with rfl | mem
    · simp [Field.of, needed required]
    · exact ih mem

end Field

/-! ### Records -/

namespace Schema

variable {s : Schema α}

/-- The laws of a record type: its fields have names of their own and do not depend on each other,
and together they make up the record. -/
structure Lawful (s : Schema α) : Prop where
  distinct : (s.fields.map Field.name).Nodup
  independent : s.fields.Pairwise Field.Independent
  filled : ∀ order a, Field.Fills order a s.fields s.start a

/-- Puts one entry of an object into a record. -/
def readEntry (s : Schema α) (b : α) (e : String × Json) : Except FormError α :=
  match s.fields.find? fun f => f.name == e.1 with
  | some f => f.read e.2 b
  | none => .ok b

theorem readEntries_eq_foldlM (l : List (String × Json)) (b : α) :
    s.readEntries l b = l.foldlM s.readEntry b := by
  induction l generalizing b with
  | nil => rfl
  | cons e rest ih =>
    obtain ⟨k, v⟩ := e
    rw [readEntries, List.foldlM_cons, readEntry]
    cases s.fields.find? fun f => f.name == k with
    | none => exact ih b
    | some f => exact congrArg (f.read v b >>= ·) (funext ih)

/-- A field is found by its name. -/
theorem Lawful.find?_name (h : s.Lawful) {f : Field α} (mem : f ∈ s.fields) :
    (s.fields.find? fun g => g.name == f.name) = some f := by
  have distinct := h.distinct
  generalize s.fields = fields at mem distinct
  induction fields with
  | nil => cases mem
  | cons g rest ih =>
    obtain ⟨fresh, tail⟩ := List.nodup_cons.mp distinct
    rcases List.mem_cons.mp mem with rfl | mem
    · simp
    · have ne : g.name ≠ f.name := fun eq => fresh (eq ▸ List.mem_map_of_mem mem)
      rw [List.find?_cons_of_neg (by simpa using ne)]
      exact ih mem tail

/-- Two fields of different names are independent. -/
theorem Lawful.independent_of_ne (h : s.Lawful) {f g : Field α} (hf : f ∈ s.fields)
    (hg : g ∈ s.fields) (ne : f.name ≠ g.name) : f.Independent g :=
  h.independent.forall hf hg fun eq => ne (congrArg Field.name eq)

/-- Two entries with different keys may be read in either order. -/
theorem Lawful.readEntry_comm (h : s.Lawful) {x y : String × Json} (ne : y.1 ≠ x.1) {b c : α}
    (read : (s.readEntry b y >>= fun b => s.readEntry b x) = .ok c) :
    (s.readEntry b x >>= fun b => s.readEntry b y) = .ok c := by
  simp only [readEntry] at read ⊢
  cases hx : s.fields.find? fun f => f.name == x.1 with
  | none =>
    simp only [hx] at read
    obtain ⟨d, first, same⟩ := Outcome.bind_eq_ok_iff.mp read
    rw [Outcome.ok_bind, first, same]
  | some f =>
    cases hy : s.fields.find? fun f => f.name == y.1 with
    | none =>
      simp only [hx, hy, Outcome.ok_bind] at read
      show (f.read x.2 b >>= fun b => .ok b) = .ok c
      rw [read]
      rfl
    | some g =>
      have hf : f.name = x.1 := by simpa using List.find?_some hx
      have hg : g.name = y.1 := by simpa using List.find?_some hy
      have swap := h.independent_of_ne (List.mem_of_find?_eq_some hy)
        (List.mem_of_find?_eq_some hx) (by rwa [hf, hg])
      simp only [hx, hy] at read ⊢
      exact (swap y.2 x.2 b c).mp read

/-- The order of the entries of an object does not matter to what is read from them. -/
theorem Lawful.readEntries_perm (h : s.Lawful) {l l' : List (String × Json)} (perm : l.Perm l')
    (distinct : (l.map Prod.fst).Nodup) {b c : α} (read : s.readEntries l b = .ok c) :
    s.readEntries l' b = .ok c := by
  rw [readEntries_eq_foldlM] at read ⊢
  exact Outcome.foldlM_perm (fun _ _ ne _ _ both => h.readEntry_comm ne both) perm distinct read

/-- What is written has the names of fields, each at most once. -/
theorem writeFields_distinct (distinct : (s.fields.map Field.name).Nodup) (order : FieldOrder)
    (a : α) : ((s.writeFields order a).map Prod.fst).Nodup := by
  unfold writeFields
  generalize s.fields = fields at distinct
  induction fields with
  | nil => exact List.nodup_nil
  | cons f rest ih =>
    obtain ⟨fresh, tail⟩ := List.nodup_cons.mp distinct
    rw [List.filterMap_cons]
    cases f.write order a with
    | none => exact ih tail
    | some v =>
      refine List.nodup_cons.mpr ⟨fun mem => fresh ?_, ih tail⟩
      obtain ⟨e, he, name⟩ := List.mem_map.mp mem
      obtain ⟨g, hg, written⟩ := List.mem_filterMap.mp he
      obtain ⟨w, -, rfl⟩ := Option.map_eq_some_iff.mp written
      exact List.mem_map.mpr ⟨g, hg, name⟩

/-- The fields that are written lead back to the record they were written from. -/
theorem Lawful.readEntries_writeFields (h : s.Lawful) (order : FieldOrder) (a : α) :
    s.readEntries (s.writeFields order a) s.start = .ok a := by
  rw [readEntries_eq_foldlM, writeFields]
  have known : ∀ f ∈ s.fields, (s.fields.find? fun g => g.name == f.name) = some f :=
    fun f => h.find?_name
  have filled := h.filled order a
  generalize s.start = b at filled
  -- The fields still to be read are among the fields of the record, whose names are known.
  have step : ∀ (fields : List (Field α)) (b c : α), (∀ f ∈ fields, f ∈ s.fields) →
      Field.Fills order a fields b c →
      (fields.filterMap fun f => (f.write order a).map fun v => (f.name, v)).foldlM
        s.readEntry b = .ok c := by
    intro fields b c sub fills
    induction fills with
    | nil b => rfl
    | @cons _ name absence form get set dropped rest b c faithful _ restore there _ ih =>
      have rest := ih fun f mem => sub f (List.mem_cons_of_mem _ mem)
      have self := known _ (sub _ List.mem_cons_self)
      rw [List.filterMap_cons]
      cases drop : dropped (get a) with
      | true =>
        rw [there drop, restore] at rest
        simpa [Field.of, drop] using rest
      | false =>
        simp only [Field.of] at self
        simpa [Field.of, drop, readEntry, self, faithful order (get a)] using rest
  exact step s.fields b a (fun _ mem => mem) filled

/-- The form of a lawful record type is faithful. -/
theorem Lawful.faithful (h : s.Lawful) : s.form.Faithful := by
  intro order a
  have present : ∀ entries : List (String × Json), (s.writeFields order a).Perm entries →
      s.missing? entries = none := by
    intro entries perm
    rw [missing?, Option.map_eq_none_iff, List.find?_eq_none]
    intro f mem
    cases absence : f.absence with
    | refused =>
      obtain ⟨v, written⟩ := Option.isSome_iff_exists.mp ((h.filled order a).written mem absence)
      have entry : (f.name, v) ∈ entries := by
        apply perm.mem_iff.mp
        exact List.mem_filterMap.mpr ⟨f, mem, by rw [written]; rfl⟩
      simpa using ⟨v, entry⟩
    | lenient => simp
    | preset => simp
  have object : ∀ entries : List (String × Json), (s.writeFields order a).Perm entries →
      s.read (.obj entries) = .ok a := by
    intro entries perm
    have entriesRead := h.readEntries_perm perm (writeFields_distinct h.distinct order a)
      (h.readEntries_writeFields order a)
    simp [read, entriesRead, present entries perm]
  cases order with
  | declared => exact object _ (.refl _)
  | byKey => exact object _ (Entries.ofList_perm (writeFields_distinct h.distinct _ a)).symm

/-- The fields of a written record are what its fields write. -/
theorem mem_writeFields_iff (distinct : (s.fields.map Field.name).Nodup) {f : Field α}
    (mem : f ∈ s.fields) {order : FieldOrder} {a : α} {v : Json} :
    (f.name, v) ∈ s.writeFields order a ↔ f.write order a = some v := by
  simp only [writeFields, List.mem_filterMap, Option.map_eq_some_iff, Prod.mk.injEq]
  constructor
  · rintro ⟨g, isField, w, written, name, rfl⟩
    obtain rfl := List.inj_on_of_nodup_map distinct isField mem name
    exact written
  · exact fun written => ⟨f, mem, v, written, rfl, rfl⟩

/-- A field of a written record is looked up by its name. -/
theorem field?_form_write (distinct : (s.fields.map Field.name).Nodup) {f : Field α}
    (mem : f ∈ s.fields) (order : FieldOrder) (a : α) :
    (s.form.write order a).field? f.name = f.write order a := by
  have unmixed := writeFields_distinct distinct order a
  ext v
  rw [← mem_writeFields_iff distinct mem]
  cases order with
  | declared => exact Json.field?_eq_some_iff unmixed
  | byKey =>
    have perm := Entries.ofList_perm unmixed
    rw [← perm.mem_iff]
    exact Json.field?_eq_some_iff ((perm.map Prod.fst).nodup_iff.mpr unmixed)

/-- A record is written plainly if its fields are. -/
theorem writesPlain
    (h : ∀ f ∈ s.fields, ∀ order a v, f.write order a = some v → v.isPlain = true) :
    s.form.WritesPlain := by
  intro order a
  have fields : ∀ e ∈ s.writeFields order a, e.2.isPlain = true := by
    intro e mem
    obtain ⟨f, hf, written⟩ := List.mem_filterMap.mp mem
    obtain ⟨v, hv, rfl⟩ := Option.map_eq_some_iff.mp written
    exact h f hf order a v hv
  cases order with
  | declared =>
    simp only [form, Json.isPlain, Json.arePlainFields_iff]
    exact fields
  | byKey =>
    simp only [form, Json.isPlain, Json.arePlainFields_iff]
    exact fun e mem => fields e (Entries.mem_of_mem_ofList mem)

theorem neverNull (s : Schema α) : s.form.NeverNull := by
  intro order a
  cases order <;> rfl

end Schema

/-- What a field writes is plain if its form writes plainly. -/
theorem Field.plain_of {name : String} {absence : Absence} {form : Form β} {get : α → β}
    {set : α → β → α} {dropped : β → Bool} (h : form.WritesPlain) (order : FieldOrder) (a : α)
    (v : Json) (written : (Field.of name absence form get set dropped).write order a = some v) :
    v.isPlain = true := by
  simp only [Field.of] at written
  split at written
  · cases written
  · obtain rfl := Option.some.inj written
    exact h order (get a)

end ControlPlane
