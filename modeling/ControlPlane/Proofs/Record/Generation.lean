import ControlPlane.Proofs.Json.Sameness
import ControlPlane.Proofs.Reconcile.Calls
import ControlPlane.Proofs.Record.Conversion

/-!
Generations seen through typed calls. A typed client that puts a record under other labels and
owners writes the specification too, in the one form that it writes; the store compares it with the
stored value. So the generation is kept exactly if the two are the same (`Client.relabel_runOn`). A
record that was written in another form, say with a field left out, is raised by its first
relabelling (`Client.newAgent_relabelled_raised`) and by no later one (`Client.relabelAll_runOn`).
-/

namespace ControlPlane

/-- A record under other labels and owners. -/
def RecordOf.relabelled {σ τ : Type} (t : RecordOf σ τ) (labels : Dictionary String String)
    (owners : List OwnerReference) : RecordOf σ τ :=
  { t with metadata := { t.metadata with labels, ownerReferences := owners } }

variable {σ τ κ : Type} [shape : RecordShape σ τ] [Address κ]

namespace Client

/-- Reads the record at a key and writes it back under other labels and owners. -/
def relabel (σ : Type) {τ : Type} [RecordShape σ τ] (key : RecordKey)
    (labels : Dictionary String String) (owners : List OwnerReference) :
    Attempt StoreError (RecordOf σ τ) := do
  let t ← get σ key
  update (t.relabelled labels owners)

/-- Puts the record at a key under one pair of labels and owners after another. -/
def relabelAll (σ : Type) {τ : Type} [RecordShape σ τ] (key : RecordKey) :
    List (Dictionary String String × List OwnerReference) → Attempt StoreError Unit
  | [] => pure ()
  | (labels, owners) :: rest => do
    let _ ← relabel σ key labels owners
    relabelAll σ key rest

end Client

/-! ### One write -/

namespace Record

/-- What is stored after a record was put under other labels and owners by a client that read it as
a typed one. -/
structure Relabelled (r : Record) (t : RecordOf σ τ) (labels : Dictionary String String)
    (owners : List OwnerReference) (next : Record) : Prop where
  metadata : next.metadata = { r.metadata with
    labels
    ownerReferences := owners
    resourceVersion := r.metadata.resourceVersion + 1
    generation := next.metadata.generation }
  /-- The specification is stored in the form that the client writes. -/
  spec : next.spec = t.untyped.spec
  status : next.status = r.status
  /-- The specification is read as it was, and so is the status. -/
  read : Client.typed next = .ok { t with metadata := next.metadata }
  kept_iff : next.metadata.generation = r.metadata.generation ↔ (t.untyped.spec == r.spec) = true
  raised : ¬(t.untyped.spec == r.spec) = true →
    next.metadata.generation = r.metadata.generation + 1

variable [lawful : LawfulShape σ τ] {r : Record} {t : RecordOf σ τ}

/-- An update with what was read, under other labels and owners, is a relabelling. -/
theorem relabelled_updated (read : Client.typed r = .ok t) (labels : Dictionary String String)
    (owners : List OwnerReference) :
    r.Relabelled t labels owners (r.updated (t.relabelled labels owners).untyped) := by
  have parts := Client.typed_eq_ok_iff.mp read
  have generation : (r.updated (t.relabelled labels owners).untyped).metadata.generation =
      if (t.untyped.spec == r.spec) = true then r.metadata.generation
      else r.metadata.generation + 1 := rfl
  constructor
  case metadata => rfl
  case spec => rfl
  case status => rfl
  case read =>
    exact Client.typed_eq_ok_iff.mpr ⟨rfl, RecordOf.specOf_write lawful.spec t.spec, parts.2.2⟩
  case kept_iff =>
    rw [generation]
    by_cases same : (t.untyped.spec == r.spec) = true
    · simp [same]
    · simp [same]
  case raised =>
    intro differs
    rw [generation, if_neg differs]

end Record

namespace Client

variable [lawful : LawfulShape σ τ] {s : Store κ} {key : RecordKey} {r : Record} {t : RecordOf σ τ}

/-- A record that is read at its key is put under other labels and owners, and only that is
announced. Its generation is kept exactly if its specification is stored as it is written. -/
theorem relabel_runOn (found : s.find? shape.kind key = some r) (read : typed r = .ok t)
    (labels : Dictionary String String) (owners : List OwnerReference) :
    ∃ next w,
      (relabel σ key labels owners).run.runOn s = (.ok { t with metadata := next.metadata }, w) ∧
      w.announced = [⟨.modified, shape.kind, next⟩] ∧ w.store.find? shape.kind key = some next ∧
      r.Relabelled t labels owners next := by
  let incoming := (t.relabelled labels owners).untyped
  have home : Address.of (κ := κ) shape.kind key = Address.of shape.kind r.key :=
    (Store.filed_find? found).1
  have current : s.find? shape.kind incoming.key = some r := by
    rw [← found]
    apply s.find?_congr
    rw [home, key_of_typed read]
    rfl
  have version : incoming.metadata.resourceVersion = r.metadata.resourceVersion := by
    rw [metadata_of_typed read]
    rfl
  obtain ⟨s', done, puts⟩ :=
    Store.commit_replace_of_found Record.updated (fun _ _ => rfl) current version
  have relabelled := Record.relabelled_updated read labels owners
  refine ⟨r.updated incoming, ⟨s', [⟨.modified, shape.kind, r.updated incoming⟩]⟩, ?_, rfl,
    puts.found_at home, relabelled⟩
  have got : (get σ key).run.runOn s = (.ok t, ⟨s, []⟩) := by
    rw [get_runOn, Store.fetch_of_find? found, read]
  have answered : s.answer (.update shape.kind incoming) =
    (.ok (r.updated incoming), ⟨s', [⟨.modified, shape.kind, r.updated incoming⟩]⟩) := done
  have written : (update (t.relabelled labels owners)).run.runOn s =
      (.ok { t with metadata := (r.updated incoming).metadata },
        ⟨s', [⟨.modified, shape.kind, r.updated incoming⟩]⟩) := by
    rw [update_run, Routine.runOn_call, answered]
    exact Prod.ext relabelled.read rfl
  exact Attempt.runOn_bind_eq_ok_iff.mpr ⟨t, _, _, got, written, rfl⟩

/-- An agent that a typed client has created. -/
def createdAgent : AgentRecord := .begun (.fresh { name := "a", «namespace» := "d" } {}) "gen-1"

/-- An agent that was stored as it is written is given a label, and stays at its generation. -/
theorem createdAgent_relabelled :
    ∃ (next : Record) (w : Written RecordId),
      (relabel AgentSpec ⟨"d", "a"⟩ (.ofList [("team", "x")]) []).run.runOn
        (Reconciler.storeAfter [.create .agent createdAgent.untyped]) =
          (.ok { createdAgent with metadata := next.metadata }, w) ∧
      next.metadata.generation = 1 := by
  have found : (Reconciler.storeAfter [.create .agent createdAgent.untyped]).find? .agent
      ⟨"d", "a"⟩ = some createdAgent.untyped := rfl
  have read : typed createdAgent.untyped = .ok createdAgent := by decide +kernel
  obtain ⟨next, w, done, -, -, relabelled⟩ :=
    relabel_runOn found read (.ofList [("team", "x")]) []
  exact ⟨next, w, done, relabelled.kept_iff.mpr (by decide +kernel)⟩

/-- An agent that was stored without its empty fields is given a label and nothing else, and its
generation is raised: those fields are written as empty ones. -/
theorem newAgent_relabelled_raised :
    let stored := Reconciler.newAgent
    let run := (relabel AgentSpec ⟨"d", "a"⟩ (.ofList [("team", "x")]) []).run.runOn stored
    run.1.isOk = true ∧
      run.1.map (·.spec) = (stored.fetch AgentSpec ⟨"d", "a"⟩).map (·.spec) ∧
      (stored.find? .agent ⟨"d", "a"⟩).map (·.metadata.generation) = some 1 ∧
      (run.2.store.find? .agent ⟨"d", "a"⟩).map (·.metadata.generation) = some 2 := by
  decide +kernel

/-! ### One write after another -/

/-- However often a record is put under other labels and owners, its generation is raised at most
once: by the first write, if its specification was stored in another form than it is written in. -/
theorem relabelAll_runOn (finite : t.untyped.spec.isFinite = true)
    (found : s.find? shape.kind key = some r) (read : typed r = .ok t)
    (changes : List (Dictionary String String × List OwnerReference)) :
    ∃ last w, (relabelAll σ key changes).run.runOn s = (.ok (), w) ∧
      w.store.find? shape.kind key = some last ∧
      last.metadata.generation =
        if changes.isEmpty || t.untyped.spec == r.spec then r.metadata.generation
        else r.metadata.generation + 1 := by
  induction changes generalizing s r t with
  | nil => exact ⟨r, ⟨s, []⟩, rfl, found, rfl⟩
  | cons change rest ih =>
    obtain ⟨next, w, done, -, stored, relabelled⟩ := relabel_runOn found read change.1 change.2
    -- What was written is in the form that is written, so the later writes keep its generation.
    have written : (t.untyped.spec == next.spec) = true := by
      rw [relabelled.spec]
      exact Json.same_self finite
    obtain ⟨last, w', rested, stored', generation⟩ :=
      ih (t := { t with metadata := next.metadata }) finite stored relabelled.read
    have settled : last.metadata.generation = next.metadata.generation := by
      rw [generation]
      exact if_pos (by rw [Bool.or_eq_true]; exact .inr written)
    refine ⟨last, w'.after w.announced, ?_, stored', settled.trans ?_⟩
    · exact Attempt.runOn_bind_eq_ok_iff.mpr ⟨_, w, w', done, rested, rfl⟩
    · simp only [List.isEmpty_cons, Bool.false_or]
      split
      · exact relabelled.kept_iff.mpr ‹_›
      · exact relabelled.raised ‹_›

end Client

end ControlPlane
