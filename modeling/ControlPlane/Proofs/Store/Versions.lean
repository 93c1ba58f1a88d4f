import ControlPlane.Proofs.Store.Deletion

/-!
Versions along a run of calls. While a record stays stored, each write of it raises its version by
one and nothing else touches it (`Store.find?_after`), so a write that carries the version of a
record which a client was given replaces that very record. A record that is created is at the first
version whatever was at its key before, so this ends where the record is dropped: a write whose
version is accepted overlooked none exactly if the record was stored all the while
(`Store.unwritten_iff_stored`). No write is accepted twice (`Store.answer_again`).
-/

namespace ControlPlane

variable {κ : Type} [Address κ]

/-! ### Records given and written -/

namespace Call

/-- The records that a call gives the one who makes it. -/
def given : (c : Call) → c.Outcome → List Record
  | .get .., .ok r | .create .., .ok r | .update .., .ok r | .updateStatus .., .ok r => [r]
  | .list .., .ok rs => rs
  | _, _ => []

theorem given_error (c : Call) (e : StoreError) : c.given (.error e) = [] := by
  cases c <;> rfl

/-- Whether a call is a write at the address of a kind and key. -/
def isWriteAt (κ : Type) [Address κ] (kind : Kind) (key : RecordKey) (c : Call) : Bool :=
  c.isWrite && c.key?.any fun k =>
    compare (Address.of (κ := κ) c.kind k) (Address.of kind key) == .eq

theorem isWriteAt_iff {kind : Kind} {key : RecordKey} {c : Call} :
    c.isWriteAt κ kind key = true ↔ c.isWrite = true ∧
      ∃ k, c.key? = some k ∧ Address.of (κ := κ) c.kind k = Address.of kind key := by
  simp [isWriteAt, Option.any_eq_true]

end Call

namespace Store

/-- Whether a call writes the record at a key: it is a write of it, and it succeeds. -/
def isWrittenBy (s : Store κ) (kind : Kind) (key : RecordKey) (c : Call) : Bool :=
  c.isWriteAt κ kind key && (s.answer c).1.isOk

/-- The store after calls that are made one after another. -/
def after (s : Store κ) (calls : List Call) : Store κ :=
  calls.foldl (fun s c => (s.answer c).2.store) s

/-- How many of the calls, made one after another, write the record at a key. -/
def writes (s : Store κ) (kind : Kind) (key : RecordKey) : List Call → Nat
  | [] => 0
  | c :: rest =>
    (if s.isWrittenBy kind key c then 1 else 0) + (s.answer c).2.store.writes kind key rest

/-- Something holds of the store before the calls, after each of them and after the last. -/
def Throughout (P : Store κ → Prop) (s : Store κ) (calls : List Call) : Prop :=
  ∀ earlier, earlier <+: calls → P (s.after earlier)

variable {P : Store κ → Prop} {s t : Store κ} {kind : Kind} {key : RecordKey} {r : Record}

@[simp] theorem after_nil (s : Store κ) : s.after [] = s := rfl

@[simp] theorem after_cons (s : Store κ) (c : Call) (rest : List Call) :
    s.after (c :: rest) = (s.answer c).2.store.after rest := rfl

theorem after_append (s : Store κ) (calls later : List Call) :
    s.after (calls ++ later) = (s.after calls).after later :=
  List.foldl_append ..

theorem Throughout.first {calls : List Call} (h : s.Throughout P calls) : P s :=
  h [] List.nil_prefix

theorem Throughout.last {calls : List Call} (h : s.Throughout P calls) : P (s.after calls) :=
  h calls (List.prefix_refl calls)

theorem throughout_cons {c : Call} {rest : List Call} :
    s.Throughout P (c :: rest) ↔ P s ∧ (s.answer c).2.store.Throughout P rest := by
  constructor
  · intro h
    exact ⟨h [] List.nil_prefix, fun earlier isPrefix =>
      h (c :: earlier) (List.cons_prefix_cons.mpr ⟨rfl, isPrefix⟩)⟩
  · rintro ⟨here, later⟩ earlier isPrefix
    cases earlier with
    | nil => exact here
    | cons d earlier =>
      obtain ⟨rfl, rest⟩ := List.cons_prefix_cons.mp isPrefix
      exact later earlier rest

/-! ### One call -/

/-- A creation or replacement that succeeds: it puts a record at the address that it names, a new
one at the first version and one that was there at its next. -/
structure Stores (s : Store κ) (c : Call) (r : Record) : Prop where
  isWrite : c.isWrite = true
  given : c.given (s.answer c).1 = [r]
  there : ∃ k, c.key? = some k ∧ Address.of (κ := κ) c.kind k = Address.of c.kind r.key
  version : r.metadata.resourceVersion =
    (s.find? c.kind r.key).elim 1 (·.metadata.resourceVersion + 1)
  puts : s.Puts (s.answer c).2.store c.kind r
  text : (s.answer c).2.store.uids.text = s.uids.text

theorem Stores.isOk {c : Call} (h : s.Stores c r) : (s.answer c).1.isOk = true := by
  have given := h.given
  cases answered : (s.answer c).1 with
  | ok a => rfl
  | error e =>
    rw [answered, Call.given_error] at given
    cases given

/-- A call that is no deletion leaves every record, unless it is a write that stores one. -/
theorem stores_or_stays (s : Store κ) {c : Call} (keeps : c.method ≠ .delete) :
    (s.Stays (s.answer c).2 ∧ (c.isWrite && (s.answer c).1.isOk) = false) ∨
      ∃ r, s.Stores c r := by
  cases c with
  | get kind key => exact .inl ⟨.of_eq rfl, rfl⟩
  | list kind ns => exact .inl ⟨.of_eq rfl, rfl⟩
  | create kind q =>
    rcases s.answer_create kind q with ⟨e, uids, failed, goesOn⟩ |
        ⟨uid, t, done, absent, puts, identified⟩
    · exact .inl ⟨⟨uids, goesOn, by rw [failed]⟩, by rw [failed]; rfl⟩
    · refine .inr ⟨q.admitted uid, rfl, by rw [done]; rfl, ⟨q.key, rfl, rfl⟩, ?_,
        by rw [done]; exact puts, by rw [done]; exact (UidSupply.goesOn_identify identified).text⟩
      rw [Call.kind, show (q.admitted uid).key = q.key from rfl, absent]
      rfl
  | update kind q =>
    rcases s.answer_update kind q with ⟨e, failed⟩ | ⟨current, t, done, found, -, puts, uids⟩
    · exact .inl ⟨.of_eq (by rw [failed]), by rw [failed]; rfl⟩
    · have there := (filed_find? found).1
      refine .inr ⟨current.updated q, rfl, by rw [done]; rfl, ⟨q.key, rfl, there⟩, ?_,
        by rw [done]; exact puts, by rw [done]; exact congrArg UidSupply.text uids⟩
      rw [Call.kind, show (current.updated q).key = current.key from rfl,
        ← find?_congr s there, found]
      rfl
  | updateStatus kind q =>
    rcases s.answer_updateStatus kind q with ⟨e, failed⟩ | ⟨current, t, done, found, -, puts, uids⟩
    · exact .inl ⟨.of_eq (by rw [failed]), by rw [failed]; rfl⟩
    · have there := (filed_find? found).1
      refine .inr ⟨current.statusUpdated q, rfl, by rw [done]; rfl, ⟨q.key, rfl, there⟩, ?_,
        by rw [done]; exact puts, by rw [done]; exact congrArg UidSupply.text uids⟩
      rw [Call.kind, show (current.statusUpdated q).key = current.key from rfl,
        ← find?_congr s there, found]
      rfl
  | delete kind key => exact absurd rfl keeps

/-- A creation or replacement leaves the records of other kinds alone. -/
theorem find?_answer_of_kind (s : Store κ) {c : Call}
    (keeps : c.method ≠ .delete) (other : kind ≠ c.kind) (key : RecordKey) :
    (s.answer c).2.store.find? kind key = s.find? kind key := by
  rcases s.stores_or_stays keeps with ⟨stays, -⟩ | ⟨r, stores⟩
  · exact find?_of_records stays.records kind key
  · exact stores.puts.of_kind other key

/-- Creations and replacements leave the records of other kinds alone. -/
theorem find?_after_of_kind {calls : List Call}
    (keeps : ∀ c ∈ calls, c.method ≠ .delete) (other : ∀ c ∈ calls, kind ≠ c.kind)
    (key : RecordKey) : (s.after calls).find? kind key = s.find? kind key := by
  induction calls generalizing s with
  | nil => rfl
  | cons c rest ih =>
    rw [List.forall_mem_cons] at keeps other
    rw [after_cons, ih keeps.2 other.2, s.find?_answer_of_kind keeps.1 other.1]

/-- Nothing is found at a key that was just deleted. -/
theorem find?_delete_self (s : Store κ) (kind : Kind) (key : RecordKey) :
    (s.answer (.delete kind key)).2.store.find? kind key = none := by
  simp only [answer, delete]
  split
  · rename_i absent
    exact Option.isNone_iff_eq_none.mp absent
  · exact Holdings.find?_of_mem_pending (List.mem_singleton_self _)

/-- A record that a creation or replacement gives is stored under its own key. -/
theorem find?_of_write {c : Call} (isWrite : c.isWrite = true) (keeps : c.method ≠ .delete)
    (given : r ∈ c.given (s.answer c).1) : (s.answer c).2.store.find? c.kind r.key = some r := by
  rcases s.stores_or_stays keeps with ⟨-, failed⟩ | ⟨q, stores⟩
  · cases answered : (s.answer c).1 with
    | ok a =>
      rw [isWrite, answered] at failed
      cases failed
    | error e =>
      rw [answered, Call.given_error] at given
      cases given
  · rw [stores.given] at given
    rw [List.mem_singleton.mp given]
    exact stores.puts.found

/-- A record that is given is stored under its own key. -/
theorem find?_of_given {c : Call} (given : r ∈ c.given (s.answer c).1) :
    (s.answer c).2.store.find? c.kind r.key = some r := by
  cases c with
  | get kind k =>
    cases found : s.find? kind k with
    | none => simp [answer, found, Call.given] at given
    | some q =>
      simp only [answer, found, Option.elim, Call.given, List.mem_singleton] at given
      subst given
      exact (find?_congr s (filed_find? found).1.symm).trans found
  | list kind ns =>
    refine mem_select_iff.mp ?_
    simp only [answer, Call.given, select, List.mem_map, List.mem_filter, Bool.and_eq_true] at given
    obtain ⟨e, ⟨mem, isKind, -⟩, rfl⟩ := given
    exact List.mem_map.mpr ⟨e, List.mem_filter.mpr ⟨mem, by simpa [Call.kind] using isKind⟩, rfl⟩
  | create kind q => exact find?_of_write rfl (by rintro ⟨⟩) given
  | update kind q => exact find?_of_write rfl (by rintro ⟨⟩) given
  | updateStatus kind q => exact find?_of_write rfl (by rintro ⟨⟩) given
  | delete kind k => cases (s.answer (.delete kind k)).1 <;> cases given

/-- What becomes of the record at a key with a call; the flag tells whether the call writes it. -/
inductive Succession : Bool → Option Record → Option Record → Prop where
  | kept {o : Option Record} : Succession false o o
  | gone {written : Bool} {o : Option Record} : Succession written o none
  /-- A new record is at the first version, one that was there at its next. -/
  | written {o : Option Record} {r : Record}
      (version : r.metadata.resourceVersion = o.elim 1 (·.metadata.resourceVersion + 1)) :
      Succession true o (some r)

/-- A write that stores a record leaves every other record as it is. -/
theorem Stores.succession {c : Call} (h : s.Stores c r) (kind : Kind) (key : RecordKey) :
    Succession (s.isWrittenBy kind key c) (s.find? kind key)
      ((s.answer c).2.store.find? kind key) := by
  obtain ⟨k, ofKey, there⟩ := h.there
  rw [isWrittenBy, h.isOk, Bool.and_true]
  by_cases same : Address.of (κ := κ) c.kind k = Address.of kind key
  · have here : Address.of (κ := κ) kind key = Address.of c.kind r.key := same.symm.trans there
    have before : s.find? kind key = s.find? c.kind r.key := by rw [find?, here, find?]
    have after : (s.answer c).2.store.find? kind key = some r := by
      rw [find?, here, ← find?, h.puts.found]
    rw [Call.isWriteAt_iff.mpr ⟨h.isWrite, k, ofKey, same⟩, before, after]
    exact .written h.version
  · have other : c.isWriteAt κ kind key = false := by
      rw [Bool.eq_false_iff, ne_eq, Call.isWriteAt_iff]
      rintro ⟨-, k', ofKey', same'⟩
      obtain rfl := Option.some.inj (ofKey.symm.trans ofKey')
      exact same same'
    rw [other, h.puts.others kind key fun here => same (there.trans here.symm)]
    exact .kept

/-- A call leaves the record at a key as it is, or takes it away, or writes it. -/
theorem find?_answer (s : Store κ) (c : Call) (kind : Kind) (key : RecordKey) :
    Succession (s.isWrittenBy kind key c) (s.find? kind key)
      ((s.answer c).2.store.find? kind key) := by
  by_cases deletes : c.method = .delete
  · cases c with
    | delete k' key' =>
      rcases (s.drops_delete k' key').find? kind key with kept | ⟨gone, -⟩
      · cases here : Call.isWriteAt κ kind key (.delete k' key') with
        | true =>
          obtain ⟨-, k, ofKey, same⟩ := Call.isWriteAt_iff.mp here
          obtain rfl := Option.some.inj ofKey
          have gone : (s.answer (.delete k' key')).2.store.find? kind key = none := by
            rw [find?, ← same]
            exact s.find?_delete_self k' key'
          rw [gone]
          exact .gone
        | false =>
          rw [isWrittenBy, here, Bool.false_and, kept]
          exact .kept
      · rw [gone]
        exact .gone
    | _ => cases deletes
  · rcases s.stores_or_stays deletes with ⟨stays, none⟩ | ⟨r, stores⟩
    · have unwritten : s.isWrittenBy kind key c = false := by
        rw [isWrittenBy, Call.isWriteAt]
        rw [Bool.and_eq_false_iff] at none
        rcases none with reads | failed
        · rw [reads, Bool.false_and, Bool.false_and]
        · rw [failed, Bool.and_false]
      rw [unwritten, find?_of_records stays.records]
      exact .kept
    · exact stores.succession kind key

/-! ### Many calls -/

/-- While a record stays stored, its version counts the writes of it. -/
theorem find?_after {calls : List Call} (found : s.find? kind key = some r)
    (stored : s.Throughout (fun u => (u.find? kind key).isSome) calls) :
    ∃ q, (s.after calls).find? kind key = some q ∧
      q.metadata.resourceVersion =
        r.metadata.resourceVersion + UInt64.ofNat (s.writes kind key calls) := by
  induction calls generalizing s r with
  | nil => exact ⟨r, found, by simp [writes]⟩
  | cons c rest ih =>
    have later := (throughout_cons.mp stored).2
    obtain ⟨q, next⟩ := Option.isSome_iff_exists.mp later.first
    obtain ⟨last, foundLast, version⟩ := ih next later
    refine ⟨last, foundLast, version.trans ?_⟩
    have step := s.find?_answer c kind key
    rw [found, next] at step
    simp only [writes]
    generalize s.isWrittenBy kind key c = written at step
    cases step with
    | kept => simp
    | written nextVersion =>
      simp only [Option.elim] at nextVersion
      rw [nextVersion, if_pos rfl, UInt64.ofNat_add, UInt64.add_assoc]
      rfl

/-- A record that is there after calls none of which wrote it was there all the while, untouched. -/
theorem throughout_of_unwritten {calls : List Call} (unwritten : s.writes kind key calls = 0)
    (found : (s.after calls).find? kind key = some r) :
    s.Throughout (fun u => u.find? kind key = some r) calls := by
  induction calls generalizing s with
  | nil =>
    intro earlier isPrefix
    rw [List.prefix_nil.mp isPrefix]
    exact found
  | cons c rest ih =>
    obtain ⟨now, later⟩ := Nat.add_eq_zero_iff.mp unwritten
    have after := ih later found
    have step := s.find?_answer c kind key
    rw [after.first] at step
    refine throughout_cons.mpr ⟨?_, after⟩
    generalize s.isWrittenBy kind key c = written, s.find? kind key = o at now step
    cases step with
    | kept => rfl
    | written version => cases now

/-- A write that succeeds carries the version of the record that it replaces. -/
theorem found_of_accepted {c : Call} {incoming : Record}
    (write : c = .update kind incoming ∨ c = .updateStatus kind incoming)
    (succeeded : (s.answer c).1.isOk = true) :
    ∃ current, s.find? kind incoming.key = some current ∧
      incoming.metadata.resourceVersion = current.metadata.resourceVersion := by
  rcases write with rfl | rfl
  · rcases s.answer_update kind incoming with ⟨e, failed⟩ | ⟨q, u, -, found, version, -⟩
    · rw [failed] at succeeded
      cases succeeded
    · exact ⟨q, found, version⟩
  · rcases s.answer_updateStatus kind incoming with ⟨e, failed⟩ | ⟨q, u, -, found, version, -⟩
    · rw [failed] at succeeded
      cases succeeded
    · exact ⟨q, found, version⟩

/-- When a write succeeds that carries the version of a record which an earlier call gave, nothing
wrote that record in between exactly if it was stored all the while. There must have been fewer
writes of it than there are versions. -/
theorem unwritten_iff_stored {first last : Call} {between : List Call} {incoming : Record}
    (given : r ∈ first.given (s.answer first).1)
    (few : (s.answer first).2.store.writes first.kind r.key between < UInt64.size)
    (write : last = .update first.kind incoming ∨ last = .updateStatus first.kind incoming)
    (there : Address.of (κ := κ) first.kind incoming.key = Address.of first.kind r.key)
    (carries : incoming.metadata.resourceVersion = r.metadata.resourceVersion)
    (succeeded : (((s.answer first).2.store.after between).answer last).1.isOk = true) :
    (s.answer first).2.store.writes first.kind r.key between = 0 ↔
      (s.answer first).2.store.Throughout (fun u => (u.find? first.kind r.key).isSome) between := by
  have start := find?_of_given given
  obtain ⟨q, found, version⟩ := found_of_accepted write succeeded
  rw [find?_congr _ there] at found
  constructor
  · intro unwritten earlier isPrefix
    rw [throughout_of_unwritten unwritten found earlier isPrefix]
    rfl
  · intro stored
    obtain ⟨q', found', count⟩ := find?_after start stored
    obtain rfl := Option.some.inj (found.symm.trans found')
    rw [← version, carries] at count
    have wrapped := congrArg UInt64.toNat (UInt64.add_eq_left.mp count.symm)
    rwa [UInt64.toNat_ofNat_of_lt' few] at wrapped

/-- A store without records, which gives the identities gen-1, gen-2 and so on. -/
def vacant : Store RecordId := .empty ⟨fun n => "gen-" ++ toString (n + 1), 0⟩

/-- The creation of an agent for a model. -/
def createAgent (name model : String) : Call :=
  .create .agent ⟨{ name, «namespace» := "d" }, .obj [("model", .str model)], .null⟩

/-- What the creation of an agent in that store gives. -/
def createdAgent : Record :=
  ⟨{ name := "a", «namespace» := "d", uid := "gen-1", resourceVersion := 1, generation := 1 },
    .obj [("model", .str "g")], .null⟩

/-- The write of another model to that agent. -/
def updateAgent : Call :=
  .update .agent { createdAgent with spec := .obj [("model", .str "h")] }

/-- The creation of another agent overlooks nothing. -/
theorem createdAgent_unwritten :
    let created := (vacant.answer (createAgent "a" "g")).2.store
    let between := [createAgent "b" "g"]
    ((created.after between).answer updateAgent).1.isOk = true ∧
      created.writes .agent ⟨"d", "a"⟩ between = 0 ∧
      created.Throughout (fun u => (u.find? .agent ⟨"d", "a"⟩).isSome) between := by
  have given : createdAgent ∈ (createAgent "a" "g").given
      (vacant.answer (createAgent "a" "g")).1 := List.mem_singleton.mpr rfl
  have succeeded : ((((vacant.answer (createAgent "a" "g")).2.store).after
      [createAgent "b" "g"]).answer updateAgent).1.isOk = true := by decide +kernel
  have unwritten : (vacant.answer (createAgent "a" "g")).2.store.writes .agent ⟨"d", "a"⟩
      [createAgent "b" "g"] = 0 := by decide +kernel
  have few : (vacant.answer (createAgent "a" "g")).2.store.writes .agent ⟨"d", "a"⟩
      [createAgent "b" "g"] < UInt64.size := by rw [unwritten]; decide
  exact ⟨succeeded, unwritten,
    (unwritten_iff_stored given few (.inl rfl) rfl rfl succeeded).mp unwritten⟩

/-- An agent that is deleted and created again is at its first version again: what was made from
the old one is accepted in place of the new one. -/
theorem recreated_overwritten :
    let created := (vacant.answer (createAgent "a" "g")).2.store
    let between := [.delete .agent ⟨"d", "a"⟩, createAgent "a" "i"]
    createdAgent ∈ (createAgent "a" "g").given (vacant.answer (createAgent "a" "g")).1 ∧
      ((created.after between).answer updateAgent).1.isOk = true ∧
      created.writes .agent ⟨"d", "a"⟩ between = 2 := by
  have found : (vacant.answer (createAgent "a" "g")).2.store.find? .agent ⟨"d", "a"⟩ =
      some createdAgent := rfl
  have deleted := answer_delete_of_alone found (by decide +kernel)
  refine ⟨List.mem_singleton.mpr rfl, ?_, ?_⟩
  · rw [after_cons, deleted]
    decide +kernel
  · rw [writes, isWrittenBy, deleted]
    decide +kernel

/-! ### Writes made twice -/

theorem next_version_ne (v : UInt64) : v ≠ v + 1 := by
  intro h
  exact absurd (UInt64.add_eq_left.mp h.symm) (by decide)

/-- A creation or replacement that succeeded is a conflict wherever the record is as it left it. -/
theorem answer_again {c : Call} (isWrite : c.isWrite = true) (keeps : c.method ≠ .delete)
    (succeeded : (s.answer c).1.isOk = true)
    (same : ∀ k, c.key? = some k → t.find? c.kind k = (s.answer c).2.store.find? c.kind k) :
    ∃ e, (t.answer c).1 = .error e ∧ t.Stays (t.answer c).2 ∧ e.isConflict = true := by
  cases c with
  | get kind key => cases isWrite
  | list kind ns => cases isWrite
  | delete kind key => exact absurd rfl keeps
  | create kind r =>
    have there := same r.key rfl
    rcases s.answer_create kind r with ⟨e, uids, failed, -⟩ | ⟨uid, s', done, -, puts, -⟩
    · rw [failed] at succeeded
      cases succeeded
    · rw [done] at there
      have found : t.find? kind r.key = some (r.admitted uid) := there.trans puts.found
      rw [answer_create_of_found (r := r) (filed_find? puts.found).2 found]
      exact ⟨_, rfl, ⟨_, t.goesOn_uidsAfterRefusal r, rfl⟩, rfl⟩
  | update kind r =>
    have there := same r.key rfl
    rcases s.answer_update kind r with ⟨e, failed⟩ | ⟨current, s', done, found, version, puts, -⟩
    · rw [failed] at succeeded
      cases succeeded
    · rw [done] at there
      have next := there.trans (puts.found_at (filed_find? found).1)
      have failed := commit_replace_of_stale Record.updated (fun _ _ => rfl) next
        (version ▸ next_version_ne current.metadata.resourceVersion)
      exact ⟨_, congrArg Prod.fst failed, .of_eq (congrArg Prod.snd failed), rfl⟩
  | updateStatus kind r =>
    have there := same r.key rfl
    rcases s.answer_updateStatus kind r with ⟨e, failed⟩ |
        ⟨current, s', done, found, version, puts, -⟩
    · rw [failed] at succeeded
      cases succeeded
    · rw [done] at there
      have next := there.trans (puts.found_at (filed_find? found).1)
      have failed := commit_replace_of_stale Record.statusUpdated (fun _ _ => rfl) next
        (version ▸ next_version_ne current.metadata.resourceVersion)
      exact ⟨_, congrArg Prod.fst failed, .of_eq (congrArg Prod.snd failed), rfl⟩

end Store

end ControlPlane
