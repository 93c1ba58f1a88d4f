import ControlPlane.Proofs.Store.Versions
import Mathlib.Data.List.Induction

/-!
Revisions: the writes of a record since it was created. A record that is stored after a run of
calls was created by one of them and has been stored ever since (`Store.created_of_stored`), and it
is what the successful writes since then have made of it (`Store.find?_after_revisions`). So its
versions count those writes, and each of its parts is as the last write of that part left it
(`Store.stored_revisedFrom`).
-/

namespace ControlPlane

variable {κ : Type} [Address κ]

/-! ### Revisions of a record -/

/-- A write of a record that is stored. -/
inductive Revision where
  /-- A write of the specification, the labels and the owners. -/
  | content (incoming : Record)
  | status (incoming : Record)

namespace Revision

/-- What a write makes of the stored record. -/
def apply (current : Record) : Revision → Record
  | content incoming => current.updated incoming
  | status incoming => current.statusUpdated incoming

/-- What writes, one after another, make of a record. -/
def applyAll (r : Record) (revisions : List Revision) : Record := revisions.foldl apply r

/-- The records whose specification, labels and owners were written. -/
def contents : List Revision → List Record
  | [] => []
  | content incoming :: later => incoming :: contents later
  | status _ :: later => contents later

/-- The records whose status was written. -/
def statuses : List Revision → List Record
  | [] => []
  | content _ :: later => statuses later
  | status incoming :: later => incoming :: statuses later

/-- The last of the records that came later, or the first one if none did. -/
def latest (first : Record) (later : List Record) : Record := later.getLast?.getD first

/-- How many of the records that came one after another changed the specification. -/
def specChanges (spec : Json) : List Record → Nat
  | [] => 0
  | next :: later => (if next.spec == spec then 0 else 1) + specChanges next.spec later

variable {r current : Record} {revisions : List Revision}

theorem latest_cons {next : Record} {later : List Record} :
    latest r (next :: later) = latest next later := by
  rw [latest, List.getLast?_cons, Option.getD_some, latest]

theorem specChanges_le (spec : Json) (later : List Record) :
    specChanges spec later ≤ later.length := by
  induction later generalizing spec with
  | nil => exact Nat.le_refl 0
  | cons next later ih =>
    have rest := ih next.spec
    simp only [specChanges, List.length_cons]
    split <;> omega

theorem length_contents_le (revisions : List Revision) :
    (contents revisions).length ≤ revisions.length := by
  induction revisions with
  | nil => exact Nat.le_refl 0
  | cons revision later ih =>
    cases revision with
    | content incoming => exact Nat.succ_le_succ ih
    | status incoming => exact Nat.le_succ_of_le ih

@[simp] theorem apply_key (current : Record) (revision : Revision) :
    (revision.apply current).key = current.key := by
  cases revision <;> rfl

@[simp] theorem apply_uid (current : Record) (revision : Revision) :
    (revision.apply current).metadata.uid = current.metadata.uid := by
  cases revision <;> rfl

theorem apply_version (current : Record) (revision : Revision) :
    (revision.apply current).metadata.resourceVersion = current.metadata.resourceVersion + 1 := by
  cases revision <;> rfl

theorem applyAll_key (r : Record) (revisions : List Revision) :
    (applyAll r revisions).key = r.key := by
  induction revisions generalizing r with
  | nil => rfl
  | cons revision later ih => exact (ih _).trans (apply_key r revision)

theorem applyAll_uid (r : Record) (revisions : List Revision) :
    (applyAll r revisions).metadata.uid = r.metadata.uid := by
  induction revisions generalizing r with
  | nil => rfl
  | cons revision later ih => exact (ih _).trans (apply_uid r revision)

/-- Every write raises the version. -/
theorem applyAll_version (r : Record) (revisions : List Revision) :
    (applyAll r revisions).metadata.resourceVersion =
      r.metadata.resourceVersion + UInt64.ofNat revisions.length := by
  induction revisions generalizing r with
  | nil => exact (UInt64.add_zero _).symm
  | cons revision later ih =>
    have next := ih (revision.apply r)
    rw [apply_version, UInt64.add_assoc, UInt64.add_comm 1] at next
    rw [List.length_cons, UInt64.ofNat_add]
    exact next

/-- A write of another specification raises the generation. -/
theorem applyAll_generation (r : Record) (revisions : List Revision) :
    (applyAll r revisions).metadata.generation =
      r.metadata.generation + UInt64.ofNat (specChanges r.spec (contents revisions)) := by
  induction revisions generalizing r with
  | nil => exact (UInt64.add_zero _).symm
  | cons revision later ih =>
    have next := ih (revision.apply r)
    cases revision with
    | status incoming => exact next
    | content incoming =>
      simp only [apply, Record.updated] at next
      simp only [contents, specChanges, UInt64.ofNat_add]
      refine Eq.trans next ?_
      split
      · rw [show UInt64.ofNat 0 = 0 from rfl, UInt64.zero_add]
      · rw [UInt64.add_assoc]
        rfl

/-- The specification, the labels and the owners are those that were written last. -/
theorem applyAll_content (r : Record) (revisions : List Revision) :
    (applyAll r revisions).spec = (latest r (contents revisions)).spec ∧
      (applyAll r revisions).metadata.labels = (latest r (contents revisions)).metadata.labels ∧
      (applyAll r revisions).metadata.ownerReferences =
        (latest r (contents revisions)).metadata.ownerReferences := by
  suffices same : ∀ q : Record, q.spec = r.spec → q.metadata.labels = r.metadata.labels →
      q.metadata.ownerReferences = r.metadata.ownerReferences →
        (applyAll q revisions).spec = (latest r (contents revisions)).spec ∧
          (applyAll q revisions).metadata.labels = (latest r (contents revisions)).metadata.labels ∧
          (applyAll q revisions).metadata.ownerReferences =
            (latest r (contents revisions)).metadata.ownerReferences from same r rfl rfl rfl
  induction revisions generalizing r with
  | nil => exact fun q spec labels owners => ⟨spec, labels, owners⟩
  | cons revision later ih =>
    intro q spec labels owners
    cases revision with
    | status incoming => exact ih r (q.statusUpdated incoming) spec labels owners
    | content incoming =>
      rw [contents, latest_cons]
      exact ih incoming (q.updated incoming) rfl rfl rfl

/-- The status is the one that was written last. -/
theorem applyAll_status (r : Record) (revisions : List Revision) :
    (applyAll r revisions).status = (latest r (statuses revisions)).status := by
  suffices same : ∀ q : Record, q.status = r.status →
      (applyAll q revisions).status = (latest r (statuses revisions)).status from same r rfl
  induction revisions generalizing r with
  | nil => exact fun q status => status
  | cons revision later ih =>
    intro q status
    cases revision with
    | content incoming => exact ih r (q.updated incoming) status
    | status incoming =>
      rw [statuses, latest_cons]
      exact ih incoming (q.statusUpdated incoming) rfl

end Revision

/-- A record in terms of how it was created and of the writes since. -/
structure Record.RevisedFrom (r created : Record) (revisions : List Revision) : Prop where
  key : r.key = created.key
  uid : r.metadata.uid = created.metadata.uid
  version : r.metadata.resourceVersion.toNat = 1 + revisions.length
  generation : r.metadata.generation.toNat =
    1 + Revision.specChanges created.spec (Revision.contents revisions)
  spec : r.spec = (Revision.latest created (Revision.contents revisions)).spec
  labels : r.metadata.labels =
    (Revision.latest created (Revision.contents revisions)).metadata.labels
  ownerReferences : r.metadata.ownerReferences =
    (Revision.latest created (Revision.contents revisions)).metadata.ownerReferences
  status : r.status = (Revision.latest created (Revision.statuses revisions)).status

/-- What counts up from one does not wrap as long as there are more numbers. -/
theorem Revision.toNat_one_add {v : UInt64} {n : Nat} (counts : v = 1 + UInt64.ofNat n)
    (few : n + 1 < UInt64.size) : v.toNat = 1 + n := by
  rw [counts, UInt64.toNat_add, UInt64.toNat_ofNat_of_lt' (by omega)]
  exact Nat.mod_eq_of_lt (by rw [Nat.add_comm] at few; exact few)

/-- Few writes of a new record. -/
theorem Revision.revisedFrom_applyAll {created : Record} {revisions : List Revision}
    (version : created.metadata.resourceVersion = 1) (generation : created.metadata.generation = 1)
    (few : revisions.length + 1 < UInt64.size) :
    (applyAll created revisions).RevisedFrom created revisions := by
  obtain ⟨spec, labels, owners⟩ := applyAll_content created revisions
  have changes := Nat.le_trans (specChanges_le created.spec (contents revisions))
    (length_contents_le revisions)
  constructor
  · exact applyAll_key created revisions
  · exact applyAll_uid created revisions
  · have counts := applyAll_version created revisions
    rw [version] at counts
    exact toNat_one_add counts few
  · have counts := applyAll_generation created revisions
    rw [generation] at counts
    exact toNat_one_add counts (by omega)
  · exact spec
  · exact labels
  · exact owners
  · exact applyAll_status created revisions

/-! ### Calls -/

/-- The write that a call asks for. -/
def Call.revision? : Call → Option Revision
  | .update _ r => some (.content r)
  | .updateStatus _ r => some (.status r)
  | _ => none

namespace Store

variable {s : Store κ} {kind : Kind} {key : RecordKey} {r q : Record} {c : Call}

/-- A call that asks for a write fails and changes nothing, or it makes the write and announces what
it made. -/
theorem answer_revision (s : Store κ) {revision : Revision} (asks : c.revision? = some revision) :
    ((s.answer c).2 = ⟨s, []⟩ ∧ (s.answer c).1.isOk = false) ∨
      ∃ k current t, c.key? = some k ∧ s.find? c.kind k = some current ∧
        (s.answer c).1.isOk = true ∧
        (s.answer c).2 = ⟨t, [⟨.modified, c.kind, revision.apply current⟩]⟩ ∧
        s.Puts t c.kind (revision.apply current) ∧ t.uids = s.uids := by
  cases c with
  | update kind incoming =>
    obtain rfl := Option.some.inj asks
    rcases s.answer_update kind incoming with ⟨e, failed⟩ | ⟨current, t, done, found, -, puts, uids⟩
    · rw [failed]
      exact .inl ⟨rfl, rfl⟩
    · rw [done]
      exact .inr ⟨incoming.key, current, t, rfl, found, rfl, rfl, puts, uids⟩
  | updateStatus kind incoming =>
    obtain rfl := Option.some.inj asks
    rcases s.answer_updateStatus kind incoming with ⟨e, failed⟩ |
        ⟨current, t, done, found, -, puts, uids⟩
    · rw [failed]
      exact .inl ⟨rfl, rfl⟩
    · rw [done]
      exact .inr ⟨incoming.key, current, t, rfl, found, rfl, rfl, puts, uids⟩
  | _ => cases asks

/-- What a call does: nothing to the records, or it creates a record, or makes a write, or drops what
falls with a record. -/
inductive Does (s : Store κ) : Call → Prop where
  | nothing {c : Call} (stays : s.Stays (s.answer c).2) : Does s c
  | creates {kind : Kind} {asked : Record} {uid : String} {t : Store κ}
      (done : s.answer (.create kind asked) =
        (.ok (asked.admitted uid), ⟨t, [⟨.added, kind, asked.admitted uid⟩]⟩))
      (absent : s.find? kind asked.key = none) (puts : s.Puts t kind (asked.admitted uid))
      (identified : (uid, t.uids) = s.uids.identify asked.metadata.uid) :
      Does s (.create kind asked)
  | revises {c : Call} {revision : Revision} {key : RecordKey} {current : Record} {t : Store κ}
      (asks : c.revision? = some revision) (found : s.find? c.kind key = some current)
      (ok : (s.answer c).1.isOk = true)
      (done : (s.answer c).2 = ⟨t, [⟨.modified, c.kind, revision.apply current⟩]⟩)
      (puts : s.Puts t c.kind (revision.apply current)) (uids : t.uids = s.uids) : Does s c
  | drops {kind : Kind} {key : RecordKey} {r : Record} (found : s.find? kind key = some r) :
      Does s (.delete kind key)

theorem does (s : Store κ) (c : Call) : s.Does c := by
  cases asks : c.revision? with
  | some revision =>
    rcases s.answer_revision asks with ⟨unchanged, -⟩ |
        ⟨k, current, t, -, found, ok, done, puts, uids⟩
    · exact .nothing (.of_eq unchanged)
    · exact .revises asks found ok done puts uids
  | none =>
    cases c with
    | get kind key => exact .nothing (.of_eq rfl)
    | list kind ns => exact .nothing (.of_eq rfl)
    | update kind incoming => cases asks
    | updateStatus kind incoming => cases asks
    | create kind asked =>
      rcases s.answer_create kind asked with ⟨e, uids, failed, goesOn⟩ |
          ⟨uid, t, done, absent, puts, identified⟩
      · exact .nothing ⟨uids, goesOn, congrArg Prod.snd failed⟩
      · exact .creates done absent puts identified
    | delete kind key =>
      cases found : s.find? kind key with
      | some r => exact .drops found
      | none =>
        refine .nothing (.of_eq ?_)
        simp only [answer, delete, found, Option.isNone_none, if_true, commit]

/-- The write of the record at a key that a call makes. -/
def revision? (s : Store κ) (kind : Kind) (key : RecordKey) (c : Call) : Option Revision :=
  if s.isWrittenBy kind key c then c.revision? else none

/-- The writes of the record at a key that calls, made one after another, make. -/
def revisions (s : Store κ) (kind : Kind) (key : RecordKey) : List Call → List Revision
  | [] => []
  | c :: rest => (s.revision? kind key c).toList ++ (s.answer c).2.store.revisions kind key rest

theorem length_revisions_le (s : Store κ) (kind : Kind) (key : RecordKey) (calls : List Call) :
    (s.revisions kind key calls).length ≤ calls.length := by
  induction calls generalizing s with
  | nil => exact Nat.le_refl 0
  | cons c rest ih =>
    have first : (s.revision? kind key c).toList.length ≤ 1 := by
      cases s.revision? kind key c <;> simp
    have later := ih (s.answer c).2.store
    rw [revisions, List.length_append, List.length_cons]
    omega

/-- A call that asks for no write leaves a record as it is, if it leaves it at all. -/
theorem find?_answer_of_unasked (asksNone : c.revision? = none) (found : s.find? kind key = some r)
    (next : (s.answer c).2.store.find? kind key = some q) : q = r := by
  have kept : (s.answer c).2.store.find? kind key = s.find? kind key := by
    cases s.does c with
    | nothing stays => exact find?_of_records stays.records kind key
    | revises asks =>
      rw [asksNone] at asks
      cases asks
    | drops => exact next.trans ((s.drops_delete _ _).of_find? next).symm
    | @creates k asked uid t done absent puts =>
      rw [done]
      refine puts.others kind key fun same => ?_
      -- Nothing is created where a record is.
      rw [find?, same, ← find?, show (asked.admitted uid).key = asked.key from rfl, absent] at found
      cases found
  rw [next, found] at kept
  exact Option.some.inj kept

/-- A record that stays stored is what the write that a call makes of it leaves. -/
theorem find?_answer_revised (found : s.find? kind key = some r)
    (next : (s.answer c).2.store.find? kind key = some q) :
    q = Revision.applyAll r (s.revision? kind key c).toList := by
  unfold revision?
  cases asks : c.revision? with
  | none =>
    rw [ite_self]
    exact find?_answer_of_unasked asks found next
  | some revision =>
    have isWrite : c.isWrite = true := by cases c <;> first | rfl | cases asks
    rcases s.answer_revision asks with ⟨unchanged, failed⟩ |
        ⟨k, current, t, named, there, ok, done, puts, -⟩
    · rw [isWrittenBy, failed, Bool.and_false, if_neg (by decide)]
      rw [unchanged, found] at next
      exact (Option.some.inj next).symm
    · rw [done] at next
      have home := (filed_find? there).1
      rw [← revision.apply_key current] at home
      by_cases same : Address.of (κ := κ) c.kind k = Address.of kind key
      · rw [isWrittenBy, ok, Bool.and_true,
          if_pos (Call.isWriteAt_iff.mpr ⟨isWrite, k, named, same⟩)]
        rw [find?, same, ← find?, found] at there
        obtain rfl := Option.some.inj there
        have written : t.find? kind key = some (revision.apply r) := by
          rw [find?, ← same, home, ← find?, puts.found]
        exact Option.some.inj (next.symm.trans written)
      · have other : c.isWriteAt κ kind key = false := by
          rw [Bool.eq_false_iff, ne_eq, Call.isWriteAt_iff]
          rintro ⟨-, k', named', same'⟩
          obtain rfl := Option.some.inj (named.symm.trans named')
          exact same same'
        rw [isWrittenBy, other, Bool.false_and, if_neg (by decide)]
        have kept := puts.others kind key fun here => same (home.trans here.symm)
        exact Option.some.inj (next.symm.trans (kept.trans found))

/-- While a record stays stored, it is what the writes of it leave. -/
theorem find?_after_revisions {calls : List Call} (found : s.find? kind key = some r)
    (stored : s.Throughout (fun t => (t.find? kind key).isSome) calls) :
    (s.after calls).find? kind key =
      some (Revision.applyAll r (s.revisions kind key calls)) := by
  induction calls generalizing s r with
  | nil => exact found
  | cons c rest ih =>
    have later := (throughout_cons.mp stored).2
    obtain ⟨q, next⟩ := Option.isSome_iff_exists.mp later.first
    rw [after_cons, ih next later, find?_answer_revised found next, revisions,
      Revision.applyAll, Revision.applyAll, Revision.applyAll, List.foldl_append]

/-! ### Creations -/

/-- A record that is found after one was put is that one, or was there. -/
theorem Puts.new_or_old {t : Store κ} (puts : s.Puts t kind r) {kind' : Kind}
    (found : t.find? kind' key = some q) :
    Address.of (κ := κ) kind' key = Address.of kind r.key ∧ q = r ∨
      s.find? kind' key = some q := by
  by_cases here : Address.of (κ := κ) kind' key = Address.of kind r.key
  · rw [find?, here, ← find?, puts.found] at found
    exact .inl ⟨here, (Option.some.inj found).symm⟩
  · rw [puts.others kind' key here] at found
    exact .inr found

/-- What the identities of a store are does not change. -/
theorem text_answer (s : Store κ) (c : Call) : (s.answer c).2.store.uids.text = s.uids.text := by
  cases s.does c with
  | nothing stays =>
    obtain ⟨uids, goesOn, stays⟩ := stays
    rw [stays]
    exact goesOn.text
  | creates done absent puts identified =>
    rw [done]
    exact (UidSupply.goesOn_identify identified).text
  | revises asks found ok done puts uids =>
    rw [done]
    exact congrArg UidSupply.text uids
  | drops => exact congrArg UidSupply.text (s.drops_delete _ _).uids

theorem text_after (s : Store κ) (calls : List Call) : (s.after calls).uids.text = s.uids.text := by
  induction calls generalizing s with
  | nil => rfl
  | cons c rest ih => exact (ih _).trans (s.text_answer c)

/-- A record appears where it is created. -/
theorem create_of_appears (absent : s.find? kind key = none)
    (appears : (s.answer c).2.store.find? kind key = some r) :
    ∃ asked uid t, c = .create kind asked ∧
      s.answer (.create kind asked) = (.ok r, ⟨t, [⟨.added, kind, r⟩]⟩) ∧
      r = asked.admitted uid ∧ (uid, t.uids) = s.uids.identify asked.metadata.uid := by
  cases s.does c with
  | nothing stays =>
    rw [find?_of_records stays.records, absent] at appears
    cases appears
  | @revises c revision k current t asks there ok done puts =>
    rw [done] at appears
    rcases puts.new_or_old appears with ⟨here, -⟩ | before
    · -- The record that was written was there.
      rw [revision.apply_key, ← (filed_find? there).1] at here
      rw [find?, here, ← find?, there] at absent
      cases absent
    · rw [absent] at before
      cases before
  | drops =>
    rw [(s.drops_delete _ _).of_find? appears] at absent
    cases absent
  | @creates k asked uid t done _ puts identified =>
    rw [done] at appears
    rcases puts.new_or_old appears with ⟨here, rfl⟩ | before
    · obtain rfl : kind = k := by
        rw [← Address.kind_of (κ := κ) kind key, here, Address.kind_of]
      exact ⟨asked, uid, t, rfl, done, rfl, identified⟩
    · rw [absent] at before
      cases before

theorem throughout_concat {P : Store κ → Prop} {calls : List Call} :
    s.Throughout P (calls ++ [c]) ↔ s.Throughout P calls ∧ P (s.after (calls ++ [c])) := by
  constructor
  · intro all
    exact ⟨fun earlier isPrefix => all earlier (isPrefix.trans (List.prefix_append ..)), all.last⟩
  · rintro ⟨before, last⟩ earlier isPrefix
    rcases List.prefix_concat_iff.mp isPrefix with rfl | isPrefix
    · exact last
    · exact before earlier isPrefix

/-- Where the record at a key comes from: after the earlier calls it was created as it was asked
for, and through the later ones it has been stored. -/
structure Origin (s : Store κ) (kind : Kind) (key : RecordKey) (earlier : List Call)
    (asked created : Record) (t : Store κ) (later : List Call) : Prop where
  answered : (s.after earlier).answer (.create kind asked) =
    (.ok created, ⟨t, [⟨.added, kind, created⟩]⟩)
  admitted : created = asked.admitted created.metadata.uid
  identified : (created.metadata.uid, t.uids) =
    (s.after earlier).uids.identify asked.metadata.uid
  found : t.find? kind key = some created
  stored : t.Throughout (fun u => (u.find? kind key).isSome) later

theorem Origin.after {earlier later : List Call} {asked created : Record} {t : Store κ}
    (h : s.Origin kind key earlier asked created t later) :
    s.after (earlier ++ .create kind asked :: later) = t.after later := by
  rw [after_append, after_cons, h.answered]

/-- A record that is stored after calls was created by one of them, and stored ever since. -/
theorem created_of_stored {calls : List Call} (absent : s.find? kind key = none)
    (found : (s.after calls).find? kind key = some r) :
    ∃ earlier asked created t later, calls = earlier ++ .create kind asked :: later ∧
      s.Origin kind key earlier asked created t later := by
  -- The creation is the last one, so the run is taken apart from its end.
  induction calls using List.reverseRecOn generalizing r with
  | nil =>
    rw [after_nil, absent] at found
    cases found
  | append_singleton calls c ih =>
    rw [after_append] at found
    cases before : (s.after calls).find? kind key with
    | none =>
      obtain ⟨asked, uid, t, rfl, done, rfl, identified⟩ := create_of_appears before found
      have there : t.find? kind key = some (asked.admitted uid) := by
        rw [after_cons, done] at found
        exact found
      refine ⟨calls, asked, _, t, [], rfl, done, rfl, identified, there, ?_⟩
      intro earlier isPrefix
      rw [List.prefix_nil.mp isPrefix, after_nil, there]
      rfl
    | some q =>
      obtain ⟨earlier, asked, created, t, later, rfl, origin⟩ := ih before
      have last : (t.after (later ++ [c])).find? kind key = some r := by
        rw [origin.after] at found
        rw [after_append, found]
      refine ⟨earlier, asked, created, t, later ++ [c], by simp, origin.answered, origin.admitted,
        origin.identified, origin.found, throughout_concat.mpr ⟨origin.stored, ?_⟩⟩
      rw [last]
      rfl

/-- The identity that is drawn for a record is not empty. -/
theorem identify_ne_empty {supply next : UidSupply} {uid given : String}
    (named : ∀ n, supply.text n ≠ "") (identified : (given, next) = supply.identify uid) :
    given ≠ "" := by
  unfold UidSupply.identify at identified
  split at identified
  · obtain ⟨rfl, -⟩ := Prod.mk.inj identified
    exact named _
  · rename_i nonempty
    obtain ⟨rfl, -⟩ := Prod.mk.inj identified
    rintro rfl
    exact nonempty rfl

theorem Origin.uid_ne_empty {earlier later : List Call} {asked created : Record} {t : Store κ}
    (h : s.Origin kind key earlier asked created t later) (named : ∀ n, s.uids.text n ≠ "") :
    created.metadata.uid ≠ "" := by
  refine identify_ne_empty ?_ h.identified
  rw [text_after]
  exact named

/-- Every stored record has an identity. -/
theorem uid_ne_empty {uids : UidSupply} (named : ∀ n, uids.text n ≠ "") {calls : List Call}
    (found : ((empty uids : Store κ).after calls).find? kind key = some r) :
    r.metadata.uid ≠ "" := by
  obtain ⟨earlier, asked, created, t, later, rfl, origin⟩ := created_of_stored rfl found
  rw [origin.after, find?_after_revisions origin.found origin.stored] at found
  rw [← Option.some.inj found, Revision.applyAll_uid]
  exact origin.uid_ne_empty named

/-- Every record that is stored after fewer calls than there are versions is at the address of its
own kind, namespace and name. It was created by one of the calls, under an identity that is not
empty, and has been stored ever since; its identity is still that one, its version and its
generation count the successful writes since, and each of its parts is as it was written last. -/
theorem stored_revisedFrom {uids : UidSupply} (named : ∀ n, uids.text n ≠ "") {calls : List Call}
    (few : calls.length < UInt64.size) {a : κ} {r : Record}
    (stored : ((empty uids : Store κ).after calls).records.find? a = some r) :
    a = Address.of (Address.kind a) r.key ∧
      ∃ earlier asked created t later,
        calls = earlier ++ .create (Address.kind a) asked :: later ∧
        (empty uids : Store κ).Origin (Address.kind a) r.key earlier asked created t later ∧
        created.metadata.uid ≠ "" ∧
        r.RevisedFrom created (t.revisions (Address.kind a) r.key later) := by
  have home := (((empty uids : Store κ).after calls).filed a r stored).1
  have found : ((empty uids : Store κ).after calls).find? (Address.kind a) r.key = some r := by
    rw [find?, ← home, stored]
  obtain ⟨earlier, asked, created, t, later, rfl, origin⟩ := created_of_stored rfl found
  refine ⟨home, earlier, asked, created, t, later, rfl, origin, origin.uid_ne_empty named, ?_⟩
  rw [origin.after, find?_after_revisions origin.found origin.stored] at found
  have fewer := t.length_revisions_le (Address.kind a) r.key later
  rw [List.length_append, List.length_cons] at few
  have revised : (Revision.applyAll created (t.revisions (Address.kind a) r.key later)).RevisedFrom
      created (t.revisions (Address.kind a) r.key later) := by
    refine Revision.revisedFrom_applyAll ?_ ?_ ?_
    · rw [origin.admitted]
      rfl
    · rw [origin.admitted]
      rfl
    · omega
  rwa [Option.some.inj found] at revised

theorem vacant_named (n : Nat) : vacant.uids.text n ≠ "" := by
  intro empty
  have short := congrArg String.length empty
  simp [vacant, Store.empty] at short

/-- An agent that is given another model, then a label, then a status, while another agent is
created; the first write is tried again in between and fails. -/
def agentRevised : List Call :=
  let labelled : Record :=
    { createdAgent with
      spec := .obj [("model", .str "h")]
      metadata := { createdAgent.metadata with
        resourceVersion := 2
        labels := .ofList [("team", "t")] } }
  [createAgent "a" "g", updateAgent, updateAgent, .update .agent labelled, createAgent "b" "g",
    .updateStatus .agent { createdAgent with
      status := .str "ready"
      metadata := { createdAgent.metadata with resourceVersion := 3 } }]

/-- It is at its fourth version, and at the second generation of its specification. -/
theorem agentRevised_revisedFrom : ∃ r : Record,
    (vacant.after agentRevised).records.find? ⟨.agent, ⟨"d", "a"⟩⟩ = some r ∧
      r.metadata.resourceVersion = 4 ∧ r.metadata.generation = 2 ∧
      ∃ earlier asked created t later,
        agentRevised = earlier ++ .create .agent asked :: later ∧
        vacant.Origin .agent r.key earlier asked created t later ∧
        created.metadata.uid ≠ "" ∧ r.RevisedFrom created (t.revisions .agent r.key later) := by
  have versions : ((vacant.after agentRevised).records.find? ⟨.agent, ⟨"d", "a"⟩⟩).map
      (fun r => (r.metadata.resourceVersion, r.metadata.generation)) = some (4, 2) := by
    decide +kernel
  obtain ⟨r, stored, counted⟩ := Option.map_eq_some_iff.mp versions
  obtain ⟨version, generation⟩ := Prod.mk.inj counted
  exact ⟨r, stored, version, generation,
    (stored_revisedFrom vacant_named (by decide) stored).2⟩

end Store

end ControlPlane
