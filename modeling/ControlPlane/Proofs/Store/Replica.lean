import ControlPlane.Proofs.Store.Cascade
import ControlPlane.Proofs.Store.Revisions

/-!
Replicas. Someone who only hears what a store announces, and keeps what is added and modified and
drops what is deleted, has the records of the store after every call
(`Store.announced_replicates`). What is announced of one record is its lives, one after another
(`Lived`): each begins with its addition at the first version, goes on through the next versions in
turn, and ends with the deletion of the record as it was at last.
-/

namespace ControlPlane

variable {κ : Type} [Address κ]

/-! ### Replicas -/

/-- What there is of a record after an announcement of it. -/
def Announcement.leaves (a : Announcement) : Option Record :=
  match a.change with
  | .added | .modified => some a.record
  | .deleted => none

/-- The records that someone who hears a store keeps, by their kinds and keys. -/
abbrev Replica := Dictionary RecordId Record

namespace Replica

/-- Keeps the record of an announcement, or drops it. -/
def hear (m : Replica) (a : Announcement) : Replica :=
  match a.change with
  | .added | .modified => m.insert a.id a.record
  | .deleted => m.erase a.id

/-- What is kept after announcements, heard in turn. -/
def replay (log : List Announcement) : Replica := log.foldl hear ∅

theorem find?_hear_self (m : Replica) (a : Announcement) :
    (m.hear a).find? a.id = a.leaves := by
  unfold hear Announcement.leaves
  cases a.change with
  | added => exact m.find?_insert_self a.id a.record
  | modified => exact m.find?_insert_self a.id a.record
  | deleted => exact m.find?_erase_self a.id

theorem find?_hear_of_ne (m : Replica) {a : Announcement} {i : RecordId} (other : i ≠ a.id) :
    (m.hear a).find? i = m.find? i := by
  unfold hear
  cases a.change with
  | added => exact m.find?_insert_of_ne a.record other
  | modified => exact m.find?_insert_of_ne a.record other
  | deleted => exact m.find?_erase_of_ne other

/-- The last announcement about a record tells what is kept of it. -/
theorem find?_replay (log : List Announcement) (i : RecordId) :
    (replay log).find? i = (log.filter (·.id = i)).getLast?.bind Announcement.leaves := by
  induction log using List.reverseRecOn with
  | nil => rfl
  | append_singleton log a ih =>
    have last : replay (log ++ [a]) = (replay log).hear a := List.foldl_append
    rw [last, List.filter_append, List.filter_singleton]
    by_cases about : a.id = i
    · subst about
      rw [find?_hear_self, decide_eq_true rfl, cond_true, List.getLast?_concat]
      rfl
    · rw [find?_hear_of_ne _ (Ne.symm about), ih, decide_eq_false about, cond_false,
        List.append_nil]

end Replica

/-! ### Lives of a record -/

/-- What is announced of a record from its addition on, up to how it is at last. -/
structure Life (log : List Announcement) (last : Record) : Prop where
  changes : ∃ n, log.map (·.change) = .added :: List.replicate n .modified
  /-- The versions count up from the first, and begin anew when there are no more. -/
  versions : log.map (·.record.metadata.resourceVersion) =
    (List.range' 1 log.length).map UInt64.ofNat
  /-- As long as there are more, they are 1, 2, 3 and so on. -/
  counted : log.length < UInt64.size →
    log.map (·.record.metadata.resourceVersion.toNat) = List.range' 1 log.length
  last : log.getLast?.map (·.record) = some last

/-- What is announced of a record in its past lives and in its present one, if it is there now. -/
def Lived (log : List Announcement) (now : Option Record) : Prop :=
  ∃ (past : List (List Announcement × Announcement)) (present : List Announcement),
    log = past.flatMap (fun life => life.1 ++ [life.2]) ++ present ∧
      (∀ life ∈ past, Life life.1 life.2.record ∧ life.2.change = .deleted) ∧
      now.elim (present = []) (Life present)

/-- What is announced of a record when it goes from one state to another. -/
inductive Told : Option Record → List Announcement → Option Record → Prop where
  | nothing {o : Option Record} : Told o [] o
  | added {a : Announcement} (change : a.change = .added)
      (version : a.record.metadata.resourceVersion = 1) : Told none [a] (some a.record)
  | modified {a : Announcement} {r : Record} (change : a.change = .modified)
      (version : a.record.metadata.resourceVersion = r.metadata.resourceVersion + 1) :
      Told (some r) [a] (some a.record)
  | deleted {a : Announcement} (change : a.change = .deleted) : Told (some a.record) [a] none

section

variable {log new : List Announcement} {a : Announcement} {r : Record} {o o' : Option Record}

namespace Life

/-- Versions that count up from the first are 1, 2, 3 and so on. -/
theorem counted_of_versions
    (versions : log.map (·.record.metadata.resourceVersion) =
      (List.range' 1 log.length).map UInt64.ofNat) (few : log.length < UInt64.size) :
    log.map (·.record.metadata.resourceVersion.toNat) = List.range' 1 log.length := by
  calc log.map (·.record.metadata.resourceVersion.toNat)
      = (log.map (·.record.metadata.resourceVersion)).map UInt64.toNat := by
        rw [List.map_map, Function.comp_def]
    _ = (List.range' 1 log.length).map fun n => (UInt64.ofNat n).toNat := by
        rw [versions, List.map_map, Function.comp_def]
    _ = (List.range' 1 log.length).map id := by
        refine List.map_congr_left fun n mem => ?_
        rw [List.mem_range'_1] at mem
        exact UInt64.toNat_ofNat_of_lt' (by omega)
    _ = List.range' 1 log.length := List.map_id _

/-- The last version of a life is the number of its versions. -/
theorem version (h : Life log r) :
    r.metadata.resourceVersion = UInt64.ofNat log.length := by
  have last := congrArg List.getLast? h.versions
  obtain ⟨a, isLast, rfl⟩ := Option.map_eq_some_iff.mp h.last
  have nonempty : log.length ≠ 0 := by
    rw [Ne, List.length_eq_zero_iff]
    rintro rfl
    cases isLast
  rw [List.getLast?_map, isLast, List.getLast?_map, List.getLast?_range', if_neg nonempty,
    Nat.add_sub_cancel_left] at last
  exact Option.some.inj last

theorem added (change : a.change = .added) (version : a.record.metadata.resourceVersion = 1) :
    Life [a] a.record := by
  have versions : [a].map (·.record.metadata.resourceVersion) =
      (List.range' 1 [a].length).map UInt64.ofNat := by
    rw [List.map_singleton, version]
    rfl
  refine ⟨⟨0, ?_⟩, versions, counted_of_versions versions, rfl⟩
  rw [List.map_singleton, change]
  rfl

theorem modified (h : Life log r) (change : a.change = .modified)
    (version : a.record.metadata.resourceVersion = r.metadata.resourceVersion + 1) :
    Life (log ++ [a]) a.record := by
  obtain ⟨n, changes⟩ := h.changes
  have versions : (log ++ [a]).map (·.record.metadata.resourceVersion) =
      (List.range' 1 (log ++ [a]).length).map UInt64.ofNat := by
    rw [List.map_append, List.map_singleton, h.versions, version, h.version, List.length_append,
      List.length_singleton, List.range'_1_concat, List.map_append, List.map_singleton,
      Nat.add_comm 1, UInt64.ofNat_add]
    rfl
  refine ⟨⟨n + 1, ?_⟩, versions, counted_of_versions versions, ?_⟩
  · rw [List.map_append, changes, List.map_singleton, change, List.replicate_succ']
    rfl
  · rw [List.getLast?_concat]
    rfl

/-- While a record lives, the last that was announced of it leaves it as it is. -/
theorem leaves (h : Life log r) : log.getLast?.bind Announcement.leaves = some r := by
  obtain ⟨a, isLast, rfl⟩ := Option.map_eq_some_iff.mp h.last
  obtain ⟨n, changes⟩ := h.changes
  have mem : a.change ∈ log.map (·.change) :=
    List.mem_map_of_mem (List.mem_of_getLast? isLast)
  rw [isLast, Option.bind_some, Announcement.leaves]
  rw [changes, List.mem_cons] at mem
  rcases mem with change | mem
  · rw [change]
  · rw [List.eq_of_mem_replicate mem]

end Life

namespace Lived

/-- The last that was announced of a record tells whether it is there, and how. -/
theorem leaves (h : Lived log o) : log.getLast?.bind Announcement.leaves = o := by
  obtain ⟨past, present, rfl, ended, now⟩ := h
  cases o with
  | some r =>
    have isLast : present.getLast?.bind Announcement.leaves = some r := Life.leaves now
    obtain ⟨a, last, leaves⟩ := Option.bind_eq_some_iff.mp isLast
    rw [List.getLast?_append, last]
    exact leaves
  | none =>
    obtain rfl : present = [] := now
    rw [List.append_nil]
    rcases List.eq_nil_or_concat past with rfl | ⟨earlier, life, rfl⟩
    · rfl
    · have deleted := (ended life (by simp)).2
      rw [List.concat_eq_append, List.flatMap_append, List.flatMap_singleton, ← List.append_assoc,
        List.getLast?_concat, Option.bind_some, Announcement.leaves, deleted]

/-- Whatever is told of a record goes on with its lives: it begins a new one, or it goes on with the
present one, or it ends that. -/
theorem told (h : Lived log o) (told : Told o new o') : Lived (log ++ new) o' := by
  obtain ⟨past, present, rfl, ended, now⟩ := h
  cases told with
  | nothing => exact ⟨past, present, List.append_nil _, ended, now⟩
  | @added a change version =>
    obtain rfl : present = [] := now
    exact ⟨past, [a], by rw [List.append_nil], ended, Life.added change version⟩
  | @modified a r change version =>
    have life : Life present r := now
    exact ⟨past, present ++ [a], List.append_assoc .., ended, life.modified change version⟩
  | @deleted a change =>
    refine ⟨past ++ [(present, a)], [], ?_, ?_, rfl⟩
    · simp
    · intro life mem
      rcases List.mem_append.mp mem with mem | mem
      · exact ended life mem
      · rw [List.mem_singleton.mp mem]
        exact ⟨now, change⟩

end Lived

end

/-! ### What is told of a record by a call -/

namespace Store

variable {s t : Store κ} {kind : Kind} {key : RecordKey} {r : Record} {i : RecordId}

/-- The record of a kind and a key: the one that is found there, if the key is its own. -/
def named (s : Store κ) (i : RecordId) : Option Record :=
  (s.find? i.kind i.key).filter fun r => r.key = i.key

theorem named_eq_some_iff :
    s.named i = some r ↔ r.key = i.key ∧ s.find? i.kind i.key = some r := by
  rw [named, Option.filter_eq_some_iff, decide_eq_true_eq, and_comm]

theorem named_eq_some_iff_mem :
    s.named i = some r ↔ r.key = i.key ∧ r ∈ s.select i.kind none := by
  rw [named_eq_some_iff, mem_select_iff]
  exact and_congr_right fun own => by rw [own]

/-- Nothing is told of a record that stays as it is. -/
theorem told_nothing (same : t.named i = s.named i) : Told (s.named i) [] (t.named i) := by
  rw [same]
  exact .nothing

/-- What is told of the record that is put is told of nothing else. -/
theorem Puts.told {change : Change} (puts : s.Puts t kind r)
    (told : Told (s.find? kind r.key) [⟨change, kind, r⟩] (some r)) (i : RecordId) :
    Told (s.named i) (List.filter (·.id = i) [⟨change, kind, r⟩]) (t.named i) := by
  have own : ∀ q, s.find? kind r.key = some q → q.key = r.key :=
    fun q => key_of_find? (filed_find? puts.found).2
  by_cases about : (⟨kind, r.key⟩ : RecordId) = i
  · subst about
    have before : s.named ⟨kind, r.key⟩ = s.find? kind r.key := by
      apply Option.ext
      intro q
      rw [named_eq_some_iff]
      exact and_iff_right_of_imp (own q)
    have after : t.named ⟨kind, r.key⟩ = some r := named_eq_some_iff.mpr ⟨rfl, puts.found⟩
    rw [before, after, List.filter_singleton, Announcement.id, decide_eq_true rfl, cond_true]
    exact told
  · rw [List.filter_singleton, Announcement.id, decide_eq_false about, cond_false]
    apply told_nothing
    apply Option.ext
    intro q
    rw [named_eq_some_iff, named_eq_some_iff]
    refine and_congr_right fun named => ?_
    by_cases here : Address.of (κ := κ) i.kind i.key = Address.of kind r.key
    · -- The key has the address of the record that is put, and neither record there has that key.
      have sameKind : kind = i.kind := by
        rw [← Address.kind_of (κ := κ) kind r.key, ← here, Address.kind_of]
      have notOwn : i.key ≠ r.key := by
        intro sameKey
        exact about (by rw [sameKind, ← sameKey])
      constructor
      · intro found
        rw [find?, here, ← find?, puts.found] at found
        obtain rfl := Option.some.inj found
        exact absurd named.symm notOwn
      · intro found
        rw [find?, here, ← find?] at found
        exact absurd (named.symm.trans (own q found)) notOwn
    · rw [puts.others i.kind i.key here]

/-- Of announcements about different records, at most one is about a record. -/
theorem filter_id_of_mem {announced : List Announcement} {a : Announcement}
    (once : (announced.map Announcement.id).Nodup) (mem : a ∈ announced) :
    announced.filter (·.id = a.id) = [a] := by
  induction announced with
  | nil => cases mem
  | cons b rest ih =>
    obtain ⟨new, once⟩ := List.nodup_cons.mp once
    rcases List.mem_cons.mp mem with rfl | mem
    · rw [List.filter_cons_of_pos (by simp), List.filter_eq_nil_iff.mpr]
      intro b mem same
      rw [← of_decide_eq_true same] at new
      exact new (List.mem_map_of_mem mem)
    · rw [List.filter_cons_of_neg, ih once mem]
      intro same
      rw [of_decide_eq_true same] at new
      exact new (List.mem_map_of_mem mem)

/-- A deletion that finds a record tells of each record that it drops that it is deleted. -/
theorem told_delete (found : s.find? kind key = some r) (i : RecordId) :
    Told (s.named i) ((s.answer (.delete kind key)).2.announced.filter (·.id = i))
      ((s.answer (.delete kind key)).2.store.named i) := by
  have cascade := (delete_cascades found).2
  by_cases about : ∃ a ∈ (s.answer (.delete kind key)).2.announced, a.id = i
  · obtain ⟨a, mem, rfl⟩ := about
    obtain ⟨deleted, there, falls⟩ := (cascade.announced_iff a).mp mem
    have before : s.named a.id = some a.record := named_eq_some_iff.mpr ⟨rfl, there⟩
    have after : (s.answer (.delete kind key)).2.store.named a.id = none := by
      have gone : (s.answer (.delete kind key)).2.store.find? a.id.kind a.id.key = none :=
        cascade.gone _ falls
      rw [named, gone, Option.filter_none]
    rw [filter_id_of_mem cascade.once mem, before, after]
    exact .deleted deleted
  · have none : (s.answer (.delete kind key)).2.announced.filter (·.id = i) = [] := by
      rw [List.filter_eq_nil_iff]
      intro a mem same
      exact about ⟨a, mem, of_decide_eq_true same⟩
    rw [none]
    apply told_nothing
    apply Option.ext
    intro q
    rw [named_eq_some_iff, named_eq_some_iff]
    refine and_congr_right fun own => ?_
    by_cases falls : s.records.FallsWith (Address.of kind key) (Address.of i.kind i.key)
    · -- It would have been announced.
      have gone : (s.answer (.delete kind key)).2.store.find? i.kind i.key = Option.none :=
        cascade.gone _ falls
      rw [gone]
      refine iff_of_false nofun fun there => about ⟨⟨.deleted, i.kind, q⟩, ?_, ?_⟩
      · refine (cascade.announced_iff _).mpr ⟨rfl, ?_, ?_⟩
        · rwa [own]
        · rwa [own]
      · rw [Announcement.id, own]
    · have kept : (s.answer (.delete kind key)).2.store.find? i.kind i.key =
          s.find? i.kind i.key := cascade.kept _ falls
      rw [kept]

/-- A call that fails changes no record and announces nothing. -/
theorem stays_of_error {c : Call} {e : StoreError} (failed : (s.answer c).1 = .error e) :
    s.Stays (s.answer c).2 := by
  cases s.does c with
  | nothing stays => exact stays
  | creates done =>
    rw [done] at failed
    cases failed
  | revises asks found ok =>
    rw [failed] at ok
    cases ok
  | drops found =>
    rw [(delete_cascades found).1] at failed
    cases failed

/-- A call tells of every record what becomes of it, and nothing else. -/
theorem told_answer (s : Store κ) (c : Call) (i : RecordId) :
    Told (s.named i) ((s.answer c).2.announced.filter (·.id = i))
      ((s.answer c).2.store.named i) := by
  cases s.does c with
  | nothing stays =>
    obtain ⟨uids, -, stays⟩ := stays
    rw [stays]
    exact .nothing
  | @creates k asked uid t done absent puts =>
    rw [done]
    apply puts.told
    rw [show (asked.admitted uid).key = asked.key from rfl, absent]
    exact .added rfl rfl
  | @revises c revision k current t asks found ok done puts =>
    rw [done]
    apply puts.told
    rw [revision.apply_key, ← find?_congr s (filed_find? found).1, found]
    exact .modified rfl (revision.apply_version current)
  | drops found => exact told_delete found i

end Store

/-! ### What is told of a record by a run -/

/-- Answers calls, one after another, and adds to what was announced. -/
def Written.answerAll (w : Written κ) (calls : List Call) : Written κ :=
  calls.foldl (fun w c => (w.answer c).2) w

namespace Store

theorem lived_answerAll (uids : UidSupply) (calls : List Call) (i : RecordId) :
    let w := (⟨empty uids, []⟩ : Written κ).answerAll calls
    Lived (w.announced.filter (·.id = i)) (w.store.named i) := by
  induction calls using List.reverseRecOn with
  | nil => exact ⟨[], [], rfl, nofun, rfl⟩
  | append_singleton calls c ih =>
    intro w
    have last : w = ((⟨empty uids, []⟩ : Written κ).answerAll calls |>.answer c).2 :=
      List.foldl_append
    rw [last]
    have next := ih.told (told_answer _ c i)
    rw [← List.filter_append] at next
    exact next

/-- Calls are answered one after another by a store that had no records. Whoever replays what it
announced has exactly the records that the store lists; what it announced of each record is its
lives, one after another; and a call that fails changes no record and announces nothing. -/
theorem announced_replicates (uids : UidSupply) (calls : List Call) :
    let w := (⟨empty uids, []⟩ : Written κ).answerAll calls
    (∀ i r, (Replica.replay w.announced).find? i = some r ↔
        r.key = i.key ∧ r ∈ w.store.select i.kind none) ∧
      (∀ i, Lived (w.announced.filter (·.id = i)) (w.store.named i)) ∧
      ∀ c e, (w.store.answer c).1 = .error e →
        (w.store.answer c).2.store.records = w.store.records ∧
          (w.store.answer c).2.announced = [] := by
  intro w
  refine ⟨?_, lived_answerAll uids calls, fun c e failed =>
    ⟨(stays_of_error failed).records, (stays_of_error failed).announced⟩⟩
  intro i r
  rw [Replica.find?_replay, (lived_answerAll uids calls i).leaves]
  exact named_eq_some_iff_mem

end Store

end ControlPlane
