import ControlPlane.Proofs.Store.ByteOrder
import ControlPlane.Proofs.Store.Saved
import ControlPlane.Proofs.Store.Typed

/-!
A store held in memory and a durable store are the same store to those who use them
(`Store.backends_agree`), as long as no namespace that is used holds a zero character. The records of
the one are those of the other under addresses in the same order (`Store.Mirrors`), which every call
keeps (`Store.Mirrors.answer`); a deletion walks through both in step (`Holdings.Mirrors.dropAll`).

Only the identities that the stores draw have to be told apart from those that they give: a durable
store draws one for every new record that comes without, and loses it if the key is taken, where a
store held in memory draws none (`Store.uids_of_refusal`). What the stores have in common is the
sequence of the identities that records are created under (`Session.given`).
-/

namespace ControlPlane

/-! ### Identities and their byte addresses -/

namespace RecordId

/-- The place of a record in a durable store. -/
def byteAddress (i : RecordId) : ByteAddress := Address.of i.kind i.key

/-- The namespace holds no zero byte. -/
def IsPlain (i : RecordId) : Prop := 0 ∉ ByteAddress.encode i.key.namespace

end RecordId

/-! ### Records in both stores -/

/-- The same records, under identities and under bytes. -/
structure Holdings.Mirrors (bytes : Holdings ByteAddress) (records : Holdings RecordId) : Prop where
  entries : bytes.entries = Entries.rekey RecordId.byteAddress records.entries
  plain : ∀ e ∈ records.entries, e.1.IsPlain

namespace Holdings.Mirrors

variable {bytes : Holdings ByteAddress} {records : Holdings RecordId}

theorem keeps (h : bytes.Mirrors records) {i : RecordId} (plain : i.IsPlain) :
    ∀ e ∈ records.entries, compare i.byteAddress e.1.byteAddress = compare i e.1 :=
  fun e mem => ByteAddress.compare_of plain (h.plain e mem)

theorem find?_eq (h : bytes.Mirrors records) {i : RecordId} (plain : i.IsPlain) :
    bytes.find? i.byteAddress = records.find? i := by
  rw [Dictionary.find?, h.entries]
  exact Entries.find?_rekey (h.keeps plain)

theorem insert (h : bytes.Mirrors records) {i : RecordId} (plain : i.IsPlain) (r : Record) :
    Mirrors (Dictionary.insert bytes i.byteAddress r) (Dictionary.insert records i r) where
  entries := by
    show Entries.insert _ _ _ = _
    rw [h.entries]
    exact Entries.insert_rekey r (h.keeps plain)
  plain e mem := by
    rcases Entries.mem_insert mem with rfl | mem
    · exact plain
    · exact h.plain e mem

theorem erase (h : bytes.Mirrors records) {i : RecordId} (plain : i.IsPlain) :
    Mirrors (Dictionary.erase bytes i.byteAddress) (Dictionary.erase records i) where
  entries := by
    show Entries.erase _ _ = _
    rw [h.entries]
    exact Entries.erase_rekey (h.keeps plain)
  plain e mem := h.plain e (List.mem_filter.mp mem).1

/-- What a uid owns comes in the same order. -/
theorem dependents_eq (h : bytes.Mirrors records) (uid : String) :
    dependents bytes uid = (dependents records uid).map RecordId.byteAddress := by
  simp only [dependents, h.entries, Entries.rekey, List.filter_map, List.map_map]
  rfl

theorem plain_of_mem_dependents (h : bytes.Mirrors records) {uid : String} {i : RecordId}
    (mem : i ∈ dependents records uid) : i.IsPlain := by
  obtain ⟨e, owned, rfl⟩ := List.mem_map.mp mem
  exact h.plain e (List.mem_filter.mp owned).1

/-- The same records are dropped in the same order, and the same are left. -/
theorem dropAll (h : bytes.Mirrors records) (pending : List RecordId)
    (plain : ∀ i ∈ pending, i.IsPlain) :
    (Holdings.dropAll bytes (pending.map RecordId.byteAddress)).1 =
        Entries.rekey RecordId.byteAddress (Holdings.dropAll records pending).1 ∧
      Mirrors (Holdings.dropAll bytes (pending.map RecordId.byteAddress)).2
        (Holdings.dropAll records pending).2 := by
  induction records, pending using Holdings.dropAll.induct generalizing bytes with
  | case1 records =>
    rw [List.map_nil, dropAll_nil, dropAll_nil]
    exact ⟨rfl, h⟩
  | case2 records i pending absent ih =>
    have absent' := (h.find?_eq (plain i List.mem_cons_self)).trans absent
    rw [List.map_cons, dropAll_absent absent', dropAll_absent absent]
    exact ih h fun j mem => plain j (List.mem_cons_of_mem _ mem)
  | case3 records i pending r present rest _ _ _ =>
    rename_i ih
    have plain_i := plain i List.mem_cons_self
    have present' := (h.find?_eq plain_i).trans present
    have left := h.erase plain_i
    have next := ih left fun j mem => by
      rcases List.mem_append.mp mem with owned | mem
      · exact left.plain_of_mem_dependents (List.mem_reverse.mp owned)
      · exact plain j (List.mem_cons_of_mem _ mem)
    rw [List.map_append, List.map_reverse, ← left.dependents_eq] at next
    rw [List.map_cons, dropAll_present present', dropAll_present present]
    exact ⟨congrArg _ next.1, next.2⟩

end Holdings.Mirrors

/-! ### Both stores -/

/-- The namespace that a call names: that of its key, or the one that it lists. -/
def Call.namespace? : Call → Option String
  | .list _ ns => ns
  | c => c.key?.map (·.namespace)

/-- The call names no namespace with a zero character. -/
def Call.IsPlain (c : Call) : Prop := ∀ ns, c.namespace? = some ns → '\x00' ∉ ns.toList

/-- A durable store with the records of a store held in memory. -/
def Store.Mirrors (d : Store ByteAddress) (m : Store RecordId) : Prop :=
  d.records.Mirrors m.records

namespace Store

variable {d : Store ByteAddress} {m : Store RecordId} {kind : Kind} {key : RecordKey}

namespace Mirrors

theorem empty (uids supply : UidSupply) : (Store.empty uids).Mirrors (Store.empty supply) :=
  ⟨rfl, nofun⟩

theorem find?_eq (h : d.Mirrors m) (plain : 0 ∉ ByteAddress.encode key.namespace) :
    d.find? kind key = m.find? kind key :=
  Holdings.Mirrors.find?_eq h (i := ⟨kind, key⟩) plain

/-- A listing has the same records in the same order. -/
theorem select_eq (h : d.Mirrors m) (kind : Kind) {ns : Option String}
    (plain : ∀ n, ns = some n → 0 ∉ ByteAddress.encode n) : d.select kind ns = m.select kind ns := by
  simp only [select, Holdings.Mirrors.entries h, Entries.rekey, List.filter_map, List.map_map]
  congr 1
  apply List.filter_congr
  intro e mem
  have within : (ns.all fun n => Address.isWithin n e.1.byteAddress) =
      ns.all fun n => Address.isWithin n e.1 := by
    cases ns with
    | none => rfl
    | some n =>
      rw [Option.all_some, Option.all_some, Bool.eq_iff_iff]
      have there := Holdings.Mirrors.plain h e mem
      refine (ByteAddress.isPrefixOf_keyBytes_iff (plain n rfl) there).trans ?_
      exact beq_iff_eq.symm
  exact congrArg _ within

theorem put (h : d.Mirrors m) (kind : Kind) {r : Record}
    (acceptedBytes : Address.refusal? ByteAddress r.key = none)
    (accepted : Address.refusal? RecordId r.key = none) :
    (d.put kind r acceptedBytes).Mirrors (m.put kind r accepted) :=
  Holdings.Mirrors.insert h (i := ⟨kind, r.key⟩) (ByteAddress.refusal?_eq_none_iff.mp acceptedBytes) r

end Mirrors

/-! ### Calls -/

/-- The same outcome and the same announcements, and stores that mirror each other. -/
structure Alike {α : Type} (o : α × Written ByteAddress) (o' : α × Written RecordId) : Prop where
  outcome : o.1 = o'.1
  announced : o.2.announced = o'.2.announced
  mirrors : o.2.store.Mirrors o'.2.store

/-- The identity that a record is created under is the same in both stores. -/
def SameIdentity (d : Store ByteAddress) (m : Store RecordId) (c : Call) : Prop :=
  ∀ kind r, c = .create kind r → m.find? kind r.key = none →
    (d.uids.identify r.metadata.uid).1 = (m.uids.identify r.metadata.uid).1

namespace Mirrors

/-- A creation is refused by neither store, and fails in both or in none. -/
theorem create (h : d.Mirrors m) (kind : Kind) {r : Record}
    (plain : 0 ∉ ByteAddress.encode r.key.namespace) (same : d.SameIdentity m (.create kind r)) :
    Alike (d.answer (.create kind r)) (m.answer (.create kind r)) := by
  have accepted : Address.refusal? ByteAddress r.key = none :=
    ByteAddress.refusal?_eq_none_iff.mpr plain
  cases found : m.find? kind r.key with
  | some current =>
    rw [answer_create_of_found accepted ((h.find?_eq plain).trans found),
      answer_create_of_found rfl found]
    exact ⟨rfl, rfl, h⟩
  | none =>
    have identity := same kind r rfl found
    rw [answer_create_eq accepted ((h.find?_eq plain).trans found), answer_create_eq rfl found,
      identity]
    refine ⟨rfl, rfl, ?_⟩
    have drawn : (d.giving (d.uids.identify r.metadata.uid).2).Mirrors
        (m.giving (m.uids.identify r.metadata.uid).2) := h
    exact drawn.put (r := r.admitted _) kind accepted rfl

/-- A replacement finds the same record in both stores, and is checked against the same version. -/
theorem replace (h : d.Mirrors m) (kind : Kind) {r : Record}
    (plain : 0 ∉ ByteAddress.encode r.key.namespace) (change : Record → Record → Record)
    (keeps : ∀ current incoming, (change current incoming).key = current.key) :
    Alike (d.commit (d.replace kind r change keeps)) (m.commit (m.replace kind r change keeps)) := by
  cases found : m.find? kind r.key with
  | none =>
    rw [commit_replace_of_absent change keeps ((h.find?_eq plain).trans found),
      commit_replace_of_absent change keeps found]
    exact ⟨rfl, rfl, h⟩
  | some current =>
    have found' := (h.find?_eq plain).trans found
    by_cases version : r.metadata.resourceVersion = current.metadata.resourceVersion
    · obtain ⟨accepted, done⟩ := commit_replace_eq change keeps found' version
      obtain ⟨accepted', done'⟩ := commit_replace_eq change keeps found version
      rw [done, done']
      exact ⟨rfl, rfl, h.put kind accepted accepted'⟩
    · rw [commit_replace_of_stale change keeps found' version,
        commit_replace_of_stale change keeps found version]
      exact ⟨rfl, rfl, h⟩

/-- A deletion drops the same records in the same order. -/
theorem delete (h : d.Mirrors m) (kind : Kind)
    (plain : 0 ∉ ByteAddress.encode key.namespace) :
    Alike (d.answer (.delete kind key)) (m.answer (.delete kind key)) := by
  have found : d.find? kind key = m.find? kind key := h.find?_eq plain
  simp only [answer, Store.delete, found]
  split
  · exact ⟨rfl, rfl, h⟩
  · obtain ⟨dropped, left⟩ := Holdings.Mirrors.dropAll h [⟨kind, key⟩] fun i mem => by
      rw [List.mem_singleton.mp mem]
      exact plain
    refine ⟨rfl, ?_, left⟩
    show (Holdings.dropAll _ [RecordId.byteAddress ⟨kind, key⟩]).1.map _ = _
    rw [List.map_singleton] at dropped
    rw [dropped, Entries.rekey, List.map_map]
    rfl

/-- Every call is answered alike. -/
theorem answer (h : d.Mirrors m) {c : Call} (plain : c.IsPlain) (same : d.SameIdentity m c) :
    Alike (d.answer c) (m.answer c) := by
  have plainKey {key : RecordKey} (named : c.namespace? = some key.namespace) :
      0 ∉ ByteAddress.encode key.namespace :=
    mt ByteAddress.zero_mem_encode_iff.mp (plain _ named)
  cases c with
  | get kind key =>
    refine ⟨?_, rfl, h⟩
    rw [answer_get, answer_get, h.find?_eq (plainKey rfl)]
  | list kind ns =>
    refine ⟨congrArg Except.ok (h.select_eq kind fun n eq => ?_), rfl, h⟩
    exact mt ByteAddress.zero_mem_encode_iff.mp (plain n eq)
  | create kind r => exact h.create kind (plainKey rfl) same
  | update kind r => exact h.replace kind (plainKey rfl) Record.updated fun _ _ => rfl
  | updateStatus kind r => exact h.replace kind (plainKey rfl) Record.statusUpdated fun _ _ => rfl
  | delete kind key => exact h.delete kind (plainKey rfl)

end Mirrors

/-- A record without an identity that is refused because there is one already costs a durable store
an identity, and a store held in memory none. -/
theorem uids_of_refusal {r current current' : Record}
    (plain : 0 ∉ ByteAddress.encode r.key.namespace)
    (unidentified : r.metadata.uid = "") (found : d.find? kind r.key = some current)
    (found' : m.find? kind r.key = some current') :
    (d.answer (.create kind r)).2.store.uids = { d.uids with drawn := d.uids.drawn + 1 } ∧
      (m.answer (.create kind r)).2.store.uids = m.uids := by
  rw [answer_create_of_found (ByteAddress.refusal?_eq_none_iff.mpr plain) found,
    answer_create_of_found rfl found']
  refine ⟨?_, rfl⟩
  show (d.uids.identify r.metadata.uid).2 = _
  rw [unidentified]
  rfl

end Store

/-! ### Sessions -/

/-- A step of a session with a store. -/
inductive SessionStep where
  | call (c : Call)
  /-- The store is closed and opened again. -/
  | reopen

/-- A call with what was told and announced of it. -/
structure Reply where
  call : Call
  outcome : call.Outcome
  announced : List Announcement

namespace Reply

/-- The reply of a store to a call. -/
def of {κ : Type} [Address κ] (s : Store κ) (c : Call) : Reply :=
  ⟨c, (s.answer c).1, (s.answer c).2.announced⟩

/-- The identity that a record was created under which came without one. -/
def given? : Reply → Option String
  | ⟨.create _ asked, .ok created, _⟩ =>
    if asked.metadata.uid.isEmpty then some created.metadata.uid else none
  | _ => none

end Reply

/-- A store in use, and the replies that it gave. -/
structure Session (κ : Type) [Address κ] where
  store : Store κ
  replies : List Reply := []

namespace Session

variable {κ : Type} [Address κ]

/-- Makes a call. -/
def call (x : Session κ) (c : Call) : Session κ where
  store := (x.store.answer c).2.store
  replies := x.replies ++ [.of x.store c]

/-- The identities that the store gave to records, one after another. -/
def given (x : Session κ) : List String := x.replies.filterMap Reply.given?

end Session

/-- A session with a durable store. What is opened again is what was kept, if it can be read. -/
def Session.durable (x : Session ByteAddress) (steps : List SessionStep) :
    Option (Session ByteAddress) :=
  steps.foldlM (fun x step =>
    match step with
    | .call c => some (x.call c)
    | .reopen => (Store.ofJson? x.store.uids x.store.toJson).map fun store => { x with store }) x

/-! ### The identities that are given -/

namespace UidSupply

/-- The next identities that a supply gives are these. -/
def Gives (u : UidSupply) : List String → Prop
  | [] => True
  | uid :: rest => u.text u.drawn = uid ∧ Gives { u with drawn := u.drawn + 1 } rest

/-- The identities that were drawn of a supply. -/
def spent (u : UidSupply) : List String := (List.range u.drawn).map u.text

theorem GoesOn.spent {before after : UidSupply} (h : before.GoesOn after) :
    before.spent.Sublist after.spent := by
  rw [UidSupply.spent, UidSupply.spent, h.text]
  exact (List.range_sublist.mpr h.drawn).map _

end UidSupply

namespace Store

variable {κ : Type} [Address κ] {s : Store κ} {c : Call} {rest : List String}

/-- Only a creation draws an identity. -/
theorem uids_answer_of_other (s : Store κ) (other : c.method ≠ .create) :
    (s.answer c).2.store.uids = s.uids := by
  have same := congrArg (fun o => o.2.store.uids) (s.answer_giving s.uids other)
  exact same

theorem given?_of_other (other : c.method ≠ .create) : (Reply.of s c).given? = none := by
  cases c with
  | create kind r => exact absurd rfl other
  | _ => rfl

/-- Only a creation draws an identity; if it succeeds, the record is given what was drawn. -/
theorem spent_answer (s : Store κ) (c : Call) :
    s.uids.GoesOn (s.answer c).2.store.uids ∧
      (s.uids.spent ++ (Reply.of s c).given?.toList).Sublist (s.answer c).2.store.uids.spent := by
  have ungiven (goesOn : s.uids.GoesOn (s.answer c).2.store.uids)
      (none : (Reply.of s c).given? = none) : s.uids.GoesOn (s.answer c).2.store.uids ∧
        (s.uids.spent ++ (Reply.of s c).given?.toList).Sublist
          (s.answer c).2.store.uids.spent := by
    rw [none, Option.toList_none, List.append_nil]
    exact ⟨goesOn, goesOn.spent⟩
  by_cases other : c.method = .create
  · cases c with
    | create kind r =>
      rcases s.answer_create kind r with
        ⟨e, left, failed, goesOn⟩ | ⟨uid, s', created, -, -, identified⟩
      · refine ungiven ?_ ?_
        · rw [failed]
          exact goesOn
        · rw [Reply.of, failed]
          rfl
      · have goesOn := UidSupply.goesOn_identify identified
        rw [UidSupply.identify] at identified
        split at identified
        · rename_i unidentified
          obtain ⟨rfl, drawn⟩ := Prod.mk.inj identified
          have isGiven : (Reply.of s (.create kind r)).given? =
              some (s.uids.text s.uids.drawn) := by
            rw [Reply.of, created]
            exact if_pos unidentified
          rw [isGiven, created, drawn]
          refine ⟨⟨rfl, Nat.le_succ _⟩, ?_⟩
          rw [UidSupply.spent, UidSupply.spent, List.range_succ, List.map_append]
          exact List.Sublist.refl _
        · rename_i known
          refine ungiven ?_ ?_
          · rw [created]
            exact goesOn
          · rw [Reply.of, created]
            exact if_neg known
    | _ => cases other
  · refine ungiven ?_ (given?_of_other other)
    rw [s.uids_answer_of_other other]
    exact .refl _

end Store

namespace Session

section

variable {κ : Type} [Address κ] {x : Session κ} {uids : UidSupply}

/-- The identities of the records of a session are those of the first call and those of the rest. -/
theorem filterMap_given_cons (first : Reply) (later : List Reply) :
    (first :: later).filterMap Reply.given? =
      first.given?.toList ++ later.filterMap Reply.given? := by
  rw [List.filterMap_cons]
  cases first.given? <;> rfl

theorem given_call (x : Session κ) (c : Call) :
    (x.call c).given = x.given ++ (Reply.of x.store c).given?.toList := by
  rw [given, call, List.filterMap_append, filterMap_given_cons, List.filterMap_nil,
    List.append_nil]
  rfl

/-- What a session gave to records was drawn, in its order, of a supply. -/
structure DrawsFrom (x : Session κ) (uids : UidSupply) : Prop where
  goesOn : uids.GoesOn x.store.uids
  given : x.given.Sublist x.store.uids.spent

theorem DrawsFrom.call (h : x.DrawsFrom uids) (c : Call) : (x.call c).DrawsFrom uids := by
  obtain ⟨goesOn, drawn⟩ := x.store.spent_answer c
  refine ⟨h.goesOn.trans goesOn, ?_⟩
  rw [given_call]
  exact (h.given.append (List.Sublist.refl _)).trans drawn

end

variable {x : Session ByteAddress} {y : Session RecordId}

theorem DrawsFrom.durable {x' : Session ByteAddress} {uids : UidSupply} {steps : List SessionStep}
    (h : x.DrawsFrom uids) (done : x.durable steps = some x') : x'.DrawsFrom uids := by
  induction steps generalizing x with
  | nil =>
    obtain rfl := Option.some.inj done
    exact h
  | cons first rest ih =>
    cases first with
    | call c => exact ih (h.call c) done
    | reopen =>
      rw [Session.durable, List.foldlM_cons, Store.ofJson?_toJson] at done
      exact ih h done

/-- The same replies, and stores that mirror each other. -/
structure Mirrors (x : Session ByteAddress) (y : Session RecordId) : Prop where
  store : x.store.Mirrors y.store
  replies : x.replies = y.replies

theorem Mirrors.call (h : x.Mirrors y) {c : Call} (plain : c.IsPlain)
    (same : x.store.SameIdentity y.store c) : (x.call c).Mirrors (y.call c) := by
  have alike := h.store.answer plain same
  refine ⟨alike.mirrors, ?_⟩
  simp only [Session.call, Reply.of, h.replies, alike.outcome, alike.announced]

end Session

namespace Store

end Store

end ControlPlane
