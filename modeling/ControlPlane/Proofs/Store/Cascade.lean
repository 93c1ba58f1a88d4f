import ControlPlane.Proofs.Store.Deletion
import Mathlib.Data.List.Nodup
import Mathlib.Logic.Function.Iterate
import Mathlib.Tactic.Ring

/-!
Cascades. A deletion drops the record that it finds, what that record owns, what those records own,
and so on (`Holdings.FallsWith`), and nothing else (`Store.delete_cascades`). Each of them is
dropped once, and after a record that owns it. The dropping goes in rounds, one for every address
that was pending (`Sweep.round`); however the records own each other, the rounds end
(`Sweep.rounds_end`).
-/

namespace ControlPlane

variable {κ : Type} [Address κ]

namespace Holdings

variable {records : Holdings κ} {pending : List κ}

/-- What falls with the record at an address: that record, and every record that is owned by one
which falls. An empty uid owns nothing. -/
inductive FallsWith (records : Holdings κ) (root : κ) : κ → Prop where
  | root : FallsWith records root root
  | owned {a b : κ} {owner r : Record} (falls : FallsWith records root a)
      (there : records.find? a = some owner) (found : records.find? b = some r)
      (owns : r.metadata.isOwnedBy owner.metadata.uid = true) : FallsWith records root b

/-! ### What is dropped -/

/-- No address is dropped twice: what is dropped later is still there when the first is gone. -/
theorem nodup_dropped (records : Holdings κ) (pending : List κ) :
    ((records.dropAll pending).1.map Prod.fst).Nodup := by
  induction records, pending using dropAll.induct with
  | case1 records =>
    rw [dropAll_nil]
    exact List.nodup_nil
  | case2 records b pending absent ih =>
    rw [dropAll_absent absent]
    exact ih
  | case3 records b pending q present rest _ _ _ ih =>
    rw [dropAll_present present]
    refine List.nodup_cons.mpr ⟨?_, ih⟩
    intro again
    obtain ⟨⟨a, r⟩, dropped, rfl⟩ := List.mem_map.mp again
    have found : rest.find? a = some r := find?_of_mem_dropped dropped
    rw [show rest = records.erase a from rfl, Dictionary.find?_erase_self] at found
    cases found

/-- What is dropped lies in every set that holds what is pending and, with a record, what it
owns. -/
theorem mem_of_mem_dropAll {P : κ → Prop} (start : ∀ a ∈ pending, P a)
    (closed : ∀ a b owner r, P a → records.find? a = some owner → records.find? b = some r →
      r.metadata.isOwnedBy owner.metadata.uid = true → P b)
    {a : κ} {r : Record} (dropped : (a, r) ∈ (records.dropAll pending).1) : P a := by
  induction records, pending using dropAll.induct with
  | case1 records =>
    rw [dropAll_nil] at dropped
    cases dropped
  | case2 records b pending absent ih =>
    rw [dropAll_absent absent] at dropped
    exact ih (fun c mem => start c (List.mem_cons_of_mem _ mem)) closed dropped
  | case3 records b pending q present rest _ _ _ ih =>
    rw [dropAll_present present] at dropped
    have first : P b := start b List.mem_cons_self
    have sub : ∀ c x, rest.find? c = some x → records.find? c = some x :=
      fun c x => Dictionary.find?_of_find?_erase
    rcases List.mem_cons.mp dropped with eq | dropped
    · obtain ⟨rfl, rfl⟩ := Prod.mk.inj eq
      exact first
    · refine ih ?_ ?_ dropped
      · intro c mem
        rcases List.mem_append.mp mem with mem | mem
        · obtain ⟨x, found, owned⟩ := mem_dependents_iff.mp (List.mem_reverse.mp mem)
          exact closed b c q x first present (sub c x found) owned
        · exact start c (List.mem_cons_of_mem _ mem)
      · intro c d owner x inside there found owned
        exact closed c d owner x inside (sub c owner there) (sub d x found) owned

/-- What is dropped was pending from the start, or is owned by something that was dropped before. -/
theorem pending_or_owned {earlier later : List (κ × Record)} {a : κ} {r : Record}
    (cut : (records.dropAll pending).1 = earlier ++ (a, r) :: later) :
    a ∈ pending ∨ ∃ e ∈ earlier, r.metadata.isOwnedBy e.2.metadata.uid = true := by
  induction records, pending using dropAll.induct generalizing earlier with
  | case1 records =>
    rw [dropAll_nil] at cut
    exact absurd cut.symm (by simp)
  | case2 records b pending absent ih =>
    rw [dropAll_absent absent] at cut
    exact (ih cut).imp_left (List.mem_cons_of_mem _)
  | case3 records b pending q present rest _ _ _ =>
    rename_i ih
    rw [dropAll_present present] at cut
    cases earlier with
    | nil =>
      obtain ⟨eq, -⟩ := List.cons.inj cut
      obtain ⟨rfl, rfl⟩ := Prod.mk.inj eq
      exact .inl List.mem_cons_self
    | cons e earlier =>
      obtain ⟨rfl, after⟩ := List.cons.inj cut
      rcases ih after with mem | ⟨e, before, owned⟩
      · rcases List.mem_append.mp mem with mem | mem
        · -- It became pending when the first was dropped: the first owns it.
          obtain ⟨x, found, owned⟩ := mem_dependents_iff.mp (List.mem_reverse.mp mem)
          have dropped : (a, r) ∈ earlier.append ((a, r) :: later) :=
            List.mem_append_right earlier List.mem_cons_self
          rw [← after] at dropped
          obtain rfl := Option.some.inj (found.symm.trans (find?_of_mem_dropped dropped))
          exact .inr ⟨_, List.mem_cons_self, owned⟩
        · exact .inl (List.mem_cons_of_mem _ mem)
      · exact .inr ⟨e, List.mem_cons_of_mem _ before, owned⟩

/-- From one address on, all but the first that is dropped is owned by something dropped before. -/
theorem owned_of_mem_dropAll {root a : κ} {earlier later : List (κ × Record)} {r : Record}
    (cut : (records.dropAll [root]).1 = earlier ++ (a, r) :: later) (later_on : earlier ≠ []) :
    ∃ e ∈ earlier, r.metadata.isOwnedBy e.2.metadata.uid = true := by
  rcases pending_or_owned cut with mem | owned
  · -- Only the first is at the root, and no address comes twice.
    cases earlier with
    | nil => exact absurd rfl later_on
    | cons first earlier =>
      have whole : (records.dropAll [root]).1 = [] ++ first :: (earlier ++ (a, r) :: later) := cut
      have isRoot : first.1 ∈ [root] := by
        rcases pending_or_owned whole with mem | ⟨e, none, -⟩
        · exact mem
        · cases none
      have distinct := records.nodup_dropped [root]
      rw [cut] at distinct
      have again : first.1 ∈ (earlier ++ (a, r) :: later).map Prod.fst := by
        rw [List.mem_singleton.mp isRoot, ← List.mem_singleton.mp mem]
        exact List.mem_map_of_mem (List.mem_append_right _ List.mem_cons_self)
      exact absurd again (List.nodup_cons.mp distinct).1
  · exact owned

/-- What is dropped from one address on falls with the record there. -/
theorem fallsWith_of_mem_dropAll {root a : κ} {r : Record}
    (dropped : (a, r) ∈ (records.dropAll [root]).1) : records.FallsWith root a := by
  refine mem_of_mem_dropAll (P := records.FallsWith root) ?_ ?_ dropped
  · intro b mem
    rw [List.mem_singleton.mp mem]
    exact .root
  · intro b c owner x falls there found owned
    exact .owned falls there found owned

/-- What falls with the record at an address is not left: nothing that is left is owned by what was
dropped. -/
theorem FallsWith.find?_dropAll {root a : κ} (falls : records.FallsWith root a) :
    (records.dropAll [root]).2.find? a = none := by
  induction falls with
  | root => exact find?_of_mem_pending (List.mem_singleton_self _)
  | @owned a b owner r falls there found owns ih =>
    have dropped : (a, owner) ∈ (records.dropAll [root]).1 := by
      rcases records.find?_dropAll [root] a with kept | ⟨-, x, found', dropped⟩
      · rw [kept, there] at ih
        cases ih
      · obtain rfl := Option.some.inj (there.symm.trans found')
        exact dropped
    rcases records.find?_dropAll [root] b with kept | ⟨none, -⟩
    · rw [found] at kept
      have unowned := not_isOwnedBy_dropped dropped kept
      rw [owns] at unowned
      cases unowned
    · exact none

/-- What does not fall is left as it was. -/
theorem find?_dropAll_of_not_fallsWith {root a : κ} (stays : ¬ records.FallsWith root a) :
    (records.dropAll [root]).2.find? a = records.find? a := by
  rcases records.find?_dropAll [root] a with kept | ⟨-, r, -, dropped⟩
  · exact kept
  · exact absurd (fallsWith_of_mem_dropAll dropped) stays

theorem mem_dropAll_iff {root a : κ} {r : Record} :
    (a, r) ∈ (records.dropAll [root]).1 ↔ records.find? a = some r ∧ records.FallsWith root a := by
  constructor
  · intro dropped
    exact ⟨find?_of_mem_dropped dropped, fallsWith_of_mem_dropAll dropped⟩
  · rintro ⟨found, falls⟩
    rcases records.find?_dropAll [root] a with kept | ⟨-, x, found', dropped⟩
    · rw [falls.find?_dropAll, found] at kept
      cases kept
    · obtain rfl := Option.some.inj (found.symm.trans found')
      exact dropped

theorem length_dependents_le (records : Holdings κ) (uid : String) :
    (records.dependents uid).length ≤ records.size := by
  rw [dependents, List.length_map]
  exact List.length_filter_le _ _

end Holdings

/-! ### Rounds -/

/-- A deletion under way: what was dropped, what is left, and the addresses that are pending. -/
structure Sweep (κ : Type) [Address κ] where
  dropped : List (κ × Record) := []
  left : Holdings κ
  pending : List κ

namespace Sweep

open Holdings

/-- One round takes the first pending address. A record there is dropped, and what it owns of what
is left becomes pending. -/
def round (w : Sweep κ) : Sweep κ :=
  match w.pending with
  | [] => w
  | a :: pending =>
    match w.left.find? a with
    | none => { w with pending }
    | some r =>
      { dropped := w.dropped ++ [(a, r)]
        left := w.left.erase a
        pending := (dependents (w.left.erase a) r.metadata.uid).reverse ++ pending }

theorem round_of_ended {w : Sweep κ} (ended : w.pending = []) : w.round = w := by
  unfold round
  rw [ended]

theorem iterate_round_of_ended {w : Sweep κ} (ended : w.pending = []) (n : Nat) :
    round^[n] w = w :=
  Function.iterate_fixed (round_of_ended ended) n

/-- After at most so many rounds nothing is pending: each round takes one address, and an address
becomes pending at most once for every record that is dropped while it is there. -/
theorem rounds_end (records : Holdings κ) (pending : List κ) (dropped : List (κ × Record)) :
    ∃ n ≤ pending.length + records.size ^ 2, round^[n] ⟨dropped, records, pending⟩ =
      ⟨dropped ++ (records.dropAll pending).1, (records.dropAll pending).2, []⟩ := by
  induction records, pending using dropAll.induct generalizing dropped with
  | case1 records =>
    refine ⟨0, Nat.zero_le _, ?_⟩
    rw [dropAll_nil, List.append_nil]
    rfl
  | case2 records a pending absent ih =>
    obtain ⟨n, bound, ended⟩ := ih dropped
    refine ⟨n + 1, by rw [List.length_cons]; omega, ?_⟩
    have first : round ⟨dropped, records, a :: pending⟩ = ⟨dropped, records, pending⟩ := by
      simp only [round, absent]
    rw [Function.iterate_succ_apply, first, ended, dropAll_absent absent]
  | case3 records a pending r present rest _ _ _ ih =>
    obtain ⟨n, bound, ended⟩ := ih (dropped ++ [(a, r)])
    refine ⟨n + 1, ?_, ?_⟩
    · have fewer : rest.size + 1 ≤ records.size := Dictionary.size_erase_lt present
      have queued := length_dependents_le rest r.metadata.uid
      have squares : (rest.size + 1) ^ 2 ≤ records.size ^ 2 := Nat.pow_le_pow_left fewer 2
      have split : (rest.size + 1) ^ 2 = rest.size ^ 2 + 2 * rest.size + 1 := by ring
      rw [List.length_append, List.length_reverse] at bound
      rw [List.length_cons]
      omega
    · have first : round ⟨dropped, records, a :: pending⟩ =
          ⟨dropped ++ [(a, r)], rest, (dependents rest r.metadata.uid).reverse ++ pending⟩ := by
        simp only [round, present]
        rfl
      rw [Function.iterate_succ_apply, first, ended, dropAll_present present]
      simp only [List.append_assoc, List.singleton_append]
      rfl

/-- Rounds after which nothing is pending tell what is dropped. -/
theorem dropAll_of_rounds {records : Holdings κ} {pending : List κ} {n : Nat} {done : Sweep κ}
    (rounds : round^[n] ⟨[], records, pending⟩ = done) (ended : done.pending = []) :
    records.dropAll pending = (done.dropped, done.left) := by
  obtain ⟨m, -, all⟩ := rounds_end records pending []
  have same : round^[n + m] ⟨[], records, pending⟩ = round^[m + n] ⟨[], records, pending⟩ := by
    rw [Nat.add_comm]
  rw [Function.iterate_add_apply, all, iterate_round_of_ended rfl, Function.iterate_add_apply,
    rounds, iterate_round_of_ended ended, List.nil_append] at same
  rw [← same]

/-- What is left when nothing is pending does not fall. -/
theorem not_fallsWith_of_rounds {records : Holdings κ} {root a : κ} {n : Nat} {done : Sweep κ}
    (rounds : round^[n] ⟨[], records, [root]⟩ = done) (ended : done.pending = [])
    (left : (done.left.find? a).isSome = true) : ¬ records.FallsWith root a := by
  intro falls
  have gone := falls.find?_dropAll
  rw [dropAll_of_rounds rounds ended] at gone
  rw [gone] at left
  cases left

end Sweep

/-! ### Deletions -/

/-- The kind and the key of the record that an announcement is about. -/
def Announcement.id (a : Announcement) : RecordId := ⟨a.kind, a.record.key⟩

namespace Store

/-- What the deletion of the record at an address comes to. -/
structure Cascade (s : Store κ) (root : κ) (w : Written κ) : Prop where
  /-- The rounds of the deletion end, with what is left and announced. -/
  ends : ∃ n ≤ s.records.size ^ 2 + 1, ∃ dropped,
    Sweep.round^[n] ⟨[], s.records, [root]⟩ = ⟨dropped, w.store.records, []⟩ ∧
      w.announced = dropped.map fun d => ⟨.deleted, Address.kind d.1, d.2⟩
  gone : ∀ a, s.records.FallsWith root a → w.store.records.find? a = none
  kept : ∀ a, ¬ s.records.FallsWith root a → w.store.records.find? a = s.records.find? a
  announced_iff : ∀ x, x ∈ w.announced ↔ x.change = .deleted ∧
    s.find? x.kind x.record.key = some x.record ∧
      s.records.FallsWith root (Address.of x.kind x.record.key)
  once : (w.announced.map Announcement.id).Nodup
  first : ∃ r later, s.records.find? root = some r ∧
    w.announced = ⟨.deleted, Address.kind root, r⟩ :: later
  /-- Each record but the first comes after one that owns it. -/
  owned : ∀ earlier x later, w.announced = earlier ++ x :: later → earlier ≠ [] →
    ∃ y ∈ earlier, x.record.metadata.isOwnedBy y.record.metadata.uid = true
  /-- Nothing that is left is owned by a record that was dropped. -/
  unowned : ∀ x ∈ w.announced, ∀ a r, w.store.records.find? a = some r →
    r.metadata.isOwnedBy x.record.metadata.uid = false

variable {s : Store κ} {kind : Kind} {key : RecordKey}

/-- A deletion that finds a record succeeds, with what was dropped from the record's address on. -/
theorem answer_delete_of_found {r : Record} (found : s.find? kind key = some r) :
    (s.answer (.delete kind key)).1 = .ok () ∧
      (s.answer (.delete kind key)).2.store.records =
        (s.records.dropAll [Address.of kind key]).2 ∧
      (s.answer (.delete kind key)).2.announced =
        (s.records.dropAll [Address.of kind key]).1.map fun d =>
          ⟨.deleted, Address.kind d.1, d.2⟩ := by
  simp only [answer, delete, found, Option.isNone_some, Bool.false_eq_true, if_false, commit,
    and_self]

/-- A deletion announces what falls with the record that it finds. -/
theorem mem_announced_iff {r : Record} (found : s.find? kind key = some r) {x : Announcement} :
    x ∈ (s.answer (.delete kind key)).2.announced ↔ x.change = .deleted ∧
      s.find? x.kind x.record.key = some x.record ∧
        s.records.FallsWith (Address.of kind key) (Address.of x.kind x.record.key) := by
  rw [(answer_delete_of_found found).2.2, List.mem_map]
  constructor
  · rintro ⟨⟨a, q⟩, dropped, rfl⟩
    obtain ⟨there, falls⟩ := Holdings.mem_dropAll_iff.mp dropped
    have filed := (s.filed a q there).1
    rw [find?, ← filed]
    exact ⟨rfl, there, falls⟩
  · rintro ⟨deleted, there, falls⟩
    refine ⟨(Address.of x.kind x.record.key, x.record),
      Holdings.mem_dropAll_iff.mpr ⟨there, falls⟩, ?_⟩
    rw [Address.kind_of, ← deleted]

/-- A deletion announces no record twice: the kind and the key of a record tell its address, and no
address comes twice. -/
theorem nodup_announced {r : Record} (found : s.find? kind key = some r) :
    ((s.answer (.delete kind key)).2.announced.map Announcement.id).Nodup := by
  have addresses : (s.answer (.delete kind key)).2.announced.map
      ((fun i => Address.of (κ := κ) i.kind i.key) ∘ Announcement.id) =
        (s.records.dropAll [Address.of kind key]).1.map Prod.fst := by
    rw [(answer_delete_of_found found).2.2, List.map_map]
    apply List.map_congr_left
    rintro ⟨a, q⟩ dropped
    exact (s.filed a q (Holdings.find?_of_mem_dropped dropped)).1.symm
  apply List.Nodup.of_map fun i => Address.of (κ := κ) i.kind i.key
  rw [List.map_map, addresses]
  exact s.records.nodup_dropped _

/-- All but the first record that a deletion announces are owned by one announced before. -/
theorem owned_of_announced {r : Record} (found : s.find? kind key = some r)
    {earlier later : List Announcement} {x : Announcement}
    (cut : (s.answer (.delete kind key)).2.announced = earlier ++ x :: later)
    (later_on : earlier ≠ []) :
    ∃ y ∈ earlier, x.record.metadata.isOwnedBy y.record.metadata.uid = true := by
  rw [(answer_delete_of_found found).2.2] at cut
  obtain ⟨before, after, split, rfl, rest⟩ := List.map_eq_append_iff.mp cut
  obtain ⟨⟨a, q⟩, after, rfl, rfl, -⟩ := List.map_eq_cons_iff.mp rest
  have notFirst : before ≠ [] := by
    rintro rfl
    exact later_on rfl
  obtain ⟨e, mem, owned⟩ := Holdings.owned_of_mem_dropAll split notFirst
  exact ⟨_, List.mem_map_of_mem mem, owned⟩

/-- The deletion of a stored record succeeds, whatever the records own: it ends, it drops exactly
the least set that holds the record and, with a record, what that owns, and it announces each of
them once, an owner first. -/
theorem delete_cascades {r : Record} (found : s.find? kind key = some r) :
    (s.answer (.delete kind key)).1 = .ok () ∧
      s.Cascade (Address.of kind key) (s.answer (.delete kind key)).2 := by
  obtain ⟨succeeded, left, announced⟩ := answer_delete_of_found found
  refine ⟨succeeded, ?_⟩
  constructor
  case ends =>
    obtain ⟨n, bound, ended⟩ := Sweep.rounds_end s.records [Address.of kind key] []
    rw [List.length_singleton, Nat.add_comm] at bound
    refine ⟨n, bound, _, ?_, announced⟩
    rw [ended, left, List.nil_append]
  case gone =>
    intro a falls
    rw [left]
    exact falls.find?_dropAll
  case kept =>
    intro a stays
    rw [left]
    exact Holdings.find?_dropAll_of_not_fallsWith stays
  case announced_iff => exact fun x => mem_announced_iff found
  case once => exact nodup_announced found
  case first =>
    obtain ⟨later, first⟩ := dropped_first found
    exact ⟨r, later, found, by rw [Address.kind_of, first]⟩
  case owned => exact fun earlier x later => owned_of_announced found
  case unowned =>
    intro x mem a q there
    rw [announced] at mem
    rw [left] at there
    obtain ⟨d, dropped, rfl⟩ := List.mem_map.mp mem
    exact Holdings.not_isOwnedBy_dropped dropped there

/-- An agent and a function that own each other, a package of another namespace that both own and
that names a uid of nothing, and an agent that nothing owns. -/
def ownedInTurn : Store RecordId :=
  let owned (uids : List String) : List OwnerReference :=
    uids.map fun uid => ⟨.agent, "owner", uid, false⟩
  let record (ns name uid : String) (owners : List String) : Record :=
    ⟨{ name, «namespace» := ns, uid, ownerReferences := owned owners }, .obj [], .null⟩
  [(Kind.agent, record "d" "a" "1" ["2"]), (.function, record "d" "f" "2" ["2", "1"]),
    (.package, record "e" "p" "3" ["1", "2", "nothing"]),
    (.agent, record "d" "b" "4" ["nothing"])].foldl
      (fun s r => s.put r.1 r.2 rfl) (.empty ⟨fun n => toString n, 0⟩)

/-- The first agent falls with the function, and the function with the agent; the other agent
stays. -/
theorem ownedInTurn_cascades :
    (ownedInTurn.find? .agent ⟨"d", "a"⟩).isSome = true ∧
      (ownedInTurn.answer (.delete .agent ⟨"d", "a"⟩)).1 = .ok () ∧
      ownedInTurn.Cascade ⟨.agent, ⟨"d", "a"⟩⟩ (ownedInTurn.answer (.delete .agent ⟨"d", "a"⟩)).2 ∧
      (ownedInTurn.answer (.delete .agent ⟨"d", "a"⟩)).2.announced.map Announcement.id =
        [⟨.agent, ⟨"d", "a"⟩⟩, ⟨.package, ⟨"e", "p"⟩⟩, ⟨.function, ⟨"d", "f"⟩⟩] := by
  have stored : (ownedInTurn.find? .agent ⟨"d", "a"⟩).isSome = true := by decide +kernel
  obtain ⟨r, found⟩ := Option.isSome_iff_exists.mp stored
  obtain ⟨succeeded, cascade⟩ := delete_cascades found
  refine ⟨stored, succeeded, cascade, ?_⟩
  have rounds : Sweep.round^[6] ⟨[], ownedInTurn.records, [⟨.agent, ⟨"d", "a"⟩⟩]⟩ = _ := rfl
  have dropped := Sweep.dropAll_of_rounds rounds (by decide +kernel)
  have announced := (answer_delete_of_found found).2.2
  rw [announced, show Address.of Kind.agent ⟨"d", "a"⟩ = (⟨.agent, ⟨"d", "a"⟩⟩ : RecordId) from rfl,
    dropped]
  decide +kernel

end Store

end ControlPlane
