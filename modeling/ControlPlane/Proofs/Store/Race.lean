import ControlPlane.Proofs.Store.Interference
import ControlPlane.Proofs.Store.Versions

/-!
Races for the same writes. Many routines make the writes of one script, each when it gets there; the
first to make a write is accepted, and whoever makes it later fails with a conflict, since the
record is then at another version (`Script.race`). So the writes that succeed are always the first
ones of the script, and the records are what they make of them (`Underway`).
-/

namespace ControlPlane

variable {α κ : Type} [Address κ]

/-- Answers a call, and notes it if it is a write that succeeds. -/
def answerNoting (c : Call) (w : Store κ × List Call) : c.Outcome × (Store κ × List Call) :=
  ((w.1.answer c).1, (w.1.answer c).2.store,
    if c.isWrite && (w.1.answer c).1.isOk then w.2 ++ [c] else w.2)

theorem answerNoting_of_read {c : Call} (reads : c.isWrite = false) (w : Store κ × List Call) :
    answerNoting c w = ((w.1.answer c).1, w) := by
  simp [answerNoting, reads, w.1.answer_of_read reads]

/-! ### Scripts -/

/-- Creations and replacements of records of different kinds, which succeed one after another. Only
the first may be a creation: one that comes too late may lose the identity of a later one. -/
structure Script (s : Store κ) (calls : List Call) : Prop where
  isWrite : ∀ c ∈ calls, c.isWrite = true
  keeps : ∀ c ∈ calls, c.method ≠ .delete
  kinds : (calls.map Call.kind).Nodup
  replaces : ∀ c ∈ calls.tail, c.method ≠ .create
  succeeds : ∀ earlier c later, calls = earlier ++ c :: later →
    ((s.after earlier).answer c).1.isOk = true

theorem Script.nil (s : Store κ) : Script s [] :=
  ⟨nofun, nofun, List.nodup_nil, nofun, fun earlier c later split => by simp at split⟩

/-- One more write of another kind, which succeeds after the others. -/
theorem Script.snoc {s : Store κ} {calls : List Call} {c : Call} (valid : Script s calls)
    (isWrite : c.isWrite = true) (keeps : c.method ≠ .delete)
    (other : ∀ d ∈ calls, d.kind ≠ c.kind) (replaces : calls = [] ∨ c.method ≠ .create)
    (succeeds : ((s.after calls).answer c).1.isOk = true) : Script s (calls ++ [c]) where
  isWrite := by
    intro d mem
    rcases List.mem_append.mp mem with old | new
    · exact valid.isWrite d old
    · rwa [List.mem_singleton.mp new]
  keeps := by
    intro d mem
    rcases List.mem_append.mp mem with old | new
    · exact valid.keeps d old
    · rwa [List.mem_singleton.mp new]
  kinds := by
    rw [List.map_append, List.map_singleton]
    refine List.nodup_append.mpr ⟨valid.kinds, by simp, ?_⟩
    intro k old k' new same
    obtain ⟨d, mem, rfl⟩ := List.mem_map.mp old
    exact other d mem (same.trans (List.mem_singleton.mp new))
  replaces := by
    cases calls with
    | nil => exact nofun
    | cons first rest =>
      intro d mem
      rcases List.mem_append.mp mem with old | new
      · exact valid.replaces d old
      · rw [List.mem_singleton.mp new]
        exact replaces.resolve_left (List.cons_ne_nil _ _)
  succeeds := by
    intro earlier d later split
    rcases later.eq_nil_or_concat with rfl | ⟨rest, last, rfl⟩
    · obtain ⟨rfl, same⟩ := List.append_inj' split rfl
      obtain rfl := List.singleton_inj.mp same
      exact succeeds
    · rw [List.concat_eq_append, ← List.cons_append, ← List.append_assoc] at split
      exact valid.succeeds earlier d rest (List.append_inj' split rfl).1

/-- The writes that succeeded are the first of a script, those given among them, and the records are
what they make of those of the first store. Until a write succeeded nothing at all has changed. -/
structure Underway (s : Store κ) (script done : List Call) (w : Store κ × List Call) : Prop where
  done : done <+: w.2
  toCome : w.2 <+: script
  records : w.1.records = (s.after w.2).records
  untouched : w.2 = [] → w.1 = s

/-- A store with the writes that succeeded, beside others who make the writes of a script. -/
def racing (s : Store κ) (script : List Call) : Interference (Store κ × List Call) where
  drift w w' := ∀ done, Underway s script done w → Underway s script done w'
  answers c w o w' := answerNoting c w = (o, w')
  refl _ _ h := h
  trans h h' done start := h' done (h done start)

variable {s : Store κ} {script earlier done : List Call} {c : Call} {w : Store κ × List Call}

theorem Underway.start (s : Store κ) (script : List Call) : Underway s script [] (s, []) :=
  ⟨List.nil_prefix, List.nil_prefix, rfl, fun _ => rfl⟩

theorem Underway.weaken {done' : List Call} (h : Underway s script done w)
    (fewer : done' <+: done) : Underway s script done' w :=
  ⟨fewer.trans h.done, h.toCome, h.records, h.untouched⟩

/-- Identities that are lost after a write make no difference. -/
theorem Underway.giving (h : Underway s script done w) (some : w.2 ≠ []) (uids : UidSupply) :
    Underway s script done (w.1.giving uids, w.2) :=
  ⟨h.done, h.toCome, h.records, fun none => absurd none some⟩

/-- Once all of a script is done, nothing more succeeds. -/
theorem Underway.records_of_all (h : Underway s script script w) :
    w.1.records = (s.after script).records := by
  have all : w.2 = script := h.toCome.eq_of_length_le h.done.length_le
  rw [h.records, all]

/-- While there is nothing to write, nothing at all changes. -/
theorem Underway.eq_of_nil (h : Underway s [] done w) : w = (s, []) := by
  have none : w.2 = [] := List.prefix_nil.mp h.toCome
  exact Prod.ext (h.untouched none) none

/-- At most one write of each kind succeeds. -/
theorem Underway.once (h : Underway s script done w) (valid : Script s script) (kind : Kind) :
    (w.2.filter (·.kind = kind)).length ≤ 1 := by
  have distinct : (w.2.map Call.kind).Nodup := valid.kinds.sublist (h.toCome.sublist.map _)
  have once := List.nodup_iff_count.mp distinct kind
  rwa [List.count, List.countP_map, List.countP_eq_length_filter] at once

namespace Script

/-- The next write of a script succeeds for the first who makes it, and is a conflict for whoever
makes it later. -/
theorem race {later : List Call} (valid : Script s script) (split : script = earlier ++ c :: later)
    (reached : Underway s script earlier w) :
    (w.2 = earlier ∧ ∃ v, answerNoting c w = (((s.after earlier).answer c).1, v) ∧
        Underway s script (earlier ++ [c]) v) ∨
      ∃ e uids, e.isConflict = true ∧ w.2 ≠ [] ∧
        answerNoting c w = (.error e, w.1.giving uids, w.2) := by
  have inScript : c ∈ script := by simp [split]
  have isWrite := valid.isWrite c inScript
  have succeeds := valid.succeeds earlier c later split
  obtain ⟨t, log⟩ := w
  obtain ⟨since, rfl⟩ := reached.done
  have sinceThen : since <+: c :: later := by
    have toCome := reached.toCome
    rwa [split, List.prefix_append_right_inj] at toCome
  cases since with
  | nil =>
    have records : t.records = (s.after earlier).records := by
      simpa using reached.records
    have answered : ∃ u, t.answer c = (((s.after earlier).answer c).1, u) ∧
        u.store.records = ((s.after earlier).answer c).2.store.records := by
      cases earlier with
      | nil =>
        obtain rfl : t = s := reached.untouched rfl
        exact ⟨_, rfl, rfl⟩
      | cons first rest =>
        have other : c.method ≠ .create := valid.replaces c (by simp [split])
        rw [Store.eq_giving_of_records records, Store.answer_giving _ _ other]
        exact ⟨_, rfl, rfl⟩
    obtain ⟨u, answered, left⟩ := answered
    refine .inl ⟨List.append_nil earlier, (u.store, earlier ++ [c]), ?_, ?_⟩
    · simp only [List.append_nil, answerNoting, answered, isWrite, succeeds, Bool.and_true, if_true]
    · refine ⟨List.prefix_refl _, ⟨later, ?_⟩, ?_, fun none => by simp at none⟩
      · rw [split, List.append_assoc, List.singleton_append]
      · rw [left, Store.after_append]
        rfl
  | cons d since =>
    right
    obtain ⟨same, rest⟩ := List.cons_prefix_cons.mp sinceThen
    subst d
    -- Whatever was written since is of another kind, so the record is as this write left it.
    have others : ∀ d ∈ since, d ∈ script ∧ c.kind ≠ d.kind := by
      intro d mem
      have mem := rest.subset mem
      have kinds := valid.kinds
      rw [split, List.map_append, List.map_cons] at kinds
      have tail := (List.nodup_append.mp kinds).2.1
      refine ⟨by simp [split, mem], fun same => ?_⟩
      exact (List.nodup_cons.mp tail).1 (same ▸ List.mem_map_of_mem mem)
    have same : ∀ k, c.key? = some k → (s.after (earlier ++ c :: since)).find? c.kind k =
        ((s.after earlier).answer c).2.store.find? c.kind k := by
      intro k _
      rw [Store.after_append, Store.after_cons]
      exact Store.find?_after_of_kind (fun d mem => valid.keeps d (others d mem).1)
        (fun d mem => (others d mem).2) k
    have same : ∀ k, c.key? = some k → t.find? c.kind k =
        ((s.after earlier).answer c).2.store.find? c.kind k := fun k named =>
      (Store.find?_of_records reached.records c.kind k).trans (same k named)
    obtain ⟨e, failed, ⟨uids, -, stays⟩, conflict⟩ :=
      Store.answer_again isWrite (valid.keeps c inScript) succeeds same
    refine ⟨e, uids, conflict, by simp, ?_⟩
    rw [answerNoting, failed, stays, show (Except.error e : c.Outcome).isOk = false from rfl,
      Bool.and_false]
    rfl

/-- A write of the script keeps to the script. -/
theorem drift_of_race {later : List Call} (valid : Script s script)
    (split : script = earlier ++ c :: later) (reached : Underway s script earlier w) :
    (racing s script).drift w (answerNoting c w).2 := by
  intro done start
  rcases valid.race split reached with ⟨now, v, first, next⟩ | ⟨e, uids, -, some, again⟩
  · rw [first]
    refine next.weaken (start.done.trans ?_)
    rw [now]
    exact List.prefix_append earlier [c]
  · rw [again]
    exact start.giving some uids

/-- The write of a script that stands at the end of a routine: the routine ends as the first who
makes the write, or with a conflict. -/
theorem ensures_call {later : List Call} (valid : Script s script)
    (split : script = earlier ++ c :: later) (reached : Underway s script earlier w)
    (told : c.Outcome → α) :
    (Routine.call c fun o => .done (told o)).Ensures (racing s script) (racing s script).drift
      (fun a v => (a = told ((s.after earlier).answer c).1 ∧
          Underway s script (earlier ++ [c]) v) ∨
        ∃ e : StoreError, e.isConflict = true ∧ a = told (.error e)) w := by
  intro u hu o v answered
  have reached' := hu earlier reached
  have allowed := valid.drift_of_race split reached'
  rcases valid.race split reached' with ⟨-, v', first, next⟩ | ⟨e, uids, conflict, -, again⟩
  · obtain ⟨rfl, rfl⟩ := Prod.mk.inj (first.symm.trans answered)
    rw [first] at allowed
    exact ⟨allowed, fun x hx => .inl ⟨rfl, hx _ next⟩⟩
  · obtain ⟨rfl, rfl⟩ := Prod.mk.inj (again.symm.trans answered)
    rw [again] at allowed
    exact ⟨allowed, fun x _ => .inr ⟨e, conflict, rfl⟩⟩

end Script

/-- Reading changes nothing and notes nothing. -/
theorem racing_reads {o : c.Outcome} {v : Store κ × List Call} (reads : c.isWrite = false)
    (answered : (racing s script).answers c w o v) : o = (w.1.answer c).1 ∧ v = w := by
  obtain ⟨rfl, rfl⟩ := Prod.mk.inj ((answerNoting_of_read reads w).symm.trans answered)
  exact ⟨rfl, rfl⟩

/-- A routine whose reads are answered alike from some point of a script on ends as it would with
nobody else at work. -/
theorem Routine.Steady.ensures_racing {alike : Store κ → Prop} {r : Routine α} {t : Store κ}
    (steady : r.Steady alike t) (alikes : ∀ u, Underway s script done u → alike u.1)
    (reached : Underway s script done w) :
    r.Ensures (racing s script) (racing s script).drift
      (fun a v => a = (r.runOn t).1 ∧ Underway s script done v) w := by
  refine steady.ensures_of alikes (fun u v here hu => hu done here) ?_ reached
  intro c u o v reads answered here
  obtain ⟨rfl, rfl⟩ := racing_reads reads answered
  exact ⟨rfl, (racing s script).refl v, here⟩

end ControlPlane
