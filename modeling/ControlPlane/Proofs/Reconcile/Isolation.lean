import ControlPlane.Proofs.Reconcile.OwnCalls
import ControlPlane.Proofs.Store.Cascade
import ControlPlane.Proofs.Store.Revisions

/-!
Isolation of owners. A function that only its agent owns falls with what does not own the agent
exactly when something falls that bears the agent's identity (`Reconciler.function_spared_iff`). The
store gives no identity twice (`Store.Identified`), so nothing does as long as those who create
records leave the identities to it; but a record that comes with an identity keeps it, be it that of
another record.
-/

namespace ControlPlane

variable {α κ : Type} [Address κ]

/-! ### Identities -/

/-- The identity that a call brings for a new record. -/
def Call.broughtUid : Call → String
  | .create _ r => r.metadata.uid
  | _ => ""

namespace Store

variable {s t : Store κ} {kind : Kind} {key : RecordKey} {r : Record}

/-- Every record is under an identity that the store gave, and no two are under the same. -/
structure Identified (s : Store κ) : Prop where
  given : ∀ kind key r, s.find? kind key = some r →
    ∃ n < s.uids.drawn, r.metadata.uid = s.uids.text n
  apart : ∀ kind key r kind' key' r', s.find? kind key = some r → s.find? kind' key' = some r' →
    r.metadata.uid = r'.metadata.uid → Address.of (κ := κ) kind key = Address.of kind' key'

theorem identified_empty (uids : UidSupply) : (empty uids : Store κ).Identified :=
  ⟨nofun, nofun⟩

/-- Identities stay apart where each record was there under the same one. -/
theorem Identified.of_kept (h : s.Identified) (uids : s.uids.GoesOn t.uids)
    (kept : ∀ kind key r, t.find? kind key = some r →
      ∃ q, s.find? kind key = some q ∧ q.metadata.uid = r.metadata.uid) : t.Identified := by
  constructor
  · intro kind key r found
    obtain ⟨q, there, same⟩ := kept kind key r found
    obtain ⟨n, drawn, given⟩ := h.given kind key q there
    exact ⟨n, drawn.trans_le uids.drawn, by rw [uids.text, ← same, given]⟩
  · intro kind key r kind' key' r' found found' same
    obtain ⟨q, there, eq⟩ := kept kind key r found
    obtain ⟨q', there', eq'⟩ := kept kind' key' r' found'
    exact h.apart kind key q kind' key' q' there there' (eq.trans (same.trans eq'.symm))

/-- A new record under the identity that is drawn next is told apart from all others. -/
theorem Identified.of_new (h : s.Identified) (injective : Function.Injective s.uids.text)
    (puts : s.Puts t kind r) (fresh : r.metadata.uid = s.uids.text s.uids.drawn)
    (uids : t.uids = { s.uids with drawn := s.uids.drawn + 1 }) : t.Identified := by
  -- No record that was there has it.
  have unused : ∀ kind' key q, s.find? kind' key = some q → q.metadata.uid ≠ r.metadata.uid := by
    intro kind' key q there same
    obtain ⟨n, drawn, given⟩ := h.given kind' key q there
    rw [given, fresh] at same
    exact absurd (injective same) (Nat.ne_of_lt drawn)
  constructor
  · intro kind' key q found
    rw [uids]
    rcases puts.new_or_old found with ⟨-, rfl⟩ | there
    · exact ⟨s.uids.drawn, Nat.lt_succ_self _, fresh⟩
    · obtain ⟨n, drawn, given⟩ := h.given kind' key q there
      exact ⟨n, Nat.lt_succ_of_lt drawn, given⟩
  · intro kind₁ key₁ q₁ kind₂ key₂ q₂ found₁ found₂ same
    rcases puts.new_or_old found₁ with ⟨here₁, rfl⟩ | there₁ <;>
      rcases puts.new_or_old found₂ with ⟨here₂, rfl⟩ | there₂
    · exact here₁.trans here₂.symm
    · exact absurd same.symm (unused kind₂ key₂ q₂ there₂)
    · exact absurd same (unused kind₁ key₁ q₁ there₁)
    · exact h.apart kind₁ key₁ q₁ kind₂ key₂ q₂ there₁ there₂ same

/-- A call that brings no identity leaves the identities apart. -/
theorem Identified.answer (h : s.Identified) (injective : Function.Injective s.uids.text)
    {c : Call} (bringsNone : c.broughtUid = "") : (s.answer c).2.store.Identified := by
  cases s.does c with
  | nothing stays =>
    obtain ⟨uids, goesOn, stays⟩ := stays
    rw [stays]
    exact h.of_kept goesOn fun kind key r there => ⟨r, there, rfl⟩
  | @creates k asked uid t done absent puts identified =>
    rw [done]
    have none : asked.metadata.uid = "" := bringsNone
    rw [none, UidSupply.identify, if_pos (by rfl)] at identified
    obtain ⟨rfl, uids⟩ := Prod.mk.inj identified
    exact h.of_new injective puts rfl uids
  | @revises c revision k current t asks found ok done puts uids =>
    rw [done]
    refine h.of_kept (uids ▸ .refl _) fun kind key r there => ?_
    rcases puts.new_or_old there with ⟨here, rfl⟩ | there
    · refine ⟨current, ?_, (revision.apply_uid current).symm⟩
      rw [revision.apply_key, ← (filed_find? found).1] at here
      rw [find?, here, ← find?, found]
    · exact ⟨r, there, rfl⟩
  | @drops k key _ found =>
    have drops := s.drops_delete k key
    exact h.of_kept (drops.uids ▸ .refl _) fun kind key r left => ⟨r, drops.of_find? left, rfl⟩

theorem Identified.after (h : s.Identified) (injective : Function.Injective s.uids.text)
    {calls : List Call} (bringNone : ∀ c ∈ calls, c.broughtUid = "") :
    (s.after calls).Identified := by
  induction calls generalizing s with
  | nil => exact h
  | cons c rest ih =>
    rw [List.forall_mem_cons] at bringNone
    refine ih (h.answer injective bringNone.1) ?_ bringNone.2
    rw [text_answer]
    exact injective

theorem vacant_injective : Function.Injective vacant.uids.text := by
  intro m n same
  have digits : (m + 1).repr = (n + 1).repr := by
    simpa [vacant, empty] using same
  have read := congrArg (fun t => Nat.ofDigitChars 10 t.toList 0) digits
  simp only [Nat.toList_repr, Nat.ofDigitChars_ten_toDigits] at read
  exact Nat.succ_inj.mp read

end Store

/-! ### Runs -/

/-- A run of a routine leaves what its calls leave. -/
theorem Routine.MakesOnly.after {sort : Call → Prop} {r : Routine α} (h : r.MakesOnly κ sort)
    (s : Store κ) : ∃ calls, (∀ c ∈ calls, sort c) ∧ (r.runOn s).2.store = s.after calls := by
  induction r generalizing s with
  | done a => exact ⟨[], nofun, rfl⟩
  | call c resume ih =>
    obtain ⟨first, later⟩ := h
    obtain ⟨calls, sorted, left⟩ := ih (s.answer c).1 (later s) (s.answer c).2.store
    refine ⟨c :: calls, List.forall_mem_cons.mpr ⟨first, sorted⟩, ?_⟩
    rw [Routine.runOn_call, Store.after_cons, ← left]
    rfl

namespace Reconciler

variable {broker : BrokerSettings} {key k : RecordKey} {kind : Kind} {b f q : Record}

/-- What is done to a store: a call, or an invocation for a key. -/
inductive Deed where
  | call (c : Call)
  | reconcile (key : RecordKey)

namespace Deed

/-- The identity that is brought for a new record. -/
def broughtUid : Deed → String
  | call c => c.broughtUid
  | reconcile _ => ""

/-- The store after it was done. -/
def perform (broker : BrokerSettings) (s : Store κ) : Deed → Store κ
  | call c => (s.answer c).2.store
  | reconcile key => ((Reconciler.reconcile broker key).run.runOn s).2.store

/-- The store after one deed after another. -/
def performAll (broker : BrokerSettings) (s : Store κ) (deeds : List Deed) : Store κ :=
  deeds.foldl (perform broker) s

/-- An invocation brings no identity for the function that it creates. -/
theorem bringsNone_reconcile (broker : BrokerSettings) (key : RecordKey) :
    (Reconciler.reconcile broker key).run.MakesOnly κ (·.broughtUid = "") := by
  refine makesOnly_reconcile_of broker ?_ fun s agent read => ?_
  · intro c reads
    cases c <;> first | rfl | cases reads
  · exact ⟨fun config => rfl, fun config t f judged => rfl, fun observed => rfl⟩

/-- Whatever is done comes down to calls, which bring no identities if the deeds bring none. -/
theorem exists_calls (broker : BrokerSettings) (s : Store κ) (deeds : List Deed) :
    ∃ calls, performAll broker s deeds = s.after calls ∧
      ((∀ d ∈ deeds, d.broughtUid = "") → ∀ c ∈ calls, c.broughtUid = "") := by
  induction deeds generalizing s with
  | nil => exact ⟨[], rfl, fun _ => nofun⟩
  | cons d rest ih =>
    obtain ⟨later, left, bringNone⟩ := ih (perform broker s d)
    cases d with
    | call c =>
      refine ⟨c :: later, left, fun none => ?_⟩
      rw [List.forall_mem_cons] at none ⊢
      exact ⟨none.1, bringNone none.2⟩
    | reconcile key =>
      obtain ⟨calls, noneOfThese, ran⟩ := (bringsNone_reconcile broker key).after s
      refine ⟨calls ++ later, ?_, fun none => ?_⟩
      · rw [Store.after_append, ← ran]
        exact left
      · rw [List.forall_mem_cons] at none
        rw [List.forall_mem_append]
        exact ⟨noneOfThese, bringNone none.2⟩

end Deed

/-- An agent owns the function whose only owner it is, and nothing else does. -/
theorem isOwnedBy_iff_of_single {f b : Metadata} {uid : String} (named : b.uid ≠ "")
    (owner : f.ownerReferences = [b.controllerReference .agent]) :
    f.isOwnedBy uid = true ↔ uid = b.uid := by
  rw [Metadata.isOwnedBy, owner]
  simp only [List.any_cons, List.any_nil, Bool.or_false, Metadata.controllerReference,
    Bool.and_eq_true, Bool.not_eq_true', beq_iff_eq]
  constructor
  · rintro ⟨-, same⟩
    exact same.symm
  · rintro rfl
    refine ⟨?_, rfl⟩
    rw [Bool.eq_false_iff, Ne, String.isEmpty_iff]
    exact named

/-- A function that only the agent at its key owns, and a deletion of another record that does not
take the agent with it. The function is left exactly if nothing is dropped that bears the agent's
identity. So it is left if nobody who created a record brought an identity. -/
theorem function_spared_iff {uids : UidSupply} (named : ∀ n, uids.text n ≠ "")
    {deeds : List Deed} {s : Store κ} (run : s = Deed.performAll broker (.empty uids) deeds)
    (agent : s.find? .agent key = some b) (function : s.find? .function key = some f)
    (owner : f.metadata.ownerReferences = [b.metadata.controllerReference .agent])
    (target : s.find? kind k = some q)
    (other : Address.of (κ := κ) kind k ≠ Address.of .function key)
    (apart : ¬ s.records.FallsWith (Address.of kind k) (Address.of .agent key)) :
    ((s.answer (.delete kind k)).2.store.find? .function key = some f ↔
        ∀ a x, s.records.FallsWith (Address.of kind k) a → s.records.find? a = some x →
          x.metadata.uid ≠ b.metadata.uid) ∧
      (Function.Injective uids.text → (∀ d ∈ deeds, d.broughtUid = "") →
        (s.answer (.delete kind k)).2.store.find? .function key = some f) := by
  obtain ⟨calls, left, bringNone⟩ := Deed.exists_calls broker (.empty uids : Store κ) deeds
  rw [← run] at left
  have identity : b.metadata.uid ≠ "" := by
    rw [left] at agent
    exact Store.uid_ne_empty named agent
  have cascade := (Store.delete_cascades target).2
  have spared : (s.answer (.delete kind k)).2.store.find? .function key = some f ↔
      ∀ a x, s.records.FallsWith (Address.of kind k) a → s.records.find? a = some x →
        x.metadata.uid ≠ b.metadata.uid := by
    constructor
    · intro kept a x falls there same
      have owns := (isOwnedBy_iff_of_single identity owner).mpr same
      have gone := cascade.gone _ (.owned falls there function owns)
      rw [Store.find?, gone] at kept
      cases kept
    · intro none
      refine (cascade.kept _ fun falls => ?_).trans function
      generalize at_ : Address.of (κ := κ) .function key = a at falls
      cases falls with
      | root => exact other at_.symm
      | owned falls there found owns =>
        subst at_
        obtain rfl := Option.some.inj (function.symm.trans found)
        exact none _ _ falls there ((isOwnedBy_iff_of_single identity owner).mp owns)
  refine ⟨spared, fun injective none => spared.mpr fun a x falls there same => ?_⟩
  have identified : s.Identified := by
    rw [left]
    exact (Store.identified_empty uids).after injective (bringNone none)
  have home := (s.filed a x there).1
  rw [home] at there
  -- Only the agent bears its identity, and it does not fall.
  have isAgent := identified.apart _ _ x _ _ b there agent same
  rw [home, isAgent] at falls
  exact apart falls

/-- An agent, its function, and then a package that comes with an identity or without. -/
def besidePackage (uid : String) : List Deed :=
  [.call (.create .agent ⟨{ name := "a", «namespace» := "d" },
      .obj [("model", .obj [("model", .str "g")])], .null⟩),
    .reconcile ⟨"d", "a"⟩,
    .call (.create .package ⟨{ name := "x", «namespace» := "d", uid }, .obj [], .null⟩)]

/-- The store that they leave, which gives the identities gen-1, gen-2 and so on. -/
def packaged (uid : String) : Store RecordId :=
  Deed.performAll default (.empty Store.vacant.uids) (besidePackage uid)

/-- An agent that owns its function, and a package, read off what is stored. -/
theorem exists_owned (s : Store κ) (key : RecordKey) (kind : Kind) (k : RecordKey)
    (agent : (s.find? .agent key).isSome = true)
    (owner : (s.find? .function key).map (·.metadata.ownerReferences) =
      (s.find? .agent key).map fun b => [b.metadata.controllerReference .agent])
    (target : (s.find? kind k).isSome = true) :
    ∃ b f q, s.find? .agent key = some b ∧ s.find? .function key = some f ∧
      f.metadata.ownerReferences = [b.metadata.controllerReference .agent] ∧
      s.find? kind k = some q := by
  obtain ⟨b, agent⟩ := Option.isSome_iff_exists.mp agent
  obtain ⟨q, target⟩ := Option.isSome_iff_exists.mp target
  rw [agent] at owner
  obtain ⟨f, function, owner⟩ := Option.map_eq_some_iff.mp owner
  exact ⟨b, f, q, agent, function, owner, target⟩

/-- The function is left when the package is deleted that came without an identity. -/
theorem packaged_spared : ∃ b f q,
    (packaged "").find? .agent ⟨"d", "a"⟩ = some b ∧
      (packaged "").find? .function ⟨"d", "a"⟩ = some f ∧
      f.metadata.ownerReferences = [b.metadata.controllerReference .agent] ∧
      (packaged "").find? .package ⟨"d", "x"⟩ = some q ∧
      ¬ (packaged "").records.FallsWith ⟨.package, ⟨"d", "x"⟩⟩ ⟨.agent, ⟨"d", "a"⟩⟩ ∧
      ((packaged "").answer (.delete .package ⟨"d", "x"⟩)).2.store.find? .function ⟨"d", "a"⟩ =
        some f := by
  obtain ⟨b, f, q, agent, function, owner, target⟩ := exists_owned (packaged "") ⟨"d", "a"⟩
    .package ⟨"d", "x"⟩ (by decide +kernel) (by decide +kernel) (by decide +kernel)
  have rounds : Sweep.round^[1] ⟨[], (packaged "").records, [⟨.package, ⟨"d", "x"⟩⟩]⟩ = _ := rfl
  have apart : ¬ (packaged "").records.FallsWith ⟨.package, ⟨"d", "x"⟩⟩ ⟨.agent, ⟨"d", "a"⟩⟩ :=
    Sweep.not_fallsWith_of_rounds rounds (by decide +kernel) (by decide +kernel)
  have spared :=
    (function_spared_iff Store.vacant_named rfl agent function owner target nofun apart).2
  exact ⟨b, f, q, agent, function, owner, target, apart, spared Store.vacant_injective (by decide)⟩

/-- The function is taken along with the package that came with the identity of the agent, which
owns the function and is left. -/
theorem packaged_taken : ∃ b f q,
    (packaged "gen-1").find? .agent ⟨"d", "a"⟩ = some b ∧
      (packaged "gen-1").find? .function ⟨"d", "a"⟩ = some f ∧
      f.metadata.ownerReferences = [b.metadata.controllerReference .agent] ∧
      (packaged "gen-1").find? .package ⟨"d", "x"⟩ = some q ∧
      ¬ (packaged "gen-1").records.FallsWith ⟨.package, ⟨"d", "x"⟩⟩ ⟨.agent, ⟨"d", "a"⟩⟩ ∧
      ((packaged "gen-1").answer (.delete .package ⟨"d", "x"⟩)).2.store.find? .function
        ⟨"d", "a"⟩ = none := by
  obtain ⟨b, f, q, agent, function, owner, target⟩ := exists_owned (packaged "gen-1") ⟨"d", "a"⟩
    .package ⟨"d", "x"⟩ (by decide +kernel) (by decide +kernel) (by decide +kernel)
  have rounds : Sweep.round^[2] ⟨[], (packaged "gen-1").records, [⟨.package, ⟨"d", "x"⟩⟩]⟩ = _ :=
    rfl
  have ended : (Sweep.round^[2]
      ⟨[], (packaged "gen-1").records, [(⟨.package, ⟨"d", "x"⟩⟩ : RecordId)]⟩).pending = [] := by
    decide +kernel
  refine ⟨b, f, q, agent, function, owner, target,
    Sweep.not_fallsWith_of_rounds rounds ended (by decide +kernel), ?_⟩
  have left := (Store.answer_delete_of_found target).2.1
  rw [Store.find?, left, show Address.of Kind.package ⟨"d", "x"⟩ =
    (⟨.package, ⟨"d", "x"⟩⟩ : RecordId) from rfl, Sweep.dropAll_of_rounds rounds ended]
  exact Option.isNone_iff_eq_none.mp (by decide +kernel)

end Reconciler

end ControlPlane
