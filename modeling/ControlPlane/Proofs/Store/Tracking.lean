import ControlPlane.Proofs.Store.Pool

/-!
Routines that go on beside others as they would by themselves. The store that a routine finds and
the store that it would have left with nobody else at work are related, and the routine cannot tell
them apart (`Routine.Tracks`); so it ends as it would by itself, and the stores are related still
(`Routine.Tracks.ensures`). The same holds of all routines of a pool that do not notice one another
(`Pool.Reaches.tracked`).
-/

namespace ControlPlane

variable {α β κ : Type} [Address κ]

/-- Answers a call; what is announced is not kept. -/
def Store.respond (c : Call) (s : Store κ) : c.Outcome × Store κ :=
  ((s.answer c).1, (s.answer c).2.store)

namespace Routine

/-- A run is the same whether its announcements are kept or not. -/
theorem run_respond (r : Routine α) (s : Store κ) :
    r.run Store.respond s = ((r.runOn s).1, (r.runOn s).2.store) := by
  induction r generalizing s with
  | done a => rfl
  | call c resume ih =>
    rw [runOn_call]
    exact ih _ _

variable {related guar : Store κ → Store κ → Prop}

/-- Along its run on a store, a routine is answered by every related store in such a way that it
goes on alike; the stores stay related, and the other one changes only as it is allowed to. -/
def Tracks (related guar : Store κ → Store κ → Prop) : Routine α → Store κ → Prop
  | done _, _ => True
  | call c resume, t =>
    (∀ w, related t w → resume (w.answer c).1 = resume (t.answer c).1 ∧
      related (t.answer c).2.store (w.answer c).2.store ∧ guar w (w.answer c).2.store) ∧
    (resume (t.answer c).1).Tracks related guar (t.answer c).2.store

theorem Tracks.bind {r : Routine α} {f : α → Routine β} {t : Store κ}
    (h : r.Tracks related guar t)
    (next : (f (r.runOn t).1).Tracks related guar (r.runOn t).2.store) :
    (r.bind f).Tracks related guar t := by
  induction r generalizing t with
  | done a => exact next
  | call c resume ih =>
    rw [runOn_call] at next
    refine ⟨fun w here => ?_, ih _ h.2 next⟩
    obtain ⟨same, stay, allowed⟩ := h.1 w here
    exact ⟨congrArg (fun r : Routine α => r.bind f) same, stay, allowed⟩

/-- A steady routine cannot tell related stores apart. -/
theorem Steady.tracks {alike : Store κ → Prop} {r : Routine α} {t : Store κ}
    (steady : r.Steady alike t) (alikes : ∀ w, related t w → alike w) (refl : ∀ w, guar w w) :
    r.Tracks related guar t := by
  induction r with
  | done a => trivial
  | call c resume ih =>
    refine ⟨fun w here => ?_, ?_⟩
    · rw [steady.2.1 w (alikes w here), t.answer_of_read steady.1, w.answer_of_read steady.1]
      exact ⟨rfl, here, refl w⟩
    · rw [t.answer_of_read steady.1]
      exact ih _ steady.2.2

/-- A world of which others keep that it is related to the store of a routine. -/
def beside (related : Store κ → Store κ → Prop) : Interference (Store κ) where
  drift u v := ∀ t, related t u → related t v
  answers c u o v := Store.respond c u = (o, v)
  refl _ _ h := h
  trans h h' t start := h' t (h t start)

/-- A routine that cannot tell related stores apart ends as it would with nobody else at work. -/
theorem Tracks.ensures {r : Routine α} {t w : Store κ} (h : r.Tracks related guar t)
    (start : related t w) :
    r.Ensures (beside related) guar
      (fun a v => a = (r.runOn t).1 ∧ related (r.runOn t).2.store v) w := by
  induction r generalizing t w with
  | done a => exact fun u hu => ⟨rfl, hu t start⟩
  | call c resume ih =>
    intro u hu o v answered
    obtain ⟨rfl, rfl⟩ := Prod.mk.inj answered
    obtain ⟨same, stay, allowed⟩ := h.1 u (hu t start)
    rw [runOn_call, same]
    exact ⟨allowed, ih _ h.2 stay⟩

end Routine

/-- Where no routine of a pool can tell what the others do, every run is, to each of them, the one
with nobody else at work. -/
theorem Pool.Reaches.tracked {ι : Type} [DecidableEq ι]
    {related guar : ι → Store κ → Store κ → Prop} {p q : Pool ι α (Store κ)}
    (fits : ∀ i j, i ≠ j → ∀ u v, guar i u v → ∀ t, related j t u → related j t v)
    (tracks : ∀ i, (p.routines i).Tracks (related i) (guar i) p.world)
    (start : ∀ i, related i p.world p.world) (reached : Pool.Reaches Store.respond p q)
    {i : ι} {a : α} (ended : q.result? i = some a) :
    a = ((p.routines i).runOn p.world).1 ∧
      related i ((p.routines i).runOn p.world).2.store q.world := by
  have ensured (j : ι) := (tracks j).ensures (start j)
  exact Pool.Reaches.post_of_done (fun _ _ _ => rfl) fits ensured reached ended

end ControlPlane
