import ControlPlane.Proofs.Store.Run

/-!
Routines that run while others act. Between its calls, and after the last of them, a routine finds a
world that has drifted; `Routine.Ensures` says what each of its calls does to the world and what
holds when it has ended, however the world drifts. It is proved along the routine
(`Routine.Ensures.bind`, `Routine.Steady.ensures`), one call after another, and holds of every
interleaving (`Routine.Interleaved.ensures`).
-/

namespace ControlPlane

variable {α β ω κ : Type} [Address κ]

/-- How a world drifts between the calls of a routine, and how it answers them. -/
structure Interference (ω : Type) where
  drift : ω → ω → Prop
  answers : (c : Call) → ω → c.Outcome → ω → Prop
  refl : ∀ w, drift w w
  trans : ∀ {w w' w''}, drift w w' → drift w' w'' → drift w w''

namespace Routine

variable {I : Interference ω} {guar : ω → ω → Prop} {post : α → ω → Prop}

/-- Every call of the routine changes the world only as it is allowed to, and when the routine has
ended, and the world has drifted on, its result is as it should be. -/
def Ensures (I : Interference ω) (guar : ω → ω → Prop) (post : α → ω → Prop) :
    Routine α → ω → Prop
  | done a, w => ∀ w', I.drift w w' → post a w'
  | call c resume, w => ∀ w', I.drift w w' → ∀ o w'', I.answers c w' o w'' →
    guar w' w'' ∧ (resume o).Ensures I guar post w''

/-- What a routine ensures it still ensures after the world has drifted. -/
theorem Ensures.drift {r : Routine α} {w w' : ω} (h : r.Ensures I guar post w)
    (drifted : I.drift w w') : r.Ensures I guar post w' := by
  cases r with
  | done a => exact fun u hu => h u (I.trans drifted hu)
  | call c resume => exact fun u hu => h u (I.trans drifted hu)

theorem Ensures.mono {post' : α → ω → Prop} {r : Routine α} {w : ω} (h : r.Ensures I guar post w)
    (weaker : ∀ a w, post a w → post' a w) : r.Ensures I guar post' w := by
  induction r generalizing w with
  | done a => exact fun u hu => weaker a u (h u hu)
  | call c resume ih =>
    intro u hu o v answered
    obtain ⟨allowed, next⟩ := h u hu o v answered
    exact ⟨allowed, ih o next⟩

/-- A routine ensures what the rest of it ensures wherever its first part ends. -/
theorem Ensures.bind {post' : β → ω → Prop} {r : Routine α} {f : α → Routine β} {w : ω}
    (h : r.Ensures I guar (fun a w => (f a).Ensures I guar post' w) w) :
    (r.bind f).Ensures I guar post' w := by
  induction r generalizing w with
  | done a => exact h w (I.refl w)
  | call c resume ih =>
    intro u hu o v answered
    obtain ⟨allowed, next⟩ := h u hu o v answered
    exact ⟨allowed, ih o next⟩

/-! ### Routines that only read -/

/-- What reading and drifting keep is kept by a routine that only reads. -/
theorem ReadsOnly.ensures {P : ω → Prop} {r : Routine α} {w : ω} (h : r.ReadsOnly)
    (drifts : ∀ u v, P u → I.drift u v → P v)
    (reads : ∀ c u o v, c.isWrite = false → I.answers c u o v → P u → guar u v ∧ P v)
    (start : P w) : r.Ensures I guar (fun _ => P) w := by
  induction r generalizing w with
  | done a => exact fun u hu => drifts w u start hu
  | call c resume ih =>
    intro u hu o v answered
    obtain ⟨allowed, kept⟩ := reads c u o v h.1 answered (drifts w u start hu)
    exact ⟨allowed, ih o (h.2 o) kept⟩

/-- A routine whose reads are answered alike while something holds that others keep ends as it
would with nobody else at work. -/
theorem Steady.ensures_of {alike : Store κ → Prop} {view : ω → Store κ} {P : ω → Prop}
    {r : Routine α} {s : Store κ} {w : ω} (h : r.Steady alike s)
    (alikes : ∀ u, P u → alike (view u))
    (drifts : ∀ u v, P u → I.drift u v → P v)
    (reads : ∀ c u o v, c.isWrite = false → I.answers c u o v → P u →
      o = ((view u).answer c).1 ∧ guar u v ∧ P v)
    (start : P w) : r.Ensures I guar (fun a v => a = (r.runOn s).1 ∧ P v) w := by
  induction r generalizing w with
  | done a => exact fun u hu => ⟨rfl, drifts w u start hu⟩
  | call c resume ih =>
    intro u hu o v answered
    have here := drifts w u start hu
    obtain ⟨rfl, allowed, kept⟩ := reads c u o v h.1 answered here
    rw [runOn_call, s.answer_of_read h.1, h.2.1 _ (alikes u here)]
    exact ⟨allowed, ih _ h.2.2 kept⟩

/-- A routine whose reads are answered alike however the store drifts ends as it would with nobody
else at work. -/
theorem Steady.ensures {I : Interference (Store κ)} {guar : Store κ → Store κ → Prop}
    {r : Routine α} {s : Store κ} (h : r.Steady (I.drift s) s)
    (reads : ∀ c t o u, c.isWrite = false → I.answers c t o u →
      o = (t.answer c).1 ∧ u = t ∧ guar t u) :
    r.Ensures I guar (fun a t => a = (r.runOn s).1 ∧ I.drift s t) s := by
  refine h.ensures_of (P := I.drift s) (fun u hu => hu) (fun u v hu => I.trans hu) ?_ (I.refl s)
  intro c t o u isRead answered here
  obtain ⟨rfl, rfl, allowed⟩ := reads c t o u isRead answered
  exact ⟨rfl, allowed, here⟩

/-! ### Interleavings -/

/-- The routine runs in a world to its end, the world drifting between its calls. -/
inductive Interleaved (I : Interference ω) : Routine α → ω → α → ω → Prop where
  | done {a : α} {w w' : ω} (drifted : I.drift w w') : Interleaved I (.done a) w a w'
  | call {c : Call} {resume : c.Outcome → Routine α} {w w' w'' : ω} {o : c.Outcome} {a : α} {v : ω}
      (drifted : I.drift w w') (answered : I.answers c w' o w'')
      (rest : Interleaved I (resume o) w'' a v) : Interleaved I (.call c resume) w a v

/-- What a routine ensures holds at the end of every interleaving. -/
theorem Interleaved.ensures {r : Routine α} {w w' : ω} {a : α} (run : r.Interleaved I w a w')
    (h : r.Ensures I guar post w) : post a w' := by
  induction run with
  | done drifted => exact h _ drifted
  | call drifted answered _ ih => exact ih (h _ drifted _ _ answered).2

/-- A routine that is over has its result, and the world drifts on. -/
theorem interleaved_done_iff {a b : α} {w v : ω} :
    (Routine.done b).Interleaved I w a v ↔ a = b ∧ I.drift w v := by
  constructor
  · rintro ⟨drifted⟩
    exact ⟨rfl, drifted⟩
  · rintro ⟨rfl, drifted⟩
    exact .done drifted

/-- The world may drift before the routine begins. -/
theorem Interleaved.of_drift {r : Routine α} {w w' v : ω} {a : α} (drifted : I.drift w w')
    (run : r.Interleaved I w' a v) : r.Interleaved I w a v := by
  cases run with
  | done drifted' => exact .done (I.trans drifted drifted')
  | call drifted' answered rest => exact .call (I.trans drifted drifted') answered rest

/-- The world may drift on after the routine has ended. -/
theorem Interleaved.drift {r : Routine α} {w v v' : ω} {a : α} (run : r.Interleaved I w a v)
    (drifted : I.drift v v') : r.Interleaved I w a v' := by
  induction run with
  | done drifted' => exact .done (I.trans drifted' drifted)
  | call drifted' answered _ ih => exact .call drifted' answered (ih drifted)

/-- Two routines in a row run to their end as the first and then the second do. -/
theorem interleaved_bind_iff {r : Routine α} {f : α → Routine β} {w v : ω} {b : β} :
    (r.bind f).Interleaved I w b v ↔
      ∃ a u, r.Interleaved I w a u ∧ (f a).Interleaved I u b v := by
  induction r generalizing w with
  | done a =>
    constructor
    · exact fun run => ⟨a, w, .done (I.refl w), run⟩
    · rintro ⟨_, u, ⟨drifted⟩, run⟩
      exact run.of_drift drifted
  | call c resume ih =>
    constructor
    · rintro (_ | ⟨drifted, answered, rest⟩)
      obtain ⟨a, u, first, next⟩ := (ih _).mp rest
      exact ⟨a, u, .call drifted answered first, next⟩
    · rintro ⟨a, u, _ | ⟨drifted, answered, first⟩, next⟩
      exact .call drifted answered ((ih _).mpr ⟨a, u, first, next⟩)

/-- What is left of a routine, and its world, after a number of calls with nobody else at work. -/
def advance (answer : (c : Call) → ω → c.Outcome × ω) : Nat → Routine α → ω → Routine α × ω
  | 0, r, w => (r, w)
  | _, done a, w => (done a, w)
  | n + 1, call c resume, w => (resume (answer c w).1).advance answer n (answer c w).2

variable {answer : (c : Call) → ω → c.Outcome × ω}

/-- Where what a routine may do is drift, the world drifts with its first calls. -/
theorem Ensures.advance (answers : ∀ c w, I.answers c w (answer c w).1 (answer c w).2)
    (fits : ∀ u v, guar u v → I.drift u v) {r : Routine α} {w : ω} (h : r.Ensures I guar post w)
    (n : Nat) : I.drift w (r.advance answer n w).2 := by
  induction n generalizing r w with
  | zero => exact I.refl w
  | succ n ih =>
    cases r with
    | done a => exact I.refl w
    | call c resume =>
      obtain ⟨allowed, next⟩ := h w (I.refl w) _ _ (answers c w)
      exact I.trans (fits _ _ allowed) (ih next)

/-- An interleaving can begin with calls that are made with nobody else at work. -/
theorem Interleaved.of_advance (answers : ∀ c w, I.answers c w (answer c w).1 (answer c w).2)
    {n : Nat} {r : Routine α} {w v : ω} {a : α}
    (run : (r.advance answer n w).1.Interleaved I (r.advance answer n w).2 a v) :
    r.Interleaved I w a v := by
  induction n generalizing r w with
  | zero => exact run
  | succ n ih =>
    cases r with
    | done a => exact run
    | call c resume => exact .call (I.refl w) (answers c w) (ih run)

/-- A run with nobody else at work is an interleaving. -/
theorem Interleaved.of_run (answers : ∀ c w, I.answers c w (answer c w).1 (answer c w).2)
    (r : Routine α) (w : ω) :
    r.Interleaved I w (r.run answer w).1 (r.run answer w).2 := by
  induction r generalizing w with
  | done a => exact .done (I.refl w)
  | call c resume ih => exact .call (I.refl w) (answers c w) (ih _ _)

end Routine

end ControlPlane
