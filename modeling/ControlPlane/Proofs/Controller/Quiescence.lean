import ControlPlane.Proofs.Controller.Delivery

/-!
Level-triggered delivery: what every loop that a controller reaches keeps (`Loop.sound_of_reached`),
and that every stored agent is in sync wherever nothing is left to do (`Loop.inSync_of_quiescent`).
-/

namespace ControlPlane

variable {κ : Type} [Address κ]

/-- No stored agent has tools. -/
def Store.toolless (s : Store κ) : Bool :=
  (s.select .agent none).all fun r =>
    (Client.typed (σ := AgentSpec) r).toOption.all (·.spec.tools.isEmpty)

theorem Store.toolsKept_of_toolless {s : Store κ} (toolless : s.toolless = true) (t : Store κ) :
    s.ToolsKept t := by
  intro key a read tool mem
  obtain ⟨r, found, typed⟩ := fetch_eq_ok_iff.mp read
  have none := List.all_eq_true.mp toolless r (mem_select_of_find? found)
  rw [typed] at none
  rw [List.isEmpty_iff.mp none] at mem
  cases mem

namespace Loop

open Reconciler (InSync Synced newAgent)

/-! ### The start -/

namespace ActsOnAgents

variable {s t : Store κ} {announced : List Announcement} {key : RecordKey}

/-- What others do to the agent at a key is announced. -/
theorem announced_or_kept (acts : ActsOnAgents s t announced)
    (accepted : Address.refusal? κ key = none) :
    (∃ a ∈ announced, a.agentKey? = some key) ∨ t.find? .agent key = s.find? .agent key := by
  induction acts with
  | nil s => exact .inr rfl
  | cons c agents _ ih =>
    rcases Store.noticed_or_quiet_of_agents agents accepted with ⟨a, mem, concerns⟩ | quiet
    · exact .inl ⟨a, List.mem_append_left _ mem, concerns⟩
    · rcases ih with ⟨a, mem, concerns⟩ | kept
      · exact .inl ⟨a, List.mem_append_right _ mem, concerns⟩
      · exact .inr (kept.trans quiet.agent)

theorem accepted_of_mem (acts : ActsOnAgents s t announced) {a : Announcement}
    (mem : a ∈ announced) : Address.refusal? κ a.record.key = none := by
  induction acts with
  | nil s => cases mem
  | cons c _ _ ih =>
    rcases List.mem_append.mp mem with here | later
    · exact Store.accepted_of_announced here
    · exact ih later

end ActsOnAgents

variable {settings : ControllerSettings} {broker : BrokerSettings}

/-- A loop begins in order: an agent that was not listed came later, and that was announced. -/
theorem sound_begun {s₀ s₁ s₂ : Store κ} {announced₁ announced₂ : List Announcement}
    {keys : List RecordKey} (before : ActsOnAgents s₀ s₁ announced₁)
    (listed : Pass.agentKeys.endOn s₁ = .ok keys) (after : ActsOnAgents s₁ s₂ announced₂) :
    (begun settings broker s₂ (announced₁ ++ announced₂) keys).Sound broker := by
  have fresh : (Controller.idle settings broker).queue.Disciplined [] :=
    WorkQueue.disciplined_new (Controller.backoffOf settings)
  refine ⟨rfl, fresh.addAll keys, fun key mentions => ?_, fun i mem => ?_, fun c mem => ?_,
    fun key accepted => ?_⟩
  · rcases mentions with (pending | ⟨a, mem, -⟩) | mem | ⟨a, mem, concerns⟩ | mem
    · rcases WorkQueue.mem_pending_of_addAll pending with old | new
      · cases old
      · exact ((Pass.mem_agentKeys_iff listed).mp new).1
    · cases mem
    · cases mem
    · refine Announcement.accepted_agentKey? concerns ?_
      rcases List.mem_append.mp mem with early | late
      · exact before.accepted_of_mem early
      · exact after.accepted_of_mem late
    · cases mem
  · cases mem
  · cases mem
  · rcases after.announced_or_kept accepted with ⟨a, mem, concerns⟩ | kept
    · exact .inl (.inr ⟨a, List.mem_append_right _ mem, concerns⟩)
    · by_cases mem : key ∈ keys
      -- Nobody touched the agent since the listing, so it was listed or there is none.
      · exact .inl (.inl (.inl ((WorkQueue.dirty_addAll_iff fresh).mpr (.inl mem))))
      · refine .inr (.inr fun r found => absurd ?_ mem)
        rw [Pass.mem_agentKeys_iff listed, ← kept]
        exact ⟨accepted, Option.isSome_of_eq_some found⟩

/-! ### Runs -/

variable {l l' : Loop κ}

/-- Every step keeps a loop sound, as long as it changes no tool of a stored agent. -/
theorem Sound.step (sound : l.Sound broker) {m : Move} (moved : l.step? m = some l')
    (kept : l.store.ToolsKept l'.store) : l'.Sound broker := by
  cases m with
  | act c =>
    obtain ⟨agents, eq⟩ := Option.ite_none_right_eq_some.mp moved
    obtain rfl := Option.some.inj eq
    exact sound.answered (.inl agents) kept
  | dispatch n =>
    obtain ⟨⟨a, channel⟩, picked, rfl⟩ := Option.map_eq_some_iff.mp moved
    have perm := perm_of_pick? picked
    refine sound.added (fun key mem => ?_) (fun b mem => mem)
      (fun b mem => perm.mem_iff.mpr (List.mem_cons_of_mem _ mem)) (fun key mem => mem)
      (fun b mem => .inl mem) fun b mem => ?_
    · have concerns := Option.mem_toList.mp mem
      exact .inr (.inr (.inl ⟨a, perm.mem_iff.mpr List.mem_cons_self, concerns⟩))
    · rcases List.mem_cons.mp (perm.mem_iff.mp mem) with rfl | left
      · exact .inr fun key concerns => Option.mem_toList.mpr concerns
      · exact .inl left
  | begin =>
    obtain ⟨⟨i, c⟩, begins, rfl⟩ := Option.map_eq_some_iff.mp moved
    exact sound.begins begins
  | call n =>
    obtain ⟨⟨i, others⟩, picked, moved⟩ := Option.bind_eq_some_iff.mp moved
    cases rest : i.rest with
    | done result => simp [rest] at moved
    | call c resume =>
      simp only [rest, Option.some.injEq] at moved
      obtain rfl := moved
      exact sound.called (perm_of_pick? picked) rest kept
  | giveUp n =>
    obtain ⟨⟨i, others⟩, picked, moved⟩ := Option.bind_eq_some_iff.mp moved
    cases rest : i.rest with
    | done result => simp [rest] at moved
    | call c resume =>
      simp only [rest, Option.some.injEq] at moved
      obtain rfl := moved
      rw [← rest]
      exact sound.gaveUp (perm_of_pick? picked) rest
  | carryOut n =>
    obtain ⟨⟨c, abandoned⟩, picked, rfl⟩ := Option.map_eq_some_iff.mp moved
    have perm := perm_of_pick? picked
    have allowed := sound.abandoned c (perm.mem_iff.mpr List.mem_cons_self)
    exact (sound.answered allowed kept).withAbandoned fun d mem =>
      sound.abandoned d (perm.mem_iff.mpr (List.mem_cons_of_mem _ mem))
  | note n =>
    obtain ⟨⟨i, others⟩, picked, moved⟩ := Option.bind_eq_some_iff.mp moved
    cases rest : i.rest with
    | done result =>
      simp only [rest, Option.some.injEq] at moved
      obtain rfl := moved
      exact sound.noted (perm_of_pick? picked) rest
    | call c resume => simp [rest] at moved
  | release n =>
    obtain ⟨⟨key, returned⟩, picked, rfl⟩ := Option.map_eq_some_iff.mp moved
    exact sound.released (perm_of_pick? picked)
  | alarm n =>
    obtain ⟨⟨a, alarms⟩, picked, rfl⟩ := Option.map_eq_some_iff.mp moved
    have perm := perm_of_pick? picked
    have known : ∀ key ∈ [a.key], l.Mentions key := by
      intro key mem
      rw [List.mem_singleton.mp mem]
      exact .inl (.inr ⟨a, perm.mem_iff.mpr List.mem_cons_self, rfl⟩)
    refine sound.added known (fun b mem => perm.mem_iff.mpr (List.mem_cons_of_mem _ mem))
      (fun b mem => mem) (fun key mem => mem) (fun b mem => ?_) fun b mem => .inl mem
    rcases List.mem_cons.mp (perm.mem_iff.mp mem) with rfl | left
    · exact .inr (List.mem_singleton_self _)
    · exact .inl left
  | list =>
    simp only [step?] at moved
    split at moved
    · rename_i keys listed
      obtain rfl := Option.some.inj moved
      refine sound.of_notices rfl rfl rfl rfl sound.disciplined (fun key mentions => ?_)
        fun key triggered => triggered
      rcases mentions with awaits | held | announced | mem
      · exact .inl (.inl awaits)
      · exact .inl (.inr (.inl held))
      · exact .inl (.inr (.inr (.inl announced)))
      · rcases List.mem_append.mp mem with old | new
        · exact .inl (.inr (.inr (.inr old)))
        · exact .inr ((Pass.mem_agentKeys_iff listed).mp new).1
    · cases moved
  | add n =>
    obtain ⟨⟨key, listed⟩, picked, rfl⟩ := Option.map_eq_some_iff.mp moved
    have perm := perm_of_pick? picked
    refine sound.added (fun k mem => ?_) (fun b mem => mem) (fun b mem => mem)
      (fun k mem => perm.mem_iff.mpr (List.mem_cons_of_mem _ mem)) (fun b mem => .inl mem)
      fun b mem => .inl mem
    rw [List.mem_singleton.mp mem]
    exact .inr (.inr (.inr (perm.mem_iff.mpr List.mem_cons_self)))
  | wait now =>
    obtain rfl := Option.some.inj moved
    exact sound.of_notices rfl rfl rfl rfl sound.disciplined (fun key mentions => .inl mentions)
      fun key triggered => triggered

/-- Every loop that is reached is sound. -/
theorem sound_of_reached (reached : Reached settings broker l) : l.Sound broker := by
  induction reached with
  | begun before listed after => exact sound_begun before listed after
  | step _ m moved kept ih => exact ih.step moved kept

/-! ### Where nothing is left to do -/

/-- No worker holds a key. -/
theorem Sound.held_of_quiescent (sound : l.Sound broker) (quiet : l.Quiescent) : l.held = [] := by
  refine List.eq_nil_iff_forall_not_mem.mpr fun key mem => ?_
  have isHeld := (sound.disciplined.held_iff key).mpr mem
  rw [Dictionary.eq_empty_of_isEmpty quiet.processing] at isHeld
  cases isHeld

/-- No notice is on its way. -/
theorem Sound.not_triggered (sound : l.Sound broker) (quiet : l.Quiescent) (key : RecordKey) :
    ¬ l.Triggered key := by
  rintro ((dirty | ⟨a, mem, -⟩) | ⟨a, mem, -⟩)
  · rcases sound.disciplined.dirtyWaits key dirty with pending | isHeld
    · rw [quiet.pending] at pending
      cases pending
    · have mem := (sound.disciplined.held_iff key).mp isHeld
      rw [sound.held_of_quiescent quiet] at mem
      cases mem
  · rw [quiet.alarms] at mem
    cases mem
  · rw [quiet.channel] at mem
    cases mem

/-- Level-triggered delivery loses nothing: where nothing is left to do, every stored agent is in
sync. -/
theorem inSync_of_quiescent (reached : Reached settings broker l) (quiet : l.Quiescent) :
    ∀ r ∈ l.store.select .agent none, ∃ a f config, InSync broker l.store r.key a f config := by
  intro r mem
  have sound := sound_of_reached reached
  have found := Store.mem_select_iff.mp mem
  have accepted := (Store.filed_find? found).2
  rcases sound.accounted r.key accepted with triggered | ⟨i, waits, -, -⟩ | synced
  · exact absurd triggered (sound.not_triggered quiet r.key)
  · have isHeld : i.key ∈ l.held := List.mem_append_left _ (List.mem_map_of_mem waits)
    rw [sound.held_of_quiescent quiet] at isHeld
    cases isHeld
  · exact synced r found

/-! ### A run -/

/-- The loop after moves one after another, as long as no stored agent has tools. -/
def play? (l : Loop κ) : List Move → Option (Loop κ)
  | [] => some l
  | m :: rest => if l.store.toolless then (l.step? m).bind (·.play? rest) else none

theorem Reached.play (reached : Reached settings broker l) {moves : List Move}
    (played : l.play? moves = some l') : Reached settings broker l' := by
  induction moves generalizing l with
  | nil =>
    obtain rfl := Option.some.inj played
    exact reached
  | cons m rest ih =>
    obtain ⟨toolless, moved⟩ := Option.ite_none_right_eq_some.mp played
    obtain ⟨next, stepped, played⟩ := Option.bind_eq_some_iff.mp moved
    exact ih (reached.step m stepped (Store.toolsKept_of_toolless toolless next.store)) played

/-- A loop that begins to work on a store with a new agent, and lists it. -/
def newAgentBegun : Loop RecordId := begun default default newAgent [] [⟨"d", "a"⟩]

/-- An invocation for the agent fails; the next one creates the function; the one after that, which
the announcement brings about, finds nothing to do. -/
def newAgentMoves : List Move :=
  [.begin, .giveUp 0, .note 0, .release 0, .wait 5, .alarm 0,
    .begin, .call 0, .call 0, .call 0, .call 0, .note 0, .dispatch 0, .release 0,
    .begin, .call 0, .call 0, .call 0, .note 0, .release 0]

/-- The agent is in sync when nothing is left to do. -/
theorem newAgent_inSync_of_quiescent : ∃ l : Loop RecordId,
    Reached default default l ∧ l.Quiescent ∧ (l.store.select .agent none).length = 1 ∧
      ∀ r ∈ l.store.select .agent none, ∃ a f config, InSync default l.store r.key a f config := by
  have listed : Pass.agentKeys.endOn newAgent = .ok [⟨"d", "a"⟩] := by decide +kernel
  have start : Reached default default newAgentBegun := .begun (.nil newAgent) listed (.nil newAgent)
  have ended : (newAgentBegun.play? newAgentMoves).any (fun l =>
      l.Quiescent ∧ (l.store.select .agent none).length = 1) = true := by decide +kernel
  obtain ⟨l, played, told⟩ := (Option.any_eq_true _ _).mp ended
  obtain ⟨quiet, one⟩ := of_decide_eq_true told
  have reached : Reached default default l := start.play played
  exact ⟨l, reached, quiet, one, inSync_of_quiescent reached quiet⟩

end Loop

end ControlPlane
