import ControlPlane.Program.Commands
import ControlPlane.Proofs.Reconcile.Calls
import ControlPlane.Proofs.Store.KeyOrder
import ControlPlane.Proofs.Store.Run

/-!
The report on the agents. It changes nothing, and has one entry for every agent of its namespace, in
key order (`Command.performStatus_tells`). Whether an agent has a function is told by a function
that stands at its key and is owned by some agent of the report, so the report tells the truth
exactly where no function stands at the key of one agent and belongs to others only.
-/

namespace ControlPlane

/-! ### Typed listings -/

namespace Client

variable {σ τ κ : Type} [shape : RecordShape σ τ] [Address κ] {s : Store κ} {ns : Option String}
  {read : List (RecordOf σ τ)}

/-- What a typed listing has is read at its own key too. -/
theorem fetch_of_listed (listed : (s.select shape.kind ns).mapM typed = .ok read) {t : RecordOf σ τ}
    (mem : t ∈ read) : s.fetch σ t.key = .ok t ∧ Address.refusal? κ t.key = none := by
  obtain ⟨r, isListed, typed⟩ := Outcome.exists_of_mem_mapM listed mem
  have found := (Store.mem_select_within_iff.mp isListed).1
  rw [← key_of_typed typed]
  exact ⟨(Store.fetch_of_find? found).trans typed, (Store.filed_find? found).2⟩

/-- What is read at a key of the listing's namespace is in the listing. -/
theorem mem_listed_of_fetch [Address.InKeyOrder κ]
    (listed : (s.select shape.kind ns).mapM typed = .ok read) {key : RecordKey} {t : RecordOf σ τ}
    (usable : ∀ n ∈ ns, Address.refusal? κ ⟨n, ""⟩ = none)
    (accepted : Address.refusal? κ key = none) (inside : ∀ n ∈ ns, key.namespace = n)
    (home : s.fetch σ key = .ok t) : t ∈ read := by
  obtain ⟨r, found, -⟩ := Store.fetch_eq_ok_iff.mp home
  have isListed : key ∈ read.map RecordOf.key := by
    rw [keys_of_listed listed, Store.mem_keys_select_iff usable]
    exact ⟨accepted, Option.isSome_of_eq_some found, inside⟩
  obtain ⟨t', mem, sameKey⟩ := List.mem_map.mp isListed
  have home' := (fetch_of_listed listed mem).1
  rw [sameKey, home] at home'
  exact Except.ok.inj home' ▸ mem

end Client

/-! ### The report -/

namespace StatusEntry

variable {κ : Type} [Address κ] {s : Store κ} {ns : Option String} {agents : List AgentRecord}
  {functions : List FunctionRecord} {agent : AgentRecord}

/-- There is a function at an agent's key, and the agent is an owner of it. -/
def HasOwnFunction (s : Store κ) (agent : AgentRecord) : Prop :=
  ∃ f, s.fetch FunctionSpec agent.key = .ok f ∧ f.metadata.isOwnedBy agent.metadata.uid = true

/-- A text has some entries in a format, one after another: an object for each, or a row. -/
inductive Prints (entries : List StatusEntry) : String → String → Prop where
  | json {written : List Json}
      (each : List.Forall₂ (fun e v => v = Json.obj [("namespace", .str e.key.namespace),
        ("agent", .str e.key.name), ("tools", .int e.tools), ("function", .bool e.hasFunction),
        ("replicas", .int e.status.replicas.toInt),
        ("ready_replicas", .int e.status.readyReplicas.toInt),
        ("available_replicas", .int e.status.availableReplicas.toInt)]) entries written) :
      Prints entries "json" (Json.arr written).pretty
  | none (nothing : entries = []) : Prints entries "text" "No agents found."
  | table {rows : List (List String)} (something : entries ≠ [])
      (each : List.Forall₂ (fun e row => row = [e.key.namespace, e.key.name, toString e.tools,
        if e.hasFunction then "yes" else "-", toString e.status.replicas.toInt,
        toString e.status.readyReplicas.toInt,
        toString e.status.availableReplicas.toInt]) entries rows) :
      Prints entries "text" (Table.render ⟨["Namespace", "Agent", "Tools", "Function", "Replicas",
        "Ready", "Available"], rows⟩)

theorem prints_of_render {entries : List StatusEntry} {format text : String}
    (rendered : render? format entries = some text) : Prints entries format text := by
  have each {α : Type} (f : StatusEntry → α) :
      List.Forall₂ (fun e written => written = f e) entries (entries.map f) :=
    List.forall₂_map_right_iff.mpr (List.forall₂_same.mpr fun _ _ => rfl)
  unfold render? at rendered
  split at rendered
  · obtain rfl := Option.some.inj rendered
    exact .json (each toJson)
  · obtain rfl := Option.some.inj rendered
    split
    · rename_i nothing
      exact .none (List.isEmpty_iff.mp nothing)
    · rename_i something
      exact .table (fun nothing => something (List.isEmpty_iff.mpr nothing)) (each _)
  · cases rendered

/-- Entries tell of every agent of a namespace once, in key order, and whether it has its own
function. -/
structure Truthful (s : Store κ) (ns : Option String) (entries : List StatusEntry) : Prop where
  ordered : RecordKey.Ascending (entries.map key)
  complete : ∀ key, key ∈ entries.map StatusEntry.key ↔
    Address.refusal? κ key = none ∧ (s.find? .agent key).isSome ∧ ∀ n ∈ ns, key.namespace = n
  owned : ∀ e ∈ entries, e.hasFunction = true ↔
    ∃ agent, s.fetch AgentSpec e.key = .ok agent ∧ HasOwnFunction s agent

theorem keys_ofRecords (agents : List AgentRecord) (functions : List FunctionRecord) :
    (ofRecords agents functions).map key = agents.map RecordOf.key := by
  rw [ofRecords, List.map_map]
  rfl

/-- An agent is said to have a function if one at its key is owned by any of the agents. -/
theorem hasFunction_iff : (ofAgent (ownedKeys agents functions) agent).hasFunction = true ↔
    ∃ f ∈ functions, f.key = agent.key ∧
      ∃ other ∈ agents, f.metadata.isOwnedBy other.metadata.uid = true := by
  simp only [ofAgent, ownedKeys, List.contains_iff_mem, List.mem_map, List.mem_filter,
    List.any_eq_true]
  constructor
  · rintro ⟨f, ⟨mem, owner⟩, sameKey⟩
    exact ⟨f, mem, sameKey, owner⟩
  · rintro ⟨f, mem, sameKey, owner⟩
    exact ⟨f, ⟨mem, owner⟩, sameKey⟩

/-- Every function at the key of one of some agents that any of them owns is that agent's own. -/
def NoneMisplaced (s : Store κ) (agents : List AgentRecord) : Prop :=
  ∀ agent ∈ agents, ∀ f, s.fetch FunctionSpec agent.key = .ok f → ∀ other ∈ agents,
    f.metadata.isOwnedBy other.metadata.uid = true → f.metadata.isOwnedBy agent.metadata.uid = true

theorem keys_of_read (readAgents : (s.select .agent ns).mapM Client.typed = .ok agents)
    (functions : List FunctionRecord) :
    (ofRecords agents functions).map key = (s.select .agent ns).map RecordOf.key :=
  (keys_ofRecords agents functions).trans (Client.keys_of_listed readAgents)

/-- Nothing is stored in a namespace that is refused, so an entry is of another one. -/
theorem truthful_iff_none (unusable : ¬ ∀ n ∈ ns, Address.refusal? κ ⟨n, ""⟩ = none) :
    Truthful s ns (ofRecords agents functions) ↔ agents = [] := by
  have outside : ∀ key : RecordKey, Address.refusal? κ key = none →
      ¬ ∀ n ∈ ns, key.namespace = n := fun key accepted inside =>
    unusable fun n mem => Address.refusal?_congr (inside n mem) accepted
  constructor
  · intro truthful
    refine List.eq_nil_iff_forall_not_mem.mpr fun agent mem => ?_
    have isListed : agent.key ∈ (ofRecords agents functions).map key := by
      rw [keys_ofRecords]
      exact List.mem_map_of_mem mem
    obtain ⟨accepted, -, inside⟩ := (truthful.complete agent.key).mp isListed
    exact outside agent.key accepted inside
  · rintro rfl
    refine ⟨List.Pairwise.nil, fun key => ?_, fun _ mem => absurd mem List.not_mem_nil⟩
    exact iff_of_false List.not_mem_nil fun ⟨accepted, _, inside⟩ => outside key accepted inside

variable [Address.InKeyOrder κ]

section

variable (readAgents : (s.select .agent ns).mapM Client.typed = .ok agents)
  (readFunctions : (s.select .function ns).mapM Client.typed = .ok functions)

include readAgents

/-- The agents of a namespace are those at its keys. -/
theorem mem_keys_iff (usable : ∀ n ∈ ns, Address.refusal? κ ⟨n, ""⟩ = none)
    (functions : List FunctionRecord) (key : RecordKey) :
    key ∈ (ofRecords agents functions).map StatusEntry.key ↔
      Address.refusal? κ key = none ∧ (s.find? .agent key).isSome ∧ ∀ n ∈ ns, key.namespace = n := by
  rw [keys_of_read readAgents]
  exact Store.mem_keys_select_iff usable

include readFunctions

/-- At an agent's key, the listing of the functions has what is read there, and nothing else. -/
theorem mem_functions_iff (usable : ∀ n ∈ ns, Address.refusal? κ ⟨n, ""⟩ = none)
    (mem : agent ∈ agents) (f : FunctionRecord) :
    f ∈ functions ∧ f.key = agent.key ↔ s.fetch FunctionSpec agent.key = .ok f := by
  have isListed : agent.key ∈ (ofRecords agents functions).map key := by
    rw [keys_ofRecords]
    exact List.mem_map_of_mem mem
  obtain ⟨accepted, -, inside⟩ := (mem_keys_iff readAgents usable functions agent.key).mp isListed
  constructor
  · rintro ⟨memF, sameKey⟩
    exact sameKey ▸ (Client.fetch_of_listed readFunctions memF).1
  · intro home
    exact ⟨Client.mem_listed_of_fetch readFunctions usable accepted inside home,
      Store.key_of_fetch accepted home⟩

theorem truthful_iff_placed (usable : ∀ n ∈ ns, Address.refusal? κ ⟨n, ""⟩ = none) :
    Truthful s ns (ofRecords agents functions) ↔ NoneMisplaced s agents := by
  have atKey := fun {agent} (mem : agent ∈ agents) =>
    mem_functions_iff readAgents readFunctions usable mem
  constructor
  · intro truthful agent mem f home other memOther owner
    obtain ⟨memF, sameKey⟩ := (atKey mem f).mpr home
    have told := hasFunction_iff.mpr ⟨f, memF, sameKey, other, memOther, owner⟩
    obtain ⟨agent', home', f', homeF', own⟩ :=
      (truthful.owned _ (List.mem_map_of_mem mem)).mp told
    obtain rfl := Except.ok.inj ((Client.fetch_of_listed readAgents mem).1.symm.trans home')
    obtain rfl := Except.ok.inj (home.symm.trans homeF')
    exact own
  · intro placed
    have keys := keys_of_read readAgents functions
    refine ⟨keys ▸ s.ascending_select .agent ns, mem_keys_iff readAgents usable functions,
      fun e isEntry => ?_⟩
    obtain ⟨agent, mem, rfl⟩ := List.mem_map.mp isEntry
    have home := (Client.fetch_of_listed readAgents mem).1
    rw [hasFunction_iff]
    constructor
    · rintro ⟨f, memF, sameKey, other, memOther, owner⟩
      have homeF := (atKey mem f).mp ⟨memF, sameKey⟩
      exact ⟨agent, home, f, homeF, placed agent mem f homeF other memOther owner⟩
    · rintro ⟨agent', home', f, homeF, own⟩
      obtain rfl := Except.ok.inj (home.symm.trans home')
      obtain ⟨memF, sameKey⟩ := (atKey mem f).mpr homeF
      exact ⟨f, memF, sameKey, agent, mem, own⟩

end

/-- Entries tell the truth exactly if the agents listed are those of the namespace and no function
at the key of one of them is owned only by others. -/
theorem truthful_iff (readAgents : (s.select .agent ns).mapM Client.typed = .ok agents)
    (readFunctions : (s.select .function ns).mapM Client.typed = .ok functions) :
    Truthful s ns (ofRecords agents functions) ↔
      (agents = [] ∨ ∀ n ∈ ns, Address.refusal? κ ⟨n, ""⟩ = none) ∧ NoneMisplaced s agents := by
  by_cases usable : ∀ n ∈ ns, Address.refusal? κ ⟨n, ""⟩ = none
  · rw [truthful_iff_placed readAgents readFunctions usable, and_iff_right (.inr usable)]
  · rw [truthful_iff_none usable, or_iff_left usable]
    refine ⟨?_, And.left⟩
    rintro rfl
    exact ⟨rfl, fun _ mem => absurd mem List.not_mem_nil⟩

end StatusEntry

/-! ### The command -/

namespace Command

variable {κ : Type} [Address κ] {s : Store κ} {ns : Option String} {agents : List AgentRecord}
  {functions : List FunctionRecord}

theorem readsOnly_performStatus (format : String) (ns : Option String) :
    (performStatus format ns).run.ReadsOnly :=
  Attempt.readsOnly_bind
    (Attempt.readsOnly_mapError (Attempt.readsOnly_bind (Client.readsOnly_list ns) fun _ =>
      Attempt.readsOnly_bind (Client.readsOnly_list ns) fun _ => trivial))
    fun _ => trivial

theorem endOn_collect (ns : Option String) (s : Store κ) :
    (StatusEntry.collect ns).endOn s = (do
      let agents ← (s.select .agent ns).mapM Client.typed
      let functions ← (s.select .function ns).mapM Client.typed
      pure (StatusEntry.ofRecords agents functions)) := by
  rw [StatusEntry.collect, Attempt.endOn_bind (Client.readsOnly_list ns), Client.endOn_list]
  congr 1
  funext agents
  rw [Attempt.endOn_bind (Client.readsOnly_list ns), Client.endOn_list]
  rfl

/-- Where the agents and functions can be read, the report is given and nothing is changed. It has
an object or a row for each of the agents of the listing, in key order and each once, and says of
each whether some agent of the report owns the function at its key. So it tells the truth exactly if
the agents listed are those of the namespace and no function at the key of one of them is owned only
by others. -/
theorem performStatus_tells [Address.InKeyOrder κ] (s : Store κ) (ns : Option String)
    {format : String} (known : format = "json" ∨ format = "text")
    (readAgents : (s.select .agent ns).mapM Client.typed = .ok agents)
    (readFunctions : (s.select .function ns).mapM Client.typed = .ok functions) :
    let entries := StatusEntry.ofRecords agents functions
    (∃ text, StatusEntry.render? format entries = some text ∧
      StatusEntry.Prints entries format text ∧
      (performStatus format ns).run.runOn s = (.ok text, ⟨s, []⟩)) ∧
    entries.map StatusEntry.key = (s.select .agent ns).map RecordOf.key ∧
    RecordKey.Ascending (entries.map StatusEntry.key) ∧
    (StatusEntry.Truthful s ns entries ↔
      (agents = [] ∨ ∀ n ∈ ns, Address.refusal? κ ⟨n, ""⟩ = none) ∧
        StatusEntry.NoneMisplaced s agents) := by
  intro entries
  have keys := StatusEntry.keys_of_read readAgents functions
  refine ⟨?_, keys, keys ▸ s.ascending_select .agent ns,
    StatusEntry.truthful_iff readAgents readFunctions⟩
  have collected : (StatusEntry.collect ns).endOn s = .ok entries := by
    rw [endOn_collect, readAgents, readFunctions]
    rfl
  obtain ⟨text, rendered⟩ : ∃ text, StatusEntry.render? format entries = some text := by
    rcases known with rfl | rfl <;> exact ⟨_, rfl⟩
  refine ⟨text, rendered, StatusEntry.prints_of_render rendered,
    Prod.ext ?_ ((readsOnly_performStatus format ns).readsOn s).runOn⟩
  have reads : (StatusEntry.collect ns).run.ReadsOnly :=
    Attempt.readsOnly_bind (Client.readsOnly_list ns) fun _ =>
      Attempt.readsOnly_bind (Client.readsOnly_list ns) fun _ => trivial
  show (performStatus format ns).endOn s = _
  rw [performStatus, Attempt.endOn_bind (Attempt.readsOnly_mapError reads), Attempt.endOn_mapError,
    collected, Outcome.ok_mapError, Outcome.ok_bind, Command.rendered, rendered]
  rfl

/-- A store of two agents and a function at the key of the first, which one of them owns. -/
def ownedByEither (owner : OwnerReference) : Store RecordId :=
  Reconciler.storeAfter [
    .create .agent ⟨{ name := "a", «namespace» := "d", uid := "ua" }, .obj [], .null⟩,
    .create .agent ⟨{ name := "b", «namespace» := "d", uid := "ub" }, .obj [], .null⟩,
    .create .function ⟨{ name := "a", «namespace» := "d", ownerReferences := [owner] },
      .obj [("module", .str "m"), ("package", .str "p")], .null⟩]

/-- The first agent has its own function, and the report says so. -/
theorem ownFunction_truthful :
    let s := ownedByEither ⟨.agent, "a", "ua", true⟩
    ∃ agents functions text, StatusEntry.render? "text" (StatusEntry.ofRecords agents functions) =
        some text ∧
      StatusEntry.Prints (StatusEntry.ofRecords agents functions) "text" text ∧
      (performStatus "text" (some "d")).run.runOn s = (.ok text, ⟨s, []⟩) ∧
      (StatusEntry.ofRecords agents functions).map (fun e => (e.key, e.hasFunction)) =
        [(⟨"d", "a"⟩, true), (⟨"d", "b"⟩, false)] ∧
      StatusEntry.Truthful s (some "d") (StatusEntry.ofRecords agents functions) := by
  intro s
  have atFirst : (s.fetch FunctionSpec ⟨"d", "a"⟩).map (·.metadata.isOwnedBy "ua") = .ok true := by
    decide +kernel
  have atSecond : (s.fetch FunctionSpec ⟨"d", "b"⟩).isOk = false := by decide +kernel
  have collected : ((s.select .agent (some "d")).mapM (Client.typed (σ := AgentSpec)) >>=
      fun agents => ((s.select .function (some "d")).mapM (Client.typed (σ := FunctionSpec))).map
        fun functions => (agents.map fun a => (a.key, a.metadata.uid),
          (StatusEntry.ofRecords agents functions).map fun e => (e.key, e.hasFunction))) =
      .ok ([(⟨"d", "a"⟩, "ua"), (⟨"d", "b"⟩, "ub")], [(⟨"d", "a"⟩, true), (⟨"d", "b"⟩, false)]) := by
    decide +kernel
  obtain ⟨agents, readAgents, rest⟩ := Outcome.bind_eq_ok_iff.mp collected
  obtain ⟨functions, readFunctions, told⟩ := Outcome.map_eq_ok_iff.mp rest
  obtain ⟨uids, entries⟩ := Prod.mk.inj told
  obtain ⟨⟨text, rendered, prints, run⟩, -, -, exact⟩ :=
    performStatus_tells s (some "d") (.inr rfl) readAgents readFunctions
  refine ⟨agents, functions, text, rendered, prints, run, entries,
    exact.mpr ⟨.inr fun _ _ => rfl, fun agent mem f home other _ _ => ?_⟩⟩
  have known : (agent.key, agent.metadata.uid) ∈ agents.map fun a => (a.key, a.metadata.uid) :=
    List.mem_map_of_mem mem
  rw [uids] at known
  rcases List.mem_cons.mp known with first | second
  · obtain ⟨key, uid⟩ := Prod.mk.inj first
    rw [key] at home
    rw [home] at atFirst
    rw [uid]
    exact Except.ok.inj atFirst
  · obtain ⟨key, -⟩ := Prod.mk.inj (List.mem_singleton.mp second)
    rw [key] at home
    rw [home] at atSecond
    cases atSecond

/-- The function at the key of the first agent is the second one's, and the report says that the
first has a function. -/
theorem foreignFunction_told :
    let s := ownedByEither ⟨.agent, "b", "ub", true⟩
    ∃ entries, (StatusEntry.collect none).endOn s = .ok entries ∧
      entries.map (fun e => (e.key, e.hasFunction)) =
        [(⟨"d", "a"⟩, true), (⟨"d", "b"⟩, false)] ∧
      ¬ StatusEntry.Truthful s none entries := by
  intro s
  have collected : ((StatusEntry.collect none).endOn s).map (fun entries =>
      entries.map fun e => (e.key, e.hasFunction)) =
      .ok [(⟨"d", "a"⟩, true), (⟨"d", "b"⟩, false)] := by decide +kernel
  have foreign : (s.fetch AgentSpec ⟨"d", "a"⟩ >>= fun agent =>
      (s.fetch FunctionSpec agent.key).map fun f => f.metadata.isOwnedBy agent.metadata.uid) =
      .ok false := by decide +kernel
  obtain ⟨entries, ended, told⟩ := Outcome.map_eq_ok_iff.mp collected
  refine ⟨entries, ended, told, fun truthful => ?_⟩
  have listed : (⟨"d", "a"⟩, true) ∈ entries.map fun e => (e.key, e.hasFunction) :=
    told ▸ List.mem_cons_self
  obtain ⟨e, mem, isFirst⟩ := List.mem_map.mp listed
  obtain ⟨key, has⟩ := Prod.mk.inj isFirst
  obtain ⟨agent, home, f, homeF, own⟩ := (truthful.owned e mem).mp has
  rw [key] at home
  rw [home, Outcome.ok_bind, homeF, Outcome.ok_map, own] at foreign
  cases foreign

end Command

end ControlPlane
