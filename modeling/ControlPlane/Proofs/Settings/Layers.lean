import ControlPlane.Settings.Setting
import Mathlib.Data.List.Nodup

/-!
One value in many layers. Tables that layers are put together to have each key once
(`Setting.Tidy.putLayers`), so they are told by what is looked up in them. A value that is put at a
path of keys changes what is looked up there and nothing else (`Setting.gives_put`), and it stays
whatever is put afterwards at keys that lead elsewhere (`Setting.Gives.putLayer`).
-/

namespace ControlPlane.Setting

/-! ### Entries -/

/-- The entries of a table; other values have none. -/
def entries : Setting → List (String × Setting)
  | table _ entries => entries
  | _ => []

/-- The place that a table is kept with when an entry is put into it. -/
def tableOrigin? : Setting → Option String
  | table o _ => o
  | _ => none

theorem entry?_eq (s : Setting) (key : String) :
    s.entry? key = (s.entries.find? fun e => e.1 == key).map Prod.snd := by
  cases s <;> rfl

theorem withEntry_eq (s : Setting) (key : String) (v : Setting) :
    s.withEntry key v = table s.tableOrigin? (putEntry key v s.entries) := by
  cases s <;> rfl

theorem putEntry_append_of_absent {key : String} {before : List (String × Setting)}
    (absent : key ∉ before.map Prod.fst) (v : Setting) (rest : List (String × Setting)) :
    putEntry key v (before ++ rest) = before ++ putEntry key v rest := by
  induction before with
  | nil => rfl
  | cons e before ih =>
    obtain ⟨k, u⟩ := e
    simp only [List.map_cons, List.mem_cons, not_or] at absent
    simp [putEntry, ih absent.2, Ne.symm absent.1]

theorem putEntry_of_absent {key : String} {l : List (String × Setting)}
    (absent : key ∉ l.map Prod.fst) (v : Setting) : putEntry key v l = l ++ [(key, v)] := by
  have last := putEntry_append_of_absent absent v []
  rwa [List.append_nil] at last

theorem putEntry_of_split {key : String} {before after : List (String × Setting)}
    (absent : key ∉ before.map Prod.fst) (v w : Setting) :
    putEntry key v (before ++ (key, w) :: after) = before ++ (key, v) :: after := by
  rw [putEntry_append_of_absent absent, putEntry, if_pos rfl]

/-- A key is absent from entries, or they are cut at its first entry. -/
theorem absent_or_split (key : String) (l : List (String × Setting)) :
    key ∉ l.map Prod.fst ∨
      ∃ before w after, l = before ++ (key, w) :: after ∧ key ∉ before.map Prod.fst := by
  induction l with
  | nil => exact .inl (List.not_mem_nil)
  | cons e rest ih =>
    obtain ⟨k, u⟩ := e
    by_cases same : k = key
    · subst same
      exact .inr ⟨[], u, rest, rfl, List.not_mem_nil⟩
    · rcases ih with absent | ⟨before, w, after, rfl, absent⟩
      · exact .inl (by simpa [Ne.symm same] using absent)
      · exact .inr ⟨(k, u) :: before, w, after, rfl, by simpa [Ne.symm same] using absent⟩

theorem find?_putEntry (key k : String) (v : Setting) (l : List (String × Setting)) :
    ((putEntry key v l).find? fun e => e.1 == k).map Prod.snd =
      if k = key then some v else (l.find? fun e => e.1 == k).map Prod.snd := by
  induction l with
  | nil => by_cases same : k = key <;> simp [putEntry, same, Ne.symm]
  | cons e rest ih =>
    obtain ⟨j, u⟩ := e
    by_cases here : j = key
    · subst here
      by_cases same : k = j <;> simp [putEntry, same, Ne.symm]
    · by_cases same : j = k
      · subst same
        simp [putEntry, here]
      · simp [putEntry, here, same, ih]

/-- An entry that was put is looked up under its key, and the others are as they were. -/
theorem entry?_withEntry (s : Setting) (key k : String) (v : Setting) :
    Setting.entry? (s.withEntry key v) k = if k = key then some v else s.entry? k := by
  rw [withEntry_eq, entry?_eq, entry?_eq]
  exact find?_putEntry key k v s.entries

/-! ### Each key once -/

/-- Along tables in tables, each key stands once. -/
inductive Tidy : Setting → Prop where
  | intro {s : Setting} (distinct : (s.entries.map Prod.fst).Nodup)
      (inner : ∀ e ∈ s.entries, Tidy e.2) : Tidy s

theorem Tidy.distinct {s : Setting} (h : Tidy s) : (s.entries.map Prod.fst).Nodup := by
  cases h
  assumption

theorem Tidy.inner {s : Setting} (h : Tidy s) : ∀ e ∈ s.entries, Tidy e.2 := by
  cases h
  assumption

theorem tidy_of_entries {s : Setting} (none : s.entries = []) : Tidy s :=
  ⟨by simp [none], by simp [none]⟩

theorem Tidy.entry? {s v : Setting} {key : String} (h : Tidy s) (found : s.entry? key = some v) :
    Tidy v := by
  rw [entry?_eq] at found
  obtain ⟨e, first, rfl⟩ := Option.map_eq_some_iff.mp found
  exact h.inner e (List.mem_of_find?_eq_some first)

theorem Tidy.withEntry {s v : Setting} (h : Tidy s) (key : String) (inner : Tidy v) :
    Tidy (s.withEntry key v) := by
  have distinct := h.distinct
  have entries := h.inner
  rw [withEntry_eq]
  rcases absent_or_split key s.entries with absent | ⟨before, w, after, split, absent⟩
  · rw [putEntry_of_absent absent]
    constructor
    · simp only [Setting.entries, List.map_append, List.map_cons, List.map_nil]
      exact distinct.append (List.nodup_singleton key) (by simpa using absent)
    · intro e mem
      rcases List.mem_append.mp mem with mem | mem
      · exact entries e mem
      · rw [List.mem_singleton.mp mem]
        exact inner
  · rw [split] at distinct entries ⊢
    rw [putEntry_of_split absent]
    constructor
    · simpa [Setting.entries] using distinct
    · intro e mem
      rcases List.mem_append.mp mem with mem | mem
      · exact entries e (List.mem_append_left _ mem)
      · rcases List.mem_cons.mp mem with rfl | mem
        · exact inner
        · exact entries e (List.mem_append_right _ (List.mem_cons_of_mem _ mem))

mutual

/-- A value is tidy once it is put over others, however it is given. -/
theorem tidy_overlay : ∀ {below : Option Setting} {v : Setting},
    (∀ b, below = some b → Tidy b) → Tidy (overlay below v)
  | none, .table _ entries, _ =>
      show Tidy (entriesOver (.table none []) entries) from tidy_entriesOver (tidy_of_entries rfl)
  | some b, .table _ entries, h => show Tidy (entriesOver b entries) from tidy_entriesOver (h b rfl)
  | _, .nothing _, _ => tidy_of_entries rfl
  | _, .flag .., _ => tidy_of_entries rfl
  | _, .int .., _ => tidy_of_entries rfl
  | _, .float .., _ => tidy_of_entries rfl
  | _, .text .., _ => tidy_of_entries rfl
  | _, .list .., _ => tidy_of_entries rfl

theorem tidy_entriesOver : ∀ {below : Setting} {entries : List (String × Setting)},
    Tidy below → Tidy (entriesOver below entries)
  | _, [], h => h
  | _, (_, _) :: _, h => by
      rw [entriesOver]
      exact tidy_entriesOver (h.withEntry _ (tidy_overlay fun _ found => h.entry? found))

end

theorem Tidy.overEntry {s : Setting} (h : Tidy s) (key : String) (v : Setting) :
    Tidy (s.overEntry key v) :=
  h.withEntry _ (tidy_overlay fun _ found => h.entry? found)

theorem tidy_withItem (s : Setting) (place : Int) (v : Setting) : Tidy (s.withItem place v) := by
  apply tidy_of_entries
  cases s <;> rfl

theorem Tidy.alterAt {f : Setting → Setting} (keeps : ∀ s, Tidy s → Tidy (f s)) :
    ∀ (steps : List Step) {s : Setting}, Tidy s → Tidy (alterAt f steps s)
  | [], s, h => keeps s h
  | .key name :: rest, s, h => by
      rw [Setting.alterAt]
      apply h.withEntry
      apply Tidy.alterAt keeps rest
      cases found : s.entry? (Text.lower name) with
      | none => exact tidy_of_entries rfl
      | some v => exact h.entry? found
  | .item _ :: _, _, _ => tidy_withItem ..

/-! ### Ways through settings -/

/-- A value put at the last step of a way. -/
def putStep (v : Setting) : Step → Setting → Setting
  | .key name, s => s.overEntry name v
  | .item place, s => s.withItem place v

/-- The steps that a key means, the first among them. -/
def way (key : String) : List Step := .key (steps key).1 :: (steps key).2

/-- A way leads elsewhere than a path of keys: it parts from it at a key. -/
def Apart : List String → List Step → Prop
  | k :: path, .key name :: rest => Text.lower name ≠ k ∨ Apart path rest
  | _, _ => False

instance decidableApart : (path : List String) → (way : List Step) → Decidable (Apart path way)
  | [], _ => .isFalse nofun
  | _ :: _, [] => .isFalse nofun
  | _ :: _, .item _ :: _ => .isFalse nofun
  | k :: path, .key name :: rest =>
    have : Decidable (Apart path rest) := decidableApart path rest
    inferInstanceAs (Decidable (Text.lower name ≠ k ∨ Apart path rest))

theorem exists_way (key : String) : ∃ init last, way key = init ++ [last] :=
  ⟨_, _, (List.dropLast_append_getLast (List.cons_ne_nil _ _)).symm⟩

/-- A value is put at the last step of the way that its key means. -/
theorem put_eq {key : String} {init : List Step} {last : Step} (led : way key = init ++ [last])
    (root v : Setting) : root.put key v = alterAt (putStep v last) init root := by
  cases means : steps key with
  | mk first rest =>
    simp only [way, means] at led
    simp only [Setting.put, means, led, List.getLastD_concat, List.dropLast_concat]
    cases last <;> rfl

theorem Tidy.put {root : Setting} (h : Tidy root) (key : String) (v : Setting) :
    Tidy (root.put key v) := by
  obtain ⟨init, last, led⟩ := exists_way key
  rw [put_eq led]
  refine Tidy.alterAt (fun s tidy => ?_) init h
  cases last with
  | key name => exact tidy.overEntry name v
  | item place => exact tidy_withItem s place v

theorem Tidy.putLayer {root : Setting} (h : Tidy root) (layer : List (String × Setting)) :
    Tidy (root.putLayer layer) := by
  induction layer generalizing root with
  | nil => exact h
  | cons e rest ih => exact ih (h.put e.1 e.2)

/-- Whatever the layers give, each key stands once in what they are put together to. -/
theorem Tidy.putLayers {root : Setting} (h : Tidy root) (layers : List (List (String × Setting))) :
    Tidy (layers.foldl Setting.putLayer root) := by
  induction layers generalizing root with
  | nil => exact h
  | cons layer rest ih => exact ih (h.putLayer layer)

/-- A value is a table. -/
def IsTable : Setting → Prop
  | table .. => True
  | _ => False

theorem isTable_of_found {s v : Setting} {key : String} (found : s.entry? key = some v) :
    s.IsTable := by
  cases s with
  | table => trivial
  | _ => cases found

theorem isTable_withEntry (s : Setting) (key : String) (v : Setting) :
    (s.withEntry key v).IsTable := by
  rw [withEntry_eq]
  trivial

theorem isTable_put (root : Setting) (key : String) (v : Setting) : (root.put key v).IsTable := by
  obtain ⟨init, last, led⟩ := exists_way key
  rw [put_eq led]
  cases init with
  | nil =>
    cases last with
    | item place => cases led
    | key name => exact isTable_withEntry ..
  | cons step init =>
    cases step with
    | item place => cases led
    | key name => exact isTable_withEntry ..

theorem IsTable.putLayer {root : Setting} (h : root.IsTable) (layer : List (String × Setting)) :
    (root.putLayer layer).IsTable := by
  induction layer generalizing root with
  | nil => exact h
  | cons e rest ih => exact ih (isTable_put root e.1 e.2)

/-- What is put together from layers is a table. -/
theorem IsTable.putLayers {root : Setting} (h : root.IsTable)
    (layers : List (List (String × Setting))) : (layers.foldl Setting.putLayer root).IsTable := by
  induction layers generalizing root with
  | nil => exact h
  | cons layer rest ih => exact ih (h.putLayer layer)

/-! ### A value at a path -/

/-- What is looked up is the same but at a path of keys, where a value stands. -/
inductive Gives (v : Setting) : List String → Setting → Setting → Prop where
  | here {s : Setting} : Gives v [] s v
  | entry {key : String} {path : List String} {s t u : Setting}
      (others : ∀ k, k ≠ key → t.entry? k = s.entry? k) (found : t.entry? key = some u)
      (inner : Gives v path ((s.entry? key).getD (nothing none)) u) : Gives v (key :: path) s t

section

variable {v w s t u : Setting} {key : String} {path : List String}

/-- A value in place of another one. -/
theorem Gives.instead (h : Gives v path s t) (first : Gives w path s u) : Gives v path u t := by
  induction h generalizing u with
  | here =>
    cases first
    exact .here
  | entry others found inner ih =>
    cases first with
    | entry others' found' inner' =>
      refine .entry (fun k ne => (others k ne).trans (others' k ne).symm) found ?_
      rw [found']
      exact ih inner'

theorem Gives.withEntry (inner : Gives v path ((s.entry? key).getD (nothing none)) u) :
    Gives v (key :: path) s (s.withEntry key u) := by
  refine .entry (fun k ne => ?_) ?_ inner
  · rw [entry?_withEntry, if_neg ne]
  · rw [entry?_withEntry, if_pos rfl]

/-- A value that is no table, put at a path of keys. -/
theorem gives_alterAt (plain : ∀ below, overlay below v = v) (names : List String) (name : String)
    (root : Setting) :
    Gives v ((names ++ [name]).map Text.lower) root
      (alterAt (putStep v (.key name)) (names.map .key) root) := by
  induction names generalizing root with
  | nil =>
    simp only [List.map_nil, Setting.alterAt, putStep, overEntry, plain]
    exact .withEntry .here
  | cons first names ih =>
    simp only [List.map_cons, Setting.alterAt]
    exact .withEntry (ih _)

theorem gives_put (plain : ∀ below, overlay below v = v) {names : List String} {name : String}
    (led : way key = names.map .key ++ [.key name]) (root : Setting) :
    Gives v ((names ++ [name]).map Text.lower) root (root.put key v) := by
  rw [put_eq led]
  exact gives_alterAt plain names name root

/-- What is put in both under another key leaves the value where it is. -/
theorem Gives.beside {k : String} (h : Gives v (key :: path) s t) (ne : k ≠ key) (w : Setting) :
    Gives v (key :: path) (s.withEntry k w) (t.withEntry k w) := by
  cases h with
  | @entry _ _ _ _ u others found inner =>
    have kept : Setting.entry? (t.withEntry k w) key = some u := by
      rw [entry?_withEntry, if_neg ne.symm, found]
    refine .entry (fun j other => ?_) kept ?_
    · rw [entry?_withEntry, entry?_withEntry, others j other]
    · rw [entry?_withEntry, if_neg ne.symm]
      exact inner

/-- What is put at a way that leads elsewhere leaves the value where it is. -/
theorem Gives.alterAt {init : List Step} {last : Step} (h : Gives v path s t)
    (apart : Apart path (init ++ [last])) (w : Setting) :
    Gives v path (alterAt (putStep w last) init s) (alterAt (putStep w last) init t) := by
  induction init generalizing path s t with
  | nil =>
    cases path with
    | nil => cases apart
    | cons key path =>
      cases last with
      | item place => cases apart
      | key name =>
        have ne : Text.lower name ≠ key := apart.resolve_right (by cases path <;> exact id)
        have same : t.entry? (Text.lower name) = s.entry? (Text.lower name) := by
          cases h with
          | entry others => exact others _ ne
        simp only [Setting.alterAt, putStep, overEntry, same]
        exact h.beside ne _
  | cons step init ih =>
    cases path with
    | nil => cases apart
    | cons key path =>
      cases step with
      | item place => cases apart
      | key name =>
        simp only [Setting.alterAt]
        by_cases same : Text.lower name = key
        · subst same
          cases h with
          | entry others found inner =>
            refine .entry (fun k ne => ?_) (by rw [entry?_withEntry, if_pos rfl]) ?_
            · rw [entry?_withEntry, entry?_withEntry, if_neg ne, if_neg ne, others k ne]
            · rw [entry?_withEntry, if_pos rfl, found]
              exact ih inner (apart.resolve_left (not_not_intro rfl))
        · have alike : t.entry? (Text.lower name) = s.entry? (Text.lower name) := by
            cases h with
            | entry others => exact others _ same
          rw [alike]
          exact h.beside same _

theorem Gives.put {k : String} (h : Gives v path s t) (apart : Apart path (way k)) (w : Setting) :
    Gives v path (s.put k w) (t.put k w) := by
  obtain ⟨init, last, led⟩ := exists_way k
  rw [put_eq led, put_eq led]
  exact h.alterAt (led ▸ apart) w

/-- A layer whose keys all lead elsewhere leaves the value where it is. -/
theorem Gives.putLayer {layer : List (String × Setting)} (h : Gives v path s t)
    (apart : ∀ e ∈ layer, Apart path (way e.1)) :
    Gives v path (s.putLayer layer) (t.putLayer layer) := by
  induction layer generalizing s t with
  | nil => exact h
  | cons e rest ih =>
    rw [List.forall_mem_cons] at apart
    exact ih (h.put apart.1 e.2) apart.2

end

end ControlPlane.Setting
