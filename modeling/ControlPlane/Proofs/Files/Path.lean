import ControlPlane.Files.System
import Mathlib.Data.String.Basic

/-!
Laws of paths. The parts of a path are what stands between its slashes (`splitOn_slash`), so the
path that leads on to a name has that name as its last part (`parts_join`), and its extension is
that of the name alone, whatever the path leads through (`extension?_along`): what comes after the
last point of the name (`extensionOf?_eq_some_iff`).
-/

namespace ControlPlane.Path

open String

/-! ### What stands between slashes -/

/-- One step of the splitting: `l` is cut off, `m` is read, and `c` comes next. -/
theorem splitOnAux_cons (l m r : List Char) (c : Char) (done : List String) :
    (ofList (l ++ m ++ c :: r)).splitOnAux "/" ⟨utf8Len l⟩ ⟨utf8Len l + utf8Len m⟩ 0 done =
      if c = '/' then
        (ofList (l ++ m ++ c :: r)).splitOnAux "/" ⟨utf8Len (l ++ m ++ [c])⟩
          ⟨utf8Len (l ++ m ++ [c])⟩ 0 (ofList m :: done)
      else
        (ofList (l ++ m ++ c :: r)).splitOnAux "/" ⟨utf8Len l⟩ ⟨utf8Len (l ++ m ++ [c])⟩ 0 done := by
  have notEnd : ¬ Pos.Raw.atEnd (ofList (l ++ m ++ c :: r)) ⟨utf8Len l + utf8Len m⟩ = true := by
    rw [← utf8Len_append, atEnd_of_valid (l ++ m) (c :: r)]
    exact List.cons_ne_nil c r
  have here : Pos.Raw.get (ofList (l ++ m ++ c :: r)) ⟨utf8Len l + utf8Len m⟩ = c := by
    rw [← utf8Len_append, get_of_valid (l ++ m) (c :: r)]
    rfl
  have onward : Pos.Raw.next (ofList (l ++ m ++ c :: r)) ⟨utf8Len l + utf8Len m⟩ =
      ⟨utf8Len (l ++ m ++ [c])⟩ := by
    rw [← utf8Len_append, next_of_valid (l ++ m) c r]
    simp [Nat.add_assoc]
  have same : (⟨utf8Len l + utf8Len m⟩ : Pos.Raw).unoffsetBy 0 = ⟨utf8Len l + utf8Len m⟩ := rfl
  have slash : Pos.Raw.get "/" 0 = '/' := rfl
  rw [splitOnAux, if_neg notEnd, here, slash, same, onward]
  by_cases isSlash : c = '/'
  · subst isSlash
    have closed : Pos.Raw.atEnd "/" (Pos.Raw.next "/" 0) = true := rfl
    have before : (⟨utf8Len (l ++ m ++ ['/'])⟩ : Pos.Raw).unoffsetBy (Pos.Raw.next "/" 0) =
        ⟨utf8Len l + utf8Len m⟩ := by
      rw [utf8Len_append, utf8Len_append]
      rfl
    rw [if_pos (beq_self_eq_true '/'), if_pos rfl]
    show (if Pos.Raw.atEnd "/" (Pos.Raw.next "/" 0) = true then _ else _) = _
    rw [if_pos closed, before, extract_of_valid]
  · rw [if_neg (by simpa using isSlash), if_neg isSlash]

/-- The splitting underway: `l` is cut off, `m` is read and `r` is still to be read. -/
theorem splitOnAux_slash (l m r : List Char) (done : List String) :
    (ofList (l ++ m ++ r)).splitOnAux "/" ⟨utf8Len l⟩ ⟨utf8Len l + utf8Len m⟩ 0 done =
      done.reverse ++ (List.splitOnPPrepend (· == '/') r m.reverse).map ofList := by
  induction r generalizing l m done with
  | nil =>
    have atEnd : Pos.Raw.atEnd (ofList (l ++ m ++ [])) ⟨utf8Len l + utf8Len m⟩ = true := by
      rw [← utf8Len_append]
      exact (atEnd_of_valid (l ++ m) []).mpr rfl
    rw [splitOnAux, if_pos atEnd, extract_of_valid]
    simp
  | cons c r ih =>
    rw [splitOnAux_cons, List.splitOnPPrepend_cons_eq_if]
    by_cases isSlash : c = '/'
    · have cut := ih (l ++ m ++ [c]) [] (ofList m :: done)
      rw [if_pos isSlash, if_pos (by simpa using isSlash)]
      simpa using cut
    · have read := ih l (m ++ [c]) done
      rw [if_neg isSlash, if_neg (by simpa using isSlash)]
      simpa [Nat.add_assoc] using read

/-- The texts between the slashes of a text are those between the slashes of its characters. -/
theorem splitOn_slash (s : String) : s.splitOn "/" = (s.toList.splitOn '/').map ofList := by
  have whole := splitOnAux_slash [] [] s.toList []
  simpa [splitOn, List.splitOn] using whole

/-! ### Names and parts -/

/-- Whether a text can name an entry of a directory. -/
structure IsName (name : String) : Prop where
  ne_empty : name ≠ ""
  ne_here : name ≠ "."
  ne_back : name ≠ ".."
  noSlash : '/' ∉ name.toList

instance (name : String) : Decidable (IsName name) :=
  decidable_of_iff (name ≠ "" ∧ name ≠ "." ∧ name ≠ ".." ∧ '/' ∉ name.toList)
    ⟨fun ⟨a, b, c, d⟩ => ⟨a, b, c, d⟩, fun ⟨a, b, c, d⟩ => ⟨a, b, c, d⟩⟩

variable {path name : String} {names : List String}

theorem parts_append_slash (a b : String) : parts (a ++ "/" ++ b) = parts a ++ parts b := by
  have cut : (a ++ "/" ++ b).toList = a.toList ++ '/' :: b.toList := by simp
  rw [parts, splitOn_slash, cut, List.splitOn, List.splitOnP_append_cons _ _ (by rfl),
    List.map_append, List.filter_append, parts, parts, splitOn_slash, splitOn_slash]
  rfl

theorem parts_empty : parts "" = [] := by
  rw [parts, splitOn_slash]
  rfl

theorem parts_of_isName (isName : IsName name) : parts name = [name] := by
  have whole : name.toList.splitOn '/' = [name.toList] := List.splitOn_eq_singleton isName.noSlash
  rw [parts, splitOn_slash, whole]
  simp [isName.ne_empty, isName.ne_here]

theorem not_isAbsolute_of_isName (isName : IsName name) : isAbsolute name = false := by
  rw [isAbsolute, String.startsWith_string_eq_false_iff]
  exact fun starts => isName.noSlash (starts.subset (List.mem_singleton_self '/'))

/-- The path that leads on to a name has one part more. -/
theorem parts_join (isName : IsName name) : parts (join path name) = parts path ++ [name] := by
  rw [join, not_isAbsolute_of_isName isName, if_neg (by decide), ← parts_of_isName isName]
  split
  · rename_i ends
    rcases Bool.or_eq_true _ _ ▸ ends with empty | ends
    · obtain rfl := String.isEmpty_iff.mp empty
      rw [String.empty_append, parts_empty]
      rfl
    · rw [String.endsWith_eq_endsWith_toSlice, String.Slice.endsWith_string_iff,
        String.copy_toSlice] at ends
      obtain ⟨p, eq⟩ := ends
      have cut : path = ofList p ++ "/" := by
        rw [← String.toList_inj, ← eq]
        simp
      have closed := parts_append_slash (ofList p) ""
      rw [String.append_empty, parts_empty, List.append_nil] at closed
      rw [cut, parts_append_slash, closed]
  · exact parts_append_slash path name

/-! ### Extensions -/

/-- The characters before the first point of a list, and those from there on. -/
theorem cut_at_point_iff {l e rest : List Char} :
    (l.takeWhile (· != '.') = e ∧ l.drop e.length = '.' :: rest) ↔
      l = e ++ '.' :: rest ∧ '.' ∉ e := by
  constructor
  · rintro ⟨before, after⟩
    have dotless : ∀ c ∈ e, c ≠ '.' := by
      have := List.all_takeWhile (l := l) (p := (· != '.'))
      rw [before] at this
      simpa using this
    have cut : e = l.take e.length := by
      rw [← List.prefix_iff_eq_take, ← before]
      exact List.takeWhile_prefix _
    refine ⟨?_, fun mem => dotless '.' mem rfl⟩
    conv_lhs => rw [← List.take_append_drop e.length l, ← cut, after]
  · rintro ⟨rfl, dotless⟩
    have before : (e ++ '.' :: rest).takeWhile (· != '.') = e := by
      rw [List.takeWhile_append_of_pos]
      · simp
      · intro c mem
        exact bne_iff_ne.mpr fun same => dotless (same ▸ mem)
    exact ⟨before, List.drop_left⟩

/-- What a name has as its extension comes after its last point, which is not its start. -/
theorem extensionOf?_eq_some_iff {e : String} : extensionOf? name = some e ↔
    ∃ stem, stem ≠ "" ∧ name = stem ++ "." ++ e ∧ '.' ∉ e.toList := by
  rw [extensionOf?]
  constructor
  · intro has
    split at has
    · rename_i c stem after
      obtain ⟨eq, dotless⟩ := cut_at_point_iff.mp ⟨rfl, after⟩
      have reversed := congrArg String.toList (Option.some.inj has)
      rw [String.toList_ofList, List.reverse_eq_iff] at reversed
      rw [reversed] at eq dotless
      refine ⟨String.ofList (c :: stem).reverse, by simp, ?_, by simpa using dotless⟩
      rw [← String.toList_inj, ← List.reverse_reverse name.toList, eq]
      simp
    · cases has
  · rintro ⟨stem, nonempty, rfl, dotless⟩
    have nonempty : stem.toList.reverse ≠ [] := by simpa using nonempty
    obtain ⟨c, rest, eq⟩ := List.exists_cons_of_ne_nil nonempty
    have cut : (stem ++ "." ++ e).toList.reverse = e.toList.reverse ++ '.' :: c :: rest := by
      simp [← eq]
    obtain ⟨before, after⟩ := cut_at_point_iff.mpr ⟨cut, by simpa using dotless⟩
    simp only [before, after, List.reverse_reverse, String.ofList_toList]

theorem extension?_along (isName : IsName name) :
    extension? (along path (names ++ [name])) = extensionOf? name := by
  have last : parts (along path (names ++ [name])) = parts (along path names) ++ [name] := by
    rw [along, List.foldl_append]
    exact parts_join isName
  have found : fileName? (along path (names ++ [name])) = some name := by
    rw [fileName?, last, List.getLast?_concat, Option.filter_some, if_pos]
    exact bne_iff_ne.mpr isName.ne_back
  rw [extension?, found]
  rfl

/-- A name leads on from the working directory. -/
theorem names_of_isName (s : FileSystem) (isName : IsName name) :
    s.names name = s.workingDirectory ++ [name] := by
  rw [FileSystem.names, not_isAbsolute_of_isName isName, parts_of_isName isName]
  rfl

end ControlPlane.Path
