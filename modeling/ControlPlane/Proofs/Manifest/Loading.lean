import ControlPlane.Proofs.Files.Walk
import ControlPlane.Proofs.Manifest.Declared

/-!
The manifests of a directory. Loading fails exactly if some manifest file, wherever it stands below
the directory, does not declare manifests; else it gives those of all manifest files, in the order
of their paths taken name by name, and those of one file in the order of its documents, none that is
not null passed over (`Manifest.load_tells`). What a file declares is said without the loader
(`Manifest.Declares`), and so is which files there are and in which order they come
(`Manifest.Listing`); a directory has one list of them, that of the walk (`Manifest.listing_iff`).
-/

namespace ControlPlane

namespace Manifest

open List (Forall₂)

variable {files : FileSystem} {path source name text : String} {t : FileTree}
  {names : List String} {content : ByteArray} {ms : List Manifest} {m : Manifest}

/-! ### What a file declares -/

/-- A file is a text whose documents can all be read, and each of them that is not null declares
one of the manifests, in the order of the documents. -/
def Declares (source : String) (content : ByteArray) (ms : List Manifest) : Prop :=
  ∃ (text : String) (values : List Yaml.Value), content = text.toUTF8 ∧
    Yaml.Value.documents text = values.map .ok ∧
    Forall₂ (fun v m => ofDocument source v = .ok m) (values.filter (!·.isNull)) ms

theorem ofDocuments_map_ok (values : List Yaml.Value) :
    ofDocuments source (values.map .ok) =
      (values.filter (!·.isNull)).mapM (ofDocument source) := by
  induction values with
  | nil => rfl
  | cons v rest ih =>
    rw [List.map_cons, ofDocuments, ih]
    by_cases null : v.isNull = true
    · rw [if_pos null, List.filter_cons_of_neg (by simpa using null)]
    · rw [if_neg null, List.filter_cons_of_pos (by simpa using null), List.mapM_cons]

/-- Documents declare nothing unless all of them can be read. -/
theorem exists_eq_map_of_ofDocuments {documents : List (Except Yaml.Fault Yaml.Value)}
    (read : ofDocuments source documents = .ok ms) :
    ∃ values : List Yaml.Value, documents = values.map .ok := by
  induction documents generalizing ms with
  | nil => exact ⟨[], rfl⟩
  | cons d rest ih =>
    cases d with
    | error e => cases read
    | ok v =>
      have tail : ∃ others, ofDocuments source rest = .ok others := by
        rw [ofDocuments] at read
        split at read
        · exact ⟨ms, read⟩
        · obtain ⟨first, -, read⟩ := Outcome.bind_eq_ok_iff.mp read
          obtain ⟨others, tail, -⟩ := Outcome.bind_eq_ok_iff.mp read
          exact ⟨others, tail⟩
      obtain ⟨others, tail⟩ := tail
      obtain ⟨values, rfl⟩ := ih tail
      exact ⟨v :: values, rfl⟩

theorem declares_toUTF8_iff : Declares source text.toUTF8 ms ↔ ofText source text = .ok ms := by
  constructor
  · rintro ⟨text', values, same, documents, each⟩
    obtain rfl := String.toByteArray_inj.mp same
    rw [ofText, documents, ofDocuments_map_ok]
    exact Outcome.mapM_eq_ok_iff.mpr each
  · intro read
    obtain ⟨values, documents⟩ := exists_eq_map_of_ofDocuments read
    rw [ofText, documents, ofDocuments_map_ok] at read
    exact ⟨text, values, rfl, documents, Outcome.mapM_eq_ok_iff.mp read⟩

theorem fromUTF8?_eq_some_iff : String.fromUTF8? content = some text ↔ content = text.toUTF8 := by
  unfold String.fromUTF8?
  constructor
  · intro read
    split at read
    · obtain rfl := Option.some.inj read
      rfl
    · cases read
  · rintro rfl
    exact dif_pos text.isValidUTF8

theorem ofFile_eq_ok_iff : ofFile source content = .ok ms ↔ Declares source content ms := by
  unfold ofFile
  cases read : String.fromUTF8? content with
  | none =>
    refine iff_of_false (fun read => by cases read) ?_
    rintro ⟨text, values, isText, -⟩
    rw [fromUTF8?_eq_some_iff.mpr isText] at read
    cases read
  | some text =>
    obtain rfl := fromUTF8?_eq_some_iff.mp read
    exact Outcome.mapError_eq_ok_iff.trans declares_toUTF8_iff.symm

/-- A declared record has a name and a namespace. -/
theorem named_of_ofDocument {v : Yaml.Value} (read : ofDocument source v = .ok m) :
    m.key.name ≠ "" ∧ m.key.namespace ≠ "" := by
  rw [ofDocument] at read
  obtain ⟨j, -, read⟩ := Outcome.bind_eq_ok_iff.mp read
  obtain ⟨d, -, read⟩ := Outcome.bind_eq_ok_iff.mp read
  split at read
  · cases read
  · split at read
    · cases read
    · rename_i named
      have named : d.record.metadata.name ≠ "" := by simpa using named
      obtain ⟨-, -, read⟩ := Outcome.bind_eq_ok_iff.mp read
      obtain rfl := Except.ok.inj read
      show (placed d.record).metadata.name ≠ "" ∧ (placed d.record).metadata.namespace ≠ ""
      unfold placed
      split
      · exact ⟨named, show defaultNamespace ≠ "" by decide⟩
      · rename_i spaced
        exact ⟨named, by simpa using spaced⟩

/-! ### Which files there are -/

/-- Whether the last of the names that lead to a file has an extension of manifest files. -/
def NamesManifests (names : List String) : Prop :=
  ∃ above stem extension, names = above ++ [stem ++ "." ++ extension] ∧ stem ≠ "" ∧
    extension ∈ ["yaml", "yml", "json"]

/-- The manifest files of a tree, all of them and once, in the order of their paths taken name by
name; and beside each of them the manifests that it declares. -/
structure Listing (path : String) (t : FileTree) (found : List (List String × ByteArray))
    (lists : List (List Manifest)) : Prop where
  complete : ∀ names content, (names, content) ∈ found ↔
    t.At names content ∧ NamesManifests names
  ordered : found.Pairwise fun f g => Path.Before f.1 g.1
  declared : Forall₂ (fun f l => Declares (Path.along path f.1) f.2 l) found lists

theorem isManifestPath_along_iff {above : List String} (isName : Path.IsName name) :
    isManifestPath (Path.along path (above ++ [name])) = true ↔
      NamesManifests (above ++ [name]) := by
  have dotless : ∀ e ∈ extensions, '.' ∉ e.toList := by decide
  rw [isManifestPath, Path.extension?_along isName]
  constructor
  · intro isManifest
    split at isManifest
    · rename_i e has
      obtain ⟨stem, nonempty, eq, -⟩ := Path.extensionOf?_eq_some_iff.mp has
      exact ⟨above, stem, e, by rw [eq], nonempty, List.contains_iff_mem.mp isManifest⟩
    · cases isManifest
  · rintro ⟨above', stem, e, eq, nonempty, isExtension⟩
    obtain ⟨-, last⟩ := List.append_inj' eq rfl
    have has := Path.extensionOf?_eq_some_iff.mpr
      ⟨stem, nonempty, List.singleton_inj.mp last, dotless e isExtension⟩
    rw [has]
    exact List.contains_iff_mem.mpr isExtension

/-- The manifest files that the walk through a tree meets. -/
def walked (path : String) (t : FileTree) : List (List String × ByteArray) :=
  t.files.filter fun f => isManifestPath (Path.along path f.1)

theorem filesOf_eq (path : String) (t : FileTree) :
    filesOf path t = (walked path t).map fun f => (Path.along path f.1, f.2) := by
  rw [filesOf, List.filter_map, walked]
  rfl

section

variable {entries : List (String × FileTree)} (proper : (FileTree.directory entries).Proper)
include proper

theorem mem_walked_iff : (names, content) ∈ walked path (.directory entries) ↔
    (FileTree.directory entries).At names content ∧ NamesManifests names := by
  rw [walked, List.mem_filter, FileTree.mem_files_iff proper]
  refine and_congr_right fun stands => ?_
  have inside : names ≠ [] := by
    rintro rfl
    cases stands
  obtain ⟨above, name, rfl, isName⟩ := stands.lastName proper inside
  exact isManifestPath_along_iff isName

/-- The files of a listing are those that the walk through the directory meets. -/
theorem listing_iff {found : List (List String × ByteArray)} {lists : List (List Manifest)} :
    Listing path (.directory entries) found lists ↔ found = walked path (.directory entries) ∧
      Forall₂ (fun f l => Declares (Path.along path f.1) f.2 l) found lists := by
  have ordered : (walked path (.directory entries)).Pairwise fun f g => Path.Before f.1 g.1 :=
    (FileTree.files_ordered proper).filter _
  constructor
  · intro listing
    have same : ∀ f, f ∈ found ↔ f ∈ walked path (.directory entries) := fun f =>
      (listing.complete f.1 f.2).trans (mem_walked_iff proper).symm
    exact ⟨Path.ext_of_ordered listing.ordered ordered same, listing.declared⟩
  · rintro ⟨rfl, declared⟩
    exact ⟨fun names content => mem_walked_iff proper, ordered, declared⟩

end

/-! ### What is loaded -/

theorem load_eq_ok_iff (looked : files.look path = .ok t) :
    load files path = .ok ms ↔ ∃ lists,
      Forall₂ (fun f l => Declares (Path.along path f.1) f.2 l) (walked path t) lists ∧
        ms = lists.flatten := by
  rw [load, looked, Outcome.ok_mapError, Outcome.ok_bind, ofTree, Outcome.bind_eq_ok_iff]
  simp only [Outcome.mapM_eq_ok_iff, filesOf_eq, List.forall₂_map_left_iff, ofFile_eq_ok_iff]
  refine exists_congr fun lists => and_congr_right fun _ => ?_
  exact ⟨fun eq => (Except.ok.inj eq).symm, fun eq => eq ▸ rfl⟩

theorem load_fails_iff (looked : files.look path = .ok t) :
    (∃ e, load files path = .error e) ↔
      ∃ f ∈ walked path t, ¬ ∃ ms, Declares (Path.along path f.1) f.2 ms := by
  have succeeds : (∃ ms, load files path = .ok ms) ↔
      ∀ f ∈ walked path t, ∃ ms, Declares (Path.along path f.1) f.2 ms := by
    rw [← Outcome.exists_forall₂_iff]
    simp only [load_eq_ok_iff looked]
    constructor
    · rintro ⟨_, lists, declared, -⟩
      exact ⟨lists, declared⟩
    · rintro ⟨lists, declared⟩
      exact ⟨_, lists, declared, rfl⟩
  rw [Outcome.exists_eq_error_iff, succeeds]
  push Not
  rfl

/-- Loading a directory fails exactly if some manifest file below it does not declare manifests, and
else gives the manifests of its listing; each of them has a name and a namespace. -/
theorem load_tells {entries : List (String × FileTree)}
    (looked : files.look path = .ok (.directory entries))
    (proper : (FileTree.directory entries).Proper) :
    ((∃ e, load files path = .error e) ↔ ∃ names content,
      (FileTree.directory entries).At names content ∧ NamesManifests names ∧
        ¬ ∃ ms, Declares (Path.along path names) content ms) ∧
    (∀ ms, load files path = .ok ms ↔ ∃ found lists,
      Listing path (.directory entries) found lists ∧ ms = lists.flatten) ∧
    ∀ ms, load files path = .ok ms → ∀ m ∈ ms, m.key.name ≠ "" ∧ m.key.namespace ≠ "" := by
  refine ⟨?_, fun ms => ?_, fun ms read m mem => ?_⟩
  · rw [load_fails_iff looked]
    simp only [Prod.exists, mem_walked_iff proper, and_assoc]
  · simp only [load_eq_ok_iff looked, listing_iff proper, and_assoc]
    constructor
    · rintro ⟨lists, declared, eq⟩
      exact ⟨_, lists, rfl, declared, eq⟩
    · rintro ⟨_, lists, rfl, declared, eq⟩
      exact ⟨lists, declared, eq⟩
  · obtain ⟨source, v, read⟩ := (Declared.load read).document mem
    exact named_of_ofDocument read

/-- A text that declares one package. -/
def packageText (name : String) : String :=
  "\x7bkind: Package, metadata: \x7bname: " ++ name ++ "\x7d\x7d"

/-- A directory beside a file; as a text, the path below the one is above that of the other. -/
def nestedEntries : List (String × FileTree) :=
  [("notes.md", .file "packages".toUTF8), ("tools.yaml", .file (packageText "last").toUTF8),
    ("tools", .directory [("a.yaml", .file (packageText "first").toUTF8)])]

def nestedFiles : FileSystem where
  root := .directory [("m", .directory nestedEntries)]

theorem nestedFiles_look : nestedFiles.look "m" = .ok (.directory nestedEntries) := by
  rw [FileSystem.look, Path.names_of_isName nestedFiles (by decide)]
  rfl

theorem nestedEntries_proper : (FileTree.directory nestedEntries).Proper := by
  have below : (FileTree.directory [("a.yaml", .file (packageText "first").toUTF8)]).Proper :=
    .directory (by decide) (by decide) (by simpa using .file _)
  refine .directory (by decide) (by decide) ?_
  simpa [nestedEntries] using ⟨.file _, .file _, below⟩

theorem walked_nestedEntries : walked "m" (.directory nestedEntries) =
    [(["tools", "a.yaml"], (packageText "first").toUTF8),
      (["tools.yaml"], (packageText "last").toUTF8)] := by
  have files : (FileTree.directory nestedEntries).files =
      [(["notes.md"], "packages".toUTF8), (["tools", "a.yaml"], (packageText "first").toUTF8),
        (["tools.yaml"], (packageText "last").toUTF8)] := by
    decide +kernel
  have extension (above : List String) (name : String) (isName : Path.IsName name) :
      Path.extension? (Path.along "m" (above ++ [name])) = Path.extensionOf? name :=
    Path.extension?_along isName
  have notes := extension [] "notes.md" (by decide)
  have below := extension ["tools"] "a.yaml" (by decide)
  have beside := extension [] "tools.yaml" (by decide)
  simp only [List.nil_append, List.singleton_append] at notes below beside
  rw [walked, files]
  simp only [isManifestPath, List.filter_cons, notes, below, beside]
  rfl

theorem nested_in_order :
    nestedFiles.look "m" = .ok (.directory nestedEntries) ∧
      (FileTree.directory nestedEntries).Proper ∧
      ∃ ms, load nestedFiles "m" = .ok ms ∧ ms.map (·.key.name) = ["first", "last"] := by
  obtain ⟨first, declared, isFirst⟩ := Outcome.exists_of_toOption_map
    (show (ofText (Path.along "m" ["tools", "a.yaml"]) (packageText "first")).toOption.map
      (·.map (·.key.name)) = some ["first"] by decide +kernel)
  obtain ⟨last, declared', isLast⟩ := Outcome.exists_of_toOption_map
    (show (ofText (Path.along "m" ["tools.yaml"]) (packageText "last")).toOption.map
      (·.map (·.key.name)) = some ["last"] by decide +kernel)
  have listing : Listing "m" (.directory nestedEntries) (walked "m" (.directory nestedEntries))
      [first, last] := by
    refine (listing_iff nestedEntries_proper).mpr ⟨rfl, ?_⟩
    rw [walked_nestedEntries]
    exact .cons (declares_toUTF8_iff.mpr declared) (.cons (declares_toUTF8_iff.mpr declared') .nil)
  have tells := load_tells nestedFiles_look nestedEntries_proper
  refine ⟨nestedFiles_look, nestedEntries_proper, _, (tells.2.1 _).mpr ⟨_, _, listing, rfl⟩, ?_⟩
  rw [List.flatten_cons, List.flatten_cons, List.flatten_nil, List.append_nil, List.map_append,
    isFirst, isLast]
  rfl

end Manifest

end ControlPlane
