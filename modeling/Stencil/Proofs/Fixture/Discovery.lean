import Mathlib.Data.List.Nodup
import Mathlib.Data.String.Basic
import Stencil.Fixture.Suite
import Stencil.Proofs.Text.Charset

set_option autoImplicit false

namespace Stencil

namespace FileTree

-- Whether among the entries of a folder, inside the folders of a path, there is a file.
inductive Holds (name : FileName) (data : List UInt8) :
    List (FileName × FileTree) → List FileName → Prop
  | here {entries : List (FileName × FileTree)} (entry : (name, .file data) ∈ entries) :
      Holds name data entries []
  | inside {entries inner : List (FileName × FileTree)} {folder : FileName} {path : List FileName}
      (entry : (folder, .folder inner) ∈ entries) (holds : Holds name data inner path) :
      Holds name data entries (folder :: path)

inductive Distinct : FileTree → Prop
  | file (data : List UInt8) : Distinct (.file data)
  | folder {entries : List (FileName × FileTree)} (names : (entries.map Prod.fst).Nodup)
      (below : ∀ entry ∈ entries, entry.2.Distinct) : Distinct (.folder entries)

variable {name : FileName} {data : List UInt8} {entries more : List (FileName × FileTree)}
  {path : List FileName}

theorem Holds.mono (holds : Holds name data entries path)
    (fewer : ∀ entry ∈ entries, entry ∈ more) : Holds name data more path := by
  cases holds with
  | here entry => exact .here (fewer _ entry)
  | inside entry holds => exact .inside (fewer _ entry) holds

@[elab_as_elim]
theorem entries_induction {motive : FileTree → Prop} (file : ∀ data, motive (.file data))
    (folder : ∀ entries, (∀ entry ∈ entries, motive entry.2) → motive (.folder entries))
    (tree : FileTree) : motive tree :=
  @FileTree.rec motive (fun entries => ∀ entry ∈ entries, motive entry.2)
    (fun entry => motive entry.2) file folder nofun
    (fun _ _ first rest => List.forall_mem_cons.2 ⟨first, rest⟩) (fun _ _ below => below) tree

end FileTree

namespace Fixture

open FileTree (Holds Distinct)

def ofFile (folders : List FileName) (name : String) (data : List UInt8) : Fixture :=
  ⟨categoryOf folders, folders ++ [.ofText name], name, .file data⟩

theorem fixtureName?_eq_some_iff {name : FileName} {text : String} :
    fixtureName? name = some text ↔ name = .ofText text ∧ extension.toList <:+ text.toList := by
  rw [fixtureName?, Option.filter_eq_some_iff, FileName.text?, Text.fromUTF8?_eq_some_iff,
    List.isSuffixOf_iff_suffix]
  rfl

variable {fixture : Fixture} {path : List FileName} {entries : List (FileName × FileTree)}

theorem inEntries_eq (path : List FileName) (entries : List (FileName × FileTree)) :
    inEntries path entries = entries.flatMap fun entry => inTree path entry.1 entry.2 := by
  induction entries with
  | nil => rfl
  | cons entry rest ih => simp [inEntries, ih]

theorem holds_of_mem_inTree {tree : FileTree} {name : FileName}
    (member : fixture ∈ inTree path name tree) :
    ∃ folders text data, Holds (.ofText text) data [(name, tree)] folders ∧
      extension.toList <:+ text.toList ∧ fixture = ofFile (path ++ folders) text data := by
  induction tree using FileTree.entries_induction generalizing path name with
  | file data =>
    rw [inTree] at member
    split at member
    next text named =>
      obtain ⟨rfl, ends⟩ := fixtureName?_eq_some_iff.1 named
      obtain rfl := List.mem_singleton.1 member
      exact ⟨[], text, data, .here List.mem_cons_self, ends, by simp [ofFile]⟩
    next => cases member
  | folder entries ih =>
    simp only [inTree, inEntries_eq, List.mem_flatMap] at member
    obtain ⟨entry, listed, member⟩ := member
    obtain ⟨folders, text, data, holds, ends, rfl⟩ := ih entry listed member
    have inside : Holds (.ofText text) data entries folders := holds.mono (by simpa using listed)
    exact ⟨name :: folders, text, data, .inside List.mem_cons_self inside, ends, by simp⟩

theorem mem_inEntries_iff : fixture ∈ inEntries path entries ↔
    ∃ folders text data, Holds (.ofText text) data entries folders ∧
      extension.toList <:+ text.toList ∧ fixture = ofFile (path ++ folders) text data := by
  constructor
  next =>
    intro member
    rw [inEntries_eq, List.mem_flatMap] at member
    obtain ⟨entry, listed, member⟩ := member
    obtain ⟨folders, text, data, holds, ends, same⟩ := holds_of_mem_inTree member
    exact ⟨folders, text, data, holds.mono (by simpa using listed), ends, same⟩
  next =>
    rintro ⟨folders, text, data, holds, ends, rfl⟩
    induction holds generalizing path with
    | here entry =>
      have named := fixtureName?_eq_some_iff.2 ⟨rfl, ends⟩
      rw [inEntries_eq, List.mem_flatMap]
      exact ⟨_, entry, by simp [inTree, named, ofFile]⟩
    | @inside entries inner folder _ entry _ ih =>
      rw [inEntries_eq, List.mem_flatMap]
      refine ⟨_, entry, ?_⟩
      have found : _ ∈ inEntries (path ++ [folder]) inner := ih
      simpa [inTree] using found

theorem isPrefix_path {tree : FileTree} {name : FileName}
    (member : fixture ∈ inTree path name tree) : path ++ [name] <+: fixture.path := by
  obtain ⟨folders, text, data, holds, -, rfl⟩ := holds_of_mem_inTree member
  cases holds with
  | here entry => simp_all [ofFile]
  | inside entry holds => simp_all [ofFile]

theorem nodup_paths_inEntries (names : (entries.map Prod.fst).Nodup)
    (each : ∀ entry ∈ entries, ((inTree path entry.1 entry.2).map Fixture.path).Nodup) :
    ((inEntries path entries).map Fixture.path).Nodup := by
  rw [inEntries_eq, List.map_flatMap, List.nodup_flatMap]
  refine ⟨each, (List.pairwise_map.1 names).imp fun {a b} other => ?_⟩
  -- The names of the two entries stand at the same place in the paths below them.
  refine List.disjoint_left.2 fun reached first second => ?_
  obtain ⟨one, memberOne, rfl⟩ := List.mem_map.1 first
  obtain ⟨two, memberTwo, same⟩ := List.mem_map.1 second
  have alike := List.prefix_of_prefix_length_le (isPrefix_path memberOne)
    (same ▸ isPrefix_path memberTwo) (by simp)
  simp_all

theorem nodup_paths_inTree {tree : FileTree} (distinct : tree.Distinct) (path : List FileName)
    (name : FileName) : ((inTree path name tree).map Fixture.path).Nodup := by
  induction tree using FileTree.entries_induction generalizing path name with
  | file data =>
    rw [inTree]
    split <;> simp
  | folder entries ih =>
    cases distinct with
    | folder names below =>
      rw [inTree]
      exact nodup_paths_inEntries names fun entry listed => ih entry listed (below entry listed) _ _

-- Whether one fixture is taken before another: by category, and then by path.
def Before (a b : Fixture) : Prop :=
  a.category < b.category ∨ a.category = b.category ∧ a.path < b.path

theorem precedes_iff (a b : Fixture) : precedes a b = true ↔
    a.category < b.category ∨ a.category = b.category ∧ a.path ≤ b.path := by
  have order : b.path.lex a.path (fun x y => x < y) = false ↔ a.path ≤ b.path := by
    rw [← Bool.not_eq_true, List.lex_eq_true_iff_lt]
    exact Std.not_lt
  simp only [precedes, Bool.or_eq_true, Bool.and_eq_true, decide_eq_true_eq, beq_iff_eq,
    Bool.not_eq_true', order]

theorem precedes_trans (a b c : Fixture) (first : precedes a b = true)
    (second : precedes b c = true) : precedes a c = true := by
  rw [precedes_iff] at *
  rcases first with first | ⟨same, first⟩ <;> rcases second with second | ⟨alike, second⟩
  next => exact .inl (first.trans second)
  next => exact .inl (alike ▸ first)
  next => exact .inl (same ▸ second)
  next => exact .inr ⟨same.trans alike, Std.le_trans first second⟩

theorem precedes_total (a b : Fixture) : (precedes a b || precedes b a) = true := by
  rw [Bool.or_eq_true, precedes_iff, precedes_iff]
  rcases lt_trichotomy a.category b.category with sooner | same | later
  next => exact .inl (.inl sooner)
  next =>
    have either : a.path ≤ b.path ∨ b.path ≤ a.path := Std.le_total
    rcases either with first | second
    next => exact .inl (.inr ⟨same, first⟩)
    next => exact .inr (.inr ⟨same.symm, second⟩)
  next => exact .inr (.inl later)

theorem discover_folder_ordered (rootName : String) (distinct : (FileTree.folder entries).Distinct) :
    (discover rootName (.folder entries)).Pairwise Before := by
  cases distinct with
  | folder names below =>
    have paths : ((inEntries [] entries).map Fixture.path).Nodup :=
      nodup_paths_inEntries names fun entry listed =>
        nodup_paths_inTree (below entry listed) [] entry.1
    have others : (discover rootName (.folder entries)).Pairwise (fun a b => a.path ≠ b.path) := by
      rw [← List.pairwise_map]
      exact ((List.mergeSort_perm _ precedes).map Fixture.path).nodup_iff.2 paths
    have sorted := List.pairwise_mergeSort precedes_trans precedes_total (inEntries [] entries)
    refine (sorted.and others).imp fun {a b} both => ?_
    exact ((precedes_iff a b).1 both.1).imp id fun ⟨same, upTo⟩ =>
      ⟨same, Std.lt_of_le_of_ne upTo both.2⟩

theorem mem_discover_folder_iff (rootName : String) :
    fixture ∈ discover rootName (.folder entries) ↔
      ∃ folders text data, Holds (.ofText text) data entries folders ∧
        extension.toList <:+ text.toList ∧ fixture = ofFile folders text data := by
  rw [discover, List.mem_mergeSort, mem_inEntries_iff]
  rfl

/-- Whether a category is to be run: it is requested, slashes at the ends of the request aside, or
lies below one that is, or nothing is requested at all. -/
def IsWanted (requests : List String) (category : String) : Prop :=
  requests = [] ∨ ∃ request ∈ requests,
    category.toList = trimSlashes request ∨ trimSlashes request ++ ['/'] <+: category.toList

theorem mem_select_iff {requests : List String} {fixtures : List Fixture} :
    fixture ∈ select requests fixtures ↔
      fixture ∈ fixtures ∧ IsWanted requests fixture.category := by
  simp [select, IsWanted, isRequested]

end Fixture

end Stencil
