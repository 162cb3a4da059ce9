import Mathlib
import Stencil.Proofs.Fixture.Discovery
import Stencil.Proofs.Fixture.Verdict

set_option autoImplicit false

namespace Stencil

namespace Fixture

-- Whether groups of fixtures stand for one category each, in the order of the categories.
structure AreGroups (groups : List (String × List Fixture)) : Prop where
  category : ∀ group ∈ groups, group.2 ≠ [] ∧ ∀ fixture ∈ group.2, fixture.category = group.1
  ordered : (groups.map Prod.fst).Pairwise (· < ·)

def putInFront (fixture : Fixture) :
    List (String × List Fixture) → List (String × List Fixture)
  | (category, fixtures) :: groups =>
    if category = fixture.category then (category, fixture :: fixtures) :: groups
    else (fixture.category, [fixture]) :: (category, fixtures) :: groups
  | [] => [(fixture.category, [fixture])]

theorem grouped_cons (fixture : Fixture) (rest : List Fixture) :
    grouped (fixture :: rest) = putInFront fixture (grouped rest) := by
  rw [grouped]
  cases grouped rest <;> rfl

theorem flatMap_putInFront (fixture : Fixture) (groups : List (String × List Fixture)) :
    (putInFront fixture groups).flatMap Prod.snd = fixture :: groups.flatMap Prod.snd := by
  cases groups with
  | nil => simp [putInFront]
  | cons group others =>
    rw [putInFront]
    split <;> simp

theorem AreGroups.putInFront {fixture : Fixture} {groups : List (String × List Fixture)}
    (are : AreGroups groups) (before : ∀ group ∈ groups, fixture.category ≤ group.1) :
    AreGroups (putInFront fixture groups) := by
  cases groups with
  | nil => exact ⟨by simp [Fixture.putInFront], by simp [Fixture.putInFront]⟩
  | cons group others =>
    obtain ⟨category, fixtures⟩ := group
    obtain ⟨first, later⟩ := List.forall_mem_cons.1 are.category
    rw [Fixture.putInFront]
    split
    next joins =>
      refine ⟨List.forall_mem_cons.2 ⟨⟨by simp, ?_⟩, later⟩, are.ordered⟩
      exact List.forall_mem_cons.2 ⟨joins.symm, first.2⟩
    next parts =>
      refine ⟨List.forall_mem_cons.2 ⟨by simp, are.category⟩, List.pairwise_cons.2 ⟨?_, are.ordered⟩⟩
      have sooner : fixture.category < category :=
        lt_of_le_of_ne (before _ List.mem_cons_self) (Ne.symm parts)
      have above := (List.pairwise_cons.1 are.ordered).1
      exact List.forall_mem_cons.2 ⟨sooner, fun other member => sooner.trans (above other member)⟩

theorem flatMap_grouped (fixtures : List Fixture) :
    (grouped fixtures).flatMap Prod.snd = fixtures := by
  induction fixtures with
  | nil => rfl
  | cons fixture rest ih => rw [grouped_cons, flatMap_putInFront, ih]

theorem areGroups_nil : AreGroups [] :=
  ⟨List.forall_mem_nil _, .nil⟩

theorem areGroups_grouped {fixtures : List Fixture}
    (ordered : fixtures.Pairwise fun a b => a.category ≤ b.category) :
    AreGroups (grouped fixtures) := by
  induction fixtures with
  | nil => exact areGroups_nil
  | cons fixture rest ih =>
    obtain ⟨first, later⟩ := List.pairwise_cons.1 ordered
    have groups := ih later
    rw [grouped_cons]
    refine groups.putInFront fun group member => ?_
    obtain ⟨some, category⟩ := groups.category group member
    obtain ⟨one, listed⟩ := List.exists_mem_of_ne_nil _ some
    have inside : one ∈ rest := by
      rw [← flatMap_grouped rest]
      exact List.mem_flatMap.2 ⟨group, member, listed⟩
    exact category one listed ▸ first one inside

theorem Before.category_le {a b : Fixture} (before : Before a b) : a.category ≤ b.category := by
  rcases before with sooner | ⟨same, -⟩
  next => exact sooner.le
  next => exact same.le

end Fixture

namespace SuiteReport

open Fixture

def failed (ran : List Verdict) : List Verdict :=
  ran.filter fun verdict => !verdict.passed

def failureSection (root : String) (failed : List Verdict) : List String :=
  if failed.isEmpty then [] else "" :: "failures:" :: failed.flatMap (failureLines root)

structure Tells (color : Bool) (root : String) (notes : List String)
    (groups : List (String × List Verdict)) (report : SuiteReport) : Prop where
  idle : groups = [] →
    ∃ line ∈ [noFixtures root, "no matching categories found"], report.lines = notes ++ [line]
  lines : groups ≠ [] →
    let ran := groups.flatMap Prod.snd
    report.lines = notes ++ (groups.flatMap (groupLines color) ++ failureSection root (failed ran) ++
      ["", summaryLine color (ran.countP Verdict.passed) (failed ran).length])
  counts : (groups.flatMap Prod.snd).countP Verdict.passed +
    (failed (groups.flatMap Prod.snd)).length = (groups.flatMap Prod.snd).length
  exitCode : report.exitCode = 0 ↔
    groups ≠ [] ∧ ∀ verdict ∈ groups.flatMap Prod.snd, verdict.passed = true

theorem countP_passed_add_failed (ran : List Verdict) :
    ran.countP Verdict.passed + (failed ran).length = ran.length := by
  rw [failed, ← List.countP_eq_length_filter]
  simpa using (List.length_eq_countP_add_countP Verdict.passed).symm

theorem failed_eq_nil_iff {ran : List Verdict} :
    failed ran = [] ↔ ∀ verdict ∈ ran, verdict.passed = true := by
  simp [failed]

theorem lines_ofVerdicts (color : Bool) (root : String) (groups : List (String × List Verdict)) :
    (ofVerdicts color root groups).lines =
      groups.flatMap (groupLines color) ++
        failureSection root (failed (groups.flatMap Prod.snd)) ++
        ["", summaryLine color ((groups.flatMap Prod.snd).countP Verdict.passed)
          (failed (groups.flatMap Prod.snd)).length] := by
  rw [List.countP_eq_length_filter]
  rfl

theorem exitCode_ofVerdicts (color : Bool) (root : String)
    (groups : List (String × List Verdict)) :
    (ofVerdicts color root groups).exitCode = 0 ↔
      ∀ verdict ∈ groups.flatMap Prod.snd, verdict.passed = true := by
  have zero (none : Bool) : (if none = true then 0 else 1) = 0 ↔ none = true := by cases none <;> simp
  rw [ofVerdicts, zero, List.isEmpty_iff, ← failed_eq_nil_iff, failed]

theorem tells_ofVerdicts (color : Bool) (root : String) (notes : List String)
    {groups : List (String × List Verdict)} (some : groups ≠ []) :
    Tells color root notes groups
      { ofVerdicts color root groups with
        lines := notes ++ (ofVerdicts color root groups).lines } where
  idle none := absurd none some
  lines _ := congrArg (notes ++ ·) (lines_ofVerdicts color root groups)
  counts := countP_passed_add_failed _
  exitCode := (exitCode_ofVerdicts color root groups).trans (by simp [some])

theorem tells_idle (color : Bool) (root : String) (notes : List String) {line : String}
    (known : line ∈ [noFixtures root, "no matching categories found"]) :
    Tells color root notes [] ⟨notes ++ [line], 1⟩ where
  idle _ := ⟨line, known, rfl⟩
  lines some := absurd rfl some
  counts := rfl
  exitCode := by simp

/-- Whether a suite, with whatever number of rounds for a loop, reports on groups of fixtures and on
nothing else, and does so if all their scripts come to an end. -/
structure Reports (color : Bool) (root : String) (notes : List String)
    (groups : List (String × List Fixture)) (run : Nat → Option SuiteReport) : Prop where
  ends : (∃ limit report, run limit = some report) ↔
    ∀ fixture ∈ groups.flatMap Prod.snd, fixture.Ends
  tells : ∀ limit report, run limit = some report →
    ∃ verdicts, AreVerdicts groups verdicts ∧ Tells color root notes verdicts report

theorem reports_idle (color : Bool) (root : String) (notes : List String) {line : String}
    (known : line ∈ [noFixtures root, "no matching categories found"]) :
    Reports color root notes [] fun _ => some ⟨notes ++ [line], 1⟩ where
  ends := iff_of_true ⟨0, _, rfl⟩ (List.forall_mem_nil _)
  tells _ report same := by
    obtain rfl := Option.some.inj same
    exact ⟨[], ⟨rfl, List.forall_mem_nil _⟩, tells_idle color root notes known⟩

theorem reports_ofVerdicts (color : Bool) (root : String) (notes : List String)
    {groups : List (String × List Fixture)} (some : groups ≠ []) :
    Reports color root notes groups fun limit =>
      (runAllWithin limit groups).map fun verdicts =>
        { ofVerdicts color root verdicts with
          lines := notes ++ (ofVerdicts color root verdicts).lines } where
  ends := by
    rw [← exists_runAllWithin_iff]
    simp [Option.map_eq_some_iff]
  tells limit report found := by
    obtain ⟨verdicts, ran, rfl⟩ := Option.map_eq_some_iff.1 found
    have are := areVerdicts_of_runAllWithin ran
    have ranSome : verdicts ≠ [] := by
      rintro rfl
      exact some are.fixtures.symm
    exact ⟨verdicts, are, tells_ofVerdicts color root notes ranSome⟩

def IsRun (requests : List String) (entries : List (FileName × FileTree)) (fixture : Fixture) :
    Prop :=
  (∃ folders text data, FileTree.Holds (.ofText text) data entries folders ∧
    extension.toList <:+ text.toList ∧ fixture = ofFile folders text data) ∧
    IsWanted requests fixture.category

theorem warning_of_mem {available requests : List String} {note : String}
    (member : note ∈ requests.filterMap (warning? available)) :
    ∃ request ∈ requests, ("warning: category '" ++ request).toList <+: note.toList := by
  obtain ⟨request, asked, warned⟩ := List.mem_filterMap.1 member
  refine ⟨request, asked, ?_⟩
  rw [warning?] at warned
  split at warned
  next => cases warned
  next =>
    obtain rfl := Option.some.inj warned
    simp [String.toList_append]

theorem reports_file (color : Bool) (path : String) (requests : List String) (data : List UInt8) :
    Reports color path [] [("", [⟨"", [], lastPart path, .file data⟩])] fun limit =>
      runWithin limit color path requests (.ok (.file data)) :=
  reports_ofVerdicts color path [] (by simp)

theorem reports_folder (color : Bool) (path : String) (requests : List String)
    {entries : List (FileName × FileTree)} (distinct : (FileTree.folder entries).Distinct) :
    ∃ notes groups,
      (∀ fixture, fixture ∈ groups.flatMap Prod.snd ↔ IsRun requests entries fixture) ∧
      (groups.flatMap Prod.snd).Pairwise Before ∧ AreGroups groups ∧
      (∀ note ∈ notes, ∃ request ∈ requests,
        ("warning: category '" ++ request).toList <+: note.toList) ∧
      Reports color path notes groups fun limit =>
        runWithin limit color path requests (.ok (.folder entries)) := by
  let found := discover (lastPart path) (.folder entries)
  let chosen := select requests found
  let notes := requests.filterMap (warning? (categories found))
  have member (fixture : Fixture) : fixture ∈ chosen ↔ IsRun requests entries fixture := by
    rw [mem_select_iff, mem_discover_folder_iff, IsRun]
  have ordered : chosen.Pairwise Before :=
    (discover_folder_ordered (lastPart path) distinct).sublist List.filter_sublist
  have groups := areGroups_grouped (ordered.imp Before.category_le)
  -- Nothing is found, nothing of it is wanted, or something is run.
  have ran (limit : Nat) : runWithin limit color path requests (.ok (.folder entries)) =
      if found.isEmpty then some ⟨[noFixtures path], 1⟩
      else if chosen.isEmpty then some ⟨notes ++ ["no matching categories found"], 1⟩
      else (runAllWithin limit (grouped chosen)).map fun verdicts =>
        { ofVerdicts color path verdicts with
          lines := notes ++ (ofVerdicts color path verdicts).lines } := rfl
  simp only [ran]
  by_cases nothing : found.isEmpty = true
  next =>
    have none : chosen = [] := by simp_all [chosen, select]
    refine ⟨[], [], fun fixture => ?_, .nil, areGroups_nil, List.forall_mem_nil _, ?_⟩
    next => rw [← member, none, List.flatMap_nil]
    next =>
      simp only [if_pos nothing]
      exact reports_idle color path [] (by simp)
  next =>
    simp only [if_neg nothing]
    by_cases unwanted : chosen.isEmpty = true
    next =>
      have none : chosen = [] := List.isEmpty_iff.1 unwanted
      refine ⟨notes, [], fun fixture => ?_, .nil, areGroups_nil, fun _ => warning_of_mem, ?_⟩
      next => rw [← member, none, List.flatMap_nil]
      next =>
        simp only [if_pos unwanted]
        exact reports_idle color path notes (by simp)
    next =>
      simp only [if_neg unwanted]
      have some : grouped chosen ≠ [] := by
        intro none
        exact unwanted (by rw [← flatMap_grouped chosen, none]; rfl)
      refine ⟨notes, grouped chosen, ?_, ?_, groups, fun _ => warning_of_mem,
        reports_ofVerdicts color path notes some⟩
      next => exact fun fixture => by rw [flatMap_grouped, member]
      next => rwa [flatMap_grouped]

def endless : Fixture :=
  ofFile [] "x.test.smscr"
    (Text.utf8Bytes "---\n\n---\n\x7b$for i 1 2 0$\x7d\x7b$end$\x7d".toList)

theorem not_ends_endless : ¬ endless.Ends := by
  let head : LoopHead := ⟨"i", .integer 1, .integer 2, some (.integer 0)⟩
  let script : Script := ⟨⟨[.loop head []]⟩, 0⟩
  have runs : endless.Runs {} script :=
    ⟨_, "\x7b$for i 1 2 0$\x7d\x7b$end$\x7d",
      by rw [endless, ofFile, FileTree.text, Text.fromUTF8?_eq_some_iff.2 rfl, Option.elim_some],
      by cbv, rfl, by cbv⟩
  intro ends
  obtain ⟨rendering, limit, rendered⟩ := ends {} script runs
  have nothing : FrontMatter.renderWithin limit {} script = none :=
    Document.renderWithin_of_still rfl rfl rfl rfl (by decide) rfl (fun _ => rfl) _ _ _
  cases rendered.symm.trans nothing

end SuiteReport

end Stencil
