import Stencil.Fixture.Suite
import Stencil.Proofs.Fixture.Check

set_option autoImplicit false

namespace Stencil.Fixture

open Fallible

variable {limit more : Nat} {fixture : Fixture} {verdict : Verdict} {expected : FrontMatter}
  {script : Script}

def Runs (fixture : Fixture) (expected : FrontMatter) (script : Script) : Prop :=
  ∃ content source, fixture.file.text = .ok content ∧
    FrontMatter.read content = .ok (expected, source) ∧ expected.wantedParseError = none ∧
    Script.parse source 0 = .ok script

def Ends (fixture : Fixture) : Prop :=
  ∀ expected script, fixture.Runs expected script → ∃ rendering, expected.RendersTo script rendering

theorem Runs.unique {other : FrontMatter} {script' : Script} (runs : fixture.Runs expected script)
    (runsAgain : fixture.Runs other script') : other = expected ∧ script' = script := by
  obtain ⟨content, source, text, read, -, parsed⟩ := runs
  obtain ⟨content', source', text', read', -, parsed'⟩ := runsAgain
  obtain rfl := Except.ok.inj (text.symm.trans text')
  obtain ⟨rfl, rfl⟩ := Prod.mk.inj (Except.ok.inj (read.symm.trans read'))
  exact ⟨rfl, Except.ok.inj (parsed'.symm.trans parsed)⟩

theorem runWithin_of_runs (runs : fixture.Runs expected script) (limit : Nat) :
    fixture.runWithin limit = (expected.renderWithin limit script).map fun rendering =>
      ⟨fixture, expected.description,
        ((expected.checkOutcome rendering).or (expected.checkPersistent rendering)).map
          Mismatch.message⟩ := by
  obtain ⟨content, source, text, read, asked, parsed⟩ := runs
  simp only [runWithin, FrontMatter.checkWithin, text, read, asked, parsed, Option.map_map]
  rfl

theorem runWithin_of_not_runs (idle : ∀ expected script, ¬ fixture.Runs expected script) :
    ∃ verdict, ∀ limit, fixture.runWithin limit = some verdict := by
  cases text : fixture.file.text with
  | error e => exact ⟨_, fun limit => by rw [runWithin, text]⟩
  | ok content =>
    cases read : FrontMatter.read content with
    | error e => exact ⟨_, fun limit => by simp only [runWithin, text, read]; rfl⟩
    | ok result =>
      obtain ⟨expected, source⟩ := result
      have run (limit : Nat) : fixture.runWithin limit =
          (expected.checkWithin limit source).map fun mismatch =>
            ⟨fixture, expected.description, mismatch.map Mismatch.message⟩ := by
        simp only [runWithin, text, read]
      cases asked : expected.wantedParseError with
      | some wanted =>
        exact ⟨_, fun limit => by rw [run, FrontMatter.checkWithin, asked, Option.map_some]⟩
      | none =>
        cases parsed : Script.parse source 0 with
        | error e =>
          exact ⟨_, fun limit => by rw [run, FrontMatter.checkWithin, asked, parsed, Option.map_some]⟩
        | ok script => exact absurd ⟨content, source, text, read, asked, parsed⟩ (idle expected script)

theorem ends_iff : fixture.Ends ↔ ∃ limit verdict, fixture.runWithin limit = some verdict := by
  by_cases runs : ∃ expected script, fixture.Runs expected script
  next =>
    obtain ⟨expected, script, runs⟩ := runs
    simp only [runWithin_of_runs runs, Option.map_eq_some_iff]
    constructor
    next =>
      intro ends
      obtain ⟨rendering, limit, rendered⟩ := ends expected script runs
      exact ⟨limit, _, rendering, rendered, rfl⟩
    next =>
      rintro ⟨limit, _, rendering, rendered, rfl⟩ other script' runsAgain
      obtain ⟨rfl, rfl⟩ := runs.unique runsAgain
      exact ⟨rendering, limit, rendered⟩
  next =>
    have idle (expected : FrontMatter) (script : Script) : ¬ fixture.Runs expected script :=
      fun found => runs ⟨expected, script, found⟩
    obtain ⟨verdict, ran⟩ := runWithin_of_not_runs idle
    exact ⟨fun _ => ⟨0, verdict, ran 0⟩, fun _ expected script found =>
      absurd found (idle expected script)⟩

theorem runWithin_mono (le : limit ≤ more) (ran : fixture.runWithin limit = some verdict) :
    fixture.runWithin more = some verdict := by
  cases text : fixture.file.text with
  | error e => simpa only [runWithin, text] using ran
  | ok content =>
    cases read : FrontMatter.read content with
    | error e => simpa only [runWithin, text, read] using ran
    | ok result =>
      simp only [runWithin, text, read, Option.map_eq_some_iff] at ran ⊢
      obtain ⟨mismatch, checked, same⟩ := ran
      exact ⟨mismatch, FrontMatter.checkWithin_mono le checked, same⟩

theorem fixture_of_runWithin (ran : fixture.runWithin limit = some verdict) :
    verdict.fixture = fixture := by
  unfold runWithin at ran
  split at ran
  next => cases ran; rfl
  next =>
    split at ran
    next => cases ran; rfl
    next =>
      obtain ⟨mismatch, -, rfl⟩ := Option.map_eq_some_iff.1 ran
      rfl

theorem exists_limit {fixtures : List Fixture} (ends : ∀ fixture ∈ fixtures, fixture.Ends) :
    ∃ limit, ∀ fixture ∈ fixtures, ∃ verdict, fixture.runWithin limit = some verdict := by
  induction fixtures with
  | nil => exact ⟨0, List.forall_mem_nil _⟩
  | cons fixture rest ih =>
    obtain ⟨first, others⟩ := List.forall_mem_cons.1 ends
    obtain ⟨limit, verdict, ran⟩ := ends_iff.1 first
    obtain ⟨more, later⟩ := ih others
    refine ⟨max limit more, List.forall_mem_cons.2 ⟨⟨verdict, ?_⟩, fun other member => ?_⟩⟩
    next => exact runWithin_mono (Nat.le_max_left limit more) ran
    next =>
      obtain ⟨found, ran⟩ := later other member
      exact ⟨found, runWithin_mono (Nat.le_max_right limit more) ran⟩

-- Whether groups of verdicts are what running groups of fixtures comes to.
structure AreVerdicts (groups : List (String × List Fixture))
    (verdicts : List (String × List Verdict)) : Prop where
  fixtures : verdicts.map (fun group => (group.1, group.2.map Verdict.fixture)) = groups
  found : ∀ verdict ∈ verdicts.flatMap Prod.snd,
    ∃ limit, verdict.fixture.runWithin limit = some verdict

variable {groups : List (String × List Fixture)} {verdicts : List (String × List Verdict)}

theorem AreVerdicts.flatMap (are : AreVerdicts groups verdicts) :
    (verdicts.flatMap Prod.snd).map Verdict.fixture = groups.flatMap Prod.snd := by
  rw [← are.fixtures, List.map_flatMap, List.flatMap_map]

theorem areVerdicts_of_runAllWithin (ran : runAllWithin limit groups = some verdicts) :
    AreVerdicts groups verdicts := by
  have each {fixtures : List Fixture} {list : List Verdict}
      (ran : fixtures.mapM (runWithin limit) = some list) :=
    mapM_eq_some (fun _ _ ran => fixture_of_runWithin ran) ran
  have inverse (group : String × List Fixture) (list : String × List Verdict)
      (ran : (group.2.mapM (runWithin limit)).map (Prod.mk group.1) = some list) :
      (list.1, list.2.map Verdict.fixture) = group := by
    obtain ⟨_, ranAll, rfl⟩ := Option.map_eq_some_iff.1 ran
    exact Prod.ext rfl (each ranAll).1
  obtain ⟨fixtures, found⟩ := mapM_eq_some inverse ran
  refine ⟨fixtures, fun verdict member => ?_⟩
  obtain ⟨group, listed, member⟩ := List.mem_flatMap.1 member
  obtain ⟨list, ranAll, same⟩ := Option.map_eq_some_iff.1 (found group listed)
  obtain rfl : list = group.2 := congrArg Prod.snd same
  exact ⟨limit, (each ranAll).2 verdict member⟩

theorem exists_runAllWithin_iff :
    (∃ limit verdicts, runAllWithin limit groups = some verdicts) ↔
      ∀ fixture ∈ groups.flatMap Prod.snd, fixture.Ends := by
  constructor
  next =>
    rintro ⟨limit, verdicts, ran⟩ fixture member
    have are := areVerdicts_of_runAllWithin ran
    rw [← are.flatMap] at member
    obtain ⟨verdict, listed, rfl⟩ := List.mem_map.1 member
    obtain ⟨limit, found⟩ := are.found verdict listed
    exact ends_iff.2 ⟨limit, verdict, found⟩
  next =>
    intro ends
    obtain ⟨limit, each⟩ := exists_limit ends
    refine ⟨limit, exists_mapM_eq_some fun group listed => ?_⟩
    obtain ⟨list, ran⟩ := exists_mapM_eq_some fun fixture member =>
      each fixture (List.mem_flatMap.2 ⟨group, listed, member⟩)
    exact ⟨(group.1, list), Option.map_eq_some_iff.2 ⟨list, ran, rfl⟩⟩

end Stencil.Fixture
