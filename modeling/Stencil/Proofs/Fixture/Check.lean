import Stencil.Fixture.Check
import Stencil.Proofs.Execution.Limit
import Stencil.Proofs.Execution.Transcript
import Stencil.Proofs.Text.Lossy
import Stencil.Proofs.Text.Search

set_option autoImplicit false

namespace Stencil

namespace Scope

variable {pairs : List (String × String)}

theorem get?_setAll (scope : Scope) (name : String) :
    (scope.setAll pairs).get? name = (pairs.reverse.lookup name).or (scope.get? name) := by
  induction pairs generalizing scope with
  | nil => simp [setAll]
  | cons pair rest ih =>
    have next : scope.setAll (pair :: rest) = (scope.set pair.1 pair.2).setAll rest := rfl
    rw [next, ih, get?_set, List.reverse_cons, List.lookup_append, Entries.lookup_cons_eq,
      Option.or_assoc]
    split <;> simp

theorem get?_ofPairs (name : String) :
    (ofPairs pairs).get? name = pairs.reverse.lookup name := by
  simp [ofPairs, get?_setAll, get?_empty]

theorem agrees_iff (a b : Scope) : a.agrees b = true ↔ ∀ name, a.get? name = b.get? name := by
  constructor
  next =>
    intro agree name
    by_cases known : ∃ entry ∈ a.entries ++ b.entries, entry.1 = name
    next =>
      obtain ⟨entry, member, rfl⟩ := known
      simpa using List.all_eq_true.1 agree entry member
    next =>
      simp only [not_exists, not_and, List.mem_append] at known
      have missing (entries : List (String × String))
          (other : ∀ entry ∈ entries, entry.1 ≠ name) : entries.lookup name = none :=
        List.lookup_eq_none_iff.2 fun entry member => by simpa using (other entry member).symm
      rw [get?, get?, missing _ fun entry member => known entry (.inl member),
        missing _ fun entry member => known entry (.inr member)]
  next =>
    intro same
    simp [agrees, same]

end Scope

theorem Text.utf8Bytes_inj {a b : List Char} : utf8Bytes a = utf8Bytes b ↔ a = b := by
  constructor
  next =>
    intro same
    have read := congrArg lossy same
    rwa [lossy_utf8Bytes, lossy_utf8Bytes] at read
  next => exact congrArg utf8Bytes

theorem Rendering.text_of_output {rendering : Rendering} {written : List Char}
    (output : rendering.output = Text.utf8Bytes written) :
    rendering.text = String.ofList written := by
  rw [text, output, Text.lossy_utf8Bytes]

theorem Document.output_renderWithin {limit : Nat} {document : Document}
    {parameters persistent : Scope} {rendering : Rendering}
    (rendered : document.renderWithin limit parameters persistent false = some rendering)
    (ends : rendering.outcome = .ok ()) :
    rendering.output =
      Text.utf8Bytes (document.characters limit
        { response := .fresh false (fun _ => false) parameters persistent [] } ++ ['\n']) := by
  let start : Machine := { response := .fresh false (fun _ => false) parameters persistent [] }
  obtain ⟨outcome, settled, rfl⟩ := Option.map_eq_some_iff.1 rendered
  have ran : document.executeWithin limit start =
      (.ok (), (document.executeWithin limit start).2) :=
    Prod.ext (Execution.eq_ok_of_settled (ends ▸ settled)) rfl
  have delivers : Response.Delivers (fun _ => []) start.response :=
    { Response.holds_fresh false (fun _ => false) parameters persistent [] with accepts := rfl }
  obtain ⟨generated, delivered⟩ := delivers_executeWithin delivers ran
  have follows := document.follows_executeWithin limit start
  obtain ⟨mimeType, configuration⟩ := follows.configuration
  have silent := (Response.preamble_eq_nil_iff _).2 follows.emitsHeader
  have written := delivered.written generated
  rw [silent, configuration] at written
  exact written

namespace FrontMatter

/-- Whether a run comes out as a front matter says, with the exception that an expected error takes
the place of an expected output. -/
structure Meets (expected : FrontMatter) (rendering : Rendering) : Prop where
  fails : ∀ part, expected.expectError = some part →
    ∃ e, rendering.outcome = .error e ∧ part.toList <:+: e.message.toList
  ends : expected.expectError = none → rendering.outcome = .ok ()
  output : expected.expectError = none → ∀ output, expected.expectOutput = some output →
    ∃ written, rendering.output = Text.utf8Bytes written ∧
      Text.trim written = Text.trim output.toList
  persistent : ∀ table, expected.expectPersistent = some table →
    ∀ name, rendering.persistent.get? name = table.parameters.reverse.lookup name

def RendersTo (expected : FrontMatter) (script : Script) (rendering : Rendering) : Prop :=
  ∃ limit, expected.renderWithin limit script = some rendering

-- Whether a check comes to an end, and with this answer.
def Answers (expected : FrontMatter) (source : String) (answer : Option Mismatch) : Prop :=
  ∃ limit, expected.checkWithin limit source = some answer

variable {expected : FrontMatter} {rendering : Rendering} {limit more : Nat}

theorem checkWithin_mono (le : limit ≤ more) {source : String} {answer : Option Mismatch}
    (checked : expected.checkWithin limit source = some answer) :
    expected.checkWithin more source = some answer := by
  cases asked : expected.wantedParseError with
  | some wanted => simpa only [checkWithin, asked] using checked
  | none =>
    cases parsed : Script.parse source 0 with
    | error fault => simpa only [checkWithin, asked, parsed] using checked
    | ok script =>
      simp only [checkWithin, asked, parsed, Option.map_eq_some_iff] at checked ⊢
      obtain ⟨rendering, rendered, same⟩ := checked
      exact ⟨rendering, Document.renderWithin_mono le rendered, same⟩

theorem Answers.unique {source : String} {one other : Option Mismatch}
    (first : expected.Answers source one) (second : expected.Answers source other) :
    one = other := by
  obtain ⟨limit, checked⟩ := first
  obtain ⟨more, checkedAgain⟩ := second
  have both := checkWithin_mono (Nat.le_max_left limit more) checked
  rw [checkWithin_mono (Nat.le_max_right limit more) checkedAgain] at both
  exact (Option.some.inj both).symm

theorem checkPersistent_eq_none_iff :
    expected.checkPersistent rendering = none ↔
      ∀ table, expected.expectPersistent = some table →
        ∀ name, rendering.persistent.get? name = table.parameters.reverse.lookup name := by
  cases wanted : expected.expectPersistent with
  | none => simp [checkPersistent, wanted]
  | some table =>
    have agrees := Scope.agrees_iff (.ofPairs table.parameters) rendering.persistent
    simp only [Scope.get?_ofPairs] at agrees
    simp [checkPersistent, wanted, agrees, @eq_comm _ (rendering.persistent.get? _)]

theorem trimText_eq_iff {a b : String} :
    trimText a = trimText b ↔ Text.trim a.toList = Text.trim b.toList := by
  simp [trimText, String.ofList_inj]

theorem checkOutcome_eq_none_iff
    (decodes : rendering.outcome = .ok () → ∃ said, rendering.output = Text.utf8Bytes said) :
    expected.checkOutcome rendering = none ↔
      (∀ part, expected.expectError = some part →
        ∃ e, rendering.outcome = .error e ∧ part.toList <:+: e.message.toList) ∧
      (expected.expectError = none → rendering.outcome = .ok ()) ∧
      (expected.expectError = none → ∀ output, expected.expectOutput = some output →
        ∃ written, rendering.output = Text.utf8Bytes written ∧
          Text.trim written = Text.trim output.toList) := by
  unfold checkOutcome
  cases error : expected.expectError with
  | some part =>
    cases outcome : rendering.outcome <;> simp [Text.containsText_eq_true_iff]
  | none =>
    cases outcome : rendering.outcome with
    | error e => simp
    | ok =>
      obtain ⟨said, output⟩ := decodes outcome
      cases wanted : expected.expectOutput with
      | none => simp
      | some text =>
        simp [Rendering.text_of_output output, trimText_eq_iff, output, Text.utf8Bytes_inj]

theorem checkRefusal_eq_none_iff {wanted : ExpectedParseError}
    {parsed : Except ParseError Script} :
    checkRefusal wanted parsed = none ↔ ∃ fault, parsed = .error fault ∧
      ∀ part, wanted = .containing part → part.toList <:+: fault.message.toList := by
  cases parsed <;> cases wanted <;> simp [checkRefusal, Text.containsText_eq_true_iff]

theorem checkRendering_eq_none_iff {script : Script}
    (rendered : expected.renderWithin limit script = some rendering) :
    (expected.checkOutcome rendering).or (expected.checkPersistent rendering) = none ↔
      expected.Meets rendering := by
  have decodes (ends : rendering.outcome = .ok ()) :
      ∃ said, rendering.output = Text.utf8Bytes said :=
    ⟨_, Document.output_renderWithin rendered ends⟩
  rw [Option.or_eq_none_iff, checkOutcome_eq_none_iff decodes, checkPersistent_eq_none_iff]
  constructor
  next =>
    rintro ⟨⟨fails, ends, output⟩, persistent⟩
    exact ⟨fails, ends, output, persistent⟩
  next => exact fun meets => ⟨⟨meets.fails, meets.ends, meets.output⟩, meets.persistent⟩

theorem answers_none_iff_of_wanted {source : String} {wanted : ExpectedParseError}
    (asked : expected.wantedParseError = some wanted) :
    expected.Answers source none ↔ ∃ fault, Script.parse source 0 = .error fault ∧
      ∀ part, wanted = .containing part → part.toList <:+: fault.message.toList := by
  simp [Answers, checkWithin, asked, checkRefusal_eq_none_iff]

theorem answers_none_iff_of_unwanted {source : String}
    (unasked : expected.wantedParseError = none) :
    expected.Answers source none ↔ ∃ script rendering, Script.parse source 0 = .ok script ∧
      expected.RendersTo script rendering ∧ expected.Meets rendering := by
  cases parsed : Script.parse source 0 with
  | error fault => simp [Answers, checkWithin, unasked, parsed]
  | ok script =>
    simp only [Answers, checkWithin, unasked, parsed, Option.map_eq_some_iff]
    constructor
    next =>
      rintro ⟨limit, rendering, rendered, same⟩
      exact ⟨script, rendering, rfl, ⟨limit, rendered⟩, (checkRendering_eq_none_iff rendered).1 same⟩
    next =>
      rintro ⟨_, rendering, ⟨⟩, ⟨limit, rendered⟩, meets⟩
      exact ⟨limit, rendering, rendered, (checkRendering_eq_none_iff rendered).2 meets⟩

/-- A fixture passes if its source cannot be read, for the reason that is expected, or if no such
reason is expected and the source is read and run to its end, with what the front matter says. -/
theorem passes_iff (expected : FrontMatter) (source : String) :
    expected.Answers source none ↔
      match expected.expectParseError with
      | some (.containing part) => ∃ fault, Script.parse source 0 = .error fault ∧
        part.toList <:+: fault.message.toList
      | some (.any true) => ∃ fault, Script.parse source 0 = .error fault
      | some (.any false) | none => ∃ script rendering, Script.parse source 0 = .ok script ∧
        expected.RendersTo script rendering ∧ expected.Meets rendering := by
  rcases wanted : expected.expectParseError with - | ⟨_ | _⟩ | part
  next =>
    have unasked : expected.wantedParseError = none := by rw [wantedParseError, wanted]; rfl
    exact answers_none_iff_of_unwanted unasked
  next =>
    have unasked : expected.wantedParseError = none := by rw [wantedParseError, wanted]; rfl
    exact answers_none_iff_of_unwanted unasked
  next =>
    have asked : expected.wantedParseError = some (.any true) := by
      rw [wantedParseError, wanted]; rfl
    simpa using answers_none_iff_of_wanted asked
  next =>
    have asked : expected.wantedParseError = some (.containing part) := by
      rw [wantedParseError, wanted]; rfl
    simpa using answers_none_iff_of_wanted asked

-- A fixture passes although it says that something else is written.
theorem passes_of_unlike_output :
    let expected : FrontMatter :=
      { expectError := some "division by zero", expectOutput := some "2" }
    let source := "1\x7b$= 0 1 / $\x7d"
    expected.Answers source none ∧
      ∃ script rendering, Script.parse source 0 = .ok script ∧
        expected.RendersTo script rendering ∧ rendering.output = ['1'.toUInt8] := by
  intro expected source
  have passes : expected.checkWithin 0 source = some none := by decide +kernel
  have output : (Script.parse source 0).toOption.map (fun script =>
      (expected.renderWithin 0 script).map Rendering.output) = some (some ['1'.toUInt8]) := by
    decide +kernel
  obtain ⟨script, parsed, rendered⟩ := Option.map_eq_some_iff.1 output
  obtain ⟨rendering, rendered, written⟩ := Option.map_eq_some_iff.1 rendered
  refine ⟨⟨0, passes⟩, script, rendering, ?_, ⟨0, rendered⟩, written⟩
  cases read : Script.parse source 0 with
  | error fault => simp [read, Except.toOption] at parsed
  | ok other => simpa [read, Except.toOption] using parsed

end FrontMatter

end Stencil
