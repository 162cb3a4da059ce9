import Stencil.Proofs.DecimalPattern.Reading
import Stencil.Proofs.Execution.Arguments

set_option autoImplicit false

namespace Stencil.DecimalPattern

open Text (IsFirstRun)

def MayBeInteger (symbols : List Char) : Prop :=
  ∃ optional required, symbols = optional ++ required ∧ (∀ c ∈ optional, c = '#' ∨ c = ',') ∧
    ∀ c ∈ required, c = '0' ∨ c = ','

def MayBeFraction (symbols : List Char) : Prop :=
  ∃ required optional, symbols = List.replicate required '0' ++ List.replicate optional '#'

structure HasParts (run integer fraction : List Char) : Prop where
  layout : run = integer ∧ fraction = [] ∨ run = integer ++ '.' :: fraction
  integer : MayBeInteger integer
  fraction : MayBeFraction fraction

variable {symbols text before run after integer fraction : List Char} {pattern : DecimalPattern}

theorem isIntegerPart_iff (known : ∀ c ∈ symbols, c = '#' ∨ c = '0' ∨ c = ',') :
    isIntegerPart symbols = true ↔ MayBeInteger symbols := by
  rw [isIntegerPart, Bool.not_eq_true', List.contains_eq_mem, decide_eq_false_iff_not]
  constructor
  next =>
    intro noOptional
    refine ⟨_, _, (List.takeWhile_append_dropWhile (p := fun c => c == '#' || c == ',')).symm,
      fun c member => by simpa using List.mem_takeWhile_imp member, fun c member => ?_⟩
    have notOptional : c ≠ '#' := ne_of_mem_of_not_mem member noOptional
    simpa [notOptional] using known c ((List.dropWhile_suffix _).mem member)
  next =>
    rintro ⟨optional, required, rfl, areOptional, areRequired⟩ member
    rw [List.dropWhile_append_of_pos (by simpa using areOptional)] at member
    simpa using areRequired '#' ((List.dropWhile_suffix _).mem member)

theorem isFractionPart_iff (known : ∀ c ∈ symbols, c = '#' ∨ c = '0' ∨ c = ',' ∨ c = '.') :
    isFractionPart symbols = true ↔ MayBeFraction symbols := by
  simp only [isFractionPart, Bool.and_eq_true, Bool.not_eq_true', List.contains_eq_mem,
    decide_eq_false_iff_not]
  constructor
  next =>
    rintro ⟨⟨noPoint, noComma⟩, noRequired⟩
    have required : symbols.takeWhile (· == '0') =
        List.replicate (symbols.takeWhile (· == '0')).length '0' :=
      List.eq_replicate_length.2 fun c member => by simpa using List.mem_takeWhile_imp member
    have optional : symbols.dropWhile (· == '0') =
        List.replicate (symbols.dropWhile (· == '0')).length '#' := by
      refine List.eq_replicate_length.2 fun c member => ?_
      have inside := (List.dropWhile_suffix _).mem member
      simpa [ne_of_mem_of_not_mem member noRequired, ne_of_mem_of_not_mem inside noComma,
        ne_of_mem_of_not_mem inside noPoint] using known c inside
    exact ⟨_, _, by rw [← required, ← optional, List.takeWhile_append_dropWhile]⟩
  next =>
    rintro ⟨required, optional, rfl⟩
    rw [List.dropWhile_append_of_pos (by simp)]
    refine ⟨⟨by simp, by simp⟩, fun member => ?_⟩
    simpa using (List.dropWhile_suffix _).mem member

theorem hasParts_splitPoint (first : IsFirstRun numberSymbols text before run after)
    (isInteger : isIntegerPart (splitPoint run).1 = true)
    (isFraction : isFractionPart (splitPoint run).2 = true) :
    HasParts run (splitPoint run).1 (splitPoint run).2 := by
  obtain ⟨integerSymbols, fractionSymbols⟩ := mem_splitPoint first
  obtain ⟨point, hasPoint, symbolsAre⟩ := splitPoint_layout run
  refine ⟨?_, (isIntegerPart_iff integerSymbols).1 isInteger,
    (isFractionPart_iff fractionSymbols).1 isFraction⟩
  rcases hasPoint with rfl | ⟨rfl, nothing⟩
  next => exact .inr (by simpa using symbolsAre)
  next => exact .inl ⟨by simpa [nothing] using symbolsAre, nothing⟩

theorem HasParts.splitPoint_eq (parts : HasParts run integer fraction) :
    splitPoint run = (integer, fraction) := by
  have noPoint : ∀ c ∈ integer, (c != '.') = true := by
    obtain ⟨optional, required, rfl, areOptional, areRequired⟩ := parts.integer
    intro c member
    rcases List.mem_append.1 member with member | member
    next => rcases areOptional c member with rfl | rfl <;> rfl
    next => rcases areRequired c member with rfl | rfl <;> rfl
  rcases parts.layout with ⟨rfl, rfl⟩ | rfl
  next =>
    rw [splitPoint, List.takeWhile_eq_self_iff.2 noPoint, List.dropWhile_eq_nil_iff.2 noPoint]
    rfl
  next =>
    rw [splitPoint, List.takeWhile_append_of_pos noPoint, List.dropWhile_append_of_pos noPoint]
    simp

theorem parse?_of_hasParts
    (first : IsFirstRun numberSymbols (text.takeWhile (· != ';')) before run after)
    (parts : HasParts run integer fraction) : parse? text = some (ofRun before run after) := by
  refine parse?_eq_some_iff.2 ⟨before, run, after, first, ?_, ?_, rfl⟩
  next =>
    rw [isIntegerPart_iff (mem_splitPoint first).1, parts.splitPoint_eq]
    exact parts.integer
  next =>
    rw [isFractionPart_iff (mem_splitPoint first).2, parts.splitPoint_eq]
    exact parts.fraction

theorem isAscii_numberSymbols : ∀ c ∈ numberSymbols, c.toNat < 128 := by
  simp [numberSymbols]

theorem takeWhile_semicolon_utf8Bytes (text : List Char) :
    (Text.utf8Bytes text).takeWhile (· != ';'.toUInt8) =
      Text.utf8Bytes (text.takeWhile (· != ';')) := by
  refine Text.takeWhile_utf8Bytes (fun c byte member => ?_) text
  have ascii : ∀ mark ∈ [';'], mark.toNat < 128 := List.forall_mem_singleton.2 (by decide)
  have same := Text.mem_bytes_iff ascii member
  rw [List.map_singleton, List.mem_singleton, List.mem_singleton] at same
  rw [Bool.eq_iff_iff, bne_iff_ne, bne_iff_ne]
  exact not_congr same

end Stencil.DecimalPattern

namespace Stencil.Builtin

open Stateful Evaluation

theorem callDecfmt_apply (text : String) {value : Value} {number : Float}
    (counts : value.toFloat = .ok number) (rest : List Value) (response : Response) :
    callDecfmt ⟨.text text :: value :: rest, response⟩ =
      match DecimalPattern.parse? text.toList with
      | some pattern => (.ok (), ⟨.text (String.ofList (pattern.format number)) :: rest, response⟩)
      | none => (.error (.invalidFormat text), ⟨rest, response⟩) := by
  rw [callDecfmt, bind_apply, popText_apply]
  dsimp only
  rw [bind_apply, pop_apply]
  dsimp only
  rw [bind_apply, counts]
  change (match DecimalPattern.parse? text.toList with
    | some parsed => push (.text (String.ofList (parsed.format number)))
    | none => (throw (RuntimeError.invalidFormat text) : Evaluation Unit)) ⟨rest, response⟩ = _
  cases DecimalPattern.parse? text.toList <;> rfl

end Stencil.Builtin

namespace Stencil.DecimalPattern

open Text (IsFirstRun)

/-- The text of a decimal pattern is accepted exactly if, up to a semicolon, it has a run of symbols
whose first is an integer part, or one with a fraction behind a point; if it is not, a number is
not formatted by it. A pattern keeps what the text has around the run and how many symbols of each
kind the parts have, so no group of digits is empty, and no more places are required than there
are. The places at which the text is cut, looked for among its bytes, are places between characters,
and each symbol of the run is one byte. -/
theorem parse?_follows_grammar (text : String) :
    let shown := text.toList.takeWhile (· != ';')
    ((∃ pattern, parse? text.toList = some pattern) ↔
      ∃ before run after integer fraction,
        IsFirstRun numberSymbols shown before run after ∧ HasParts run integer fraction) ∧
    (parse? text.toList = none → ∀ (value : Value) number rest response,
      value.toFloat = .ok number →
      Builtin.decfmt.call ⟨.text text :: value :: rest, response⟩ =
        (.error (.invalidFormat text), ⟨rest, response⟩)) ∧
    ∀ pattern, parse? text.toList = some pattern → ∃ run integer fraction,
      IsFirstRun numberSymbols shown pattern.before run pattern.after ∧
      HasParts run integer fraction ∧ Describes text.toList integer fraction pattern ∧
      pattern.grouping ≠ some 0 ∧ pattern.minFraction ≤ pattern.maxFraction ∧
      Text.utf8Bytes shown = (Text.utf8Bytes text.toList).takeWhile (· != ';'.toUInt8) ∧
      IsFirstRun (numberSymbols.map Char.toUInt8) (Text.utf8Bytes shown)
        (Text.utf8Bytes pattern.before) (Text.utf8Bytes run) (Text.utf8Bytes pattern.after) ∧
      Text.utf8Bytes run = run.map Char.toUInt8 := by
  intro shown
  refine ⟨⟨?accepted, ?complete⟩, ?refused, ?kept⟩
  case accepted =>
    rintro ⟨pattern, parsed⟩
    obtain ⟨before, run, after, first, isInteger, isFraction, -⟩ := parse?_eq_some_iff.1 parsed
    exact ⟨before, run, after, _, _, first, hasParts_splitPoint first isInteger isFraction⟩
  case complete =>
    rintro ⟨before, run, after, integer, fraction, first, parts⟩
    exact ⟨_, parse?_of_hasParts first parts⟩
  case refused =>
    intro parsed value number rest response counts
    refine (Builtin.callDecfmt_apply text counts rest response).trans ?_
    rw [parsed]
  case kept =>
    intro pattern parsed
    obtain ⟨before, run, after, first, isInteger, isFraction, rfl⟩ := parse?_eq_some_iff.1 parsed
    have describes := describes_ofRun first isFraction
    refine ⟨run, _, _, first, hasParts_splitPoint first isInteger isFraction, describes, ?_, ?_,
      (takeWhile_semicolon_utf8Bytes _).symm, first.utf8Bytes isAscii_numberSymbols,
      Text.utf8Bytes_of_ascii fun c member => isAscii_numberSymbols c (first.run c member)⟩
    next => exact fun empty => Nat.lt_irrefl 0 ((describes.grouping 0).1 empty).1
    next =>
      rw [describes.minFraction, describes.maxFraction]
      exact List.count_le_length

theorem parse?_follows_grammar_of_wide_text :
    (∃ run integer fraction, IsFirstRun numberSymbols "≈#,##0.0## €".toList ['≈'] run " €".toList ∧
        HasParts run integer fraction ∧ parse? "≈#,##0.0## €;-".toList = some
          ⟨['≈'], " €".toList, integer.count '0', some 3, fraction.count '0', fraction.length⟩) ∧
      parse? "0#".toList = none ∧
      Builtin.decfmt.call ⟨[.text "0#", .integer 1], {}⟩ =
        (.error (.invalidFormat "0#"), ⟨[], {}⟩) := by
  have parsed : parse? "≈#,##0.0## €;-".toList =
    some ⟨['≈'], " €".toList, 1, some 3, 1, 3⟩ := by decide +kernel
  have shown : "≈#,##0.0## €;-".toList.takeWhile (· != ';') = "≈#,##0.0## €".toList := by
    decide +kernel
  have refused : parse? "0#".toList = none := by decide +kernel
  obtain ⟨run, integer, fraction, first, parts, describes, -⟩ :=
    (parse?_follows_grammar "≈#,##0.0## €;-").2.2 _ parsed
  rw [shown] at first
  refine ⟨⟨run, integer, fraction, first, parts, ?_⟩, refused,
    (parse?_follows_grammar "0#").2.1 refused (.integer 1) _ [] {} rfl⟩
  rw [parsed, ← describes.minInteger, ← describes.minFraction, ← describes.maxFraction]

end Stencil.DecimalPattern
