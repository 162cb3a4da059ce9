import Stencil.Proofs.Tag.Words

set_option autoImplicit false

namespace Stencil

def Element.isUnbroken : Element → Bool
  | text content => Text.Quoted.isUnbroken content.toList
  | _ => true

def Element.isOperand (element : Element) : Bool :=
  element.isLoopOperand && element.isWritable && element.isUnbroken

namespace LoopHead

def operands (head : LoopHead) : List Element :=
  [head.start, head.stop] ++ head.step.toList

def isWritable (head : LoopHead) : Bool :=
  Text.isIdentifier head.variableName.toList && head.operands.all Element.isOperand

def words (head : LoopHead) : List (List Char) :=
  head.variableName.toList :: head.operands.map Element.source

end LoopHead

namespace Element

theorem isWord_source {element : Element} (operand : element.isOperand = true) :
    Text.IsWord element.source := by
  simp only [isOperand, Bool.and_eq_true] at operand
  obtain ⟨⟨bound, writable⟩, unbroken⟩ := operand
  rcases source_cases writable with ⟨some, plain⟩ | ⟨name, same, plain⟩ | (same | same) |
    ⟨content, rfl⟩
  next => exact ⟨some, isBlank_eq_false_of_isPlain plain⟩
  next =>
    rw [same]
    exact ⟨by simp, List.forall_mem_cons.2 ⟨by decide, isBlank_eq_false_of_isPlain plain⟩⟩
  next => rw [same]; exact ⟨by simp, List.forall_mem_singleton.2 rfl⟩
  next => rw [same]; exact ⟨by simp, List.forall_mem_singleton.2 rfl⟩
  next =>
    exact ⟨by simp [source, Text.Quoted.encode], Text.Quoted.not_isBlank_of_mem_encode unbroken⟩

theorem elementsSource_eq_spaced (elements : List Element) :
    elementsSource elements = Text.spaced (elements.map source) := by
  simp [elementsSource, Text.spaced, List.flatMap_map]

end Element

namespace Tag

theorem readLoopVariable_of_isIdentifier {name : String}
    (identifier : Text.isIdentifier name.toList = true) :
    readLoopVariable name.toList = .ok name := by
  rw [readLoopVariable, Element.ofWord_of_isIdentifier identifier]
  rfl

theorem readLoopOperand_source {element : Element} (operand : element.isOperand = true)
    (part : LoopPart) : readLoopOperand part element.source = .ok element := by
  simp only [Element.isOperand, Bool.and_eq_true] at operand
  obtain ⟨⟨bound, writable⟩, -⟩ := operand
  rw [readLoopOperand, Element.ofWord_source writable]
  simp [bind, Except.bind, bound, pure, Except.pure]

theorem readLoopHead_words {head : LoopHead} (writable : head.isWritable = true) :
    readLoopHead (Text.spaced head.words) = .ok head := by
  obtain ⟨name, start, stop, step⟩ := head
  simp only [LoopHead.isWritable, LoopHead.operands, Bool.and_eq_true] at writable
  obtain ⟨identifier, operands⟩ := writable
  have words : Text.words (Text.spaced (LoopHead.words ⟨name, start, stop, step⟩)) =
      LoopHead.words ⟨name, start, stop, step⟩ := by
    refine Text.words_spaced (List.forall_mem_cons.2 ⟨?_, ?_⟩)
    -- Only operands that are words are writable: a blank within quotes would cut one in two.
    next => exact Text.isWord_of_isIdentifier identifier
    next =>
      intro word member
      obtain ⟨element, inside, rfl⟩ := List.mem_map.1 member
      exact Element.isWord_source (List.all_eq_true.1 operands element inside)
  have nameRead := readLoopVariable_of_isIdentifier identifier
  rw [readLoopHead, words]
  cases step <;>
    simp_all [LoopHead.words, LoopHead.operands, readLoopOperand_source, bind, Except.bind, pure,
      Except.pure]

theorem isIdentifier_of_readLoopVariable {word : List Char} {name : String}
    (read : readLoopVariable word = .ok name) : Text.isIdentifier name.toList = true := by
  obtain ⟨element, spelled, read⟩ := Fallible.bind_eq_ok_iff.1 read
  cases element <;> cases read
  exact Element.isWritable_of_ofWord spelled

theorem isOperand_of_readLoopOperand {part : LoopPart} {word : List Char}
    {element : Element} (isWord : Text.IsWord word)
    (read : readLoopOperand part word = .ok element) : element.isOperand = true := by
  obtain ⟨read', spelled, read⟩ := Fallible.bind_eq_ok_iff.1 read
  split at read
  next bound =>
    cases read
    have unbroken : element.isUnbroken = true := by
      cases element with
      | text content => exact Element.isUnbroken_of_ofWord isWord.2 spelled
      | _ => rfl
    simp [Element.isOperand, bound, Element.isWritable_of_ofWord spelled, unbroken]
  next => cases read

theorem isWritable_of_readLoopHead {body : List Char} {head : LoopHead}
    (read : readLoopHead body = .ok head) : head.isWritable = true := by
  have isWord : ∀ word ∈ Text.words body, Text.IsWord word := fun _ => Text.isWord_of_mem_words
  unfold readLoopHead at read
  split at read
  next words =>
    simp only [words, List.forall_mem_cons] at isWord
    obtain ⟨name, readName, read⟩ := Fallible.bind_eq_ok_iff.1 read
    obtain ⟨start, readStart, read⟩ := Fallible.bind_eq_ok_iff.1 read
    obtain ⟨stop, readStop, read⟩ := Fallible.bind_eq_ok_iff.1 read
    cases read
    simp [LoopHead.isWritable, LoopHead.operands, isIdentifier_of_readLoopVariable readName,
      isOperand_of_readLoopOperand isWord.2.1 readStart,
      isOperand_of_readLoopOperand isWord.2.2.1 readStop]
  next words =>
    simp only [words, List.forall_mem_cons] at isWord
    obtain ⟨name, readName, read⟩ := Fallible.bind_eq_ok_iff.1 read
    obtain ⟨start, readStart, read⟩ := Fallible.bind_eq_ok_iff.1 read
    obtain ⟨stop, readStop, read⟩ := Fallible.bind_eq_ok_iff.1 read
    obtain ⟨step, readStep, read⟩ := Fallible.bind_eq_ok_iff.1 read
    cases read
    simp [LoopHead.isWritable, LoopHead.operands, isIdentifier_of_readLoopVariable readName,
      isOperand_of_readLoopOperand isWord.2.1 readStart,
      isOperand_of_readLoopOperand isWord.2.2.1 readStop,
      isOperand_of_readLoopOperand isWord.2.2.2.1 readStep]
  next => cases read

theorem afterKeyword?_for (words : List (List Char)) :
    afterKeyword? "FOR".toList ("FOR".toList ++ Text.spaced words) = some (Text.spaced words) := by
  have blank : (Text.spaced words).head?.all Text.isBlank = true := by
    cases words <;> simp [Text.spaced, Text.isBlank_space]
  simp [afterKeyword?, blank]

theorem read_loopHead {head : LoopHead} (writable : head.isWritable = true) :
    read ("FOR".toList ++ Text.spaced head.words) = .ok (.enter head) := by
  simp only [read, afterKeyword?_for, readLoopHead_words writable]
  rfl

theorem read_output {elements : List Element}
    (writable : ∀ element ∈ elements, element.isWritable = true) :
    read ('=' :: elementsSource elements) = .ok (.output elements) := by
  have noLoop : afterKeyword? "FOR".toList ('=' :: elementsSource elements) = none := by
    simp [afterKeyword?]
  have noEnd : ('=' :: elementsSource elements).map Char.toUpper ≠ "END".toList := by
    simp
  simp only [read, noLoop, if_neg noEnd, readElements_elementsSource writable]
  rfl

theorem read_eq_ok {body : List Char} {item : Item} (reads : read body = .ok item) :
    (∃ head, item = .enter head ∧ head.isWritable = true) ∨ item = .leave ∨
      ∃ elements, item = .output elements ∧ ∀ element ∈ elements, element.isWritable = true := by
  unfold read at reads
  split at reads
  next =>
    obtain ⟨head, readHead, rfl⟩ := Fallible.map_eq_ok_iff.1 reads
    exact .inl ⟨head, rfl, isWritable_of_readLoopHead readHead⟩
  next =>
    split at reads
    next => cases reads; exact .inr (.inl rfl)
    next =>
      split at reads
      next =>
        obtain ⟨elements, readAll, rfl⟩ := Fallible.map_eq_ok_iff.1 reads
        exact .inr (.inr ⟨elements, rfl, isWritable_of_readElements readAll⟩)
      next => split at reads <;> cases reads

end Tag

theorem Token.body_tag (inner : List Char) (span : Span) :
    Token.body ⟨.tag, tagOpening ++ (inner ++ tagClosing), span⟩ = Text.trim inner := by
  simp [Token.body, tagOpening, tagClosing]

theorem TagScan.passes_spaced {words : List (List Char)}
    (each : ∀ word ∈ words, Passes .outside word .outside) :
    Passes .outside (Text.spaced words) .outside := by
  induction words with
  | nil => exact .nil _
  | cons word rest ih =>
    obtain ⟨first, others⟩ := List.forall_mem_cons.1 each
    have space : Passes .outside [' '] .outside := passes_outside (by simp)
    have whole := Passes.append space (.append first (ih others))
    exact whole

namespace LoopHead

theorem isIdentifier_of_isWritable {head : LoopHead} (writable : head.isWritable = true) :
    Text.isIdentifier head.variableName.toList = true := by
  rw [isWritable, Bool.and_eq_true] at writable
  exact writable.1

theorem isWritable_of_mem_operands {head : LoopHead} (writable : head.isWritable = true) :
    ∀ element ∈ head.operands, element.isWritable = true := by
  intro element member
  rw [isWritable, Bool.and_eq_true] at writable
  have operand := List.all_eq_true.1 writable.2 element member
  simp only [Element.isOperand, Bool.and_eq_true] at operand
  exact operand.1.2

theorem source_eq (head : LoopHead) :
    head.source =
      tagOpening ++ ((' ' :: ("FOR".toList ++ Text.spaced head.words) ++ [' ']) ++ tagClosing) := by
  simp [source, words, operands, Element.elementsSource_eq_spaced, Text.spaced_cons]

theorem forall_mem_words {head : LoopHead} (writable : head.isWritable = true)
    {property : List Char → Prop} (name : property head.variableName.toList)
    (each : ∀ element : Element, element.isWritable = true → property element.source) :
    ∀ word ∈ head.words, property word := by
  refine List.forall_mem_cons.2 ⟨name, fun word member => ?_⟩
  obtain ⟨element, inside, rfl⟩ := List.mem_map.1 member
  exact each element (isWritable_of_mem_operands writable element inside)

theorem trim_inner {head : LoopHead} (writable : head.isWritable = true) :
    Text.trim (' ' :: ("FOR".toList ++ Text.spaced head.words) ++ [' ']) =
      "FOR".toList ++ Text.spaced head.words := by
  have name := Text.isWord_of_isIdentifier (isIdentifier_of_isWritable writable)
  have keyword : Text.EndsUnblank "FOR".toList := ⟨['F', 'O'], 'R', rfl, by decide⟩
  have ends : Text.EndsUnblank ("FOR".toList ++ Text.spaced head.words) :=
    keyword.append_spaced (forall_mem_words writable name.endsUnblank
      fun _ => Element.endsUnblank_source)
  exact (Text.trim_space _).trans (Text.trim_append_space (by decide) ends)

theorem passes_inner {head : LoopHead} (writable : head.isWritable = true) :
    TagScan.Passes .outside (' ' :: ("FOR".toList ++ Text.spaced head.words) ++ [' '])
      .outside := by
  have name : TagScan.Passes .outside (Element.var head.variableName).source .outside :=
    Element.passes_source (isIdentifier_of_isWritable writable)
  have keyword : TagScan.Passes .outside " FOR".toList .outside :=
    TagScan.passes_outside (by simp)
  have space : TagScan.Passes .outside [' '] .outside := TagScan.passes_outside (by simp)
  exact .append (.append keyword
    (TagScan.passes_spaced (forall_mem_words writable name fun _ => Element.passes_source))) space

end LoopHead

namespace Tag

variable {elements : List Element}

theorem trim_output (writable : ∀ element ∈ elements, element.isWritable = true) :
    Text.trim ('=' :: elementsSource elements ++ [' ']) = '=' :: elementsSource elements := by
  have mark : Text.EndsUnblank ['='] := ⟨[], '=', rfl, by decide⟩
  have ends : Text.EndsUnblank ('=' :: elementsSource elements) := by
    rw [Element.elementsSource_eq_spaced]
    refine mark.append_spaced fun word member => ?_
    obtain ⟨element, inside, rfl⟩ := List.mem_map.1 member
    exact Element.endsUnblank_source (writable element inside)
  exact Text.trim_append_space (by decide) ends

theorem passes_output (writable : ∀ element ∈ elements, element.isWritable = true) :
    TagScan.Passes .outside ('=' :: elementsSource elements ++ [' ']) .outside := by
  have mark : TagScan.Passes .outside ['='] .outside := TagScan.passes_outside (by simp)
  have space : TagScan.Passes .outside [' '] .outside := TagScan.passes_outside (by simp)
  have words : TagScan.Passes .outside (elementsSource elements) .outside := by
    rw [Element.elementsSource_eq_spaced]
    refine TagScan.passes_spaced fun word member => ?_
    obtain ⟨element, inside, rfl⟩ := List.mem_map.1 member
    exact Element.passes_source (writable element inside)
  exact .append (.append mark words) space

end Tag

end Stencil
