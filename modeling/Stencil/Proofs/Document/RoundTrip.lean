import Stencil.Proofs.Document.Balance
import Stencil.Proofs.Document.WellFormed
import Stencil.Proofs.Token.Stream

set_option autoImplicit false

namespace Stencil

namespace Cursor

variable {fileId offset : Nat} {items : List Item}

theorem spells_nil : Spells fileId ⟨[], offset⟩ items ↔ items = [] := by
  rw [Spells, tokensFrom, dif_pos rfl]
  simp

theorem spells_iff {cursor : Cursor} (more : cursor.rest ≠ []) :
    cursor.Spells fileId items ↔
      ∃ token after item later, cursor.next fileId = (.ok token, after) ∧
        Item.ofToken fileId token = .ok item ∧ after.Spells fileId later ∧
        items = item :: later := by
  rw [Spells, tokensFrom, dif_neg more]
  split
  next fault after failed => simp [failed]
  next token after read =>
    simp only [read, List.forall₂_cons_left_iff, Spells]
    constructor
    next =>
      rintro ⟨complete, item, later, first, others, rfl⟩
      exact ⟨token, after, item, later, rfl, first, ⟨complete, others⟩, rfl⟩
    next =>
      rintro ⟨_, _, item, later, same, first, ⟨complete, others⟩, rfl⟩
      cases same
      exact ⟨complete, item, later, first, others, rfl⟩

theorem spells_text_iff {rest : List Char} (goesOn : stopsText rest = false) :
    Spells fileId ⟨rest, offset⟩ items ↔
      ∃ text after later, splitText fileId offset rest = .ok (text, after) ∧
        after.Spells fileId later ∧ items = .text (String.ofList text) :: later := by
  have more : rest ≠ [] := by
    rintro rfl
    cases goesOn
  rw [spells_iff more, next_of_goesOn goesOn]
  constructor
  next =>
    rintro ⟨token, _, item, later, read, first, others, rfl⟩
    split at read
    next => cases read
    next text after found =>
      cases read
      cases first
      exact ⟨text, _, later, found, others, rfl⟩
  next =>
    rintro ⟨text, after, later, found, others, rfl⟩
    exact ⟨_, after, _, later, by rw [found], rfl, others, rfl⟩

theorem next_tag {rest inner after : List Char}
    (found : TagScan.split? .outside rest = some (inner, after)) (fileId offset : Nat) :
    ∃ span stop, next fileId ⟨tagOpening ++ rest, offset⟩ =
      (.ok ⟨.tag, tagOpening ++ inner, span⟩, ⟨after, stop⟩) := by
  have opens : tagOpening.isPrefixOf (tagOpening ++ rest) = true := by
    simp [List.isPrefixOf_iff_prefix]
  have body : (tagOpening ++ rest).drop 2 = rest := rfl
  refine ⟨⟨offset, offset + 2 + byteLength inner⟩, offset + 2 + byteLength inner, ?_⟩
  rw [next_of_opens opens, body, found]

theorem spells_tag {inner rest : List Char} {item : Item}
    (passes : TagScan.Passes .outside inner .outside)
    (reads : Tag.read (Text.trim inner) = .ok item)
    (spelled : ∀ offset, Spells fileId ⟨rest, offset⟩ items) (offset : Nat) :
    Spells fileId ⟨tagOpening ++ (inner ++ (tagClosing ++ rest)), offset⟩ (item :: items) := by
  have found : TagScan.split? .outside (inner ++ (tagClosing ++ rest)) =
      some (inner ++ tagClosing, rest) := by
    rw [passes, TagScan.split?_closing]
    rfl
  obtain ⟨span, stop, next⟩ := next_tag found fileId offset
  refine (spells_iff (by simp [tagOpening])).2
    ⟨_, _, item, items, next, ?_, spelled stop, rfl⟩
  rw [Item.ofToken, Token.body_tag, Fallible.mapError_eq_ok_iff]
  exact reads

theorem exists_of_spells_tag {rest : List Char} (opens : tagOpening.isPrefixOf rest = true)
    (spelled : Spells fileId ⟨rest, offset⟩ items) :
    ∃ body item after later, Tag.read body = .ok item ∧ Cursor.Spells fileId after later ∧
      items = item :: later := by
  have more : rest ≠ [] := by
    rintro rfl
    cases opens
  obtain ⟨token, after, item, later, read, first, others, rfl⟩ := (spells_iff more).1 spelled
  rw [next_of_opens opens] at read
  split at read <;> cases read
  exact ⟨_, item, _, later, Fallible.mapError_eq_ok_iff.1 first, others, rfl⟩

theorem noText_of_stopsText {rest : List Char} (stops : stopsText rest = true)
    (spelled : Spells fileId ⟨rest, offset⟩ items) : items.head?.any Item.isText = false := by
  rw [stopsText, Bool.or_eq_true] at stops
  rcases stops with empty | opens
  next =>
    rw [List.isEmpty_iff.1 empty] at spelled
    rw [spells_nil.1 spelled]
    rfl
  next =>
    obtain ⟨body, item, after, later, read, -, rfl⟩ := exists_of_spells_tag opens spelled
    rcases Tag.read_eq_ok read with ⟨head, rfl, -⟩ | rfl | ⟨elements, rfl, -⟩ <;> rfl

theorem spells_text (content : String) {rest : List Char}
    (spelled : ∀ offset, Spells fileId ⟨rest, offset⟩ items) (offset : Nat) :
    Spells fileId ⟨escapeText content.toList ++ rest, offset⟩ (Item.joinText content items) := by
  by_cases empty : content = ""
  next =>
    rw [empty, Item.joinText_empty]
    exact spelled offset
  next =>
    have some : content.toList ≠ [] := by simpa using empty
    obtain ⟨offset', split⟩ := splitText_escapeText_append content.toList fileId offset rest
    refine (spells_text_iff (stopsText_escapeText_append some rest)).2 ?_
    -- Either nothing of the text behind is left to join, or both are read as one text.
    by_cases stops : stopsText rest = true
    next =>
      rw [splitText_of_stopsText stops] at split
      refine ⟨_, _, items, split, spelled offset', ?_⟩
      rw [Item.joinText_of_noText empty (noText_of_stopsText stops (spelled offset')),
        List.append_nil, String.ofList_toList]
    next =>
      obtain ⟨more, after, later, read, others, same⟩ :=
        (spells_text_iff (Bool.eq_false_iff.2 stops)).1 (spelled offset')
      rw [read] at split
      refine ⟨_, _, later, split, others, ?_⟩
      rw [same, Item.joinText_text empty, String.ofList_append, String.ofList_toList]

theorem isWritable_of_spells {cursor : Cursor} (spelled : cursor.Spells fileId items) :
    items.all Item.isWritable = true ∧ Item.areCompact items = true := by
  -- Each token uses up one item, so the induction is on the items and not on the source.
  induction items generalizing cursor with
  | nil => exact ⟨rfl, rfl⟩
  | cons item later ih =>
    obtain ⟨rest, offset⟩ := cursor
    by_cases stops : stopsText rest = true
    next =>
      rw [stopsText, Bool.or_eq_true] at stops
      rcases stops with empty | opens
      next =>
        rw [List.isEmpty_iff.1 empty, spells_nil] at spelled
        cases spelled
      next =>
        obtain ⟨body, _, behind, _, read, others, same⟩ := exists_of_spells_tag opens spelled
        cases same
        obtain ⟨writable, compact⟩ := ih others
        rcases Tag.read_eq_ok read with ⟨head, rfl, first⟩ | rfl | ⟨elements, rfl, first⟩
        next => exact ⟨by simp [Item.isWritable, first, writable], compact⟩
        next => exact ⟨by simp [Item.isWritable, writable], compact⟩
        next => exact ⟨by simp_all [Item.isWritable], compact⟩
    next =>
      have goesOn : stopsText rest = false := Bool.eq_false_iff.2 stops
      obtain ⟨text, after, _, read, others, same⟩ := (spells_text_iff goesOn).1 spelled
      cases same
      obtain ⟨writable, compact⟩ := ih others
      -- A text is read up to a tag or the end, so that the next item is no text.
      have some := ne_nil_of_splitText goesOn read
      have apart := noText_of_stopsText (stopsText_of_splitText read) others
      refine ⟨by simp [Item.isWritable, writable], ?_⟩
      simp [Item.areCompact, some, apart, compact]

end Cursor

theorem Node.spells_sourceOfAll {fileId : Nat} {nodes : List Node} {rest : List Char}
    {items : List Item} (writable : areWritable nodes = true)
    (noText : items.head?.any Item.isText = false)
    (spelled : ∀ offset, Cursor.Spells fileId ⟨rest, offset⟩ items) (offset : Nat) :
    Cursor.Spells fileId ⟨sourceOfAll nodes ++ rest, offset⟩
      (itemsOfAll (normalAll nodes) ++ items) := by
  -- What comes behind is spelled at every offset and does not begin with a text; the siblings keep
  -- both for what comes in front of them.
  induction nodes using siblings_induction generalizing rest items offset with
  | nil => exact spelled offset
  | text content siblings ih =>
    have later : areWritable siblings = true := by simpa [areWritable, isWritable] using writable
    have line := Cursor.spells_text content (ih later noText spelled) offset
    rw [← itemsOfAll_joinText content _ items noText] at line
    rwa [sourceOfAll, source, List.append_assoc, normalAll, normal, join]
    next => simp
  | output elements siblings ih =>
    simp only [areWritable, isWritable, Bool.and_eq_true, List.all_eq_true] at writable
    have reads : Tag.read (Text.trim ('=' :: elementsSource elements ++ [' '])) =
        .ok (.output elements) := by
      rw [Tag.trim_output writable.1]
      exact Tag.read_output writable.1
    have line := Cursor.spells_tag (Tag.passes_output writable.1) reads
      (ih writable.2 noText spelled) offset
    simpa [sourceOfAll, source, normalAll, normal, join, itemsOfAll, Node.items, tagOpening,
      tagClosing] using line
  | loop head children siblings inside after =>
    simp only [areWritable, isWritable, Bool.and_eq_true] at writable
    obtain ⟨⟨headWritable, childrenWritable⟩, siblingsWritable⟩ := writable
    have reads : Tag.read (Text.trim (' ' :: ("FOR".toList ++ Text.spaced head.words) ++ [' '])) =
        .ok (.enter head) := by
      rw [LoopHead.trim_inner headWritable]
      exact Tag.read_loopHead headWritable
    have readsEnd : Tag.read (Text.trim "END".toList) = .ok .leave := by decide
    -- What is behind the head begins with the children, whose line an end goes on with.
    have ending := Cursor.spells_tag (TagScan.passes_outside (by simp)) readsEnd
      (after siblingsWritable noText spelled)
    have line := Cursor.spells_tag (LoopHead.passes_inner headWritable) reads
      (inside childrenWritable rfl ending) offset
    simpa [sourceOfAll, source, LoopHead.source_eq, loopEnd, normalAll, normal, join, itemsOfAll,
      Node.items] using line

namespace Document

theorem parse_source_eq_normal {document : Document} (writable : document.isWritable = true)
    (fileId : Nat) : Document.parse document.source fileId = .ok document.normal := by
  have nothing (offset : Nat) : Cursor.Spells fileId ⟨[], offset⟩ [] := Cursor.spells_nil.2 rfl
  have line := Node.spells_sourceOfAll writable rfl nothing 0
  refine parse_of_spells ?_
  simpa [Cursor.start, source, normal] using line

theorem isWritable_of_parse {source : String} {fileId : Nat} {document : Document}
    (parsed : Document.parse source fileId = .ok document) :
    document.isWritable = true ∧ document.isCompact = true := by
  have line := Cursor.isWritable_of_spells (spells_of_parse parsed)
  rwa [Node.all_isWritable_itemsOfAll, Node.areCompact_itemsOfAll] at line

end Document

namespace Script

/-- Writing a document and reading it gives its normal form: the document itself, if it has no
empty and no adjacent texts. -/
theorem parse_source (document : Document) (writable : document.isWritable = true)
    (fileId : Nat) :
    Script.parse document.source fileId = .ok ⟨document.normal, fileId⟩ ∧
      (document.isCompact = true →
        Script.parse document.source fileId = .ok ⟨document, fileId⟩) := by
  have read : Script.parse document.source fileId = .ok ⟨document.normal, fileId⟩ := by
    rw [Script.parse, Document.parse_source_eq_normal writable]
    rfl
  refine ⟨read, fun compact => ?_⟩
  rw [read, Document.normal_of_isCompact compact]

theorem parse_source_of_split_mark :
    let head : LoopHead := ⟨"i", .integer (-1), .text "\t\\", some (.double 0.5)⟩
    let elements : List Element := [.text "$\x7d@+\"", .operator .subtract, .integer (-1)]
    let document : Document :=
      ⟨[.text "\x7b", .text "", .text "$", .loop head [.text "", .output elements, .text "\\\x7b"]]⟩
    document.isWritable = true ∧
      Script.parse document.source 7 =
        .ok ⟨⟨[.text "\x7b$", .loop head [.output elements, .text "\\\x7b"]]⟩, 7⟩ :=
  ⟨by decide, (parse_source _ (by decide) 7).1⟩

/-- Whatever is read from a source can be written, and what is written is read as the same. -/
theorem parse_source_of_parse {source : String} {fileId : Nat} {script : Script}
    (parsed : Script.parse source fileId = .ok script) :
    script.document.isWritable = true ∧ script.document.isCompact = true ∧
      ∀ fileId', Script.parse script.document.source fileId' = .ok ⟨script.document, fileId'⟩ ∧
        (Script.parse script.document.source fileId').map (fun again => again.document.source) =
          .ok script.document.source := by
  obtain ⟨document, parsedDocument, rfl⟩ := Fallible.map_eq_ok_iff.1 parsed
  obtain ⟨writable, compact⟩ := Document.isWritable_of_parse parsedDocument
  refine ⟨writable, compact, fun fileId' => ?_⟩
  have again : Script.parse document.source fileId' = .ok ⟨document, fileId'⟩ := by
    rw [Script.parse, Document.parse_source_eq_normal writable,
      Document.normal_of_isCompact compact]
    rfl
  exact ⟨again, by rw [again]; rfl⟩

theorem parse_source_of_parse_uncanonical :
    let source := "\\\x7ba\x7b$ for i 1 3 $\x7d\x7b$=\"$\x7d\"+i$\x7d\x7b$end$\x7d"
    let document : Document :=
      ⟨[.text "\x7ba", .loop ⟨"i", .integer 1, .integer 3, none⟩
        [.output [.text "$\x7d", .operator .add, .var "i"]]]⟩
    Script.parse source 3 = .ok ⟨document, 3⟩ ∧ document.isWritable = true ∧
      document.isCompact = true ∧
      ∀ fileId', Script.parse document.source fileId' = .ok ⟨document, fileId'⟩ ∧
        (Script.parse document.source fileId').map (fun again => again.document.source) =
          .ok document.source := by
  intro source document
  have parsed : Script.parse source 3 = .ok ⟨document, 3⟩ := by cbv
  exact ⟨parsed, parse_source_of_parse parsed⟩

end Script

end Stencil
