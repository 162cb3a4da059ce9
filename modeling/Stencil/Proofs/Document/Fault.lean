import Mathlib
import Stencil.Proofs.Document.Balance

set_option autoImplicit false

namespace Stencil

/-- What the tokens of a source are read as, and last the error that ends them, if there is one. -/
def Item.readings (fileId : Nat) (source : String) : List (Except ParseError (Item × Span)) :=
  (tokens fileId source).1.map
      (fun token => (Item.ofToken fileId token).map fun item => (item, token.span)) ++
    ((tokens fileId source).2.map Except.error).toList

def Item.heightAfter (height : Nat) : Item → Nat
  | .enter _ => height + 1
  -- At height zero there is no loop to end.
  | .leave => height - 1
  | .text _ | .output _ => height

def heightFrom (height : Nat) (placed : List (Item × Span)) : Nat :=
  placed.foldl (fun height entry => entry.1.heightAfter height) height

/-- Whether the loop of a tag is open at the end, where so many loops are open from that one on. -/
def StaysOpen (placed : List (Item × Span)) (span : Span) (depth : Nat) : Prop :=
  ∃ before head inside, placed = before ++ (.enter head, span) :: inside ∧
    (∀ part, part <+: inside → 0 < heightFrom 1 part) ∧ heightFrom 1 inside = depth

def StrayEnd (placed : List (Item × Span)) (span : Span) : Prop :=
  ∃ before after, placed = before ++ (.leave, span) :: after ∧ heightFrom 0 before = 0

def FirstStrayEnd (placed : List (Item × Span)) (span : Span) : Prop :=
  ∃ before after, placed = before ++ (.leave, span) :: after ∧ heightFrom 0 before = 0 ∧
    ∀ other, ¬ StrayEnd before other

theorem heightFrom_append (height : Nat) (before after : List (Item × Span)) :
    heightFrom height (before ++ after) = heightFrom (heightFrom height before) after :=
  List.foldl_append

theorem heightFrom_singleton (height : Nat) (entry : Item × Span) :
    heightFrom height [entry] = entry.1.heightAfter height := rfl

variable {before : List (Item × Span)} {entry : Item × Span} {span : Span} {depth : Nat}

theorem staysOpen_of_enter (before : List (Item × Span)) (head : LoopHead) (span : Span) :
    StaysOpen (before ++ [(.enter head, span)]) span 1 := by
  refine ⟨before, head, [], rfl, ?_, rfl⟩
  intro part within
  rw [List.prefix_nil.1 within]
  exact Nat.one_pos

theorem StaysOpen.append (stays : StaysOpen before span depth) (entry : Item × Span)
    (above : 0 < entry.1.heightAfter depth) :
    StaysOpen (before ++ [entry]) span (entry.1.heightAfter depth) := by
  obtain ⟨earlier, head, inside, rfl, stays, height⟩ := stays
  have last : heightFrom 1 (inside ++ [entry]) = entry.1.heightAfter depth := by
    rw [heightFrom_append, heightFrom_singleton, height]
  refine ⟨earlier, head, inside ++ [entry], by simp, fun part within => ?_, last⟩
  rcases List.prefix_concat_iff.1 within with rfl | within
  next => rwa [last]
  next => exact stays part within

theorem FirstStrayEnd.append (first : FirstStrayEnd before span) (entry : Item × Span) :
    FirstStrayEnd (before ++ [entry]) span := by
  obtain ⟨earlier, after, rfl, ground, none⟩ := first
  exact ⟨earlier, after ++ [entry], by simp, ground, none⟩

theorem strayEnd_of_append (stray : StrayEnd (before ++ [entry]) span) :
    StrayEnd before span ∨ entry = (.leave, span) ∧ heightFrom 0 before = 0 := by
  obtain ⟨earlier, after, same, ground⟩ := stray
  rcases List.eq_nil_or_concat after with rfl | ⟨later, last, rfl⟩
  next =>
    obtain ⟨rfl, lastIs⟩ := List.append_inj' same rfl
    exact .inr ⟨List.singleton_inj.1 lastIs, ground⟩
  next =>
    rw [List.concat_eq_append, ← List.cons_append, ← List.append_assoc] at same
    exact .inl ⟨earlier, later, (List.append_inj' same rfl).1, ground⟩

namespace Builder

def openSpans (builder : Builder) : List Span :=
  builder.pending.map OpenLoop.span

theorem openSpans_add (builder : Builder) (node : Node) :
    (builder.add node).openSpans = builder.openSpans := by
  obtain ⟨root, pending, strayEnd⟩ := builder
  cases pending <;> rfl

theorem openSpans_place (builder : Builder) (item : Item) (span : Span) :
    (builder.place (item, span)).openSpans =
      match item with
      | .enter _ => span :: builder.openSpans
      | .leave => builder.openSpans.tail
      | .text _ | .output _ => builder.openSpans := by
  cases item with
  | text content | output elements => exact openSpans_add builder _
  | enter head => rfl
  | leave =>
    obtain ⟨root, pending, strayEnd⟩ := builder
    cases pending with
    | nil => rfl
    | cons inner outer => exact openSpans_add _ _

theorem strayEnd_place (builder : Builder) (entry : Item × Span) :
    (builder.place entry).strayEnd =
      if entry.1 = .leave ∧ builder.openSpans = [] then builder.strayEnd <|> some entry.2
      else builder.strayEnd := by
  obtain ⟨root, pending, strayEnd⟩ := builder
  obtain ⟨item, span⟩ := entry
  cases item with
  | text content | output elements => simp [place, strayEnd_add]
  | enter head => simp [place]
  | leave => cases pending <;> simp [place, close, openSpans, strayEnd_add]

-- What a builder knows of the loops of the items that were placed.
structure Tracks (builder : Builder) (placed : List (Item × Span)) : Prop where
  height : builder.openSpans.length = heightFrom 0 placed
  staysOpen (i : Nat) (span : Span) : builder.openSpans[i]? = some span →
    StaysOpen placed span (i + 1)
  noStray : builder.strayEnd = none → ∀ span, ¬ StrayEnd placed span
  firstStray (span : Span) : builder.strayEnd = some span → FirstStrayEnd placed span

theorem tracks_empty : Tracks {} [] where
  height := rfl
  staysOpen _ _ := nofun
  noStray _ _ := by rintro ⟨before, after, same, -⟩; simp at same
  firstStray _ := nofun

theorem Tracks.place {builder : Builder} {placed : List (Item × Span)}
    (tracks : builder.Tracks placed) (entry : Item × Span) :
    (builder.place entry).Tracks (placed ++ [entry]) where
  height := by
    obtain ⟨item, span⟩ := entry
    rw [heightFrom_append, heightFrom_singleton, ← tracks.height, openSpans_place]
    cases item <;> simp [Item.heightAfter]
  staysOpen i span found := by
    obtain ⟨item, spot⟩ := entry
    rw [openSpans_place] at found
    cases item with
    | text content | output elements =>
      exact (tracks.staysOpen i span found).append (_, spot) (Nat.succ_pos i)
    | enter head =>
      cases i with
      | zero =>
        cases found
        exact staysOpen_of_enter placed head span
      | succ i => exact (tracks.staysOpen i span found).append (.enter head, spot) (Nat.succ_pos _)
    | leave =>
      rw [List.getElem?_tail] at found
      exact (tracks.staysOpen (i + 1) span found).append (.leave, spot) (Nat.succ_pos i)
  noStray unmarked span stray := by
    rw [strayEnd_place] at unmarked
    split at unmarked
    next => simp at unmarked
    next within =>
      rcases strayEnd_of_append stray with earlier | ⟨rfl, ground⟩
      next => exact tracks.noStray unmarked span earlier
      next => exact within ⟨rfl, List.length_eq_zero_iff.1 (tracks.height.trans ground)⟩
  firstStray span marked := by
    rw [strayEnd_place] at marked
    split at marked
    next outside =>
      obtain ⟨leaves, empty⟩ := outside
      cases before : builder.strayEnd with
      | some other =>
        rw [before] at marked
        cases marked
        exact (tracks.firstStray _ before).append entry
      | none =>
        rw [before] at marked
        cases marked
        obtain ⟨item, spot⟩ := entry
        cases leaves
        exact ⟨placed, [], rfl, by rw [← tracks.height, empty, List.length_nil],
          tracks.noStray before⟩
    next => exact (tracks.firstStray span marked).append entry

theorem Tracks.foldl_place {builder : Builder} {placed : List (Item × Span)}
    (tracks : builder.Tracks placed) (rest : List (Item × Span)) :
    (rest.foldl Builder.place builder).Tracks (placed ++ rest) := by
  induction rest generalizing builder placed with
  | nil => simpa using tracks
  | cons entry rest ih => simpa using ih (tracks.place entry)

theorem finish_of_tracks {builder : Builder} {placed : List (Item × Span)}
    (tracks : builder.Tracks placed) (fileId documentEnd : Nat) :
    (0 < heightFrom 0 placed → ∃ span, StaysOpen placed span 1 ∧
      builder.finish fileId documentEnd =
        .error ⟨.unterminatedLoop (heightFrom 0 placed) documentEnd, span, fileId, []⟩) ∧
    (heightFrom 0 placed = 0 →
      (∃ span, FirstStrayEnd placed span ∧
        builder.finish fileId documentEnd = .error ⟨.unmatchedEnd, span, fileId, []⟩) ∨
      ((∀ span, ¬ StrayEnd placed span) ∧
        ∃ document, builder.finish fileId documentEnd = .ok document)) := by
  obtain ⟨root, pending, strayEnd⟩ := builder
  have height := tracks.height
  cases pending with
  | cons inner outer =>
    have count : outer.length + 1 = heightFrom 0 placed := by simpa [openSpans] using height
    refine ⟨fun _ => ⟨inner.span, tracks.staysOpen 0 inner.span rfl, ?_⟩, fun ground => ?_⟩
    next =>
      rw [← count]
      rfl
    next => omega
  | nil =>
    refine ⟨fun above => ?_, fun _ => ?_⟩
    next => simp [openSpans, ← height] at above
    next =>
      cases strayEnd with
      | some span => exact .inl ⟨span, tracks.firstStray span rfl, rfl⟩
      | none => exact .inr ⟨tracks.noStray rfl, _, rfl⟩

end Builder

namespace Document

theorem parse_eq_readings (source : String) (fileId : Nat) :
    Document.parse source fileId = (do
      let placed ← (Item.readings fileId source).mapM id
      (placed.foldl Builder.place {}).finish fileId source.utf8ByteSize) := by
  unfold Document.parse Item.readings Item.ofTokens
  obtain ⟨tokens, fault⟩ := tokens fileId source
  dsimp only
  rw [List.mapM_append, List.mapM_map, Function.id_comp]
  cases List.mapM (fun token => (Item.ofToken fileId token).map fun item => (item, token.span))
    tokens with
  | error first => cases fault <;> rfl
  | ok placed =>
    cases fault with
    | none => simp [bind, Except.bind, pure, Except.pure]
    | some fault => rfl

/-- The first token that cannot be read is the one that is reported, whatever loops come before it.
If all are read, a document is refused for the loops open at the end, with their number and the
innermost of them; then for the first end that comes where no loop is open; and else for nothing. -/
theorem parse_fault (source : String) (fileId : Nat) :
    (∀ (placed : List (Item × Span)) fault later,
      Item.readings fileId source = placed.map .ok ++ .error fault :: later →
      Document.parse source fileId = .error fault) ∧
    ∀ placed : List (Item × Span), Item.readings fileId source = placed.map .ok →
      (0 < heightFrom 0 placed → ∃ span, StaysOpen placed span 1 ∧
        Document.parse source fileId = .error
          ⟨.unterminatedLoop (heightFrom 0 placed) source.utf8ByteSize, span, fileId, []⟩) ∧
      (heightFrom 0 placed = 0 →
        (∃ span, FirstStrayEnd placed span ∧
          Document.parse source fileId = .error ⟨.unmatchedEnd, span, fileId, []⟩) ∨
        ((∀ span, ¬ StrayEnd placed span) ∧
          ∃ document, Document.parse source fileId = .ok document)) := by
  refine ⟨fun placed fault later read => ?_, fun placed read => ?_⟩
  next =>
    rw [parse_eq_readings, read, Fallible.mapM_id_of_error]
    rfl
  next =>
    have tracks := Builder.tracks_empty.foldl_place placed
    have parsed : Document.parse source fileId =
        (placed.foldl Builder.place {}).finish fileId source.utf8ByteSize := by
      rw [parse_eq_readings, read, Fallible.mapM_id_of_ok]
      rfl
    rw [parsed]
    exact Builder.finish_of_tracks tracks fileId source.utf8ByteSize

theorem parse_fault_of_several :
    let torn := "\x7b$end$\x7d\x7b$x$\x7d\x7b$"
    let unbalanced := "\x7b$end$\x7d\x7b$for i 1 2$\x7d"
    let head : LoopHead := ⟨"i", .integer 1, .integer 2, none⟩
    let placed : List (Item × Span) := [(.leave, ⟨0, 7⟩), (.enter head, ⟨7, 20⟩)]
    Document.parse torn 5 = .error ⟨.unknownKeyword "x", ⟨7, 12⟩, 5, []⟩ ∧
      Item.readings 5 unbalanced = placed.map .ok ∧ 0 < heightFrom 0 placed ∧
      ∃ span, StaysOpen placed span 1 ∧
        Document.parse unbalanced 5 = .error ⟨.unterminatedLoop 1 20, span, 5, []⟩ := by
  intro torn unbalanced head placed
  have readTorn : Item.readings 5 torn =
      [.ok (.leave, ⟨0, 7⟩), .error ⟨.unknownKeyword "x", ⟨7, 12⟩, 5, []⟩,
        .error ⟨.unterminatedTag, ⟨12, 14⟩, 5, []⟩] := by cbv
  have read : Item.readings 5 unbalanced = placed.map .ok := by cbv
  have above : 0 < heightFrom 0 placed := by decide
  refine ⟨?_, read, above, ((parse_fault unbalanced 5).2 placed read).1 above⟩
  exact (parse_fault torn 5).1 [(.leave, ⟨0, 7⟩)] _ _ readTorn

end Document

end Stencil
